/-
Connections to a database: its URL and the limits for connecting.

A URL may hold a password: after the scheme comes the name of a user, a colon, the password and an at sign. Where a
connection is shown, three asterisks stand for the password. A password may hold any character, so it ends at the last at
sign.
-/
import TableGraph.Environment.Basic
import TableGraph.Source.Basic
import TableGraph.Text.Quoted
import TableGraph.Text.Split

namespace TableGraph

/-- how a database is reached -/
structure Connection where
  url : String
  maxConnections : Nat := 8
  timeoutSeconds : Nat := 30
  deriving DecidableEq, Repr

namespace Connection

/-- what ends the scheme of a URL -/
def schemeMark : List Char := [':', '/', '/']

/-- a user name with asterisks for the password, if one follows it -/
def maskUser (user : List Char) : Option (List Char) :=
  (Text.splitFirst [':'] user).map fun (name, _) => name ++ [':', '*', '*', '*']

/-- a URL with asterisks for its password, if it has one -/
def maskPassword (url : List Char) : List Char :=
  match Text.splitFirst schemeMark url with
  | none => url
  | some (scheme, rest) =>
    match Text.splitLast '@' rest with
    | none => url
    | some (user, host) =>
      match maskUser user with
      | none => url
      | some masked => scheme ++ schemeMark ++ masked ++ '@' :: host

/-- a connection as it is shown -/
def shown (connection : Connection) : String :=
  "PoolConfig \x7b database_url: " ++ String.ofList (Text.quoted (maskPassword connection.url.toList)) ++
    ", max_connections: " ++ numeral connection.maxConnections ++
    ", connect_timeout_secs: " ++ numeral connection.timeoutSeconds ++ " \x7d"

/-- the variable that names the database -/
def urlVariable : String := "RELGRAPH_DATABASE_URL"

/-- the variable that names the database if the first one does not -/
def commonUrlVariable : String := "DATABASE_URL"

/-- the variable for the number of connections -/
def maxConnectionsVariable : String := "RELGRAPH_MAX_CONNECTIONS"

/-- the variable for the time that connecting may take -/
def timeoutVariable : String := "RELGRAPH_CONNECT_TIMEOUT_SECS"

/-- the connection that an environment describes; a limit that is no number is left at its default -/
def ofEnvironment (environment : Environment) : Except SourceError Connection :=
  match environment urlVariable <|> environment commonUrlVariable with
  | some url =>
    .ok ⟨url, environment.naturalD maxConnectionsVariable Whole.maxWord32 8,
      environment.naturalD timeoutVariable Whole.maxWord64 30⟩
  | none => .error (.connection (urlVariable ++ " (or " ++ commonUrlVariable ++ ") not set"))

/-- the source behind a connection; there is none as long as databases cannot be reached from here -/
def toSource (_ : Connection) : Except SourceError Source := .error (.connection "no database client available")

end Connection

end TableGraph
