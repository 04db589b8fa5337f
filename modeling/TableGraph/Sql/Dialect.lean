/-
Dialects of SQL. They differ in how identifiers are quoted and in how a range of rows is asked for.
-/
import TableGraph.Schema.TableName
import TableGraph.Text.Blank
import TableGraph.Text.LowerCase

namespace TableGraph

/-- a family of database products that share their SQL -/
inductive Dialect where
  | postgresql
  | mysql
  | sqlite
  | h2
  | sqlServer
  | oracle
  | derby
  deriving DecidableEq, Repr

/-- how a dialect asks for a range of rows -/
inductive Pagination where
  | limitOffset
  | offsetFetch
  deriving DecidableEq, Repr

namespace Dialect

/-- words in product names and the dialect they stand for; the first word found counts -/
def productWords : List (List String × Dialect) := [
  (["postgres"], .postgresql),
  (["mysql", "mariadb"], .mysql),
  (["sqlite"], .sqlite),
  (["h2", "hsql"], .h2),
  (["sql server", "sqlserver"], .sqlServer),
  (["oracle"], .oracle),
  (["derby"], .derby)]

/-- whether a text contains a word -/
def mentions (word : List Char) : List Char → Bool
  | [] => word.isEmpty
  | c :: rest => word.isPrefixOf (c :: rest) || mentions word rest

/-- a product name in small letters without surrounding white space -/
def normalProduct (product : String) : String := String.ofList (Text.lowerCase (Text.trim product.toList))

/-- the dialect of a product, if its name tells -/
def ofProduct? (product : String) : Option Dialect :=
  let name := (normalProduct product).toList
  (productWords.find? fun entry => entry.1.any fun word => mentions word.toList name).map (·.2)

/-- how the dialect asks for a range of rows -/
def pagination : Dialect → Pagination
  | .sqlServer | .oracle | .derby => .offsetFetch
  | _ => .limitOffset

/-- the character around identifiers -/
def quoteMark : Dialect → Char
  | .mysql => '\x60'
  | _ => '"'

/-- an identifier between quotes, a quote inside it being doubled -/
def quoteChars (mark : Char) (name : List Char) : List Char :=
  mark :: ((name.flatMap fun c => if c = mark then [mark, mark] else [c]) ++ [mark])

/-- an identifier in quotes -/
def quote (dialect : Dialect) (name : String) : String :=
  String.ofList (quoteChars dialect.quoteMark name.toList)

/-- the name of a table in quotes, with its schema if it has one -/
def quoteTable (dialect : Dialect) (table : TableName) : String :=
  match table.schema? with
  | some schema => dialect.quote schema ++ "." ++ dialect.quote table.name
  | none => dialect.quote table.name

end Dialect

end TableGraph
