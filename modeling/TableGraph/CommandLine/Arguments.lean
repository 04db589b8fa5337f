/-
The arguments of the command line: options, each given at most once, and nothing else.

The value of an option is the next argument, or follows an equals sign. The option for the output has a short form too,
to which the value may be joined. The next argument is no value if it looks like an option; a single hyphen does not.
-/
import TableGraph.Settings.Layers
import TableGraph.Text.Split

namespace TableGraph

/-- the options of the command line -/
inductive CommandOption where
  | databaseUrl
  | fixture
  | config
  | schema
  | parallelism
  | fetchSize
  | maxConnections
  | output
  | pretty
  deriving DecidableEq, Repr

namespace CommandOption

/-- all options -/
def all : List CommandOption :=
  [.databaseUrl, .fixture, .config, .schema, .parallelism, .fetchSize, .maxConnections, .output, .pretty]

/-- the name of an option, without the hyphens before it -/
def name : CommandOption → String
  | .databaseUrl => "database-url"
  | .fixture => "fixture"
  | .config => "config"
  | .schema => "schema"
  | .parallelism => "parallelism"
  | .fetchSize => "fetch-size"
  | .maxConnections => "max-connections"
  | .output => "output"
  | .pretty => "pretty"

/-- the option of a name -/
def ofName? (name : List Char) : Option CommandOption := all.find? fun option => option.name.toList == name

/-- the option of a short form -/
def ofLetter? (letter : Char) : Option CommandOption := if letter = 'o' then some .output else none

/-- whether an option has a value -/
def takesValue (option : CommandOption) : Bool := option != .pretty

/-- whether the value of an option is the path of a file, which must not be empty -/
def takesPath (option : CommandOption) : Bool := [fixture, config, output].contains option

theorem ofName?_name (option : CommandOption) : ofName? option.name.toList = some option := by
  cases option <;> decide +kernel

end CommandOption

/-- what is wrong with a command line -/
inductive UsageError where
  | unexpectedArgument (argument : String)
  | missingValue (option : CommandOption)
  | unexpectedValue (option : CommandOption)
  | repeated
  | emptyPath (option : CommandOption)
  | badNumber (option : CommandOption) (value : String)
  | conflictingSources
  deriving DecidableEq, Repr

/-- the wording of an error -/
def UsageError.message : UsageError → String
  | .unexpectedArgument argument => "unexpected argument " ++ argument
  | .missingValue option => "a value is required for --" ++ option.name
  | .unexpectedValue option => "--" ++ option.name ++ " takes no value"
  | .repeated => "an option is given more than once"
  | .emptyPath option => "a path is required for --" ++ option.name
  | .badNumber option value => "invalid value " ++ value ++ " for --" ++ option.name
  | .conflictingSources => "--database-url cannot be used together with --fixture"

/-! ## Options and their values -/

/-- an option as it is given, with its value if it has one -/
abbrev GivenOption := CommandOption × String

namespace GivenOption

/-- whether an argument cannot be the value of the option before it -/
def looksLikeOption (argument : String) : Bool :=
  match argument.toList with
  | '-' :: _ :: _ => true
  | _ => false

/-- an option whose value is joined to it -/
def joined (option : CommandOption) (value : List Char) : Except UsageError GivenOption :=
  if option.takesValue then .ok (option, String.ofList value) else .error (.unexpectedValue option)

/-- the value joined to a short form, perhaps with an equals sign -/
def afterLetter : List Char → List Char
  | '=' :: value => value
  | value => value

/-- an option as its own argument gives it: with its value, or without one -/
def ofArgument (argument : String) : Except UsageError (GivenOption ⊕ CommandOption) :=
  match argument.toList with
  | '-' :: '-' :: long =>
    match Text.splitFirst ['='] long with
    | some (name, value) =>
      match CommandOption.ofName? name with
      | some option => (joined option value).map .inl
      | none => .error (.unexpectedArgument argument)
    | none =>
      match CommandOption.ofName? long with
      | some option => .ok (.inr option)
      | none => .error (.unexpectedArgument argument)
  | '-' :: letter :: rest =>
    match CommandOption.ofLetter? letter with
    | some option => if rest.isEmpty then .ok (.inr option) else (joined option (afterLetter rest)).map .inl
    | none => .error (.unexpectedArgument argument)
  | _ => .error (.unexpectedArgument argument)

/-- the options that arguments give, in order; two hyphens may end them -/
def ofArguments : List String → Except UsageError (List GivenOption)
  | [] => .ok []
  | ["--"] => .ok []
  | argument :: rest => do
    match ← ofArgument argument with
    | .inl given => return given :: (← ofArguments rest)
    | .inr option =>
      if option.takesValue then
        match rest with
        | value :: rest =>
          if looksLikeOption value then throw (.missingValue option)
          else return (option, value) :: (← ofArguments rest)
        | [] => throw (.missingValue option)
      else return (option, "") :: (← ofArguments rest)

/-- the value that an option is given -/
def value? (given : List GivenOption) (option : CommandOption) : Option String := given.lookup option

end GivenOption

/-! ## Arguments -/

/-- what the command line asks for -/
structure Arguments where
  /-- the path of a file with settings -/
  config : Option String := none
  overrides : Overrides := {}
  deriving DecidableEq, Repr

namespace Arguments

/-- the path that an option is given -/
def path (given : List GivenOption) (option : CommandOption) : Except UsageError (Option String) :=
  match GivenOption.value? given option with
  | some "" => .error (.emptyPath option)
  | value => .ok value

/-- the number that an option is given -/
def number (read : String → Option Nat) (given : List GivenOption) (option : CommandOption) :
    Except UsageError (Option Nat) :=
  match GivenOption.value? given option with
  | none => .ok none
  | some value =>
    match read value with
    | some n => .ok (some n)
    | none => .error (.badNumber option value)

/-- a number of 64 bits -/
def word64? (value : String) : Option Nat := (Whole.unsigned Whole.maxWord64 value).toOption

/-- a number of 32 bits; a zero may have a minus -/
def word32? (value : String) : Option Nat :=
  match Whole.signedIn 10 (Nat.pow 2 63) (Nat.pow 2 63 - 1) value.toList with
  | .ok n => if 0 ≤ n ∧ n ≤ Whole.maxWord32 then some n.toNat else none
  | .error _ => none

/-- what given options ask for -/
def ofGiven (given : List GivenOption) : Except UsageError Arguments := do
  let databaseUrl := GivenOption.value? given .databaseUrl
  let fixture ← path given .fixture
  let config ← path given .config
  let parallelism ← number word64? given .parallelism
  let fetchSize ← number word64? given .fetchSize
  let maxConnections ← number word32? given .maxConnections
  let output ← path given .output
  if databaseUrl.isSome && fixture.isSome then throw .conflictingSources
  return ⟨config, {
    databaseUrl
    fixture
    schema := GivenOption.value? given .schema
    parallelism
    fetchSize
    maxConnections
    output
    pretty := (GivenOption.value? given .pretty).isSome }⟩

/-- reads the arguments of the command line -/
def read (arguments : List String) : Except UsageError Arguments := do
  let given ← GivenOption.ofArguments arguments
  if (given.map (·.1)).Nodup then ofGiven given else throw .repeated

end Arguments

end TableGraph
