/-
Environments: named variables with texts as values, of which some are set.
-/
import TableGraph.Number.Whole

namespace TableGraph

/-- the values of the variables that are set -/
abbrev Environment := String → Option String

/-- why the value of a variable is no number that it may have -/
structure VariableError where
  name : String
  value : String
  cause : WholeError
  deriving DecidableEq, Repr

/-- the wording of an error -/
def VariableError.message (error : VariableError) : String :=
  "Parse error for " ++ error.name ++ ": " ++ error.value ++ " - " ++ error.cause.message

namespace Environment

/-- the environment of a list of variables; of several with one name, the first counts -/
def ofList (bindings : List (String × String)) : Environment := fun name => bindings.lookup name

/-- the environment in which a variable is set to a value, unless it is set already -/
def setIfMissing (environment : Environment) (name value : String) : Environment := fun other =>
  if other = name then some ((environment name).getD value) else environment other

/-- the number that a variable is set to, up to a limit -/
def natural (environment : Environment) (name : String) (limit : Nat) : Except VariableError (Option Nat) :=
  match environment name with
  | none => .ok none
  | some value =>
    match Whole.unsigned limit value with
    | .ok n => .ok (some n)
    | .error cause => .error ⟨name, value, cause⟩

/-- the number that a variable is set to, or another one if it is not set to a number within a limit -/
def naturalD (environment : Environment) (name : String) (limit default : Nat) : Nat :=
  match environment.natural name limit with
  | .ok (some n) => n
  | _ => default

theorem setIfMissing_of_some {environment : Environment} {name value old : String} (h : environment name = some old) :
    environment.setIfMissing name value = environment := by
  funext other
  by_cases hother : other = name
  · simp [setIfMissing, hother, h]
  · simp [setIfMissing, hother]

end Environment

end TableGraph
