/-
The program on real files: the environment is read, notices and errors go to standard error, and the graph is written
with random identifiers.
-/
import TableGraph.CommandLine.Run
import TableGraph.Uuid

namespace TableGraph

/-- the text of a file, if it can be read -/
def readText (path : String) : IO (Option String) := do
  try return some (← IO.FS.readFile path) catch _ => return none

/-- the text of the first file that can be read -/
def readFirst : List String → IO (Option String)
  | [] => return none
  | path :: rest => do
    match ← readText path with
    | some text => return some text
    | none => readFirst rest

/-- the paths of files with assignments, in this directory and in those above it -/
def assignmentPaths : List String :=
  (List.range 64).map fun depth => String.join (List.replicate depth "../") ++ ".env"

/-- the environment of the program, with the assignments of a file -/
def readEnvironment : IO Environment := do
  let assignments := ((← readFirst assignmentPaths).map Assignment.ofText).getD []
  let names := Settings.variableNames ++ assignments.flatMap (·.names)
  let values ← names.mapM fun name => do return (← IO.getEnv name).map ((name, ·))
  return (Environment.ofList (values.filterMap id)).assignAll assignments

/-- a random identifier -/
def drawUuid : IO Uuid := do
  let bytes ← IO.getRandomBytes 16
  return Uuid.ofRandom (bytes.toList.foldl (fun found byte => 256 * found + byte.toNat) 0)

/-- as many random identifiers as are needed -/
def drawUuids (count : Nat) : IO (Array Uuid) := (Array.range count).mapM fun _ => drawUuid

/-- writes a graph where it goes, and the report to standard error -/
def writeResult (result : RunResult) : IO (Except RunError Unit) := do
  let ids ← drawUuids result.size
  let text := result.text fun n => String.ofList (ids.getD n (Uuid.ofNat n)).text
  match result.destination with
  | some path =>
    try IO.FS.writeFile path text catch _ => return .error (.unwritable path)
  | none => (← IO.getStdout).putStr text
  IO.eprintln ("Conversion report: " ++ String.ofList result.report.toJson.compact)
  return .ok ()

/-- runs the program; the exit code tells whether it succeeds -/
def runProgram (arguments : List String) : IO UInt32 := do
  let outcome ← run readText (← readEnvironment) arguments
  for notice in outcome.notices do IO.eprintln ("Warning: " ++ notice.message)
  let ending ← match outcome.value with
    | .ok result => writeResult result
    | .error error => pure (.error error)
  match ending with
  | .ok () => return 0
  | .error error =>
    IO.eprintln error.message
    return error.exitCode.toUInt32

end TableGraph

def main (arguments : List String) : IO UInt32 := TableGraph.runProgram arguments
