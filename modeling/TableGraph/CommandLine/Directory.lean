/-
Runs in a directory held in memory. Its files have paths of one or more parts; a part before the last names a directory
inside it, which is there as long as it holds a file.

`read?_write?` says that a file that has been written is read back, whatever form its path has.
-/
import TableGraph.CommandLine.Run

namespace TableGraph

/-- the parts of a path -/
abbrev PathParts := List (List Char)

/-- a directory: the texts of its files by the parts of their paths -/
structure Directory where
  files : List (PathParts × String)

namespace Directory

/-- the parts of a path that may name a file below the directory -/
def partsOf? (path : String) : Option PathParts :=
  match path.toList with
  | '/' :: _ => none
  | s =>
    let parts := Text.splitAll '/' s
    if parts.getLast? = some [] ∨ parts.getLast? = some ['.'] then none
    else some (parts.filter fun part => part != [] && part != ['.'])

/-- the directory of a list of files -/
def ofList (files : List (String × String)) : Directory :=
  ⟨files.filterMap fun (path, text) => (partsOf? path).map fun parts => (parts, text)⟩

/-- the text of a file -/
def read? (directory : Directory) (path : String) : Option String := do
  let parts ← partsOf? path
  directory.files.lookup parts

/-- whether the directory holds files in a directory of its own -/
def hasDirectory (directory : Directory) (parts : PathParts) : Bool :=
  directory.files.any fun file => parts.isPrefixOf file.1 && file.1 != parts

/-- whether a file can be written: its directory is there, and it is not a directory itself -/
def canWrite (directory : Directory) (parts : PathParts) : Bool :=
  parts != [] && (parts.dropLast.isEmpty || directory.hasDirectory parts.dropLast) && !directory.hasDirectory parts

/-- the directory after a file has been written, if it can be -/
def write? (directory : Directory) (path text : String) : Option Directory := do
  let parts ← partsOf? path
  if directory.canWrite parts then
    return ⟨(parts, text) :: directory.files.filter fun file => file.1 != parts⟩
  else none

/-- the assignments to variables that the directory holds -/
def assignments (directory : Directory) : List Assignment :=
  match directory.read? ".env" with
  | some text => Assignment.ofText text
  | none => []

theorem read?_write? {directory after : Directory} {path text : String} (h : directory.write? path text = some after) :
    after.read? path = some text := by
  simp only [write?, Option.bind_eq_bind, Option.bind_eq_some_iff] at h
  obtain ⟨parts, hparts, hwrite⟩ := h
  split at hwrite
  · simp only [Option.pure_def, Option.some.injEq] at hwrite
    simp [read?, hparts, ← hwrite]
  · simp at hwrite

end Directory

/-- what a run leaves behind -/
structure RunEnding where
  printed : String
  directory : Directory
  outcome : Except RunError Report

namespace Directory

/-- a run in a directory; `name` gives the text of an identifier -/
def run (name : Nat → String) (directory : Directory) (environment : Environment) (arguments : List String) :
    RunEnding :=
  let environment := environment.assignAll directory.assignments
  match (Id.run (TableGraph.run (fun path => pure (directory.read? path)) environment arguments)).value with
  | .error error => ⟨"", directory, .error error⟩
  | .ok result =>
    match result.destination with
    | none => ⟨result.text name, directory, .ok result.report⟩
    | some path =>
      match directory.write? path (result.text name) with
      | some after => ⟨"", after, .ok result.report⟩
      | none => ⟨"", directory, .error (.unwritable path)⟩

end Directory

end TableGraph
