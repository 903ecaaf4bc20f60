import Stencil.CommandLine.Command
import Stencil.Settings.Sources

/-!
# The program

The command line run on the files of the machine: what its paths lead through is looked at first,
the command is run on the tree of these files, and what it changed in the tree is then written.

## Main definitions

* `main` — the program.
-/

namespace Stencil

namespace Machine

/-- The locations that components lead through from a directory. -/
def locationsFrom (here : Location) : List String → List Location
  | [] => [here]
  | c :: rest =>
      if c = "" ∨ c = "." then locationsFrom here rest
      else if c = ".." then here :: locationsFrom here.dropLast rest
      else here :: locationsFrom (here ++ [c]) rest

/-- The locations that a path leads through. -/
def locationsOf (workingDirectory : Location) (path : String) : List Location :=
  locationsFrom (if path.toList.head? = some '/' then [] else workingDirectory)
    (writtenComponents path)

/-- The path of a location. -/
def pathOf (l : Location) : String := "/" ++ "/".intercalate l

/-- What is at a location. -/
def observe (l : Location) : IO (Option Entry) := do
  let place := (← IO.currentDir) / pathOf l
  if ← place.isDir then return some .directory
  if ← place.pathExists then
    return some (.file (← IO.FS.readBinFile place).toList)
  return none

/-- The tree of the files that some paths lead through. -/
def treeOf (paths : List String) : IO FileTree := do
  let workingDirectory := (Path.ofString (← IO.currentDir).toString).components
  let mut tree : FileTree := { workingDirectory, entries := [] }
  for l in (paths.flatMap (locationsOf workingDirectory)).eraseDups do
    if l ≠ [] then
      if let some entry ← observe l then
        tree := tree.put l entry
  return tree

/-- Write what differs between two trees, each file by way of another one beside it. -/
def write (before after : FileTree) : IO Unit := do
  for (path, bytes) in (before.changes after []).written do
    let written := pathOf [path] ++ ".tmp"
    IO.FS.writeBinFile written ⟨bytes.toArray⟩
    IO.FS.rename written (pathOf [path])

/-- The settings that the environment and the file of variables in the working directory give. -/
def settings : IO (Except (List SettingProblem) Settings) := do
  let mut environment := []
  for s in SettingName.all do
    if let some value ← IO.getEnv s.variableName.toUpper then
      environment := (s.variableName, value) :: environment
  let file := (← IO.currentDir) / ".env"
  let envFile ← if ← file.pathExists then some <$> IO.FS.readFile file else pure none
  return Settings.ofSources { environment, envFile }

/-- Run a command line and report what comes of it. -/
def run (settings : Settings) (arguments : List String) : IO UInt32 := do
  let before ← treeOf arguments
  let run := Command.run settings arguments before
  write before run.tree
  for message in logOf run.verbosity .log run.events do
    IO.eprintln message
  IO.print run.shown
  match run.result with
  | .ok () => return 0
  | .error (.exit status explanation) =>
    IO.eprint explanation
    return status.toUInt32
  | .error (.failure failure) =>
    IO.eprintln failure.message
    return 1

end Machine

end Stencil

/-- Compile a text template into a generator program, as the command line asks for. -/
def main (arguments : List String) : IO UInt32 := do
  match ← Stencil.Machine.settings with
  | .error problems =>
    for problem in problems do
      IO.eprintln ("Error: setting " ++ problem.name ++ " is not valid")
    return 1
  | .ok settings => Stencil.Machine.run settings arguments
