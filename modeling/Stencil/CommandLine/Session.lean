import Stencil.Settings.Value
import Stencil.Transform

/-!
# Sessions of the command line

A session carries what a command line asks for through three stages: the paths are checked, the
template is transformed, and a summary is reported.  A stage leads to a new session, or it stops the
program.

## Main definitions

* `Session` — what is known between two stages.
* `Stage`, `Stage.run` — the stages.
* `Session.runStages` — several stages in order.
-/

namespace Stencil

/-- What is known between two stages. -/
structure Session where
  /-- The path of the template, as given. -/
  templateFile : String := ""
  /-- The path of the program, as given. -/
  programFile : String := ""
  /-- How much is to be reported. -/
  verbosity : Int := 1
  /-- The paths have been checked. -/
  checked : Bool := false
  /-- The path of the template, once it is checked. -/
  templatePath : Path := .root
  /-- The path of the program, once it is checked. -/
  programPath : Path := .root
  /-- What the transformation did, by the names of the entries. -/
  summary : Option Table := none
  deriving Inhabited, BEq

/-- A summary by the names of its entries. -/
def Summary.table (s : Summary) : Table :=
  [("program_file", .text s.programFile),
   ("output_file", (s.outputFile.map Value.text).getD .null),
   ("usings", .list (s.usings.map .text)),
   ("script_fragments", .whole s.scriptFragments),
   ("class_fragments", .whole s.classFragments)]

/-- Why a stage stops the program. -/
inductive Stop where
  /-- The program ends with a status, and says why. -/
  | exit (status : Nat) (explanation : String)
  /-- Something happens that no stage is prepared for. -/
  | failure (failure : Failure)
  deriving DecidableEq, Repr, Inhabited

/-- The stop of a stage that cannot go on. -/
def Stop.error (explanation : String) : Stop := .exit 1 ("Error: " ++ explanation ++ "\n")

/-- What comes of a stage. -/
structure StageRun where
  /-- The session the stage leads to, or why it stops. -/
  result : Except Stop Session
  /-- The files afterwards. -/
  tree : FileTree
  /-- What was reported. -/
  events : List Event

namespace Session

/-- Whether the template and the place for the program exist. -/
def checkEnvironment (session : Session) (tree : FileTree) : StageRun :=
  let template := Path.ofString session.templateFile
  let program := Path.ofString session.programFile
  let stop (stop : Stop) : StageRun :=
    { result := .error stop, tree, events := [.checkingEnvironment] }
  match tree.isFile template.toString with
  | .error fault => stop (.failure (.inaccessible fault template.toString))
  | .ok false => stop (.error ("Template not found: " ++ template.toString))
  | .ok true =>
      match tree.isDirectory program.parent.toString with
      | .error fault => stop (.failure (.inaccessible fault program.parent.toString))
      | .ok false => stop (.error ("Output directory not found: " ++ program.parent.toString))
      | .ok true =>
          { result := .ok
              { session with templatePath := template, programPath := program, checked := true }
            tree
            events := [.checkingEnvironment, .templateFound template.toString,
              .programPlanned program.toString] }

/-- Transform the template.  Faults that are expected of a transformation end the program. -/
def transformTemplate (settings : Settings) (session : Session) (tree : FileTree) : StageRun :=
  let run := tree.transform settings session.templateFile session.programFile
  { result :=
      match run.result with
      | .ok summary => .ok { session with summary := some summary.table }
      | .error (.expected fault) => .error (.error fault.message)
      | .error failure => .error (.failure failure)
    tree := run.tree
    events := .transforming session.templateFile session.programFile :: run.events }

/-- The entries of a summary that are reported, each group under one event. -/
def summaryEvents : List (List String × (List String → Event)) :=
  [(["program_file"], fun shown => .summaryProgram (shown.getD 0 "")),
   (["output_file"], fun shown => .summaryOutput (shown.getD 0 "")),
   (["script_fragments", "class_fragments"], fun shown =>
      .summaryFragments (shown.getD 0 "") (shown.getD 1 ""))]

/-- The entries of a table under some names, or the first name that has none. -/
def entriesOf (table : Table) : List String → Except String (List Value)
  | [] => .ok []
  | name :: names =>
      match table.lookup name with
      | none => .error name
      | some value => (entriesOf table names).map (value :: ·)

/-- The events of a report up to the first entry that is missing. -/
def reportEvents (table : Table) :
    List (List String × (List String → Event)) → List Event × Option String
  | [] => ([], none)
  | (names, event) :: rest =>
      match entriesOf table names with
      | .error name => ([], some name)
      | .ok values =>
          let others := reportEvents table rest
          (event (values.map Value.display) :: others.1, others.2)

/-- Report what the transformation did.  Without a summary there was none. -/
def reportSummary (session : Session) (tree : FileTree) : StageRun :=
  match session.summary with
  | none | some [] => { result := .error (.error "Transformation failed"), tree, events := [] }
  | some (entry :: entries) =>
      let report := reportEvents (entry :: entries) summaryEvents
      { result :=
          match report.2 with
          | none => .ok session
          | some name => .error (.failure (.missingEntry name))
        tree
        events := .completed :: report.1 }

end Session

/-- The stages of the command line. -/
inductive Stage where
  /-- The paths are checked. -/
  | checkEnvironment
  /-- The template is transformed. -/
  | transformTemplate
  /-- A summary is reported. -/
  | reportSummary
  deriving DecidableEq, Repr, Inhabited

/-- The stages of a whole session. -/
def Stage.all : List Stage := [.checkEnvironment, .transformTemplate, .reportSummary]

/-- What comes of a stage. -/
def Stage.run (settings : Settings) (session : Session) (tree : FileTree) : Stage → StageRun
  | .checkEnvironment => session.checkEnvironment tree
  | .transformTemplate => session.transformTemplate settings tree
  | .reportSummary => session.reportSummary tree

/-- What comes of several stages, of which each goes on where the one before it left off. -/
def Session.runStages (settings : Settings) (session : Session) (tree : FileTree) :
    List Stage → StageRun
  | [] => { result := .ok session, tree, events := [] }
  | stage :: stages =>
      let first := stage.run settings session tree
      match first.result with
      | .error _ => first
      | .ok next =>
          let others := next.runStages settings first.tree stages
          { others with events := first.events ++ others.events }

end Stencil
