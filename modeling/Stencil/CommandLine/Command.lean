import Stencil.CommandLine.Arguments
import Stencil.CommandLine.Session

/-!
# The command line

The whole program: its arguments are read, and what they ask for is done.

## Main definitions

* `Command.usage`, `Command.help`, `Command.version` — what the program says about itself.
* `CommandRun`, `Command.run` — what comes of a command line.
-/

namespace Stencil

/-- What comes of a command line. -/
structure CommandRun where
  /-- The status the program returns or ends with, or what it was not prepared for. -/
  result : Except Stop Unit
  /-- What is shown. -/
  shown : String := ""
  /-- The files afterwards. -/
  tree : FileTree
  /-- How much is to be reported, once that is known. -/
  verbosity : Option Int := none
  /-- What was reported. -/
  events : List Event := []

namespace Command

/-- The name of the program. -/
def name : String := "simplet4"

/-- The version of the program. -/
def version : String := name ++ " 1.0.0\n"

/-- The form of the command line. -/
def usage : String := "usage: " ++ name ++ " [-h] [-v] [-V] InputTt OutputCs\n"

/-- What the command line takes. -/
def help : String :=
  usage ++ "\n" ++ name ++ " - compile a text template into a generator program\n\n"
    ++ "positional arguments:\n"
    ++ "  InputTt          Template (.tt) to transform\n"
    ++ "  OutputCs         Generated program (.cs) to write\n\n"
    ++ "options:\n"
    ++ "  -h, --help       show this help message and exit\n"
    ++ "  -v, --verbosity  Increase output verbosity (can be repeated: -v, -vv)\n"
    ++ "                   (default: 1)\n"
    ++ "  -V, --version    show program's version number and exit\n"

/-- The explanation of arguments that are refused. -/
def refusal (fault : UsageFault) : String :=
  usage ++ name ++ ": error: " ++ fault.message ++ "\n"

/-- Transform a template as a command line asks for. -/
def transform (settings : Settings) (template program : Option String) (verbosity : Int)
    (tree : FileTree) : CommandRun :=
  let session : Session :=
    { templateFile := template.getD "", programFile := program.getD "", verbosity }
  let finish (run : StageRun) : CommandRun :=
    { result := run.result.map fun _ => (), tree := run.tree, verbosity := some verbosity
      events := run.events }
  let lost : Except Stop Session := .error (.failure .lostPath)
  match template, program with
  | none, _ => finish { result := lost, tree, events := [.checkingEnvironment] }
  | some _, none =>
      -- the template is looked at before the program is missed
      match tree.isFile (Path.ofString session.templateFile).toString with
      | .ok true => finish { result := lost, tree, events := [.checkingEnvironment] }
      | _ => finish (session.checkEnvironment tree)
  | some _, some _ => finish (session.runStages settings tree Stage.all)

/-- What comes of a command line. -/
def run (settings : Settings) (arguments : List String) (tree : FileTree) : CommandRun :=
  match Request.parse arguments with
  | .error fault => { result := .error (.exit 2 (refusal fault)), tree }
  | .ok .help => { result := .error (.exit 0 ""), shown := help, tree }
  | .ok .version => { result := .error (.exit 0 ""), shown := version, tree }
  | .ok (.transform template program verbosity) =>
      transform settings template program (1 + verbosity) tree

end Command

end Stencil
