import Stencil.Fault
import Stencil.Settings
import Stencil.Template.ScanState
import Stencil.Text.Verbatim

/-!
# The generated program

The program is one class.  Its entry routine opens the output file and holds the script region; the
class feature region follows as members of the class, and a main routine runs the entry routine.

```text
using <namespace>;

public class <class> {
    private StreamWriter <writer>;

    public void <entry>() { using (<writer> = new StreamWriter(@"<output>")) {
<script region>    }}
<class feature region>
    public static void Main() { new <class>().<entry>(); }
}
```

## Main definitions

* `Program.usingLines`, `Program.header`, `Program.entryRoutine`, `Program.features`,
  `Program.footer` — the parts of a program.
* `ScanState.program` — the program that a scan leads to.
-/

namespace Stencil

namespace Program

/-- A line for each namespace. -/
def usingLines (usings : List String) : String :=
  String.join (usings.map fun name => "using " ++ name ++ ";\n")

/-- The opening of the class. -/
def header (settings : Settings) : String :=
  "\npublic class " ++ settings.className ++ " \x7b\n    private StreamWriter "
    ++ settings.writerName ++ ";\n\n"

/-- The fragments of a region. -/
def regionText (settings : Settings) (fragments : List Fragment) : String :=
  renderRegion settings.writerName settings.indent fragments

/-- The opening of the entry routine, up to the output path. -/
def entryOpening (settings : Settings) : String :=
  "    public void " ++ settings.entryMethod ++ "() \x7b using (" ++ settings.writerName
    ++ " = new StreamWriter(@\""

/-- The entry routine, which writes the script region to the output path. -/
def entryRoutine (settings : Settings) (outputPath : String) (script : List Fragment) : String :=
  entryOpening settings ++ Verbatim.escape outputPath ++ "\")) \x7b\n"
    ++ regionText settings script ++ "    \x7d\x7d\n"

/-- The members of the class. -/
def features (settings : Settings) (classFeature : List Fragment) : String :=
  regionText settings classFeature ++ "\n"

/-- The main routine and the end of the class. -/
def footer (settings : Settings) : String :=
  "    public static void Main() \x7b new " ++ settings.className ++ "()." ++ settings.entryMethod
    ++ "(); \x7d\n\x7d\n"

/-- The whole program of a scan that has settled its output path. -/
def text (settings : Settings) (outputPath : String) (s : ScanState) : String :=
  usingLines s.usings ++ header settings ++ entryRoutine settings outputPath s.script
    ++ features settings s.classFeature ++ footer settings

end Program

/-- The program that a scan leads to, for which its output path must be settled. -/
def ScanState.program (settings : Settings) (s : ScanState) : Except TransformFault String :=
  match s.outputPath with
  | none => .error (.missingOutput s.templatePath)
  | some path => .ok (Program.text settings path s)

end Stencil
