import Stencil.Template.Block
import Stencil.Template.Fragment
import Stencil.Text.Blank

/-!
# The state of a scan

What has been gathered from the part of a template that is already read: the namespaces it uses, the
output path, and the two regions of code.  Text and expressions go to the region of the current
mode; a class feature goes to the members of the class and control code to the entry routine, and
each of them makes its region the current one.

## Main definitions

* `ScanState` — the state.
* `ScanState.assemble` — take in a piece of code.
* `ScanState.setOutputPath` — settle the output path, which only the first attempt can do.

## Main results

* `ScanState.region_put` — taking in a fragment puts it at the end of one region.
-/

namespace Stencil

/-- What has been gathered from a template. -/
structure ScanState where
  /-- The path of the template, as given. -/
  templatePath : String := ""
  /-- The region that text and expressions go to. -/
  mode : Mode := .script
  /-- The namespaces the program uses, in the order of the template. -/
  usings : List String := []
  /-- Where the generated program writes to, once that is settled. -/
  outputPath : Option String := none
  /-- The entry routine. -/
  script : List Fragment := []
  /-- The members of the generated class. -/
  classFeature : List Fragment := []
  deriving DecidableEq, Repr, Inhabited

namespace ScanState

/-- The region of a mode. -/
def region (s : ScanState) : Mode → List Fragment
  | .script => s.script
  | .classFeature => s.classFeature

/-- Put a fragment at the end of the region of a mode. -/
def put (s : ScanState) (fragment : Fragment) : Mode → ScanState
  | .script => { s with script := s.script ++ [fragment] }
  | .classFeature => { s with classFeature := s.classFeature ++ [fragment] }

/-- Putting a fragment into one region leaves the other alone. -/
theorem region_put (s : ScanState) (fragment : Fragment) (m m' : Mode) :
    (s.put fragment m).region m' = if m' = m then s.region m' ++ [fragment] else s.region m' := by
  cases m <;> cases m' <;> rfl

/-- Take in escaped literal text. -/
def putText (s : ScanState) (text : String) : ScanState := s.put (.literal text) s.mode

/-- Take in an expression, without the blanks around it. -/
def putExpression (s : ScanState) (code : String) : ScanState :=
  s.put (.expression (String.ofList (trimBlanks code.toList))) s.mode

/-- Take in members of the class, which makes them the current region. -/
def putClassFeature (s : ScanState) (code : String) : ScanState :=
  { s.put (.raw code) .classFeature with mode := .classFeature }

/-- Take in statements of the entry routine, which makes it the current region. -/
def putControl (s : ScanState) (code : String) : ScanState :=
  { s.put (.raw code) .script with mode := .script }

/-- Take in code of some kind. -/
def assemble (s : ScanState) (body : String) : CodeKind → ScanState
  | .text => s.putText body
  | .expression => s.putExpression body
  | .classFeature => s.putClassFeature body
  | .control => s.putControl body

/-- Why a block is not taken in. -/
inductive Refusal where
  /-- Directives are no code. -/
  | directive
  deriving DecidableEq, Repr, Inhabited

/-- The wording of a refusal. -/
def Refusal.message : Refusal → String
  | .directive => BlockKind.directive.name ++ " blocks are not assembled into code"

/-- Take in a block of any kind; a directive is refused. -/
def assembleBlock (s : ScanState) (body : String) : BlockKind → Except Refusal ScanState
  | .directive => .error .directive
  | .code kind => .ok (s.assemble body kind)

/-- Settle the output path, unless it is settled already; say whether this did it. -/
def setOutputPath (s : ScanState) (path : String) : Bool × ScanState :=
  match s.outputPath with
  | none => (true, { s with outputPath := some path })
  | some _ => (false, s)

end ScanState

end Stencil
