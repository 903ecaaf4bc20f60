import Mathlib.Data.List.Chain
import Mathlib.Data.List.Infix
import Stencil.Settings
import Stencil.Template.ScanState
import Stencil.Text.Letter
import Stencil.Text.Verbatim

/-!
# The grammar of templates

A template is a list of elements: runs of literal text, and blocks, each with the blanks behind it.
The grammar knows nothing of cursors.  It says how every element is written, layout included, and
what every element does to the state of a scan; which tokens are well formed is part of their types.

## Main definitions

* `Grammar.Blanks`, `Grammar.Name`, `Grammar.Value`, `Grammar.Body`, `Grammar.Run` — the tokens.
* `Grammar.Property`, `Grammar.Directive`, `Grammar.Block`, `Grammar.Element` — what they make up.
* `Grammar.Element.print`, `Grammar.printed` — how they are written.
* `Grammar.Element.effect`, `Grammar.effects` — what they do.
* `Grammar.WellLaid` — which elements may stand side by side.
-/

namespace Stencil

namespace Grammar

/-! ### Tokens -/

/-- Blanks between two tokens; there may be none. -/
structure Blanks where
  /-- The characters. -/
  chars : List Char
  /-- All of them are blank. -/
  blank : ∀ x ∈ chars, isBlank x = true

/-- A run of letters, which may be empty. -/
structure Name where
  /-- The characters. -/
  chars : List Char
  /-- All of them are letters. -/
  letters : ∀ x ∈ chars, isLetter x = true

/-- The value of a property, which may hold markers of any kind. -/
structure Value where
  /-- The characters. -/
  chars : List Char
  /-- None of them is a double quote. -/
  unquoted : ∀ x ∈ chars, x ≠ '"'

/-- What stands in a block of code. -/
structure Body where
  /-- The characters. -/
  chars : List Char
  /-- No closing marker is among them. -/
  unclosed : ¬ ['#', '>'] <:+: chars

/-- A run of literal text. -/
structure Run where
  /-- The characters. -/
  chars : List Char
  /-- There is one at least. -/
  nonempty : chars ≠ []
  /-- No opening marker is among them. -/
  unopened : ¬ ['<', '#'] <:+: chars

/-- A name as text. -/
def Name.text (name : Name) : String := String.ofList name.chars

/-- A value as text. -/
def Value.text (value : Value) : String := String.ofList value.chars

/-- A body as text. -/
def Body.text (body : Body) : String := String.ofList body.chars

/-- A run of literal text as text. -/
def Run.text (run : Run) : String := String.ofList run.chars

/-! ### Blocks -/

/-- A property of a directive. -/
structure Property where
  /-- Its name. -/
  key : Name
  /-- A property has a name. -/
  named : key.chars ≠ []
  /-- The blanks in front of the equals sign. -/
  beforeEquals : Blanks
  /-- The blanks behind the equals sign. -/
  behindEquals : Blanks
  /-- Its value. -/
  value : Value
  /-- The blanks behind the closing quote. -/
  behind : Blanks

/-- A directive. -/
structure Directive where
  /-- The blanks in front of the name. -/
  beforeName : Blanks
  /-- The name. -/
  name : Name
  /-- The blanks behind the name. -/
  behindName : Blanks
  /-- The properties. -/
  properties : List Property
  /-- Properties stand behind a name, apart from it. -/
  apart : properties ≠ [] → name.chars ≠ [] ∧ behindName.chars ≠ []

/-- A block. -/
inductive Block where
  /-- `<# … #>`, whose body must not begin like another block. -/
  | control (body : Body) (plain : ∀ x ∈ body.chars.head?, x ≠ '@' ∧ x ≠ '=' ∧ x ≠ '+')
  /-- `<#= … #>` -/
  | expression (body : Body)
  /-- `<#+ … #>` -/
  | classFeature (body : Body)
  /-- `<#@ … #>` -/
  | directive (directive : Directive)

/-- An element of a template. -/
inductive Element where
  /-- Literal text. -/
  | text (run : Run)
  /-- A block and the blanks behind it. -/
  | block (block : Block) (gap : Blanks)

/-! ### How elements are written -/

/-- How a property is written. -/
def Property.print (p : Property) : List Char :=
  p.key.chars ++ (p.beforeEquals.chars ++ ('=' :: (p.behindEquals.chars ++
    ('"' :: (p.value.chars ++ ('"' :: p.behind.chars))))))

/-- How properties are written. -/
def printedProperties (ps : List Property) : List Char := ps.flatMap Property.print

@[simp] theorem printedProperties_nil : printedProperties [] = [] := rfl

@[simp] theorem printedProperties_cons (p : Property) (ps : List Property) :
    printedProperties (p :: ps) = p.print ++ printedProperties ps := rfl

/-- What stands between the markers of a directive, behind its sign. -/
def Directive.inner (d : Directive) : List Char :=
  d.beforeName.chars ++ (d.name.chars ++ (d.behindName.chars ++ printedProperties d.properties))

/-- What stands between the markers of a block. -/
def Block.inner : Block → List Char
  | control body _ => body.chars
  | expression body => '=' :: body.chars
  | classFeature body => '+' :: body.chars
  | directive d => '@' :: d.inner

/-- How a block is written. -/
def Block.print (b : Block) : List Char := '<' :: '#' :: (b.inner ++ ['#', '>'])

/-- How an element is written. -/
def Element.print : Element → List Char
  | text run => run.chars
  | block b gap => b.print ++ gap.chars

/-- How elements are written, one behind the other. -/
def printed (es : List Element) : List Char := es.flatMap Element.print

@[simp] theorem printed_nil : printed [] = [] := rfl

@[simp] theorem printed_cons (e : Element) (es : List Element) :
    printed (e :: es) = e.print ++ printed es := rfl

@[simp] theorem printed_append (es es' : List Element) :
    printed (es ++ es') = printed es ++ printed es' :=
  List.flatMap_append

theorem Element.print_ne_nil (e : Element) : e.print ≠ [] := by
  cases e with
  | text run => exact run.nonempty
  | block b gap => exact List.cons_ne_nil _ _

/-! ### Which elements may stand side by side -/

/-- One run of text never follows another, and behind a block a run of text begins where the blanks
end. -/
def Element.MayPrecede : Element → Element → Prop
  | text _, text _ => False
  | block _ _, text run => ∀ x ∈ run.chars.head?, isBlank x = false
  | _, block _ _ => True

instance : DecidableRel Element.MayPrecede
  | .text _, .text _ => .isFalse id
  | .text _, .block _ _ => .isTrue trivial
  | .block _ _, .text run => Option.decidableForallMem run.chars.head?
  | .block _ _, .block _ _ => .isTrue trivial

/-- Every element may stand where it does. -/
def WellLaid (es : List Element) : Prop := es.IsChain Element.MayPrecede

instance (es : List Element) : Decidable (WellLaid es) :=
  inferInstanceAs (Decidable (es.IsChain Element.MayPrecede))

/-- A block may follow anything. -/
theorem WellLaid.append_block {es es' : List Element} {b : Block} {gap : Blanks}
    (h : WellLaid es) (h' : WellLaid (.block b gap :: es')) :
    WellLaid (es ++ .block b gap :: es') := by
  refine List.isChain_append.mpr ⟨h, h', ?_⟩
  rintro el - el' hblock
  obtain rfl := Option.some.inj hblock
  cases el <;> trivial

/-! ### What elements do -/

/-- A property matters in two directives: one adds a namespace, the other settles the output path
unless it is settled. -/
def Property.effect (settings : Settings) (directive : String) (s : ScanState) (p : Property) :
    ScanState :=
  if directive = "import" ∧ p.key.text = "namespace" then
    { s with usings := s.usings ++ [p.value.text] }
  else if directive = "output" ∧ p.key.text = "extension" then
    match s.outputPath with
    | none => { s with outputPath := some (settings.outputPath s.templatePath p.value.text) }
    | some _ => s
  else s

/-- What a block does: code becomes one fragment, a directive has its properties act in order. -/
def Block.effect (settings : Settings) (s : ScanState) : Block → ScanState
  | control body _ => { s with script := s.script ++ [.raw body.text], mode := .script }
  | expression body =>
      s.put (.expression (String.ofList (trimBlanks body.chars))) s.mode
  | classFeature body =>
      { s with classFeature := s.classFeature ++ [.raw body.text], mode := .classFeature }
  | directive d => d.properties.foldl (Property.effect settings d.name.text) s

/-- What an element does. -/
def Element.effect (settings : Settings) (s : ScanState) : Element → ScanState
  | text run => s.put (.literal (Verbatim.escape run.text)) s.mode
  | block b _ => b.effect settings s

/-- What elements do, from the left. -/
def effects (settings : Settings) (s : ScanState) (es : List Element) : ScanState :=
  es.foldl (Element.effect settings) s

@[simp] theorem effects_nil (settings : Settings) (s : ScanState) : effects settings s [] = s := rfl

@[simp] theorem effects_cons (settings : Settings) (s : ScanState) (e : Element)
    (es : List Element) :
    effects settings s (e :: es) = effects settings (e.effect settings s) es := rfl

theorem effects_append (settings : Settings) (s : ScanState) (es es' : List Element) :
    effects settings s (es ++ es') = effects settings (effects settings s es) es' :=
  List.foldl_append

end Grammar

end Stencil
