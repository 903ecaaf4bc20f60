import Stencil.Text.Quoted

/-!
# Blocks of a template

A template is literal text with blocks in it.  A block stands between `<#` and `#>`, and the
character behind its opening marker says what it is: `@` a directive, `=` an expression, `+` a class
feature, anything else a piece of control code.

## Main definitions

* `Mode` — which part of the generated program text and expressions go to.
* `CodeKind`, `BlockKind` — what a block is; all but directives become code.
* `Block`, `Directive`, `Item` — what is read from a template.
-/

namespace Stencil

/-- The part of the generated program that text and expressions go to at some place of a template.
-/
inductive Mode where
  /-- The entry routine. -/
  | script
  /-- The members of the generated class. -/
  | classFeature
  deriving DecidableEq, Repr, Inhabited

/-- The name of a mode. -/
def Mode.name : Mode → String
  | .script => "script"
  | .classFeature => "classFeature"

/-- The mode with a given name. -/
def Mode.ofName? (name : String) : Option Mode :=
  [Mode.script, .classFeature].find? (·.name == name)

/-- What becomes code of the generated program. -/
inductive CodeKind where
  /-- Literal text between blocks. -/
  | text
  /-- `<#= … #>`: an expression whose value is written. -/
  | expression
  /-- `<#+ … #>`: members of the generated class. -/
  | classFeature
  /-- `<# … #>`: statements of the entry routine. -/
  | control
  deriving DecidableEq, Repr, Inhabited

/-- What a block of a template is. -/
inductive BlockKind where
  /-- `<#@ … #>`: a directive, which becomes no code. -/
  | directive
  /-- Code of some kind. -/
  | code (kind : CodeKind)
  deriving DecidableEq, Repr, Inhabited

/-- The name of a kind of code. -/
def CodeKind.name : CodeKind → String
  | .text => "text"
  | .expression => "expression"
  | .classFeature => "classFeature"
  | .control => "standardControl"

namespace BlockKind

/-- The name of a kind of block. -/
def name : BlockKind → String
  | .directive => "directive"
  | .code kind => kind.name

/-- Every kind of block. -/
def all : List BlockKind :=
  [.directive, .code .text, .code .expression, .code .classFeature, .code .control]

/-- The kind of block with a given name. -/
def ofName? (name : String) : Option BlockKind := all.find? (·.name == name)

/-- What a block is, by the character behind its opening marker. -/
def ofDiscriminator : Option Char → BlockKind
  | some '@' => .directive
  | some '=' => .code .expression
  | some '+' => .code .classFeature
  | _ => .code .control

end BlockKind

/-- A piece of code read from a template. -/
structure Block where
  /-- What it is. -/
  kind : CodeKind
  /-- What stands between the markers; literal text is already escaped for a verbatim literal. -/
  body : String
  /-- The line it starts on. -/
  line : Int := 1
  deriving DecidableEq, Repr, Inhabited

/-- A directive read from a template. -/
structure Directive where
  /-- Its name, which may be empty. -/
  name : String
  /-- Its properties with their values, in the order of the template, repeated ones repeated. -/
  properties : List (String × String) := []
  /-- The line of its opening marker. -/
  line : Int := 1
  deriving DecidableEq, Repr, Inhabited

/-- One thing read from a template. -/
inductive Item where
  /-- A piece of code. -/
  | block (block : Block)
  /-- A directive. -/
  | directive (directive : Directive)
  deriving DecidableEq, Repr, Inhabited

/-- A name that stands for nothing. -/
inductive UnknownName where
  /-- No kind of block has this name. -/
  | blockKind (name : String)
  /-- No mode has this name. -/
  | mode (name : String)
  deriving DecidableEq, Repr, Inhabited

/-- The wording of an unknown name. -/
def UnknownName.message : UnknownName → String
  | .blockKind name => quoted name ++ " is not a valid BlockKind"
  | .mode name => quoted name ++ " is not a valid Mode"

end Stencil
