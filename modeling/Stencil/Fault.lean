import Stencil.Template.SyntaxFault

/-!
# Faults of a transformation

The faults that a transformation is expected to meet: a template that cannot be read or is not well
formed, a template without an output path, and a program that cannot be written.

## Main definitions

* `LocatedFault` — a fault in the form of a template, with the template it is in.
* `TransformFault` — the faults of a transformation, with `TransformFault.message`.
-/

namespace Stencil

/-- A fault in the form of a template, worded and located. -/
structure LocatedFault where
  /-- The family of the fault. -/
  kind : SyntaxKind
  /-- The wording of the fault. -/
  text : String
  /-- The path of the template; empty for a text in memory. -/
  path : String := ""
  /-- Where the fault is found. -/
  position : Position := ⟨0, 0⟩
  deriving DecidableEq, Repr, Inhabited

/-- The wording of a fault with its place on a line of its own. -/
def LocatedFault.message (f : LocatedFault) : String :=
  let place := "line " ++ toString f.position.line ++ ", column " ++ toString f.position.column
  f.text ++ "\n" ++ (if f.path.isEmpty then place else f.path ++ ": " ++ place)

/-- A fault met in the template at a path. -/
def SyntaxFault.within (f : SyntaxFault) (path : String) : LocatedFault :=
  ⟨f.cause.kind, f.cause.text, path, f.position⟩

/-- The faults that a transformation is expected to meet. -/
inductive TransformFault where
  /-- No fault in particular. -/
  | general (message : String)
  /-- The template is not well formed. -/
  | malformed (fault : LocatedFault)
  /-- The template never settles an output path. -/
  | missingOutput (path : String)
  /-- The template cannot be read. -/
  | unreadable (path : String) (reason : Option String)
  /-- The program cannot be written. -/
  | unwritable (path : String) (reason : Option String)
  deriving DecidableEq, Repr, Inhabited

namespace TransformFault

/-- A reason behind what it explains; an empty reason explains nothing. -/
def explained (what : String) : Option String → String
  | none => what
  | some reason => if reason.isEmpty then what else what ++ ": " ++ reason

/-- The wording of a fault. -/
def message : TransformFault → String
  | general message => message
  | malformed fault => fault.message
  | missingOutput path =>
      "Template '" ++ path ++ "' has no output directive (<#@ output extension=\"...\" #>)"
  | unreadable path reason => explained ("Cannot read template '" ++ path ++ "'") reason
  | unwritable path reason => explained ("Cannot write generated program '" ++ path ++ "'") reason

end TransformFault

end Stencil
