import Stencil.Text.Cursor
import Stencil.Text.Quoted

/-!
# Faults in the form of a template

A template is refused when a block is never closed, when a property's value is never closed, or when
something in a directive is not a property.

## Main definitions

* `SyntaxCause` — what is wrong.
* `SyntaxKind` — the family that a cause belongs to.
* `SyntaxFault` — a cause and the place it is found at.
-/

namespace Stencil

/-- The families of faults in the form of a template. -/
inductive SyntaxKind where
  /-- No family in particular. -/
  | general
  /-- The template ends inside a block. -/
  | unterminatedBlock
  /-- The template ends inside the value of a property. -/
  | unterminatedValue
  /-- A directive holds something that is not a property. -/
  | malformedDirective
  deriving DecidableEq, Repr, Inhabited

/-- What is wrong with the form of a template. -/
inductive SyntaxCause where
  /-- The template ends inside a block of code. -/
  | openBlock
  /-- The template ends where a property or the end of a directive should stand. -/
  | openDirective (directive : String)
  /-- The template ends where `expected` should stand. -/
  | openExpectation (expected context : String)
  /-- The template ends inside the value of a property. -/
  | openValue (property : String)
  /-- Something else stands where a property should begin. -/
  | noPropertyName (directive : String) (found : Char)
  /-- Something else stands where `expected` should stand. -/
  | unexpected (expected context : String) (found : Char)
  deriving DecidableEq, Repr, Inhabited

namespace SyntaxCause

/-- The family of a cause. -/
def kind : SyntaxCause → SyntaxKind
  | openBlock | openDirective _ | openExpectation _ _ => .unterminatedBlock
  | openValue _ => .unterminatedValue
  | noPropertyName _ _ | unexpected _ _ _ => .malformedDirective

/-- The wording of a cause. -/
def text : SyntaxCause → String
  | openBlock => "Unterminated block: missing '#>'"
  | openDirective directive => "Unterminated directive '" ++ directive ++ "': missing '#>'"
  | openExpectation expected context =>
      "Unterminated directive: expected '" ++ expected ++ "' " ++ context
  | openValue property =>
      "Unterminated value of property '" ++ property ++ "': missing closing '\"'"
  | noPropertyName directive found =>
      "Expected property name in directive '" ++ directive ++ "', found " ++ quotedChar found
  | unexpected expected context found =>
      "Expected '" ++ expected ++ "' " ++ context ++ ", found " ++ quotedChar found

end SyntaxCause

/-- A fault in the form of a template. -/
structure SyntaxFault where
  /-- What is wrong. -/
  cause : SyntaxCause
  /-- Where it is found. -/
  position : Position
  deriving DecidableEq, Repr, Inhabited

/-- What stands under a cursor, in words. -/
def Cursor.describe (c : Cursor) : String :=
  match c.current with
  | none => "end of input"
  | some x => quotedChar x

end Stencil
