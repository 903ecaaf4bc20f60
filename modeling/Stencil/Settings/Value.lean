import Stencil.Text.Quoted

/-!
# Values

What a setting may be given as, and what the summary of a transformation holds: text, numbers, truth
values, and lists and records of values.

## Main definitions

* `Value` — the values.
* `Value.display` — a value as messages show it.
-/

namespace Stencil

/-- A value of no fixed type. -/
inductive Value where
  /-- No value. -/
  | null
  /-- A truth value. -/
  | truth (value : Bool)
  /-- A whole number. -/
  | whole (value : Int)
  /-- A number written with a point or an exponent: `digits` with `places` of them behind the
  point. -/
  | decimal (digits : Int) (places : Nat)
  /-- A text. -/
  | text (value : String)
  /-- A list of values. -/
  | list (values : List Value)
  /-- Named values, in order. -/
  | record (entries : List (String × Value))
  deriving Inhabited

/-- The named values of a record, in order. -/
abbrev Table := List (String × Value)

namespace Value

/-- A decimal number in digits. -/
def displayDecimal (digits : Int) (places : Nat) : String :=
  if places = 0 then toString digits
  else
    let sign := if digits < 0 then "-" else ""
    let size := Nat.pow 10 places
    let behind := (Nat.toDigits 10 (digits.natAbs % size)).leftpad places '0'
    sign ++ toString (digits.natAbs / size) ++ "." ++ String.ofList behind

/-- The digits and places of a value that counts as a number; truth values count as one and
zero. -/
def number? : Value → Option (Int × Nat)
  | .truth value => some (if value then 1 else 0, 0)
  | .whole value => some (value, 0)
  | .decimal digits places => some (digits, places)
  | _ => none

/-- Whether two values count as the same number. -/
def sameNumber (a b : Value) : Bool :=
  match a.number?, b.number? with
  | some (digits, places), some (digits', places') =>
      digits * Int.pow 10 places' == digits' * Int.pow 10 places
  | _, _ => false

mutual

/-- Whether two values are the same. -/
def same : Value → Value → Bool
  | .null, .null => true
  | .text a, .text b => a == b
  | .list values, .list values' => sameList values values'
  | .record entries, .record entries' => sameEntries entries entries'
  | a, b => sameNumber a b

/-- Whether two lists have the same values. -/
def sameList : List Value → List Value → Bool
  | [], [] => true
  | a :: as, b :: bs => same a b && sameList as bs
  | _, _ => false

/-- Whether two records have the same entries in the same order. -/
def sameEntries : List (String × Value) → List (String × Value) → Bool
  | [], [] => true
  | (name, a) :: as, (name', b) :: bs => name == name' && same a b && sameEntries as bs
  | _, _ => false

end

instance : BEq Value := ⟨same⟩

mutual

/-- A value as it stands inside a list or a record, where texts are quoted. -/
def displayInner : Value → String
  | .null => "None"
  | .truth true => "True"
  | .truth false => "False"
  | .whole value => toString value
  | .decimal digits places => displayDecimal digits places
  | .text value => quoted value
  | .list values => "[" ++ ", ".intercalate (displayList values) ++ "]"
  | .record entries => "\x7b" ++ ", ".intercalate (displayEntries entries) ++ "\x7d"

/-- The values of a list. -/
def displayList : List Value → List String
  | [] => []
  | value :: values => displayInner value :: displayList values

/-- The entries of a record. -/
def displayEntries : List (String × Value) → List String
  | [] => []
  | (name, value) :: entries =>
      (quoted name ++ ": " ++ displayInner value) :: displayEntries entries

end

/-- A value as messages show it. -/
def display : Value → String
  | .text value => value
  | value => displayInner value

end Value

end Stencil
