import Stencil.Settings.Binary64
import Stencil.Settings.Value
import Stencil.Text.Blank

/-!
# Whole numbers given as values

A whole number may be given as a whole number, as a number of double precision without a fraction,
as a truth value, or as a text that holds a decimal.  A text is tidied first: blanks around it, a
plus sign, zeros in front, a fraction of zeros and single underscores between digits are taken away.
What is left has to be an optional minus sign and digits that do not begin with a zero.

Among the zeros in front any number of underscores may stand, and behind them a minus sign is still
taken for the sign of the number.

## Main definitions

* `tidyNumber?` — a text with all taken away that does not count.
* `readTidy` — the number that a tidied text is.
* `Value.toWhole` — the whole number that a value stands for.
-/

namespace Stencil

/-- Why a value is no whole number. -/
inductive NotWhole where
  /-- It is neither a number nor a text. -/
  | type
  /-- It has a fraction. -/
  | fraction
  /-- It is a text that holds no whole number. -/
  | text
  /-- It is a number of double precision that is too large, or a text with too many digits. -/
  | size
  /-- It is beyond all numbers. -/
  | infinite
  deriving DecidableEq, Repr, Inhabited

/-! ### Tidying -/

/-- The white space that may stand around a number. -/
def isNumberPadding (c : Char) : Bool :=
  isBlank c && !(0x1C ≤ c.toNat && c.toNat ≤ 0x1F)

/-- A text without the white space around it. -/
def trimPadding (s : List Char) : List Char :=
  ((s.dropWhile isNumberPadding).reverse.dropWhile isNumberPadding).reverse

/-- What is left of a number behind zeros and underscores, of which `last` is the last one.  It
stays if nothing but a point is behind it. -/
def afterZeros? (last : Char) : List Char → Option (List Char)
  | [] => some [last]
  | c :: rest =>
      if c = '0' || c = '_' then afterZeros? c rest
      else if c = '.' then some (last :: c :: rest)
      else if c = '-' || c.isDigit then some (c :: rest)
      else none

/-- A number without the zeros in front. -/
def withoutZeros? : List Char → Option (List Char)
  | [] => none
  | c :: rest =>
      if c = '0' then afterZeros? c rest else if c.isDigit then some (c :: rest) else none

/-- A number without a fraction that is all zeros. -/
def withoutFraction (s : List Char) : List Char :=
  let whole := s.takeWhile (· != '.')
  match s.drop whole.length with
  | _ :: d :: rest => if (d :: rest).all (· == '0') then whole else s
  | _ => s

/-- Whether each underscore has something other than an underscore on both sides. -/
def underscoresDivide : List Char → Bool
  | [] => true
  | '_' :: _ => false
  | [_, '_'] => false
  | _ :: '_' :: rest => underscoresDivide rest
  | _ :: rest => underscoresDivide rest

/-- A number without underscores, if these stand between other characters. -/
def withoutUnderscores (s : List Char) : List Char :=
  if underscoresDivide s then s.filter (· != '_') else s

/-- A number without a sign, with all taken away that does not count. -/
def tidyUnsigned? (s : List Char) : Option (List Char) :=
  (withoutZeros? s).map fun s => withoutUnderscores (withoutFraction s)

/-- A number with all taken away that does not count. -/
def tidyNumber? (s : List Char) : Option (List Char) :=
  match trimPadding s with
  | '+' :: rest => tidyUnsigned? rest
  | '-' :: rest => (tidyUnsigned? rest).map ('-' :: ·)
  | rest => tidyUnsigned? rest

/-! ### Reading -/

/-- How many characters a number may be written with. -/
def maxNumberLength : Nat := 4300

/-- The number that decimal digits make. -/
def digitsValue (digits : List Char) : Nat :=
  digits.foldl (fun value d => value * 10 + (d.toNat - 48)) 0

/-- The number in a tidied text without its sign, which `room` characters are left for.  Digits past
these are refused before anything behind them is looked at. -/
def readDigits (room : Nat) (s : List Char) : Except NotWhole Nat :=
  let digits := s.takeWhile Char.isDigit
  if digits.isEmpty then .error .text
  else if digits.head? = some '0' then (if s = ['0'] then .ok 0 else .error .text)
  else if room < digits.length then .error .size
  else if digits.length < s.length then .error .text
  else .ok (digitsValue digits)

/-- The number in a tidied text. -/
def readTidy : List Char → Except NotWhole Int
  | '-' :: rest => (readDigits (maxNumberLength - 1) rest).map fun n => -(n : Int)
  | s => (readDigits maxNumberLength s).map fun n => (n : Int)

/-- The whole number in a text. -/
def readWhole (s : String) : Except NotWhole Int :=
  match tidyNumber? s.toList with
  | none => .error .text
  | some tidy => readTidy tidy

/-- The whole number that a number of double precision is.  From `2 ^ 63` on, none is taken for
one. -/
def wholeOfDecimal (digits : Int) (places : Nat) : Except NotWhole Int :=
  match Binary64.ofQuotient? digits.natAbs (Nat.pow 10 places) with
  | none => .error .infinite
  | some x =>
      match x.toNat? with
      | none => .error .fraction
      | some n =>
          if n < Nat.pow 2 63 then .ok (if digits < 0 then -n else n) else .error .size

/-- The whole number that a value stands for. -/
def Value.toWhole : Value → Except NotWhole Int
  | .truth true => .ok 1
  | .truth false => .ok 0
  | .whole value => .ok value
  | .decimal digits places => wholeOfDecimal digits places
  | .text s => readWhole s
  | _ => .error .type

end Stencil
