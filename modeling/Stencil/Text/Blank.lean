import Stencil.Text.RangeTable

/-!
# Blank characters

The characters that separate the tokens of a directive and fill the gaps between the blocks of a
template: the white space of the standard together with the four information separators.

## Main definitions

* `isBlank` — the class.
* `trimBlanks` — a text without the blanks at its two ends.
-/

namespace Stencil

/-- The code points of the blank characters. -/
def blankTable : RangeTable :=
  [(0x09, 0x0D), (0x1C, 0x20), (0x85, 0x85), (0xA0, 0xA0), (0x1680, 0x1680), (0x2000, 0x200A),
   (0x2028, 0x2029), (0x202F, 0x202F), (0x205F, 0x205F), (0x3000, 0x3000)]

/-- Blank characters carry no text of their own between the blocks of a template. -/
def isBlank (c : Char) : Bool := blankTable.covers c.toNat

/-- A text without the blanks it starts and ends with. -/
def trimBlanks (s : List Char) : List Char :=
  ((s.dropWhile isBlank).reverse.dropWhile isBlank).reverse

@[simp] theorem trimBlanks_nil : trimBlanks [] = [] := rfl

end Stencil
