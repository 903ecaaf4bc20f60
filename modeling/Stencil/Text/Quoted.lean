import Stencil.Text.Printable

/-!
# Quoted text in messages

A message that shows a piece of its input quotes it, so that blanks, quotes and characters without a
glyph can be told apart.  Single quotes are used, unless the text holds a single quote and no double
one.  A backslash and the enclosing quote are marked by a backslash; tab, line feed and carriage
return have their letters; any other character that is not printable is written in hexadecimal.

## Main definitions

* `quoted` — the quoted form of a text.
* `quotedChar` — the quoted form of one character.
* `escapedCodePoint` — the hexadecimal form of a character.
-/

namespace Stencil

/-- `n` in lower-case hexadecimal digits, with zeros in front up to `width` digits. -/
def hexDigits (width n : Nat) : List Char :=
  (Nat.toDigits 16 n).leftpad width '0'

/-- The hexadecimal form of a character, as short as its code point allows. -/
def escapedCodePoint (c : Char) : List Char :=
  if c.toNat < 0x100 then '\\' :: 'x' :: hexDigits 2 c.toNat
  else if c.toNat < 0x10000 then '\\' :: 'u' :: hexDigits 4 c.toNat
  else '\\' :: 'U' :: hexDigits 8 c.toNat

/-- A character as it stands between a pair of `quote`s. -/
def escapedWithin (quote c : Char) : List Char :=
  if c = '\\' ∨ c = quote then ['\\', c]
  else if c = '\t' then ['\\', 't']
  else if c = '\n' then ['\\', 'n']
  else if c = '\r' then ['\\', 'r']
  else if isPrintable c then [c]
  else escapedCodePoint c

/-- The quote that encloses a text: the double one only where it saves marking a single one. -/
def enclosingQuote (s : List Char) : Char :=
  if s.contains '\x27' && !s.contains '"' then '"' else '\x27'

/-- A text in quotes, as messages show it. -/
def quoted (s : String) : String :=
  let quote := enclosingQuote s.toList
  String.ofList (quote :: (s.toList.flatMap (escapedWithin quote) ++ [quote]))

/-- One character in quotes. -/
def quotedChar (c : Char) : String := quoted (String.singleton c)

end Stencil
