import Stencil.Text.Verbatim

/-!
# Reading verbatim literals

The compiler of the generated program reads a verbatim literal from behind its opening quote: two
adjacent quotes stand for one, and the first quote that is not followed by another one ends it.  It
does not know how long the literal was meant to be, so escaping has to keep every run of quotes
even, next to the delimiter too.

## Main definitions

* `Verbatim.readChars`, `Verbatim.read` — the content of a literal and what stands behind it.

## Main results

* `Verbatim.read_escape` — an escaped text is read back whole, and reading stops behind it.
-/

namespace Stencil

namespace Verbatim

/-- The content of a literal whose opening quote is read, and the text behind its closing quote;
nothing if the literal is never closed. -/
def readChars : List Char → Option (List Char × List Char)
  | [] => none
  | '"' :: '"' :: rest => (readChars rest).map fun r => ('"' :: r.1, r.2)
  | '"' :: rest => some ([], rest)
  | c :: rest => (readChars rest).map fun r => (c :: r.1, r.2)

/-- The content of a literal and the text behind it, from behind the opening quote. -/
def read (s : String) : Option (String × String) :=
  (readChars s.toList).map fun r => (String.ofList r.1, String.ofList r.2)

theorem readChars_quotes (s : List Char) :
    readChars ('"' :: '"' :: s) = (readChars s).map fun r => ('"' :: r.1, r.2) := by
  rw [readChars]

theorem readChars_close {s : List Char} (h : s.head? ≠ some '"') :
    readChars ('"' :: s) = some ([], s) := by
  rw [readChars]
  rintro rest rfl
  exact h rfl

theorem readChars_cons {c : Char} (h : c ≠ '"') (s : List Char) :
    readChars (c :: s) = (readChars s).map fun r => (c :: r.1, r.2) := by
  rw [readChars]
  · rintro rest rfl
    exact absurd rfl h
  · exact h

/-- A literal takes up its closing quote at least. -/
theorem length_lt_of_readChars {s : List Char} {r : List Char × List Char}
    (h : readChars s = some r) : r.2.length < s.length := by
  fun_induction readChars s generalizing r with
  | case1 => cases h
  | case2 rest ih =>
    obtain ⟨r', hr', rfl⟩ := Option.map_eq_some_iff.mp h
    have := ih hr'
    simp only [List.length_cons]
    omega
  | case3 rest _ =>
    obtain rfl := Option.some.inj h
    simp
  | case4 c rest _ _ ih =>
    obtain ⟨r', hr', rfl⟩ := Option.map_eq_some_iff.mp h
    have := ih hr'
    simp only [List.length_cons]
    omega

/-- An escaped text in front of a closing quote is read back, whatever stands behind the quote
unless that is a quote again. -/
theorem readChars_escapeChars (s : List Char) {rest : List Char} (h : rest.head? ≠ some '"') :
    readChars (escapeChars s ++ '"' :: rest) = some (s, rest) := by
  induction s with
  | nil => exact readChars_close h
  | cons c s ih =>
    rw [escapeChars_cons, List.append_assoc]
    by_cases hc : c = '"'
    · subst hc
      rw [if_pos rfl]
      show readChars ('"' :: '"' :: (escapeChars s ++ '"' :: rest)) = _
      rw [readChars_quotes, ih]
      rfl
    · rw [if_neg hc, List.singleton_append, readChars_cons hc, ih]
      rfl

theorem read_escape (s : String) {rest : String} (h : rest.toList.head? ≠ some '"') :
    read (escape s ++ ("\"" ++ rest)) = some (s, rest) := by
  have hchars : (escape s ++ ("\"" ++ rest)).toList
      = escapeChars s.toList ++ '"' :: rest.toList := by
    rw [String.toList_append, String.toList_append, toList_escape]
    rfl
  rw [read, hchars, readChars_escapeChars s.toList h]
  simp

end Verbatim

end Stencil
