/-!
# Verbatim string literals

The generated program holds template text in verbatim string literals, `@"..."`.  Inside one, every
character stands for itself except the double quote, which is written twice.

## Main definitions

* `Verbatim.escape` — a text as the inside of a literal, every quote doubled.
* `Verbatim.unescape` — the inside of a literal read back from the left, two adjacent quotes as
  one.

## Main results

* `Verbatim.unescapeChars_pair`, `Verbatim.unescapeChars_cons` — reading back goes pair by pair.
-/

namespace Stencil

namespace Verbatim

/-- The inside of the literal of a text: every quote is doubled, all else kept. -/
def escapeChars (s : List Char) : List Char :=
  s.flatMap fun c => if c = '"' then ['"', '"'] else [c]

@[simp] theorem escapeChars_nil : escapeChars [] = [] := rfl

theorem escapeChars_cons (c : Char) (s : List Char) :
    escapeChars (c :: s) = (if c = '"' then ['"', '"'] else [c]) ++ escapeChars s := rfl

@[simp] theorem escapeChars_append (s t : List Char) :
    escapeChars (s ++ t) = escapeChars s ++ escapeChars t := by
  simp [escapeChars]

/-- Read the inside of a literal after `done`, which holds what is already read, last character
first. -/
def unescapeInto (done : List Char) : List Char → List Char
  | [] => done.reverse
  | '"' :: '"' :: rest => unescapeInto ('"' :: done) rest
  | c :: rest => unescapeInto (c :: done) rest

/-- What a literal with the given inside stands for: two adjacent quotes make one, taken from the
left, and all else is kept. -/
def unescapeChars (s : List Char) : List Char := unescapeInto [] s

theorem unescapeInto_eq (done s : List Char) :
    unescapeInto done s = done.reverse ++ unescapeChars s := by
  unfold unescapeChars
  -- generalise what is already read on both sides at once
  suffices h : ∀ front back, unescapeInto (back ++ front) s
      = front.reverse ++ unescapeInto back s by simpa using h done []
  intro front back
  fun_induction unescapeInto back s with
  | case1 back => simp [unescapeInto]
  | case2 back rest ih => rw [unescapeInto, ← ih]; rfl
  | case3 back c rest h ih => rw [unescapeInto, ← ih]; · rfl
                              · exact h

@[simp] theorem unescapeChars_nil : unescapeChars [] = [] := rfl

theorem unescapeChars_pair (s : List Char) :
    unescapeChars ('"' :: '"' :: s) = '"' :: unescapeChars s := by
  rw [unescapeChars, unescapeInto, unescapeInto_eq]; rfl

/-- A character that does not open a pair of quotes stands for itself. -/
theorem unescapeChars_cons {c : Char} {s : List Char} (h : c = '"' → s.head? ≠ some '"') :
    unescapeChars (c :: s) = c :: unescapeChars s := by
  rw [unescapeChars, unescapeInto, unescapeInto_eq]
  · rfl
  · rintro rest rfl rfl
    exact h rfl rfl

/-- A text as the inside of a literal. -/
def escape (s : String) : String := String.ofList (escapeChars s.toList)

/-- The text that a literal with the given inside stands for. -/
def unescape (s : String) : String := String.ofList (unescapeChars s.toList)

theorem toList_escape (s : String) : (escape s).toList = escapeChars s.toList :=
  String.toList_ofList

theorem toList_unescape (s : String) : (unescape s).toList = unescapeChars s.toList :=
  String.toList_ofList

end Verbatim

end Stencil
