import Stencil.Proofs.Text.Passage

/-!
# Offsets and places

A place is a line and a column, and both can be read off the text and an offset in it: the line is
one more than the line feeds in front of the offset, and the column counts from the last of them.  A
cursor that passed part of a text stands at the place of the offset it came to.  Past the last
character it still shows the place of that character, unless a line feed ended the text.

## Main definitions

* `lastFeed?` — the last line feed in front of an offset.
* `Position.ofOffset` — the place of the character at an offset.
* `Position.behind` — the place that is shown behind a text.

## Main results

* `Position.ofOffset_succ` — one offset further is one step further.
* `Cursor.Passes.position_ofOffset`, `Cursor.Passes.position_behind` — where a cursor stands in a
  text and behind it.
-/

namespace Stencil

/-- The offset of the last line feed in front of an offset. -/
def lastFeed? (s : List Char) (i : Nat) : Option Nat :=
  (List.range i).reverse.find? fun m => s[m]? = some '\n'

@[simp] theorem lastFeed?_zero (s : List Char) : lastFeed? s 0 = none := rfl

theorem lastFeed?_succ (s : List Char) (i : Nat) :
    lastFeed? s (i + 1) = if s[i]? = some '\n' then some i else lastFeed? s i := by
  rw [lastFeed?, List.range_succ, List.reverse_append, List.reverse_singleton,
    List.singleton_append, List.find?_cons]
  by_cases h : s[i]? = some '\n' <;> simp [h, lastFeed?]

namespace Position

/-- The place of the character at an offset: lines are counted by the line feeds in front of it,
columns from the last of these or from the beginning of the text. -/
def ofOffset (s : List Char) (i : Nat) : Position where
  line := 1 + (s.take i).count '\n'
  column :=
    match lastFeed? s i with
    | some m => i - m
    | none => i + 1

/-- The place that is shown behind a text: that of its last character, or in front of the line that
a final line feed opens. -/
def behind (s : List Char) : Position := (ofOffset s (s.length - 1)).leave s.getLast?

@[simp] theorem ofOffset_zero (s : List Char) : ofOffset s 0 = ⟨1, 1⟩ := rfl

/-- One offset further is one step further. -/
theorem ofOffset_succ {s : List Char} {i : Nat} {x : Char} (h : s[i]? = some x) :
    ofOffset s (i + 1) = ((ofOffset s i).leave (some x)).right := by
  have hcount : (s.take (i + 1)).count '\n' = (s.take i).count '\n' + [x].count '\n' := by
    rw [List.take_add_one, h, List.count_append]
    rfl
  rw [ofOffset, ofOffset, lastFeed?_succ, h, hcount]
  by_cases hx : x = '\n'
  · -- the next character is the first of its line
    subst hx
    simp [leave, right]
    omega
  · have hne : ¬ (some x = some '\n') := by simpa using hx
    rw [if_neg hne]
    simp only [leave, right, hne, if_false, Position.mk.injEq]
    constructor
    · simp [hx]
    · split <;> omega

/-- Crossing a piece of a text leads from its offset to the offset behind it. -/
theorem across_ofOffset {s t : List Char} {i : Nat} (h : t <+: s.drop i) :
    across t (ofOffset s i) = ofOffset s (i + t.length) := by
  induction t generalizing i with
  | nil => rfl
  | cons x t ih =>
    obtain ⟨rest, hrest⟩ := h
    have hx : s[i]? = some x := by
      rw [← List.head?_drop, ← hrest]
      rfl
    have ht : t <+: s.drop (i + 1) := by
      refine ⟨rest, ?_⟩
      rw [← List.tail_drop, ← hrest]
      rfl
    have hlength : i + (x :: t).length = i + 1 + t.length := by
      rw [List.length_cons]
      omega
    rw [hlength, ← ih ht, ofOffset_succ hx]
    rfl

end Position

namespace Cursor

theorem position_advance_of_end {c : Cursor} (h : c.advance.current = none) :
    c.advance.position = c.position.leave c.current := by
  rw [current_advance] at h
  obtain ⟨current, _ | ⟨x, ahead⟩, position, moves⟩ := c
  · rfl
  · cases h

/-- A cursor on a character stands at the place of its offset. -/
theorem Passes.position_ofOffset {s t : List Char} {i : Nat} {c d : Cursor} (h : c.Passes t d)
    (hc : c.position = .ofOffset s i) (ht : t <+: s.drop i) (hd : d.current.isSome = true) :
    d.position = .ofOffset s (i + t.length) := by
  rw [h.position hd, hc, Position.across_ofOffset ht]

/-- A cursor that has passed all of a text shows the place behind it. -/
theorem Passes.position_behind {s : List Char} {c d : Cursor} (h : c.Passes s d) (hs : s ≠ [])
    (hc : c.position = .ofOffset s 0) (hd : d.current = none) : d.position = .behind s := by
  obtain ⟨t, x, rfl⟩ : ∃ t x, s = t ++ [x] :=
    ⟨s.dropLast, s.getLast hs, (List.dropLast_concat_getLast hs).symm⟩
  obtain ⟨d', hpass, hlast⟩ := passes_append.mp h
  obtain ⟨hx, rfl⟩ := passes_singleton.mp hlast
  have hplace : d'.position = .ofOffset (t ++ [x]) t.length := by
    have := hpass.position_ofOffset hc (by simp) (by simp [hx])
    rwa [Nat.zero_add] at this
  rw [position_advance_of_end hd, hplace, hx, Position.behind]
  simp

end Cursor

end Stencil
