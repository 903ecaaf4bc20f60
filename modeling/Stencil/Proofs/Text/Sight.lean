import Stencil.Proofs.Text.Offset

/-!
# What a cursor shows

A cursor shows the character it is on, the one behind it, and a place.  All of it is decided by the
text and by how often the cursor was moved from the front of the text: once for each character it
came to, and once more to leave the last one.  Behind the text nothing changes any more.

## Main definitions

* `Sight`, `Cursor.sight` — what a cursor shows.
* `Sight.after` — what is shown behind a number of moves, read off the text.

## Main results

* `Cursor.sight_advanceBy_ofText` — a cursor shows what the text says.
* `Sight.after_of_length_lt` — behind the text nothing changes any more.
-/

namespace Stencil

/-- What a cursor shows. -/
structure Sight where
  /-- The character under the cursor. -/
  current : Option Char
  /-- The character behind that one. -/
  peek : Option Char
  /-- Where the cursor stands. -/
  position : Position
  deriving DecidableEq, Repr, Inhabited

/-- What a cursor shows. -/
def Cursor.sight (c : Cursor) : Sight := ⟨c.current, c.peek, c.position⟩

namespace Sight

/-- What is shown in a text behind a number of moves.  Without one that is nothing but the first
character ahead.  Behind `i + 1` moves it is the character at offset `i` at its place; where there
is none, it is nothing at the place behind the text, which is still that in front of it if the text
is empty. -/
def after (s : List Char) : Nat → Sight
  | 0 => ⟨none, s.head?, ⟨1, 0⟩⟩
  | i + 1 =>
      if i < s.length then ⟨s[i]?, s[i + 1]?, .ofOffset s i⟩
      else ⟨none, none, if s = [] then ⟨1, 0⟩ else .behind s⟩

/-- Behind the text nothing changes any more. -/
theorem after_of_length_lt {s : List Char} {k : Nat} (h : s.length < k) :
    after s k = after s (s.length + 1) := by
  obtain ⟨i, rfl⟩ : ∃ i, k = i + 1 := ⟨k - 1, by omega⟩
  have hi : ¬ i < s.length := by omega
  rw [after, after, if_neg hi, if_neg (Nat.lt_irrefl s.length)]

/-- More moves than lead behind the text count as if they were those. -/
theorem after_min (s : List Char) (k : Nat) : after s (min k (s.length + 1)) = after s k := by
  by_cases h : s.length < k
  · rw [Nat.min_eq_right h, after_of_length_lt h]
  · rw [Nat.min_eq_left (by omega)]

theorem current_after (s : List Char) (i : Nat) : (after s (i + 1)).current = s[i]? := by
  rw [after]
  split
  · rfl
  · next hend => exact (List.getElem?_eq_none (by omega)).symm

end Sight

namespace Cursor

theorem advanceBy_concat (c : Cursor) (k : Nat) :
    c.advanceBy (k + 1) = (c.advanceBy k).advance := by
  induction k generalizing c with
  | zero => rfl
  | succ k ih => rw [advanceBy_succ, ih, ← advanceBy_succ]

theorem moves_advanceBy (c : Cursor) (k : Nat) : (c.advanceBy k).moves = c.moves + k := by
  induction k generalizing c with
  | zero => rfl
  | succ k ih =>
    have hone : c.advance.moves = c.moves + 1 := by
      unfold advance
      split <;> rfl
    rw [advanceBy_succ, ih, hone]
    omega

@[simp] theorem ahead_advanceBy (c : Cursor) (k : Nat) :
    (c.advanceBy k).ahead = c.ahead.drop k := by
  induction k generalizing c with
  | zero => rfl
  | succ k ih => rw [advanceBy_succ, ih, ahead_advance, List.drop_tail]

/-- One move more leads from what is shown to what is shown next. -/
theorem sight_advance {s : List Char} {k : Nat} {c : Cursor} (hc : c.sight = Sight.after s k)
    (hahead : c.ahead = s.drop k) : c.advance.sight = Sight.after s (k + 1) := by
  have hcurrent : c.current = (Sight.after s k).current := congrArg Sight.current hc
  have hposition : c.position = (Sight.after s k).position := congrArg Sight.position hc
  by_cases hk : k < s.length
  · -- there is a character ahead, and its place follows from the one that is left
    have hdrop : c.ahead = s[k] :: s.drop (k + 1) := by rw [hahead, List.drop_eq_getElem_cons hk]
    have hplace : (c.position.leave c.current).right = .ofOffset s k := by
      cases k with
      | zero => rw [hcurrent, hposition]; rfl
      | succ i =>
        have hi : i < s.length := by omega
        rw [hcurrent, hposition, Sight.after, if_pos hi, List.getElem?_eq_getElem hi,
          Position.ofOffset_succ (List.getElem?_eq_getElem hi)]
    rw [Sight.after, if_pos hk, ← hplace, List.getElem?_eq_getElem hk, ← List.head?_drop]
    rw [sight, peek, advance, hdrop]
  · -- the text is left, and its last line feed with it
    have hdrop : c.ahead = [] := by rw [hahead, List.drop_eq_nil_of_le (by omega)]
    have hplace : c.position.leave c.current = if s = [] then ⟨1, 0⟩ else .behind s := by
      cases k with
      | zero =>
        have hs : s = [] := List.length_eq_zero_iff.mp (by omega)
        rw [hcurrent, hposition, if_pos hs]
        rfl
      | succ i =>
        by_cases hi : i < s.length
        · have hlast : i = s.length - 1 := by omega
          have hs : s ≠ [] := List.ne_nil_of_length_pos (by omega)
          rw [hcurrent, hposition, Sight.after, if_pos hi, if_neg hs, Position.behind,
            List.getLast?_eq_getElem?, hlast]
        · rw [hcurrent, hposition, Sight.after, if_neg hi]
          rfl
    rw [Sight.after, if_neg hk, ← hplace]
    rw [sight, peek, advance, hdrop]
    rfl

/-- **A cursor shows what the text says,** however often it was moved. -/
theorem sight_advanceBy_ofText (s : List Char) (k : Nat) :
    ((ofText s).advanceBy k).sight = Sight.after s k := by
  induction k with
  | zero => rfl
  | succ k ih =>
    rw [advanceBy_concat]
    refine sight_advance ih ?_
    rw [ahead_advanceBy]
    rfl

theorem current_advanceBy_ofText (s : List Char) (i : Nat) :
    ((ofText s).advanceBy (i + 1)).current = s[i]? := by
  rw [← Sight.current_after, ← sight_advanceBy_ofText]
  rfl

end Cursor

end Stencil
