import Stencil.Text.Blank
import Stencil.Text.Letter

/-!
# The cursor of a template

A cursor stands on one character of a template and sees the one behind it.  It starts in front of
the text, moves one character at a time and, once past the last character, stays there.  Lines are
counted from one and end with a line feed; columns are counted from one, and column zero is the
place in front of a line.  A line feed belongs to the line it ends, so it is leaving it that opens
the next line.

## Main definitions

* `Position` — a line and a column.
* `Cursor` — the character under the cursor, the text behind it, and where that is.
* `Cursor.advance`, `Cursor.advanceBy` — one step, and several.
* `Cursor.pending` — the text from the character under the cursor on.
* `Cursor.onPair`, `Cursor.takePair` — markers of two characters.
* `Cursor.skipBlanks`, `Cursor.takeWhile`, `Cursor.takeUntilPair` — runs of characters.

## Main results

* `Cursor.pending_advanceBy` — moving on drops characters from the text that is pending.
-/

namespace Stencil

/-- A place in a template.  Both numbers are integers, because a caller may name a place of its own
reckoning. -/
structure Position where
  /-- The line, counted from one. -/
  line : Int := 1
  /-- The column, counted from one; zero is in front of the line. -/
  column : Int := 0
  deriving DecidableEq, Repr, Inhabited

namespace Position

/-- Leaving a line feed leads in front of the next line; leaving anything else changes nothing. -/
def leave (p : Position) (c : Option Char) : Position :=
  if c = some '\n' then ⟨p.line + 1, 0⟩ else p

/-- The next column of the line. -/
def right (p : Position) : Position := { p with column := p.column + 1 }

@[simp] theorem leave_none (p : Position) : p.leave none = p := rfl

end Position

/-- A cursor in a template. -/
structure Cursor where
  /-- The character under the cursor: none in front of the text and behind it. -/
  current : Option Char := none
  /-- The text behind the cursor. -/
  ahead : List Char
  /-- Where the cursor stands; behind the text this is still the place of the last character, or in
  front of the line that a final line feed opens. -/
  position : Position := {}
  /-- How often the cursor has been moved. -/
  moves : Nat := 0
  deriving DecidableEq, Repr, Inhabited

namespace Cursor

/-- The cursor in front of a text. -/
def ofText (s : List Char) : Cursor := { ahead := s }

/-- The character behind the one under the cursor. -/
def peek (c : Cursor) : Option Char := c.ahead.head?

/-- No character is under the cursor. -/
def atEnd (c : Cursor) : Bool := c.current.isNone

/-- Move to the next character.  Behind the text the cursor shows the same wherever it is moved. -/
def advance (c : Cursor) : Cursor :=
  match c.ahead with
  | [] =>
      { current := none, ahead := [], position := c.position.leave c.current,
        moves := c.moves + 1 }
  | x :: xs =>
      { current := some x, ahead := xs, position := (c.position.leave c.current).right,
        moves := c.moves + 1 }

/-- Move `n` times. -/
def advanceBy : Nat → Cursor → Cursor
  | 0, c => c
  | n + 1, c => advanceBy n c.advance

@[simp] theorem advanceBy_zero (c : Cursor) : advanceBy 0 c = c := rfl

@[simp] theorem advanceBy_succ (n : Nat) (c : Cursor) :
    advanceBy (n + 1) c = advanceBy n c.advance := rfl

/-- Take the character behind the next one out of the text without moving. -/
def takeBeyond (c : Cursor) : Option Char × Cursor :=
  match c.ahead with
  | x :: y :: rest => (some y, { c with ahead := x :: rest })
  | _ => (none, c)

/-- The text from the character under the cursor on; nothing in front of the text or behind it. -/
def pending (c : Cursor) : List Char :=
  match c.current with
  | none => []
  | some x => x :: c.ahead

@[simp] theorem ahead_advance (c : Cursor) : c.advance.ahead = c.ahead.tail := by
  unfold advance; split <;> simp_all

@[simp] theorem current_advance (c : Cursor) : c.advance.current = c.ahead.head? := by
  unfold advance; split <;> simp_all

/-- A step leaves the text behind the cursor pending. -/
@[simp] theorem pending_advance (c : Cursor) : c.advance.pending = c.ahead := by
  obtain ⟨current, _ | ⟨x, xs⟩, position, moves⟩ := c <;> rfl

/-- Moving on over pending characters drops them. -/
theorem pending_advanceBy {n : Nat} {c : Cursor} (h : n ≤ c.pending.length) :
    (advanceBy n c).pending = c.pending.drop n := by
  induction n generalizing c with
  | zero => simp
  | succ n ih =>
    -- a character is pending, so it is the one under the cursor
    obtain ⟨x, hx⟩ : ∃ x, c.pending = x :: c.ahead := by
      rw [pending] at h ⊢
      split at h
      · simp at h
      · exact ⟨_, rfl⟩
    rw [hx] at h ⊢
    rw [advanceBy_succ, ih] <;> simp_all

/-! ### Markers -/

/-- What is under the cursor is `first` and what is behind it `second`, where no character is what
the end of the text has. -/
def shows (first second : Option Char) (c : Cursor) : Bool := c.current = first && c.peek = second

/-- The cursor stands on `first` with `second` behind it. -/
def onPair (first second : Char) (c : Cursor) : Bool := c.shows (some first) (some second)

/-- Move twice, if the cursor shows `first` and `second`. -/
def takePair (first second : Option Char) (c : Cursor) : Bool × Cursor :=
  if c.shows first second then (true, c.advanceBy 2) else (false, c)

theorem onPair_iff {first second : Char} {c : Cursor} :
    c.onPair first second = true ↔ ∃ rest, c.pending = first :: second :: rest := by
  obtain ⟨_ | x, ahead, position, moves⟩ := c
  · simp [onPair, shows, pending]
  · cases ahead <;> simp [onPair, shows, pending, peek]

/-! ### Runs of characters -/

/-- The run of pending characters with a property, and the cursor behind it. -/
def takeWhile (p : Char → Bool) (c : Cursor) : List Char × Cursor :=
  let run := c.pending.takeWhile p
  (run, c.advanceBy run.length)

/-- Move over blanks. -/
def skipBlanks (c : Cursor) : Cursor := (c.takeWhile isBlank).2

/-- The text before the first place where `first` and `second` stand side by side, put behind
`done`, which holds what comes before it, last character first. -/
def beforePairInto (first second : Char) (done : List Char) : List Char → List Char
  | [] => done.reverse
  | x :: xs =>
      if x = first ∧ xs.head? = some second then done.reverse
      else beforePairInto first second (x :: done) xs

/-- The text before the first place where `first` and `second` stand side by side; all of the text
where there is none. -/
def beforePair (first second : Char) (s : List Char) : List Char := beforePairInto first second [] s

theorem beforePairInto_eq (first second : Char) (done s : List Char) :
    beforePairInto first second done s = done.reverse ++ beforePair first second s := by
  induction s generalizing done with
  | nil => simp [beforePair, beforePairInto]
  | cons x xs ih =>
    simp only [beforePair, beforePairInto]
    split
    · simp
    · rw [ih, ih [x]]; simp

@[simp] theorem beforePair_nil (first second : Char) : beforePair first second [] = [] := rfl

theorem beforePair_cons (first second x : Char) (xs : List Char) :
    beforePair first second (x :: xs) =
      if x = first ∧ xs.head? = some second then [] else x :: beforePair first second xs := by
  rw [beforePair, beforePairInto, beforePairInto_eq]; rfl

/-- What stands before a marker is the beginning of the text. -/
theorem length_beforePair_le (first second : Char) (s : List Char) :
    (beforePair first second s).length ≤ s.length := by
  induction s with
  | nil => simp
  | cons x xs ih => rw [beforePair_cons]; split <;> simp_all

/-- The pending text before the first marker, and the cursor on that marker, or behind the text. -/
def takeUntilPair (first second : Char) (c : Cursor) : List Char × Cursor :=
  let run := beforePair first second c.pending
  (run, c.advanceBy run.length)

/-! ### Moving on leaves less -/

theorem length_takeWhile_le (p : Char → Bool) (s : List Char) :
    (s.takeWhile p).length ≤ s.length := by
  induction s with
  | nil => simp
  | cons x xs ih => rw [List.takeWhile_cons]; split <;> simp_all

@[simp] theorem pending_takeWhile (p : Char → Bool) (c : Cursor) :
    (c.takeWhile p).2.pending = c.pending.drop (c.takeWhile p).1.length :=
  pending_advanceBy (length_takeWhile_le p c.pending)

theorem pending_takeUntilPair (first second : Char) (c : Cursor) :
    (c.takeUntilPair first second).2.pending
      = c.pending.drop (c.takeUntilPair first second).1.length :=
  pending_advanceBy (length_beforePair_le first second c.pending)

theorem length_pending_advance_lt {c : Cursor} {x : Char} (h : c.current = some x) :
    c.advance.pending.length < c.pending.length := by
  obtain ⟨current, ahead, position, moves⟩ := c
  subst h
  rw [pending_advance]
  simp [pending]

/-- Once the cursor is on the text, moving on drops characters, and nothing is left behind the text.
-/
theorem pending_advanceBy_of_started {c : Cursor} (h : c.current = none → c.ahead = []) (n : Nat) :
    (c.advanceBy n).pending = c.pending.drop n := by
  induction n generalizing c with
  | zero => simp
  | succ n ih =>
    have htail : c.pending.tail = c.ahead := by
      unfold pending; split <;> simp_all
    rw [advanceBy_succ, ih (by simp +contextual), pending_advance, ← htail, List.drop_tail]

theorem length_pending_advanceBy_le {c : Cursor} {x : Char} (h : c.current = some x) (n : Nat) :
    (c.advanceBy n).pending.length ≤ c.pending.length := by
  rw [pending_advanceBy_of_started (by simp [h]), List.length_drop]; omega

theorem length_pending_skipBlanks_le (c : Cursor) :
    c.skipBlanks.pending.length ≤ c.pending.length := by
  rw [skipBlanks, pending_takeWhile, List.length_drop]; omega

end Cursor

end Stencil
