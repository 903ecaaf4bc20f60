import Mathlib.Data.List.TakeWhile
import Stencil.Text.Cursor

/-!
# Passages of a cursor

A reader moves the cursor over some text and nothing else.  What it passed is stated as a relation
between the cursor in front, the text, and the cursor behind, so that readers compose by appending
the texts they pass, and every run of characters is described by one equivalence: which text it
passes, and what the cursor may show behind it.

## Main definitions

* `Cursor.Passes` — the text between two cursors.
* `Cursor.AtMarker` — the cursor is on a marker or behind the text.
* `Position.across` — the place of the character behind a text.

## Main results

* `Cursor.passes_append` — passages compose.
* `Cursor.takeWhile_eq_iff`, `Cursor.takeUntilPair_eq_iff`, `Cursor.skipBlanks_eq_iff` — what a run
  of characters passes.
* `Cursor.Passes.position` — the place of a cursor is decided by the text it passed.
-/

namespace Stencil

namespace Cursor

/-! ### Texts between two cursors -/

/-- From `c` over a text, character by character, onto `d`. -/
def Passes : Cursor → List Char → Cursor → Prop
  | c, [], d => c = d
  | c, x :: s, d => c.current = some x ∧ c.advance.Passes s d

@[simp] theorem passes_nil {c d : Cursor} : c.Passes [] d ↔ c = d := Iff.rfl

theorem passes_cons {c d : Cursor} {x : Char} {s : List Char} :
    c.Passes (x :: s) d ↔ c.current = some x ∧ c.advance.Passes s d := Iff.rfl

theorem passes_append {c e : Cursor} {s t : List Char} :
    c.Passes (s ++ t) e ↔ ∃ d, c.Passes s d ∧ d.Passes t e := by
  induction s generalizing c with
  | nil => simp
  | cons x s ih => simp [passes_cons, ih, and_assoc]

theorem Passes.trans {c d e : Cursor} {s t : List Char} (h : c.Passes s d) (h' : d.Passes t e) :
    c.Passes (s ++ t) e :=
  passes_append.mpr ⟨d, h, h'⟩

/-- A character under the cursor is passed by one step. -/
theorem passes_singleton {c d : Cursor} {x : Char} :
    c.Passes [x] d ↔ c.current = some x ∧ c.advance = d := Iff.rfl

theorem pending_eq_cons {c : Cursor} {x : Char} (h : c.current = some x) :
    c.pending = x :: c.ahead := by
  simp [pending, h]

@[simp] theorem head?_pending (c : Cursor) : c.pending.head? = c.current := by
  unfold pending
  split <;> simp_all

theorem current_of_pending {c : Cursor} {x : Char} {s : List Char} (h : c.pending = x :: s) :
    c.current = some x := by
  rw [← head?_pending, h]
  rfl

theorem forall_mem_current {c : Cursor} {x : Char} {p : Char → Prop} (hc : c.current = some x)
    (hx : p x) : ∀ y ∈ c.current, p y := by
  rw [hc]
  rintro y ⟨⟩
  exact hx

/-- What is passed was pending. -/
theorem Passes.pending_eq {c d : Cursor} {s : List Char} (h : c.Passes s d) :
    c.pending = s ++ d.pending := by
  induction s generalizing c with
  | nil => rw [passes_nil.mp h]; rfl
  | cons x s ih =>
    obtain ⟨hc, h⟩ := passes_cons.mp h
    rw [pending_eq_cons hc, List.cons_append, ← ih h, pending_advance]

theorem Passes.eq_advanceBy {c d : Cursor} {s : List Char} (h : c.Passes s d) :
    d = c.advanceBy s.length := by
  induction s generalizing c with
  | nil => exact (passes_nil.mp h).symm
  | cons x s ih => exact ih h.2

/-- In front of a text that is passed the cursor is on its first character. -/
theorem Passes.current_mem {c d : Cursor} {s : List Char} (h : c.Passes s d) (hs : s ≠ []) :
    ∃ x ∈ s, c.current = some x := by
  obtain ⟨x, t, rfl⟩ := List.exists_cons_of_ne_nil hs
  exact ⟨x, List.mem_cons_self, h.1⟩

/-- Text that is pending can be passed. -/
theorem passes_of_pending {c : Cursor} {s t : List Char} (h : c.pending = s ++ t) :
    c.Passes s (c.advanceBy s.length) := by
  induction s generalizing c with
  | nil => rfl
  | cons x s ih =>
    have hc : c.current = some x := current_of_pending h
    refine passes_cons.mpr ⟨hc, ih ?_⟩
    rw [pending_eq_cons hc, List.cons_append, List.cons.injEq] at h
    rw [pending_advance, h.2]

theorem pending_eq_nil_iff {c : Cursor} : c.pending = [] ↔ c.current = none := by
  rw [← head?_pending, List.head?_eq_none_iff]

theorem Passes.pending_of_append {c d : Cursor} {s t : List Char} (h : c.Passes s d)
    (hc : c.pending = s ++ t) : d.pending = t :=
  List.append_cancel_left (h.pending_eq.symm.trans hc)

/-- What is pending can be passed, up to any place in it. -/
theorem exists_passes {c : Cursor} {s t : List Char} (h : c.pending = s ++ t) :
    ∃ d, c.Passes s d ∧ d.pending = t :=
  ⟨_, passes_of_pending h, (passes_of_pending h).pending_of_append h⟩

/-- All that is pending can be passed. -/
theorem exists_passes_all {c : Cursor} {s : List Char} (h : c.pending = s) :
    ∃ d, c.Passes s d ∧ d.current = none := by
  obtain ⟨d, hpass, hnil⟩ := exists_passes (h.trans (List.append_nil s).symm)
  exact ⟨d, hpass, pending_eq_nil_iff.mp hnil⟩

/-! ### Runs of a class -/

theorem takeWhile_eq_iff {p : Char → Bool} {c d : Cursor} {s : List Char} :
    c.takeWhile p = (s, d) ↔
      c.Passes s d ∧ (∀ x ∈ s, p x = true) ∧ ∀ x ∈ d.current, p x = false := by
  constructor
  · intro h
    obtain ⟨rfl, rfl⟩ := Prod.mk.inj h
    have hsplit : c.pending = c.pending.takeWhile p ++ c.pending.dropWhile p :=
      List.takeWhile_append_dropWhile.symm
    have hpass := passes_of_pending hsplit
    refine ⟨hpass, fun x hx => List.mem_takeWhile_imp hx, fun x hx => ?_⟩
    -- what is pending behind the run is what is left when the run is dropped
    have hrest : (c.advanceBy (c.pending.takeWhile p).length).pending = c.pending.dropWhile p :=
      hpass.pending_of_append hsplit
    rw [Option.mem_def, ← head?_pending, hrest] at hx
    have := List.head?_dropWhile_not p c.pending
    rw [hx] at this
    simpa using this
  · rintro ⟨hpass, hs, hd⟩
    have hrun : c.pending.takeWhile p = s := by
      have hnil : d.pending.takeWhile p = [] := by
        rw [← List.head?_eq_none_iff, List.head?_takeWhile, head?_pending,
          Option.filter_eq_none_iff]
        intro x hx
        simp [hd x hx]
      rw [hpass.pending_eq, List.takeWhile_append_of_pos hs, hnil, List.append_nil]
    rw [takeWhile, hrun, ← hpass.eq_advanceBy]

theorem skipBlanks_eq_iff {c d : Cursor} :
    c.skipBlanks = d ↔
      ∃ s, c.Passes s d ∧ (∀ x ∈ s, isBlank x = true) ∧ ∀ x ∈ d.current, isBlank x = false := by
  constructor
  · rintro rfl
    exact ⟨(c.takeWhile isBlank).1, takeWhile_eq_iff.mp rfl⟩
  · rintro ⟨s, h⟩
    rw [skipBlanks, takeWhile_eq_iff.mpr h]

/-- A cursor that is on no blank stays where it is. -/
theorem skipBlanks_of_notBlank {c : Cursor} (h : ∀ x ∈ c.current, isBlank x = false) :
    c.skipBlanks = c :=
  skipBlanks_eq_iff.mpr ⟨[], rfl, by simp, h⟩

/-! ### Markers -/

/-- The cursor is on a marker, or behind the text. -/
def AtMarker (first second : Char) (c : Cursor) : Prop :=
  c.current = none ∨ c.onPair first second = true

theorem onPair_iff_passes {first second : Char} {c : Cursor} :
    c.onPair first second = true ↔ c.Passes [first, second] (c.advanceBy 2) := by
  rw [onPair_iff]
  constructor
  · rintro ⟨rest, h⟩
    exact passes_of_pending (s := [first, second]) h
  · intro h
    exact ⟨_, h.pending_eq⟩

/-- What stands before a marker holds no marker. -/
theorem not_infix_beforePair (first second : Char) (s : List Char) :
    ¬ [first, second] <:+: beforePair first second s := by
  induction s with
  | nil => simp
  | cons x s ih =>
    rw [beforePair_cons]
    split
    · simp
    · next hpair =>
      rw [List.infix_cons_iff]
      rintro (hhere | hlater)
      · -- the marker would have to begin at `x`, where there is none
        obtain ⟨rfl, rest, hrest⟩ := List.cons_prefix_cons.mp hhere
        refine hpair ⟨rfl, ?_⟩
        cases s with
        | nil => cases hrest
        | cons y s =>
          rw [beforePair_cons] at hrest
          split at hrest
          · cases hrest
          · exact congrArg some (List.cons.inj hrest).1.symm
      · exact ih hlater

/-- Behind what stands before a marker is the marker, or nothing. -/
theorem beforePair_append_of_marker (first second : Char) (s : List Char) :
    ∃ rest, s = beforePair first second s ++ rest ∧
      (rest = [] ∨ ∃ t, rest = first :: second :: t) := by
  induction s with
  | nil => exact ⟨[], rfl, .inl rfl⟩
  | cons x s ih =>
    rw [beforePair_cons]
    split
    · next hpair =>
      obtain ⟨rfl, hhead⟩ := hpair
      obtain ⟨t, rfl⟩ := List.head?_eq_some_iff.mp hhead
      exact ⟨_, rfl, .inr ⟨t, rfl⟩⟩
    · obtain ⟨rest, hrest, hmarker⟩ := ih
      exact ⟨rest, by rw [List.cons_append, ← hrest], hmarker⟩

/-- A text without a marker, with the marker or nothing behind it, is what stands before the marker.
The two characters of the marker differ, so the end of the text cannot open one. -/
theorem beforePair_append {first second : Char} (hne : first ≠ second) {s rest : List Char}
    (hs : ¬ [first, second] <:+: s) (hrest : rest = [] ∨ ∃ t, rest = first :: second :: t) :
    beforePair first second (s ++ rest) = s := by
  induction s with
  | nil =>
    rcases hrest with rfl | ⟨t, rfl⟩
    · rfl
    · rw [List.nil_append, beforePair_cons, if_pos ⟨rfl, rfl⟩]
  | cons x s ih =>
    rw [List.infix_cons_iff, not_or] at hs
    rw [List.cons_append, beforePair_cons, ih hs.2, if_neg]
    rintro ⟨rfl, hhead⟩
    cases s with
    | nil =>
      rcases hrest with rfl | ⟨t, rfl⟩
      · cases hhead
      · exact hne (Option.some.inj hhead)
    | cons y s =>
      obtain rfl := Option.some.inj hhead
      exact hs.1 (List.cons_prefix_cons.mpr ⟨rfl, List.cons_prefix_cons.mpr ⟨rfl, List.nil_prefix⟩⟩)

theorem atMarker_iff {first second : Char} {c : Cursor} :
    c.AtMarker first second ↔ c.pending = [] ∨ ∃ t, c.pending = first :: second :: t := by
  rw [AtMarker, onPair_iff, pending_eq_nil_iff]

theorem takeUntilPair_eq_iff {first second : Char} (hne : first ≠ second) {c d : Cursor}
    {s : List Char} :
    c.takeUntilPair first second = (s, d) ↔
      c.Passes s d ∧ ¬ [first, second] <:+: s ∧ d.AtMarker first second := by
  constructor
  · intro h
    obtain ⟨rfl, rfl⟩ := Prod.mk.inj h
    obtain ⟨rest, hsplit, hmarker⟩ := beforePair_append_of_marker first second c.pending
    have hpass := passes_of_pending hsplit
    refine ⟨hpass, not_infix_beforePair first second c.pending, ?_⟩
    rw [atMarker_iff, hpass.pending_of_append hsplit]
    exact hmarker
  · rintro ⟨hpass, hs, hd⟩
    have hrun : beforePair first second c.pending = s := by
      rw [hpass.pending_eq, beforePair_append hne hs (atMarker_iff.mp hd)]
    rw [takeUntilPair, hrun, ← hpass.eq_advanceBy]

end Cursor

/-! ### Places -/

/-- The place of the character behind a text, where `p` is that of the first character of it. -/
def Position.across : List Char → Position → Position
  | [], p => p
  | x :: s, p => across s (p.leave (some x)).right

theorem Position.across_append (s t : List Char) (p : Position) :
    p.across (s ++ t) = (p.across s).across t := by
  induction s generalizing p with
  | nil => rfl
  | cons x s ih => exact ih _

/-- A text leads as many lines further down as it has line feeds. -/
theorem Position.line_across (s : List Char) (p : Position) :
    (p.across s).line = p.line + s.count '\n' := by
  induction s generalizing p with
  | nil => simp [across]
  | cons x s ih =>
    rw [across, ih, List.count_cons]
    by_cases hx : x = '\n'
    · simp only [hx, leave, right, if_true, beq_self_eq_true]
      omega
    · simp [hx, leave, right]

namespace Cursor

theorem position_advance_of_current {c : Cursor} (h : c.advance.current.isSome = true) :
    c.advance.position = (c.position.leave c.current).right := by
  rw [current_advance] at h
  obtain ⟨current, _ | ⟨x, ahead⟩, position, moves⟩ := c
  · cases h
  · rfl

/-- The place of a cursor on a character is decided by the text it passed and the place it came
from. -/
theorem Passes.position {c d : Cursor} {s : List Char} (h : c.Passes s d)
    (hd : d.current.isSome = true) : d.position = Position.across s c.position := by
  induction s generalizing c with
  | nil => rw [passes_nil.mp h]; rfl
  | cons x s ih =>
    obtain ⟨hc, h⟩ := passes_cons.mp h
    -- the place moves only as long as there is a character to move to
    have hstep : c.advance.current.isSome = true := by
      cases s with
      | nil => rwa [passes_nil.mp h]
      | cons y s => rw [(passes_cons.mp h).1]; rfl
    rw [ih h, position_advance_of_current hstep, hc]
    rfl

end Cursor

end Stencil
