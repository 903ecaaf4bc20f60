import Stencil.Proofs.Template.Readers
import Stencil.Template.Scan

/-!
# Readers only move on

Whatever a reader reads, and also where it breaks off, it has crossed some of the text, character by
character.  So no reader ever moves a cursor that is behind the text, and the cursor behind a reader
is the cursor in front of it, moved on some number of times.

## Main definitions

* `Cursor.Reaches` — a cursor is another one, moved on.
* `Cursor.Started` — a cursor is on the text or behind it.
* `Cursor.Crosses` — a cursor is another one, moved on over characters.

## Main results

* `Cursor.crosses_readItem` — where the reading of an item leads.
* `Cursor.crosses_readItems` — where the reading of a template leads.
-/

namespace Stencil

namespace Cursor

/-! ### Moving on -/

/-- Moving on leads from `c` to `d`. -/
def Reaches (c d : Cursor) : Prop := ∃ n, d = c.advanceBy n

theorem Reaches.refl (c : Cursor) : c.Reaches c := ⟨0, rfl⟩

theorem reaches_advanceBy (c : Cursor) (n : Nat) : c.Reaches (c.advanceBy n) := ⟨n, rfl⟩

theorem reaches_advance (c : Cursor) : c.Reaches c.advance := ⟨1, rfl⟩

theorem advanceBy_advanceBy (c : Cursor) (m n : Nat) :
    (c.advanceBy m).advanceBy n = c.advanceBy (m + n) := by
  induction m generalizing c with
  | zero => rw [advanceBy_zero, Nat.zero_add]
  | succ m ih => rw [advanceBy_succ, ih, Nat.succ_add, advanceBy_succ]

theorem Reaches.trans {c d e : Cursor} (h : c.Reaches d) (h' : d.Reaches e) : c.Reaches e := by
  obtain ⟨m, rfl⟩ := h
  obtain ⟨n, rfl⟩ := h'
  exact ⟨m + n, advanceBy_advanceBy c m n⟩

/-- What is true of a cursor stays true as it is moved on, if one step keeps it true. -/
theorem Reaches.induction {p : Cursor → Prop} (hstep : ∀ c, p c → p c.advance) {c d : Cursor}
    (h : c.Reaches d) (hc : p c) : p d := by
  obtain ⟨n, rfl⟩ := h
  induction n generalizing c with
  | zero => exact hc
  | succ n ih => exact ih (hstep c hc)

/-- Nothing comes to be behind a cursor that is moved on. -/
theorem Reaches.ahead_eq_nil {c d : Cursor} (h : c.Reaches d) (hc : c.ahead = []) :
    d.ahead = [] :=
  h.induction (p := fun c => c.ahead = []) (fun c hc => by rw [ahead_advance, hc]; rfl) hc

/-- The cursor is on the text or behind it, and no longer in front of it. -/
def Started (c : Cursor) : Prop := c.current = none → c.ahead = []

theorem started_advance (c : Cursor) : c.advance.Started := by
  intro h
  rw [current_advance, List.head?_eq_none_iff] at h
  rw [ahead_advance, h]
  rfl

theorem Reaches.started {c d : Cursor} (h : c.Reaches d) (hc : c.Started) : d.Started :=
  h.induction (fun c _ => started_advance c) hc

/-! ### Moving on over characters -/

/-- From `c` to `d` over some of the text: every step leaves a character. -/
def Crosses (c d : Cursor) : Prop := ∃ t, c.Passes t d

theorem Crosses.refl (c : Cursor) : c.Crosses c := ⟨[], rfl⟩

theorem Crosses.trans {c d e : Cursor} (h : c.Crosses d) (h' : d.Crosses e) : c.Crosses e := by
  obtain ⟨t, h⟩ := h
  obtain ⟨u, h'⟩ := h'
  exact ⟨t ++ u, h.trans h'⟩

theorem Crosses.reaches {c d : Cursor} (h : c.Crosses d) : c.Reaches d := by
  obtain ⟨t, h⟩ := h
  exact ⟨t.length, h.eq_advanceBy⟩

theorem crosses_advance {c : Cursor} {x : Char} (h : c.current = some x) : c.Crosses c.advance :=
  ⟨[x], passes_singleton.mpr ⟨h, rfl⟩⟩

/-- What leaves less has crossed a character. -/
theorem Crosses.exists_passes_cons {c d : Cursor} (h : c.Crosses d)
    (hlt : d.pending.length < c.pending.length) : ∃ x t, c.Passes (x :: t) d := by
  obtain ⟨t, hpass⟩ := h
  cases t with
  | nil =>
    rw [passes_nil.mp hpass] at hlt
    exact absurd hlt (Nat.lt_irrefl _)
  | cons x t => exact ⟨x, t, hpass⟩

theorem crosses_pair {first second : Char} {c : Cursor} (h : c.onPair first second = true) :
    c.Crosses (c.advanceBy 2) :=
  ⟨_, onPair_iff_passes.mp h⟩

/-! ### Runs of characters -/

theorem crosses_takeWhile (p : Char → Bool) (c : Cursor) : c.Crosses (c.takeWhile p).2 :=
  ⟨_, (takeWhile_eq_iff.mp rfl).1⟩

theorem crosses_takeUntilPair (first second : Char) (c : Cursor) :
    c.Crosses (c.takeUntilPair first second).2 := by
  obtain ⟨rest, hsplit, -⟩ := beforePair_append_of_marker first second c.pending
  exact ⟨_, passes_of_pending hsplit⟩

theorem crosses_skipBlanks (c : Cursor) : c.Crosses c.skipBlanks := crosses_takeWhile isBlank c

theorem crosses_readName (c : Cursor) : c.Crosses c.readName.2 := crosses_takeWhile isLetter c

theorem reaches_takePair (first second : Option Char) (c : Cursor) :
    c.Reaches (c.takePair first second).2 := by
  unfold takePair
  split
  · exact reaches_advanceBy c 2
  · exact .refl c

theorem reaches_skipBlanks (c : Cursor) : c.Reaches c.skipBlanks := (crosses_skipBlanks c).reaches

end Cursor

/-! ### Readers -/

/-- What is read behind something else is reached over characters as well. -/
theorem Reading.crosses_bind {α β : Type} {c : Cursor} {r : Reading α}
    {f : α → Cursor → Reading β} (h : c.Crosses r.cursor)
    (hf : ∀ a d, r = .read a d → d.Crosses (f a d).cursor) : c.Crosses (r.bind f).cursor := by
  cases r with
  | read a d => exact h.trans (hf a d rfl)
  | broken fault d => exact h

theorem Reading.crosses_map {α β : Type} {c : Cursor} {r : Reading α} (f : α → β)
    (h : c.Crosses r.cursor) : c.Crosses (r.map f).cursor :=
  crosses_bind h fun _ d _ => .refl d

namespace Cursor

theorem crosses_expect (expected context : String) (c : Cursor) :
    c.Crosses (c.expect expected context).cursor := by
  unfold expect
  split
  · exact .refl c
  next x hx =>
  split
  · exact crosses_advance hx
  · exact .refl c

theorem crosses_readQuoted (property : String) (c : Cursor) :
    c.Crosses (c.readQuoted property).cursor := by
  refine Reading.crosses_bind (crosses_expect _ _ c) fun _ d _ => ?_
  simp only
  split
  · exact crosses_takeWhile _ d
  · next x hx => exact (crosses_takeWhile _ d).trans (crosses_advance hx)

theorem crosses_readProperty (directive : String) (c : Cursor) :
    c.Crosses (c.readProperty directive).cursor := by
  unfold readProperty
  split
  · exact .refl c
  simp only
  split
  · exact .refl c
  have hname := (crosses_readName c).trans (crosses_skipBlanks _)
  refine Reading.crosses_bind (hname.trans (crosses_expect _ _ _)) fun _ d _ => ?_
  have hvalue := (crosses_skipBlanks d).trans (crosses_readQuoted c.readName.1 _)
  exact Reading.crosses_bind hvalue fun _ e _ => crosses_skipBlanks e

theorem crosses_readProperties (directive : String) (c : Cursor) :
    c.Crosses (c.readProperties directive).cursor := by
  fun_induction readProperties directive c with
  | case1 c hclosing => exact crosses_pair hclosing
  | case2 c _ fault d h =>
    have hproperty := crosses_readProperty directive c
    rw [h] at hproperty
    exact hproperty
  | case3 c _ p d h ih =>
    have hproperty := crosses_readProperty directive c
    rw [h] at hproperty
    exact hproperty.trans (Reading.crosses_map _ ih)

theorem crosses_readDirective (line : Int) (c : Cursor) :
    c.Crosses (c.readDirective line).cursor := by
  have hname := (crosses_skipBlanks c).trans (crosses_readName _)
  have hproperties := (hname.trans (crosses_skipBlanks _)).trans
    (crosses_readProperties c.skipBlanks.readName.1 _)
  exact Reading.crosses_map _ hproperties

theorem crosses_readBody (opening : Position) (c : Cursor) :
    c.Crosses (c.readBody opening).cursor := by
  have hrun := crosses_takeUntilPair '#' '>' c
  have hend := ((takeUntilPair_eq_iff (by decide)).mp (Prod.eta (c.takeUntilPair '#' '>')).symm).2.2
  simp only [readBody]
  split
  · exact hrun
  · next x hx =>
    -- the run did not end with the text, so it ended on the marker
    rcases hend with hnone | hpair
    · rw [hx] at hnone
      cases hnone
    · exact hrun.trans (crosses_pair hpair)

theorem crosses_readBlock (opening : Position) (c : Cursor) :
    c.Crosses (c.readBlock opening).cursor := by
  rcases ofDiscriminator_cases c.current with
    ⟨hc, hkind⟩ | ⟨hc, hkind⟩ | ⟨hc, hkind⟩ | ⟨hc, hkind⟩ <;>
    simp only [readBlock, hkind]
  · exact Reading.crosses_map _ ((crosses_advance hc).trans (crosses_readDirective _ _))
  · exact Reading.crosses_map _ ((crosses_advance hc).trans (crosses_readBody _ _))
  · exact Reading.crosses_map _ ((crosses_advance hc).trans (crosses_readBody _ _))
  · exact Reading.crosses_map _ (crosses_readBody _ c)

theorem crosses_readText (c : Cursor) : c.Crosses c.readText.2 := crosses_takeUntilPair '<' '#' c

/-- Reading an item crosses some of the text, whatever comes of it. -/
theorem crosses_readItem (c : Cursor) : c.Crosses c.readItem.cursor := by
  unfold readItem
  split
  · next hopening => exact (crosses_pair hopening).trans (crosses_readBlock _ _)
  · exact crosses_readText c

theorem crosses_of_read {c d : Cursor} {item : Item} (h : c.readItem = .read item d) :
    c.Crosses d := by
  have hitem := crosses_readItem c
  rw [h] at hitem
  exact hitem

theorem crosses_of_broken {c d : Cursor} {cause : SyntaxFault}
    (h : c.readItem = .broken cause d) : c.Crosses d := by
  have hitem := crosses_readItem c
  rw [h] at hitem
  exact hitem

theorem reaches_of_read {c d : Cursor} {item : Item} (h : c.readItem = .read item d) :
    c.Reaches d :=
  (crosses_of_read h).reaches

/-- Reading a template crosses some of the text, however it ends. -/
theorem crosses_readItems (fault : Option DecodeFault) (c : Cursor) :
    c.Crosses (c.readItems fault).cursor := by
  fun_induction readItems fault c with
  | case1 c _ cause d h _ _ => exact crosses_of_broken h
  | case2 c _ cause d h _ => exact crosses_of_broken h
  | case3 c _ item d h _ _ => exact crosses_of_read h
  | case4 c _ item d h _ others ih =>
    exact ((crosses_of_read h).trans (crosses_skipBlanks d)).trans ih
  | case5 c _ _ _ => exact .refl c
  | case6 c _ _ => exact .refl c

theorem reaches_readItems (fault : Option DecodeFault) (c : Cursor) :
    c.Reaches (c.readItems fault).cursor :=
  (crosses_readItems fault c).reaches

end Cursor

end Stencil
