import Stencil.Proofs.Template.Readers
import Stencil.Template.Scan

/-!
# Runs of items

A scan reads items one behind the other until the template ends or an item is broken.  The run up to
there passes exactly what some well-laid list of elements is written as, and each item of the run is
what is read of its element on the line that the text in front of it leads to.

## Main definitions

* `Cursor.start` — where the reading of a text begins.
* `Cursor.Reads` — from one cursor to another by reading items, with the blanks behind each.
* `Grammar.itemsFrom` — what is read of elements, from a place on.

## Main results

* `Cursor.reads_iff` — runs of items pass what well-laid elements are written as, and nothing else.
* `Cursor.exists_reads` — every reading is a run up to the end of the template or a broken item.
-/

namespace Stencil

open Grammar (Element WellLaid printed)

namespace Grammar

/-- What is read of elements that are written from a place on. -/
def itemsFrom : Position → List Element → List Item
  | _, [] => []
  | p, el :: es => el.item p.line :: itemsFrom (p.across el.print) es

/-- What is read is read of some element. -/
theorem exists_mem_of_mem_itemsFrom {p : Position} {es : List Element} {item : Item}
    (h : item ∈ itemsFrom p es) : ∃ el ∈ es, ∃ line, el.item line = item := by
  induction es generalizing p with
  | nil => cases h
  | cons el es ih =>
    rcases List.mem_cons.mp h with rfl | h
    · exact ⟨el, List.mem_cons_self, p.line, rfl⟩
    · obtain ⟨el', hel', hitem⟩ := ih h
      exact ⟨el', List.mem_cons_of_mem _ hel', hitem⟩

/-- Something is read of every element. -/
theorem exists_item_mem_itemsFrom (p : Position) {es : List Element} {el : Element} (h : el ∈ es) :
    ∃ line, el.item line ∈ itemsFrom p es := by
  induction es generalizing p with
  | nil => cases h
  | cons el' es ih =>
    rcases List.mem_cons.mp h with rfl | h
    · exact ⟨p.line, List.mem_cons_self⟩
    · obtain ⟨line, hline⟩ := ih (p.across el'.print) h
      exact ⟨line, List.mem_cons_of_mem _ hline⟩

end Grammar

namespace Cursor

/-- The cursor of a scan when it begins to read, on the first character of the text. -/
def start (text : String) : Cursor := (ofText text.toList).advance

@[simp] theorem pending_start (text : String) : (start text).pending = text.toList :=
  pending_advance _

/-- From one cursor to another by reading items, with the blanks behind each of them. -/
inductive Reads : Cursor → List Item → Cursor → Prop where
  /-- Nothing is read. -/
  | nil (c : Cursor) : Reads c [] c
  /-- An item is read, and others behind it. -/
  | cons {c d e : Cursor} {item : Item} {items : List Item} (hc : c.current.isSome = true)
      (hread : c.readItem = .read item d) (h : Reads d.skipBlanks items e) :
      Reads c (item :: items) e

/-! ### Runs and elements -/

theorem Passes.isSome_current {c d : Cursor} {s : List Char} (h : c.Passes s d) (hs : s ≠ []) :
    c.current.isSome = true := by
  obtain ⟨x, -, hx⟩ := h.current_mem hs
  rw [hx]
  rfl

/-- In front of a block the cursor is on its opening marker. -/
theorem Passes.onPair_of_block {c d : Cursor} {b : Grammar.Block} {s : List Char}
    (h : c.Passes (b.print ++ s) d) : c.onPair '<' '#' = true := by
  obtain ⟨c₁, hopening, -⟩ := (passes_append (s := ['<', '#'])).mp h
  obtain rfl := hopening.eq_advanceBy
  exact onPair_iff_passes.mpr hopening

/-- In a well-laid list the cursor stops behind each element where it must. -/
theorem stopsAt_of_wellLaid {el : Element} {es : List Element} {d e : Cursor}
    (hlaid : WellLaid (el :: es)) (h : d.Passes (printed es) e) (he : e.AtMarker '<' '#') :
    el.StopsAt d := by
  have notBlank_of_marker : d.onPair '<' '#' = true → ∀ x ∈ d.current, isBlank x = false := by
    intro hpair
    exact forall_mem_current (onPair_iff_passes.mp hpair).1 (by decide)
  cases es with
  | nil =>
    obtain rfl := passes_nil.mp h
    cases el with
    | text run => exact he
    | block b gap =>
      rcases he with hnone | hpair
      · simp [Element.StopsAt, hnone]
      · exact notBlank_of_marker hpair
  | cons el' es =>
    have hprecede := (List.isChain_cons_cons.mp hlaid).1
    rw [Grammar.printed_cons] at h
    cases el' with
    | text run =>
      cases el with
      | text run' => exact hprecede.elim
      | block b gap =>
        obtain ⟨x, s, hxs⟩ := List.exists_cons_of_ne_nil run.nonempty
        intro y hy
        rw [Element.print, hxs] at h
        refine hprecede y ?_
        rw [hxs, List.head?_cons, ← h.1]
        exact hy
    | block b gap =>
      rw [Element.print, List.append_assoc] at h
      have hpair := h.onPair_of_block
      cases el with
      | text run => exact .inr hpair
      | block b' gap' => exact notBlank_of_marker hpair

/-- Where the cursor stops decides which elements may follow. -/
theorem mayPrecede_of_stopsAt {el el' : Element} {c d : Cursor} (hstop : el.StopsAt c)
    (h : c.Passes el'.print d) (hstop' : el'.StopsAt d) : el.MayPrecede el' := by
  cases el' with
  | block b gap => cases el <;> trivial
  | text run =>
    cases el with
    | text run' =>
      -- the second run would begin on the marker that ended the first
      rcases hstop with hnone | hpair
      · have := h.isSome_current run.nonempty
        rw [hnone] at this
        cases this
      · exact h.not_onPair_of_run hstop' hpair
    | block b gap =>
      intro x hx
      obtain ⟨s, hs⟩ := List.head?_eq_some_iff.mp hx
      rw [Element.print, hs] at h
      exact hstop x h.1

/-- The items of elements behind a text that is passed. -/
theorem itemsFrom_of_passes {c d e : Cursor} {s : List Char} {es : List Element}
    (h : c.Passes s d) (hes : d.Passes (printed es) e) :
    Grammar.itemsFrom d.position es = Grammar.itemsFrom (Position.across s c.position) es := by
  cases es with
  | nil => rfl
  | cons el es =>
    have hne : printed (el :: es) ≠ [] := by
      simp [el.print_ne_nil]
    rw [h.position (hes.isSome_current hne)]

/-- **Runs of items pass what well-laid elements are written as, and nothing else.** -/
theorem reads_iff {items : List Item} {c e : Cursor} (he : e.AtMarker '<' '#') :
    c.Reads items e ↔
      ∃ es, WellLaid es ∧ Grammar.itemsFrom c.position es = items ∧ c.Passes (printed es) e := by
  constructor
  · intro h
    induction h with
    | nil c => exact ⟨[], List.IsChain.nil, rfl, rfl⟩
    | @cons c d e item items hc hread _ ih =>
      -- where the next element stops says that this one may precede it
      obtain ⟨es, hlaid, rfl, hes⟩ := ih he
      obtain ⟨el, rfl, hel, hstop⟩ := (readItem_skipBlanks_iff hc).mp ⟨d, hread, rfl⟩
      refine ⟨el :: es, ?_, ?_, hel.trans hes⟩
      · cases es with
        | nil => exact List.IsChain.singleton el
        | cons el' es =>
          obtain ⟨c₁, hel', hes'⟩ := passes_append.mp hes
          have hstop' := stopsAt_of_wellLaid hlaid hes' he
          exact List.isChain_cons_cons.mpr ⟨mayPrecede_of_stopsAt hstop hel' hstop', hlaid⟩
      · rw [Grammar.itemsFrom, ← itemsFrom_of_passes hel hes]
  · rintro ⟨es, hlaid, rfl, h⟩
    -- the places on the two sides agree only along the passage, so `c` varies in the induction
    induction es generalizing c with
    | nil =>
      obtain rfl := passes_nil.mp h
      exact Reads.nil c
    | cons el es ih =>
      obtain ⟨c₁, hel, hes⟩ := passes_append.mp h
      have hc := hel.isSome_current el.print_ne_nil
      obtain ⟨d, hread, rfl⟩ := (readItem_skipBlanks_iff hc).mpr
        ⟨el, rfl, hel, stopsAt_of_wellLaid hlaid hes he⟩
      rw [Grammar.itemsFrom, ← itemsFrom_of_passes hel hes]
      exact Reads.cons hc hread (ih hlaid.tail hes)

/-! ### Readings and runs -/

theorem readItems_of_end {c : Cursor} (hc : c.current = none) :
    c.readItems none = ⟨[], .complete, c⟩ := by
  rw [readItems]
  simp [hc, struck]

theorem readItems_of_broken {c d : Cursor} {fault : SyntaxFault} (hc : c.current.isSome = true)
    (h : c.readItem = .broken fault d) : c.readItems none = ⟨[], .broken fault, d⟩ := by
  rw [readItems, dif_pos hc]
  split <;> simp_all [struck]

theorem readItems_of_read {c d : Cursor} {item : Item} (hc : c.current.isSome = true)
    (h : c.readItem = .read item d) :
    c.readItems none =
      { d.skipBlanks.readItems none with
        items := item :: (d.skipBlanks.readItems none).items } := by
  rw [readItems, dif_pos hc]
  split <;> simp_all [struck]

/-- A run in front of a reading belongs to it. -/
theorem Reads.readItems_eq {items : List Item} {c e : Cursor} (h : c.Reads items e) :
    c.readItems none =
      { e.readItems none with items := items ++ (e.readItems none).items } := by
  induction h with
  | nil c => rfl
  | cons hc hread _ ih => rw [readItems_of_read hc hread, ih]; rfl

/-- Only blocks are broken. -/
theorem onPair_of_broken {c d : Cursor} {fault : SyntaxFault} (h : c.readItem = .broken fault d) :
    c.onPair '<' '#' = true := by
  unfold readItem at h
  split at h
  · assumption
  · cases h

/-- **Every reading is a run** up to the end of the template or a broken item. -/
theorem exists_reads (c : Cursor) :
    ∃ items e, c.Reads items e ∧
      (e.current = none ∨ ∃ fault d, e.current.isSome = true ∧ e.readItem = .broken fault d) := by
  by_cases hc : c.current.isSome = true
  · cases hread : c.readItem with
    | broken fault d => exact ⟨[], c, Reads.nil c, .inr ⟨fault, d, hc, hread⟩⟩
    | read item d =>
      have hlt := Nat.lt_of_le_of_lt (length_pending_skipBlanks_le d) (readItem_lt hc hread)
      obtain ⟨items, e, hreads, hend⟩ := exists_reads d.skipBlanks
      exact ⟨item :: items, e, Reads.cons hc hread hreads, hend⟩
  · exact ⟨[], c, Reads.nil c, .inl (by simpa using hc)⟩
termination_by c.pending.length

end Cursor

/-! ### Scans -/

namespace Registry

variable (r : Registry) (templatePath text : String)

theorem ending_scan :
    (r.scan templatePath text).ending = ((Cursor.start text).readItems none).ending :=
  rfl

theorem state_scan :
    (r.scan templatePath text).state =
      (r.applyItems { templatePath } ((Cursor.start text).readItems none).items).state :=
  rfl

theorem calls_scan :
    (r.scan templatePath text).calls =
      (r.applyItems { templatePath } ((Cursor.start text).readItems none).items).calls :=
  rfl

theorem events_scan :
    (r.scan templatePath text).events =
      (r.applyItems { templatePath } ((Cursor.start text).readItems none).items).events ++
        (r.scan templatePath text).state.closing (r.scan templatePath text).ending :=
  rfl

/-- A text in memory is always readable. -/
theorem ending_scan_ne_unreadable (flaw : DecodeFault) :
    (r.scan templatePath text).ending ≠ .unreadable flaw := by
  intro h
  obtain ⟨items, e, hreads, hend⟩ := Cursor.exists_reads (Cursor.start text)
  rw [ending_scan, hreads.readItems_eq] at h
  rcases hend with hend | ⟨fault, d, hcurrent, hbroken⟩
  · rw [Cursor.readItems_of_end hend] at h
    cases h
  · rw [Cursor.readItems_of_broken hcurrent hbroken] at h
    cases h

end Registry

end Stencil
