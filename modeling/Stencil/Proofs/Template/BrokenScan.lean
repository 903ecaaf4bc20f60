import Stencil.Proofs.Template.RoundTrip

/-!
# Broken scans

A scan that breaks has done what the template in front of the broken block asks for, and nothing of
what the block asks for.  The template up to the block is a template of its own, and scanning it
alone leads to the same state with the same reports.

## Main definitions

* `Cursor.brokenItem?` — the cursor on the item in which a reading breaks.

## Main results

* `scan_in_front_of_broken_item` — a broken scan stands where the scan of what is in front of the
  broken block ends.
-/

namespace Stencil

open Grammar (WellLaid printed itemsFrom)

namespace Cursor

/-- The cursor on the item in which the reading of items breaks; none if it does not break. -/
def brokenItem? (c : Cursor) : Option Cursor :=
  if _hc : c.current.isSome then
    match _hread : c.readItem with
    | .broken _ _ => some c
    | .read _ d => d.skipBlanks.brokenItem?
  else none
termination_by c.pending.length
decreasing_by exact Nat.lt_of_le_of_lt (length_pending_skipBlanks_le d) (readItem_lt _hc _hread)

theorem brokenItem?_of_broken {c d : Cursor} {fault : SyntaxFault} (hc : c.current.isSome = true)
    (h : c.readItem = .broken fault d) : c.brokenItem? = some c := by
  rw [brokenItem?, dif_pos hc]
  split <;> simp_all

theorem Reads.brokenItem?_eq {items : List Item} {c e : Cursor} (h : c.Reads items e) :
    c.brokenItem? = e.brokenItem? := by
  induction h with
  | nil c => rfl
  | cons hc hread _ ih =>
    rw [← ih, brokenItem?, dif_pos hc]
    split <;> simp_all

/-- A reading that breaks is a run over well-laid elements onto the opening marker of the block that
it breaks in. -/
theorem exists_wellLaid_of_broken {c : Cursor} {fault : SyntaxFault}
    (h : (c.readItems none).ending = .broken fault) :
    ∃ es e, WellLaid es ∧ c.Passes (printed es) e ∧ c.brokenItem? = some e ∧
      e.onPair '<' '#' = true ∧ e.readItem = .broken fault (c.readItems none).cursor ∧
      (c.readItems none).items = itemsFrom c.position es := by
  obtain ⟨items, e, hreads, hend | ⟨fault', d, he, hbroken⟩⟩ := exists_reads c
  · rw [hreads.readItems_eq, readItems_of_end hend] at h
    cases h
  · have hpair := onPair_of_broken hbroken
    obtain ⟨es, hlaid, rfl, hpass⟩ := (reads_iff (.inr hpair)).mp hreads
    have hread := hreads.readItems_eq
    rw [readItems_of_broken he hbroken, List.append_nil] at hread
    rw [hread] at h ⊢
    cases h
    refine ⟨es, e, hlaid, hpass, ?_, hpair, hbroken, rfl⟩
    rw [hreads.brokenItem?_eq, brokenItem?_of_broken he hbroken]

/-- Behind well-laid elements a reading goes on to the block that it breaks in. -/
theorem readItems_of_printed_broken {c e d : Cursor} {es : List Grammar.Element}
    {fault : SyntaxFault} (hlaid : WellLaid es) (h : c.Passes (printed es) e)
    (hpair : e.onPair '<' '#' = true) (hbroken : e.readItem = .broken fault d) :
    c.readItems none = ⟨itemsFrom c.position es, .broken fault, d⟩ := by
  have hcurrent : e.current.isSome = true := by
    rw [(onPair_iff_passes.mp hpair).1]
    rfl
  have hreads := (reads_iff (.inr hpair)).mpr ⟨es, hlaid, rfl, h⟩
  rw [hreads.readItems_eq, readItems_of_broken hcurrent hbroken, List.append_nil]

theorem position_start {text : String} (h : text.toList ≠ []) : (start text).position = ⟨1, 1⟩ := by
  obtain ⟨x, s, hs⟩ := List.exists_cons_of_ne_nil h
  rw [start, ofText, hs]
  rfl

/-- What is read of elements at the beginning of a text does not depend on what stands behind them.
-/
theorem itemsFrom_start {text text' : String} {es : List Grammar.Element} {e e' : Cursor}
    (h : (start text).Passes (printed es) e) (h' : (start text').Passes (printed es) e') :
    itemsFrom (start text).position es = itemsFrom (start text').position es := by
  cases es with
  | nil => rfl
  | cons el es =>
    have hne : printed (el :: es) ≠ [] := by
      simp [el.print_ne_nil]
    have nonempty_of_passes : ∀ {text : String} {e : Cursor},
        (start text).Passes (printed (el :: es)) e → text.toList ≠ [] := by
      intro text e hpass hnil
      rw [← pending_start, hpass.pending_eq] at hnil
      exact hne (List.append_eq_nil_iff.mp hnil).1
    rw [position_start (nonempty_of_passes h), position_start (nonempty_of_passes h')]

end Cursor

/-- The closing report of a scan is no diagnostic. -/
theorem diagnosticsOf_closing (sink : Sink) (s : ScanState) (ending : Ending) :
    diagnosticsOf sink (s.closing ending) = [] := by
  cases ending <;> cases sink <;> rfl

theorem Registry.diagnosticsOf_scan (r : Registry) (sink : Sink) (templatePath text : String) :
    diagnosticsOf sink (r.scan templatePath text).events =
      diagnosticsOf sink
        (r.applyItems { templatePath } ((Cursor.start text).readItems none).items).events := by
  have hevents := diagnosticsOf_append sink
    (r.applyItems { templatePath } ((Cursor.start text).readItems none).items).events
    ((r.scan templatePath text).state.closing (r.scan templatePath text).ending)
  rw [diagnosticsOf_closing, List.append_nil] at hevents
  exact hevents

/-- **A broken scan stands where the scan of what is in front of the broken block ends.**  With `k`
characters in front of the opening marker, the scan of these characters alone is complete, and the
two scans agree in their states, their diagnostics and their calls. -/
theorem scan_in_front_of_broken_item (r : Registry) {templatePath text : String}
    {fault : SyntaxFault} (h : (r.scan templatePath text).ending = .broken fault) :
    ∃ k opening, (Cursor.start text).brokenItem? = some opening ∧
      opening = (Cursor.start text).advanceBy k ∧
      opening.readItem = .broken fault (r.scan templatePath text).cursor ∧
      (∃ rest, text.toList.drop k = '<' :: '#' :: rest) ∧
      let before := r.scan templatePath (String.ofList (text.toList.take k))
      before.ending = .complete ∧
        before.state = (r.scan templatePath text).state ∧
        before.calls = (r.scan templatePath text).calls ∧
        ∀ sink, diagnosticsOf sink before.events
          = diagnosticsOf sink (r.scan templatePath text).events := by
  rw [Registry.ending_scan] at h
  obtain ⟨es, opening, hlaid, hpass, hopening, hpair, hbroken, hitems⟩ :=
    Cursor.exists_wellLaid_of_broken h
  have htext : text.toList = printed es ++ opening.pending := by
    rw [← hpass.pending_eq, Cursor.pending_start]
  have htake : text.toList.take (printed es).length = printed es := by
    rw [htext, List.take_left]
  refine ⟨(printed es).length, opening, hopening, hpass.eq_advanceBy, hbroken, ?_, ?_⟩
  · rw [htext, List.drop_left]
    exact Cursor.onPair_iff.mp hpair
  · have hpending : (Cursor.start (String.ofList (printed es))).pending = printed es := by
      rw [Cursor.pending_start, String.toList_ofList]
    have hread := Cursor.readItems_of_printed hlaid hpending
    have hsame : ((Cursor.start (String.ofList (printed es))).readItems none).items
        = ((Cursor.start text).readItems none).items := by
      rw [hread, hitems]
      exact Cursor.itemsFrom_start
        (Cursor.passes_of_pending (t := []) (by rw [hpending, List.append_nil])) hpass
    rw [htake]
    refine ⟨?_, ?_, ?_, fun sink => ?_⟩
    · rw [Registry.ending_scan, hread]
    · rw [Registry.state_scan, Registry.state_scan, hsame]
    · rw [Registry.calls_scan, Registry.calls_scan, hsame]
    · rw [Registry.diagnosticsOf_scan, Registry.diagnosticsOf_scan, hsame]

-- The namespace in front of the broken property is not added.
theorem scan_in_front_of_bare_property :
    let text := "a <#+ x #><#@ import namespace=\"y\" b #>"
    let scan := (Registry.builtIn {}).scan "a.tt" text
    let fault : SyntaxFault := ⟨.unexpected "=" "after property 'b'" '#', ⟨1, 38⟩⟩
    scan.ending = .broken fault ∧
      ∃ k opening, (Cursor.start text).brokenItem? = some opening ∧
        opening = (Cursor.start text).advanceBy k ∧
        opening.readItem = .broken fault scan.cursor ∧
        (∃ rest, text.toList.drop k = '<' :: '#' :: rest) ∧
        let before := (Registry.builtIn {}).scan "a.tt" (String.ofList (text.toList.take k))
        before.ending = .complete ∧ before.state = scan.state ∧ before.calls = scan.calls ∧
          ∀ sink, diagnosticsOf sink before.events = diagnosticsOf sink scan.events := by
  intro text scan fault
  have hbroken : scan.ending = .broken fault := by decide +kernel
  exact ⟨hbroken, scan_in_front_of_broken_item (Registry.builtIn {}) hbroken⟩

end Stencil
