import Stencil.Proofs.Template.ItemRuns
import Stencil.Proofs.Template.Moves

/-!
# Sources with a flaw

The flaw of a source stands behind its last character, and it comes to light as soon as that
character is under the cursor.  So a scan of the source is a scan of its characters alone, as long
as it gives up before it gets there.

## Main results

* `Cursor.ending_readItems_flaw` — how the reading of a flawed source ends.
* `Registry.ending_scanSource_flaw` — the same for a scan.
-/

namespace Stencil

namespace Cursor

theorem struck_eq_some_iff {flaw flaw' : DecodeFault} {c : Cursor} :
    c.struck (some flaw) = some flaw' ↔ c.ahead = [] ∧ flaw = flaw' := by
  simp [struck]

theorem struck_eq_none_iff {flaw : DecodeFault} {c : Cursor} :
    c.struck (some flaw) = none ↔ c.ahead ≠ [] := by
  simp [struck]

/-- A reading that gets to the last character meets the flaw; one that gives up before that does not
notice it. -/
theorem ending_readItems_flaw (flaw : DecodeFault) {c : Cursor} (hc : c.Started) :
    (c.readItems (some flaw)).ending =
      if (c.readItems none).cursor.ahead = [] then .unreadable flaw
      else (c.readItems none).ending := by
  fun_induction readItems (some flaw) c with
  | case1 c hcurrent cause d h flaw' hstruck =>
    obtain ⟨hd, rfl⟩ := struck_eq_some_iff.mp hstruck
    rw [readItems_of_broken hcurrent h, if_pos hd]
  | case2 c hcurrent cause d h hstruck =>
    rw [readItems_of_broken hcurrent h, if_neg (struck_eq_none_iff.mp hstruck)]
  | case3 c hcurrent item d h flaw' hstruck =>
    -- the item ends with the last character, so the others would be read behind it
    obtain ⟨hd, rfl⟩ := struck_eq_some_iff.mp hstruck
    have hend := ((reaches_skipBlanks d).trans (reaches_readItems none _)).ahead_eq_nil hd
    rw [readItems_of_read hcurrent h, if_pos hend]
  | case4 c hcurrent item d h hstruck others ih =>
    have hstarted := ((reaches_of_read h).trans (reaches_skipBlanks d)).started hc
    rw [readItems_of_read hcurrent h]
    exact ih hstarted
  | case5 c hcurrent flaw' hstruck =>
    obtain ⟨hd, rfl⟩ := struck_eq_some_iff.mp hstruck
    rw [readItems_of_end (by simpa using hcurrent), if_pos hd]
  | case6 c hcurrent hstruck =>
    exact absurd (hc (by simpa using hcurrent)) (struck_eq_none_iff.mp hstruck)

/-- A reading that does not get to the last character gives up at a fault in the form of the
template. -/
theorem exists_broken_of_ahead {c : Cursor} (hc : c.Started)
    (h : (c.readItems none).cursor.ahead ≠ []) :
    ∃ fault, (c.readItems none).ending = .broken fault := by
  obtain ⟨items, e, hreads, hend⟩ := exists_reads c
  rcases hend with hend | ⟨fault, d, hcurrent, hbroken⟩
  · have hcursor : (c.readItems none).cursor = e := by
      rw [hreads.readItems_eq, readItems_of_end hend]
    have hreaches := reaches_readItems none c
    rw [hcursor] at h hreaches
    exact absurd (hreaches.started hc hend) h
  · exact ⟨fault, by rw [hreads.readItems_eq, readItems_of_broken hcurrent hbroken]⟩

end Cursor

namespace Registry

/-- A scan that gets to the last character in front of a flaw meets the flaw; one that gives up
before that is a scan of the characters alone. -/
theorem ending_scanSource_flaw (r : Registry) (templatePath : String) (text : List Char)
    (flaw : DecodeFault) :
    let scan := r.scan templatePath (String.ofList text)
    (r.scanSource templatePath { text, fault := some flaw }).ending =
      if scan.cursor.ahead = [] then .unreadable flaw else scan.ending := by
  intro scan
  have hstart : Cursor.start (String.ofList text) = (Cursor.ofText text).advance := by
    rw [Cursor.start, String.toList_ofList]
  have hcursor : scan.cursor = ((Cursor.ofText text).advance.readItems none).cursor := by
    rw [← hstart]
    rfl
  have hending : scan.ending = ((Cursor.ofText text).advance.readItems none).ending := by
    rw [← hstart]
    rfl
  rw [hcursor, hending]
  exact Cursor.ending_readItems_flaw flaw (Cursor.started_advance _)

/-- A flaw that a scan gets to is that of its source. -/
theorem fault_of_unreadable {r : Registry} {templatePath : String} {source : Source}
    {flaw : DecodeFault} (h : (r.scanSource templatePath source).ending = .unreadable flaw) :
    source.fault = some flaw := by
  obtain ⟨text, fault⟩ := source
  have hplain := r.ending_scan_ne_unreadable templatePath (String.ofList text) flaw
  cases fault with
  | none =>
    rw [scan, String.toList_ofList] at hplain
    exact absurd h hplain
  | some flaw' =>
    rw [ending_scanSource_flaw] at h
    split at h
    · cases h
      rfl
    · exact absurd h hplain

/-- A scan that does not get to the last character gives up at a fault in the form of the
template. -/
theorem exists_broken_of_ahead {r : Registry} {templatePath text : String}
    (h : (r.scan templatePath text).cursor.ahead ≠ []) :
    ∃ fault, (r.scan templatePath text).ending = .broken fault :=
  Cursor.exists_broken_of_ahead (Cursor.started_advance _) h

end Registry

end Stencil
