import Stencil.Proofs.Template.Effects

/-!
# Scanning and printing

Scanning undoes printing: whatever well-laid elements are written as is scanned to its end, and the
state of the scan is what the elements do from the left.  Conversely nothing else is scanned to its
end: the text of every complete scan is what some well-laid elements are written as, and these
elements do what the scan did.

## Main results

* `Cursor.exists_wellLaid` — what a reading goes over, complete or not.
* `scan_printed` — the scan of what well-laid elements are written as.
* `exists_wellLaid_of_complete` — every complete scan is the scan of well-laid elements.
-/

namespace Stencil

open Grammar (Element WellLaid printed effects itemsFrom)

/-! ### Complete readings -/

namespace Cursor

theorem readItems_of_printed {c : Cursor} {es : List Element} (hlaid : WellLaid es)
    (h : c.pending = printed es) :
    c.readItems none =
      ⟨itemsFrom c.position es, .complete, c.advanceBy (printed es).length⟩ := by
  have hpass := passes_of_pending (t := []) (by rw [h, List.append_nil])
  have hend : (c.advanceBy (printed es).length).current = none := by
    rw [← pending_eq_nil_iff]
    have := hpass.pending_eq
    rw [h] at this
    simpa using this
  have hreads := (reads_iff (.inl hend)).mpr ⟨es, hlaid, rfl, hpass⟩
  rw [hreads.readItems_eq, readItems_of_end hend, List.append_nil]

/-- A reading goes over well-laid elements, to the end of the template or to a broken block. -/
theorem exists_wellLaid (c : Cursor) :
    ∃ es e, WellLaid es ∧ c.Passes (printed es) e ∧
      (c.readItems none).items = itemsFrom c.position es ∧
      ((e.current = none ∧ (c.readItems none).ending = .complete) ∨
        ∃ fault d, e.readItem = .broken fault d ∧ (c.readItems none).ending = .broken fault) := by
  obtain ⟨items, e, hreads, hend | ⟨fault, d, he, hbroken⟩⟩ := exists_reads c
  · obtain ⟨es, hlaid, rfl, hpass⟩ := (reads_iff (.inl hend)).mp hreads
    refine ⟨es, e, hlaid, hpass, ?_, .inl ⟨hend, ?_⟩⟩
    · rw [hreads.readItems_eq, readItems_of_end hend, List.append_nil]
    · rw [hreads.readItems_eq, readItems_of_end hend]
  · obtain ⟨es, hlaid, rfl, hpass⟩ := (reads_iff (.inr (onPair_of_broken hbroken))).mp hreads
    refine ⟨es, e, hlaid, hpass, ?_, .inr ⟨fault, d, hbroken, ?_⟩⟩
    · rw [hreads.readItems_eq, readItems_of_broken he hbroken, List.append_nil]
    · rw [hreads.readItems_eq, readItems_of_broken he hbroken]

theorem exists_wellLaid_of_readItems {c : Cursor} (h : (c.readItems none).ending = .complete) :
    ∃ es, WellLaid es ∧ printed es = c.pending ∧
      (c.readItems none).items = itemsFrom c.position es := by
  obtain ⟨es, e, hlaid, hpass, hitems, ⟨hend, -⟩ | ⟨fault, d, -, hbroken⟩⟩ := exists_wellLaid c
  · refine ⟨es, hlaid, ?_, hitems⟩
    rw [hpass.pending_eq, pending_eq_nil_iff.mpr hend, List.append_nil]
  · rw [hbroken] at h
    cases h

end Cursor

/-! ### Scans -/

/-- **Scanning undoes printing.**  What well-laid elements are written as is scanned to its end, and
the state of the scan is what the elements do from the left. -/
theorem scan_printed (settings : Settings) (templatePath : String) {es : List Element}
    (h : WellLaid es) :
    let scan := (Registry.builtIn settings).scan templatePath (String.ofList (printed es))
    scan.ending = .complete ∧ scan.state = effects settings { templatePath } es := by
  have hread := Cursor.readItems_of_printed (c := Cursor.start (String.ofList (printed es))) h
    (by rw [Cursor.pending_start, String.toList_ofList])
  refine ⟨?_, ?_⟩
  · rw [Registry.ending_scan, hread]
  · rw [Registry.state_scan, hread, Registry.state_applyItems_builtIn]

-- Markers that touch, a value that holds one, properties with nothing between them.
theorem scan_printed_markers :
    ∃ es, WellLaid es ∧
      String.ofList (printed es) = " \"<<#@ output extension=\"#>\"x=\"\" #> <#>#><#+##>b" ∧
      let scan := (Registry.builtIn {}).scan "a.tt" (String.ofList (printed es))
      scan.ending = .complete ∧ scan.state =
        { templatePath := "a.tt"
          mode := .classFeature
          outputPath := some "a.#>"
          script := [.literal " \"\"<", .raw ">"]
          classFeature := [.raw "#", .literal "b"] } := by
  have hlaid : WellLaid
      [.text ⟨[' ', '"', '<'], by decide, by decide⟩,
        .block (.directive
          { beforeName := ⟨[' '], List.all_eq_true.mp rfl⟩
            name := ⟨"output".toList, List.all_eq_true.mp (by decide)⟩
            behindName := ⟨[' '], List.all_eq_true.mp rfl⟩
            properties :=
              [{ key := ⟨"extension".toList, List.all_eq_true.mp (by decide)⟩
                 named := by decide
                 beforeEquals := ⟨[], by simp⟩
                 behindEquals := ⟨[], by simp⟩
                 value := ⟨['#', '>'], by simp⟩
                 behind := ⟨[], by simp⟩ },
               { key := ⟨['x'], List.all_eq_true.mp (by decide)⟩
                 named := by decide
                 beforeEquals := ⟨[], by simp⟩
                 behindEquals := ⟨[], by simp⟩
                 value := ⟨[], by simp⟩
                 behind := ⟨[' '], List.all_eq_true.mp rfl⟩ }]
            apart := fun _ => ⟨by decide, by decide⟩ })
          ⟨[' '], List.all_eq_true.mp rfl⟩,
        .block (.control ⟨['>'], by decide⟩ (by simp)) ⟨[], by simp⟩,
        .block (.classFeature ⟨['#'], by decide⟩) ⟨[], by simp⟩,
        .text ⟨['b'], by decide, by decide⟩] := by decide
  have h := scan_printed {} "a.tt" hlaid
  exact ⟨_, hlaid, by decide +kernel, h.1, h.2.trans (by decide +kernel)⟩

/-- **Nothing else is scanned to its end.**  The text of a complete scan is what some well-laid
elements are written as, character for character, and these elements do what the scan did. -/
theorem exists_wellLaid_of_complete (settings : Settings) (templatePath text : String)
    (h : ((Registry.builtIn settings).scan templatePath text).ending = .complete) :
    ∃ es, WellLaid es ∧ printed es = text.toList ∧
      ((Registry.builtIn settings).scan templatePath text).state
        = effects settings { templatePath } es := by
  rw [Registry.ending_scan] at h
  obtain ⟨es, hlaid, hprinted, hitems⟩ := Cursor.exists_wellLaid_of_readItems h
  refine ⟨es, hlaid, by rw [hprinted, Cursor.pending_start], ?_⟩
  rw [Registry.state_scan, hitems, Registry.state_applyItems_builtIn]

theorem exists_wellLaid_of_markers :
    let text := "a<<#@import namespace = \"#>\" #>\n<#+ b ##> \"c\" <#= d #>"
    let scan := (Registry.builtIn {}).scan "a.tt" text
    scan.ending = .complete ∧
      ∃ es, WellLaid es ∧ printed es = text.toList ∧
        scan.state = effects {} { templatePath := "a.tt" } es := by
  intro text scan
  have hcomplete : scan.ending = .complete := by decide +kernel
  exact ⟨hcomplete, exists_wellLaid_of_complete {} "a.tt" text hcomplete⟩

end Stencil
