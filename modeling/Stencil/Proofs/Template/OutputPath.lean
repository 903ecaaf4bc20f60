import Stencil.Template.Scan

/-!
# Where the output path comes from

Whatever a registry holds, a scan never touches the path of its template, and the output path it
settles is that path with an extension in the place of its own.

## Main definitions

* `ScanState.Derived` — the output path of a state is made from a given path of the template.

## Main results

* `Registry.derived_scanSource` — the state that a scan gathers is such a state.
-/

namespace Stencil

/-- The template has this path, and an output path is made from it. -/
def ScanState.Derived (settings : Settings) (templatePath : String) (s : ScanState) : Prop :=
  s.templatePath = templatePath ∧
    ∀ path, s.outputPath = some path →
      ∃ extension, path = settings.outputPath templatePath extension

theorem ScanState.Derived.put {settings : Settings} {templatePath : String} {s : ScanState}
    (h : s.Derived settings templatePath) (fragment : Fragment) (m : Mode) :
    (s.put fragment m).Derived settings templatePath := by
  cases m <;> exact h

namespace Registry

variable {r : Registry} {templatePath : String} {s : ScanState}

theorem derived_handle (h : s.Derived r.settings templatePath) (directive property value : String)
    (handler : Handler) :
    (r.handle s directive property value handler).state.Derived r.settings templatePath := by
  cases handler with
  | announce label => exact h
  | addNamespace => exact h
  | setExtension =>
    simp only [handle]
    split
    · exact h
    · next hnone =>
      refine ⟨?_, fun path hpath => ⟨value, ?_⟩⟩
      · simp only [ScanState.setOutputPath, hnone]
        exact h.1
      · simp only [ScanState.setOutputPath, hnone, Option.some.injEq] at hpath
        rw [← hpath, h.1]
  | hand => exact h

theorem derived_applyProperties (h : s.Derived r.settings templatePath)
    (specification : Specification) (directive : String) (ps : List (String × String)) :
    (r.applyProperties specification directive s ps).state.Derived r.settings templatePath := by
  induction ps generalizing s with
  | nil => exact h
  | cons p ps ih =>
    refine ih ?_
    unfold applyProperty
    split
    · exact h
    · exact derived_handle h directive p.1 p.2 _

theorem derived_applyItem (h : s.Derived r.settings templatePath) (item : Item) :
    (r.applyItem s item).state.Derived r.settings templatePath := by
  cases item with
  | block b =>
    rw [applyItem]
    cases b.kind with
    | text => exact h.put _ _
    | expression => exact h.put _ _
    | classFeature => exact h
    | control => exact h
  | directive d =>
    simp only [applyItem, applyDirective]
    split
    · exact h
    · exact derived_applyProperties h _ _ _

theorem derived_applyItems (h : s.Derived r.settings templatePath) (items : List Item) :
    (r.applyItems s items).state.Derived r.settings templatePath := by
  induction items generalizing s with
  | nil => exact h
  | cons item items ih => exact ih (derived_applyItem h item)

/-- **The output path is made from the path of the template**, as that was given to the scan. -/
theorem derived_scanSource (r : Registry) (templatePath : String) (source : Source) :
    (r.scanSource templatePath source).state.Derived r.settings templatePath :=
  derived_applyItems ⟨rfl, fun _ h => by cases h⟩ _

end Registry

end Stencil
