import Stencil.Proofs.Template.ItemRuns
import Stencil.Transform

/-!
# What the path of a template and the settings reach

Two scans of one text, under settings of their own and with template paths of their own, go in lock
step: they read the same items, break at the same place for the same reason, and gather the same
code and the same namespaces.  The path and the settings reach the output path and nothing else, and
of the settings only the length of an extension does.

## Main definitions

* `ScanState.SameButOutput` — two states agree, and their output paths are made from one extension.

## Main results

* `Registry.applyItems_sameButOutput` — items keep two states in lock step.
* `Registry.applyItems_congr` — a registry reads its settings through the output path alone.
* `scan_of_other_settings` — **the scans of one text under different settings and paths.**
-/

namespace Stencil

/-- Two states, each with the path of its own template, agree in all but the output path.  Neither
of them has one, or both are made from the same extension, each from its path by its settings. -/
structure ScanState.SameButOutput (settings settings' : Settings) (path path' : String)
    (s s' : ScanState) : Prop where
  /-- The path of the first template. -/
  template : s.templatePath = path
  /-- The path of the second template. -/
  template' : s'.templatePath = path'
  /-- Text goes to the same region. -/
  mode : s'.mode = s.mode
  /-- The namespaces are the same. -/
  usings : s'.usings = s.usings
  /-- The entry routines are the same. -/
  script : s'.script = s.script
  /-- The members of the class are the same. -/
  classFeature : s'.classFeature = s.classFeature
  /-- The output paths come from one extension, if there are any. -/
  output : ∃ extension : Option String,
    s.outputPath = extension.map (settings.outputPath path) ∧
      s'.outputPath = extension.map (settings'.outputPath path')

namespace ScanState.SameButOutput

variable {settings settings' : Settings} {path path' : String} {s s' : ScanState}

/-- Scans begin without an output path. -/
theorem start :
    ScanState.SameButOutput settings settings' path path' { templatePath := path }
      { templatePath := path' } :=
  ⟨rfl, rfl, rfl, rfl, rfl, rfl, none, rfl, rfl⟩

theorem put (h : s.SameButOutput settings settings' path path' s') (fragment : Fragment)
    (m : Mode) :
    (s.put fragment m).SameButOutput settings settings' path path' (s'.put fragment m) := by
  cases m with
  | script => exact { h with script := congrArg (· ++ [fragment]) h.script }
  | classFeature => exact { h with classFeature := congrArg (· ++ [fragment]) h.classFeature }

theorem assemble (h : s.SameButOutput settings settings' path path' s') (body : String)
    (kind : CodeKind) :
    (s.assemble body kind).SameButOutput settings settings' path path' (s'.assemble body kind) := by
  cases kind with
  | text =>
    rw [ScanState.assemble, ScanState.assemble, putText, putText, h.mode]
    exact h.put _ _
  | expression =>
    rw [ScanState.assemble, ScanState.assemble, putExpression, putExpression, h.mode]
    exact h.put _ _
  | classFeature => exact { h.put (.raw body) .classFeature with mode := rfl }
  | control => exact { h.put (.raw body) .script with mode := rfl }

end ScanState.SameButOutput

namespace Registry

variable {r r' : Registry}

theorem find?_congr (h : r'.specifications = r.specifications) (name : String) :
    r'.find? name = r.find? name := by
  rw [find?, find?, h]

/-! ### Two runs in lock step -/

section LockStep

variable {path path' : String} {s s' : ScanState}

/-- Only an extension makes use of a path or of settings.  The first one settles both output paths,
and from then on both are kept. -/
theorem handle_sameButOutput (h : s.SameButOutput r.settings r'.settings path path' s')
    (directive property value : String) (handler : Handler) :
    (r.handle s directive property value handler).state.SameButOutput r.settings r'.settings path
      path' (r'.handle s' directive property value handler).state := by
  cases handler with
  | announce label => exact h
  | addNamespace => exact { h with usings := congrArg (· ++ [value]) h.usings }
  | setExtension =>
    obtain ⟨extension, houtput, houtput'⟩ := h.output
    cases extension with
    | none => simpa [handle, houtput, houtput', ScanState.setOutputPath] using
        { h with output := ⟨some value, by rw [h.template]; rfl, by rw [h.template']; rfl⟩ }
    | some settled => simpa [handle, houtput, houtput'] using h
  | hand => exact h

theorem applyProperties_sameButOutput (specification : Specification) (directive : String)
    (ps : List (String × String)) (h : s.SameButOutput r.settings r'.settings path path' s') :
    (r.applyProperties specification directive s ps).state.SameButOutput r.settings r'.settings
      path path' (r'.applyProperties specification directive s' ps).state := by
  induction ps generalizing s s' with
  | nil => exact h
  | cons p ps ih =>
    refine ih ?_
    unfold applyProperty
    split
    · exact h
    · exact handle_sameButOutput h directive p.1 p.2 _

theorem applyItem_sameButOutput (hspecs : r'.specifications = r.specifications)
    (h : s.SameButOutput r.settings r'.settings path path' s') (item : Item) :
    (r.applyItem s item).state.SameButOutput r.settings r'.settings path path'
      (r'.applyItem s' item).state := by
  cases item with
  | block b => exact h.assemble b.body b.kind
  | directive d =>
    simp only [applyItem, applyDirective, find?_congr hspecs]
    split
    · exact h
    · exact applyProperties_sameButOutput _ d.name d.properties h

/-- **Items keep two states in lock step.** -/
theorem applyItems_sameButOutput (hspecs : r'.specifications = r.specifications)
    (h : s.SameButOutput r.settings r'.settings path path' s') (items : List Item) :
    (r.applyItems s items).state.SameButOutput r.settings r'.settings path path'
      (r'.applyItems s' items).state := by
  induction items generalizing s s' with
  | nil => exact h
  | cons item items ih => exact ih (applyItem_sameButOutput hspecs h item)

end LockStep

/-! ### Settings that make the same output paths -/

section SameOutput

variable (houtput : r'.settings.outputPath = r.settings.outputPath)

include houtput

theorem handle_congr (s : ScanState) (directive property value : String) (handler : Handler) :
    r'.handle s directive property value handler = r.handle s directive property value handler := by
  cases handler with
  | setExtension => simp only [handle, houtput]
  | _ => rfl

theorem applyProperties_congr (specification : Specification) (directive : String) (s : ScanState)
    (ps : List (String × String)) :
    r'.applyProperties specification directive s ps =
      r.applyProperties specification directive s ps := by
  induction ps generalizing s with
  | nil => rfl
  | cons p ps ih =>
    have hstep : r'.applyProperty specification directive s p =
        r.applyProperty specification directive s p := by
      unfold applyProperty
      split
      · rfl
      · exact handle_congr houtput s directive p.1 p.2 _
    simp only [applyProperties, hstep, ih]

theorem applyItem_congr (hspecs : r'.specifications = r.specifications) (s : ScanState)
    (item : Item) : r'.applyItem s item = r.applyItem s item := by
  cases item with
  | block b => rfl
  | directive d =>
    simp only [applyItem, applyDirective, find?_congr hspecs, applyProperties_congr houtput]

/-- **A registry reads its settings through the output path alone.** -/
theorem applyItems_congr (hspecs : r'.specifications = r.specifications) (s : ScanState)
    (items : List Item) : r'.applyItems s items = r.applyItems s items := by
  induction items generalizing s with
  | nil => rfl
  | cons item items ih => simp only [applyItems, applyItem_congr houtput hspecs, ih]

theorem scan_congr (hspecs : r'.specifications = r.specifications) (templatePath text : String) :
    r'.scan templatePath text = r.scan templatePath text := by
  simp only [scan, scanSource, scanFrom, applyItems_congr houtput hspecs]

end SameOutput

end Registry

/-! ### Scans -/

/-- **The scans of one text under different settings and paths.**  Both are complete, or both break
with one fault, which only the path of the template tells apart; what they have gathered by then is
the same, the output path excepted, which is made from one extension in both.  What the settings say
of the generated program and of encodings changes nothing at all. -/
theorem scan_of_other_settings (settings settings' : Settings) (path path' text : String) :
    let scan := (Registry.builtIn settings).scan path text
    let scan' := (Registry.builtIn settings').scan path' text
    scan.state.SameButOutput settings settings' path path' scan'.state ∧
      (scan.result path = .ok scan.state ∧ scan'.result path' = .ok scan'.state ∨
        ∃ fault : SyntaxFault,
          scan.result path = .error (.expected (.malformed (fault.within path))) ∧
            scan'.result path' = .error (.expected (.malformed (fault.within path')))) ∧
      ∀ className writerName entryMethod indent sourceEncoding programEncoding,
        (Registry.builtIn
          { settings with
            className, writerName, entryMethod, indent, sourceEncoding, programEncoding }).scan
              path text = scan := by
  intro scan scan'
  have hspecs : (Registry.builtIn settings').specifications =
      (Registry.builtIn settings).specifications := rfl
  have hending : scan'.ending = scan.ending := by
    rw [Registry.ending_scan, Registry.ending_scan]
  refine ⟨?_, ?_, fun _ _ _ _ _ _ => Registry.scan_congr (by rfl) (by rfl) path text⟩
  · rw [Registry.state_scan, Registry.state_scan]
    exact Registry.applyItems_sameButOutput hspecs ScanState.SameButOutput.start _
  · cases hscan : scan.ending with
    | complete =>
      rw [hscan] at hending
      exact .inl ⟨by rw [Scan.result, hscan], by rw [Scan.result, hending]⟩
    | broken fault =>
      rw [hscan] at hending
      exact .inr ⟨fault, by rw [Scan.result, hscan], by rw [Scan.result, hending]⟩
    | unreadable flaw =>
      exact absurd hscan (Registry.ending_scan_ne_unreadable _ path text flaw)

end Stencil
