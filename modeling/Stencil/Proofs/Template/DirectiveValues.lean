import Stencil.Proofs.Template.OutputPath
import Stencil.Proofs.Template.RoundTrip
import Stencil.Transform

/-!
# What directives decide

Directives decide two things and nothing else: which namespaces the program uses, and where it
writes to.  Both can be read off the template without running it.  The namespaces are the values of
one property of one directive in the order of the template, and the output path is made from the
first value of another one.  Code never touches either of them, and directives never touch code.

## Main definitions

* `Grammar.values` — the values of a property in the directives of a name.
* `ScanState.SameCode` — two states agree in their mode and their regions.

## Main results

* `Registry.sameCode_applyDirective` — directives never touch code.
* `Grammar.usings_effects`, `Grammar.outputPath_effects` — what elements gather from directives.
* `usings_and_output_of_scan` — what a scan gathers from directives, and when it gathers no output
  path.
-/

namespace Stencil

open Grammar (Element WellLaid printed effects itemsFrom)

/-! ### Values of properties -/

namespace Grammar

/-- The values that a property has among some properties, in order, repeated ones repeated. -/
def propertyValues (property : String) (ps : List Property) : List String :=
  (ps.filter fun p => p.key.text = property).map fun p => p.value.text

/-- The values that a property has in an element, which is to be a directive with a given name. -/
def Element.values (directive property : String) : Element → List String
  | block (.directive d) _ =>
      if d.name.text = directive then propertyValues property d.properties else []
  | _ => []

/-- The values that a property has in the directives with a given name, in the order of the
template. -/
def values (directive property : String) (es : List Element) : List String :=
  es.flatMap (Element.values directive property)

@[simp] theorem propertyValues_nil (property : String) : propertyValues property [] = [] := rfl

theorem propertyValues_cons (property : String) (p : Property) (ps : List Property) :
    propertyValues property (p :: ps) =
      (if p.key.text = property then [p.value.text] else []) ++ propertyValues property ps := by
  rw [propertyValues, List.filter_cons]
  by_cases h : p.key.text = property <;> simp [h, propertyValues]

@[simp] theorem values_nil (directive property : String) : values directive property [] = [] := rfl

@[simp] theorem values_cons (directive property : String) (el : Element) (es : List Element) :
    values directive property (el :: es) =
      el.values directive property ++ values directive property es := rfl

/-! ### What is gathered from directives -/

section Gathered

variable (settings : Settings) (directive : String) (s : ScanState)

theorem Property.usings_effect (p : Property) :
    (p.effect settings directive s).usings =
      s.usings ++ if directive = "import" then propertyValues "namespace" [p] else [] := by
  rw [Property.effect, propertyValues_cons, propertyValues_nil, List.append_nil]
  by_cases himport : directive = "import"
  · by_cases hkey : p.key.text = "namespace" <;> simp [himport, hkey]
  · simp only [himport, false_and, if_false, List.append_nil]
    split
    · split <;> rfl
    · rfl

/-- The output path is settled by the first value and kept from then on. -/
theorem Property.outputPath_effect (p : Property) :
    (p.effect settings directive s).outputPath =
      s.outputPath.or
        ((if directive = "output" then propertyValues "extension" [p] else []).head?.map
          (settings.outputPath s.templatePath)) := by
  rw [Property.effect, propertyValues_cons, propertyValues_nil, List.append_nil]
  by_cases houtput : directive = "output"
  · subst houtput
    by_cases hkey : p.key.text = "extension"
    · cases hpath : s.outputPath <;> simp [hkey, hpath]
    · simp [hkey]
  · simp only [houtput, false_and, if_false]
    split <;> simp

theorem Property.templatePath_effect (p : Property) :
    (p.effect settings directive s).templatePath = s.templatePath := by
  unfold Property.effect
  split
  · rfl
  · split
    · split <;> rfl
    · rfl

theorem templatePath_properties (ps : List Property) :
    (ps.foldl (Property.effect settings directive) s).templatePath = s.templatePath := by
  induction ps generalizing s with
  | nil => rfl
  | cons p ps ih => rw [List.foldl_cons, ih, p.templatePath_effect]

theorem usings_properties (ps : List Property) :
    (ps.foldl (Property.effect settings directive) s).usings =
      s.usings ++ if directive = "import" then propertyValues "namespace" ps else [] := by
  induction ps generalizing s with
  | nil => simp
  | cons p ps ih =>
    rw [List.foldl_cons, ih, p.usings_effect, List.append_assoc, propertyValues_cons _ p ps]
    by_cases h : directive = "import" <;> simp [h, propertyValues_cons]

theorem outputPath_properties (ps : List Property) :
    (ps.foldl (Property.effect settings directive) s).outputPath =
      s.outputPath.or
        ((if directive = "output" then propertyValues "extension" ps else []).head?.map
          (settings.outputPath s.templatePath)) := by
  induction ps generalizing s with
  | nil => simp
  | cons p ps ih =>
    rw [List.foldl_cons, ih, p.outputPath_effect, p.templatePath_effect, Option.or_assoc,
      ← Option.map_or, propertyValues_cons _ p ps]
    by_cases h : directive = "output" <;> simp [h, propertyValues_cons, List.head?_append]

end Gathered

section Effects

variable (settings : Settings) (s : ScanState)

theorem Element.templatePath_effect (el : Element) :
    (el.effect settings s).templatePath = s.templatePath := by
  have put_same : ∀ (fragment : Fragment) (m : Mode),
      (s.put fragment m).templatePath = s.templatePath := by
    intro fragment m
    cases m <;> rfl
  cases el with
  | text run => exact put_same _ _
  | block b gap =>
    cases b with
    | control body plain => rfl
    | expression body => exact put_same _ _
    | classFeature body => rfl
    | directive d => exact templatePath_properties settings _ s _

/-- An element adds the namespaces it gives, and only directives give any. -/
theorem Element.usings_effect (el : Element) :
    (el.effect settings s).usings = s.usings ++ el.values "import" "namespace" := by
  have put_same : ∀ (fragment : Fragment) (m : Mode),
      (s.put fragment m).usings = s.usings ++ [] := by
    intro fragment m
    cases m <;> simp [ScanState.put]
  cases el with
  | text run => exact put_same _ _
  | block b gap =>
    cases b with
    | control body plain => exact (List.append_nil _).symm
    | expression body => exact put_same _ _
    | classFeature body => exact (List.append_nil _).symm
    | directive d => exact usings_properties settings _ s _

/-- An element settles the output path if it is the first to give an extension. -/
theorem Element.outputPath_effect (el : Element) :
    (el.effect settings s).outputPath =
      s.outputPath.or ((el.values "output" "extension").head?.map
        (settings.outputPath s.templatePath)) := by
  have put_same : ∀ (fragment : Fragment) (m : Mode),
      (s.put fragment m).outputPath = s.outputPath.or none := by
    intro fragment m
    cases m <;> simp [ScanState.put]
  cases el with
  | text run => exact put_same _ _
  | block b gap =>
    cases b with
    | control body plain => exact (Option.or_none).symm
    | expression body => exact put_same _ _
    | classFeature body => exact (Option.or_none).symm
    | directive d => exact outputPath_properties settings _ s _

/-- **The namespaces are the values of one property,** in the order of the template. -/
theorem usings_effects (es : List Element) :
    (effects settings s es).usings = s.usings ++ values "import" "namespace" es := by
  induction es generalizing s with
  | nil => exact (List.append_nil _).symm
  | cons el es ih => rw [effects_cons, ih, el.usings_effect, values_cons, List.append_assoc]

/-- **The output path is made from the first value of one property,** unless it is settled. -/
theorem outputPath_effects (es : List Element) :
    (effects settings s es).outputPath =
      s.outputPath.or ((values "output" "extension" es).head?.map
        (settings.outputPath s.templatePath)) := by
  induction es generalizing s with
  | nil => exact (Option.or_none).symm
  | cons el es ih =>
    rw [effects_cons, ih, el.outputPath_effect, el.templatePath_effect, Option.or_assoc,
      ← Option.map_or, values_cons, List.head?_append]

end Effects

end Grammar

/-! ### Directives and code -/

/-- Two states agree in all that code decides: the mode and the two regions. -/
def ScanState.SameCode (s t : ScanState) : Prop :=
  s.mode = t.mode ∧ s.script = t.script ∧ s.classFeature = t.classFeature

theorem ScanState.SameCode.trans {s t u : ScanState} (h : s.SameCode t) (h' : t.SameCode u) :
    s.SameCode u :=
  ⟨h.1.trans h'.1, h.2.1.trans h'.2.1, h.2.2.trans h'.2.2⟩

namespace Registry

variable (r : Registry) (s : ScanState)

theorem sameCode_handle (directive property value : String) (handler : Handler) :
    (r.handle s directive property value handler).state.SameCode s := by
  cases handler with
  | announce label => exact ⟨rfl, rfl, rfl⟩
  | addNamespace => exact ⟨rfl, rfl, rfl⟩
  | setExtension =>
    cases hpath : s.outputPath <;> simp [handle, hpath, ScanState.setOutputPath, ScanState.SameCode]
  | hand => exact ⟨rfl, rfl, rfl⟩

theorem sameCode_applyProperty (specification : Specification) (directive : String)
    (p : String × String) :
    (r.applyProperty specification directive s p).state.SameCode s := by
  unfold applyProperty
  split
  · exact ⟨rfl, rfl, rfl⟩
  · exact r.sameCode_handle s directive p.1 p.2 _

theorem sameCode_applyProperties (specification : Specification) (directive : String)
    (ps : List (String × String)) :
    (r.applyProperties specification directive s ps).state.SameCode s := by
  induction ps generalizing s with
  | nil => exact ⟨rfl, rfl, rfl⟩
  | cons p ps ih => exact (ih _).trans (r.sameCode_applyProperty s specification directive p)

/-- **Directives never touch code,** whatever is registered. -/
theorem sameCode_applyDirective (d : Directive) : (r.applyDirective s d).state.SameCode s := by
  unfold applyDirective
  split
  · exact ⟨rfl, rfl, rfl⟩
  · exact r.sameCode_applyProperties s _ _ _

end Registry

/-! ### Scans -/

/-- Where a program writes to is the path of its template up to as many characters from the end as
an extension takes up, and the new extension behind it. -/
theorem Settings.exists_stem (settings : Settings) (templatePath value : String) :
    ∃ stem last, templatePath.toList = stem ++ last ∧
      last.length = min settings.sourceExtensionLength templatePath.length ∧
      settings.outputPath templatePath value = String.ofList
        (stem ++ if value.toList.head? = some '.' then value.toList else '.' :: value.toList) := by
  have hsplit := List.take_append_drop
    (templatePath.toList.length - settings.sourceExtensionLength) templatePath.toList
  refine ⟨_, _, hsplit.symm, ?_, rfl⟩
  rw [List.length_drop, String.length_toList]
  omega

/-- The pipeline in memory fails for want of an output path exactly where a complete scan settles
none. -/
theorem Registry.program_eq_missingOutput_iff (r : Registry) (writing : Settings)
    (templatePath text path : String) :
    (((r.scan templatePath text).result templatePath).bind fun s =>
        (s.program writing).mapError Failure.expected) = .error (.expected (.missingOutput path)) ↔
      (r.scan templatePath text).ending = .complete ∧
        (r.scan templatePath text).state.outputPath = none ∧ path = templatePath := by
  have htemplate : (r.scan templatePath text).state.templatePath = templatePath :=
    (derived_scanSource r templatePath { text := text.toList }).1
  cases hending : (r.scan templatePath text).ending with
  | complete =>
    cases hpath : (r.scan templatePath text).state.outputPath <;>
      simp [Scan.result, hending, Except.bind, ScanState.program, hpath, Except.mapError,
        htemplate, eq_comm]
  | broken fault => simp [Scan.result, hending, Except.bind]
  | unreadable flaw => exact absurd hending (r.ending_scan_ne_unreadable templatePath text flaw)

/-- **What a scan gathers from directives.**  The namespaces of a complete scan are the values of
`namespace` in the directives `import`, and its output path is made from the first value of
`extension` in the directives `output`; there is none if there is no such value, and just then the
pipeline fails for want of it.  A directive leaves the mode and the regions as they are. -/
theorem usings_and_output_of_scan (settings writing : Settings) (templatePath text : String) :
    let r := Registry.builtIn settings
    let scan := r.scan templatePath text
    (scan.ending = .complete →
      (∃ es, WellLaid es ∧ printed es = text.toList) ∧
        ∀ es, WellLaid es → printed es = text.toList →
          scan.state.usings = Grammar.values "import" "namespace" es ∧
          (scan.state.outputPath = none ↔ Grammar.values "output" "extension" es = []) ∧
          ∀ value others, Grammar.values "output" "extension" es = value :: others →
            ∃ stem last, templatePath.toList = stem ++ last ∧
              last.length = min settings.sourceExtensionLength templatePath.length ∧
              scan.state.outputPath = some (String.ofList (stem ++
                if value.toList.head? = some '.' then value.toList else '.' :: value.toList))) ∧
      (∀ s d, (r.applyDirective s d).state.mode = s.mode ∧
        (r.applyDirective s d).state.script = s.script ∧
        (r.applyDirective s d).state.classFeature = s.classFeature) ∧
      ∀ path,
        ((scan.result templatePath).bind fun s => (s.program writing).mapError Failure.expected) =
            .error (.expected (.missingOutput path)) ↔
          path = templatePath ∧ scan.ending = .complete ∧
            ∀ es, WellLaid es → printed es = text.toList →
              Grammar.values "output" "extension" es = [] := by
  intro r scan
  have hstate : ∀ es, WellLaid es → printed es = text.toList →
      scan.state = effects settings { templatePath } es := by
    intro es hlaid hprinted
    have htext : text = String.ofList (printed es) := by
      rw [hprinted, String.ofList_toList]
    have hscan := (scan_printed settings templatePath hlaid).2
    rw [← htext] at hscan
    exact hscan
  have hpath : ∀ es, WellLaid es → printed es = text.toList →
      scan.state.outputPath = (Grammar.values "output" "extension" es).head?.map
        (settings.outputPath templatePath) := by
    intro es hlaid hprinted
    rw [hstate es hlaid hprinted, Grammar.outputPath_effects, Option.none_or]
  have hnone : ∀ es, WellLaid es → printed es = text.toList →
      (scan.state.outputPath = none ↔ Grammar.values "output" "extension" es = []) := by
    intro es hlaid hprinted
    rw [hpath es hlaid hprinted, Option.map_eq_none_iff, List.head?_eq_none_iff]
  have hexists : scan.ending = .complete → ∃ es, WellLaid es ∧ printed es = text.toList := by
    intro hcomplete
    obtain ⟨es, hlaid, hprinted, -⟩ := exists_wellLaid_of_complete settings templatePath text
      hcomplete
    exact ⟨es, hlaid, hprinted⟩
  refine ⟨fun hcomplete => ⟨hexists hcomplete, fun es hlaid hprinted => ?_⟩,
    r.sameCode_applyDirective, fun path => ?_⟩
  · refine ⟨?_, hnone es hlaid hprinted, fun value others hvalues => ?_⟩
    · rw [hstate es hlaid hprinted, Grammar.usings_effects, List.nil_append]
    · obtain ⟨stem, last, hsplit, hlength, houtput⟩ := settings.exists_stem templatePath value
      refine ⟨stem, last, hsplit, hlength, ?_⟩
      rw [hpath es hlaid hprinted, hvalues, ← houtput]
      rfl
  · rw [Registry.program_eq_missingOutput_iff]
    constructor
    · rintro ⟨hcomplete, hsettled, rfl⟩
      exact ⟨rfl, hcomplete, fun es hlaid hprinted => (hnone es hlaid hprinted).mp hsettled⟩
    · rintro ⟨rfl, hcomplete, hvalues⟩
      obtain ⟨es, hlaid, hprinted⟩ := hexists hcomplete
      exact ⟨hcomplete, (hnone es hlaid hprinted).mpr (hvalues es hlaid hprinted), rfl⟩

-- Repeated values, behind code that changes the mode, and a path shorter than an extension.
theorem usings_and_output_of_repeated :
    let settings : Settings := { sourceExtensionLength := 9 }
    let text := "a<#+ b #><#@output x=\"\" extension=\"c\"extension=\".d\"#> "
      ++ "<#@ import namespace=\"N\"namespace=\"N\" #><#@ output extension=\"e\" #>"
    let scan := (Registry.builtIn settings).scan "a.tt" text
    scan.ending = .complete ∧ scan.state.outputPath = some ".c" ∧
      ∃ es, WellLaid es ∧ printed es = text.toList ∧
        Grammar.values "import" "namespace" es = ["N", "N"] ∧
        Grammar.values "output" "extension" es ≠ [] := by
  intro settings text scan
  obtain ⟨hcomplete, husings, hpath⟩ : scan.ending = .complete ∧
      scan.state.usings = ["N", "N"] ∧ scan.state.outputPath = some ".c" := by
    decide +kernel
  obtain ⟨⟨es, hlaid, hprinted⟩, hgathered⟩ :=
    (usings_and_output_of_scan settings {} "a.tt" text).1 hcomplete
  obtain ⟨hnamespaces, hnone, -⟩ := hgathered es hlaid hprinted
  refine ⟨hcomplete, hpath, es, hlaid, hprinted, hnamespaces.symm.trans husings, fun hnil => ?_⟩
  cases hpath.symm.trans (hnone.mpr hnil)

end Stencil
