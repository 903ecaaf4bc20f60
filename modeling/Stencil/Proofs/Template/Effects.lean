import Mathlib.Data.List.Basic
import Stencil.Proofs.Template.ItemRuns

/-!
# The effects of elements

What the grammar says an element does is what the registry of built-in directives does with the item
that is read of it, on whatever line it stands.  Every element puts one fragment at the end of one
region, or is a directive, which leaves both regions alone.

## Main results

* `Registry.state_applyItems_builtIn` — the effects of what is read are those of the elements.
* `Grammar.region_effect` — what an element does to the regions.
* `Grammar.exists_run_of_literal` — every literal comes from a run of text.
-/

namespace Stencil

open Grammar (Element WellLaid printed effects itemsFrom)

/-! ### Directives -/

/-- Only two directives have properties that do something. -/
theorem Grammar.Property.effect_of_ne (settings : Settings) {directive : String}
    (himport : directive ≠ "import") (houtput : directive ≠ "output") (s : ScanState)
    (p : Grammar.Property) : p.effect settings directive s = s := by
  simp [Grammar.Property.effect, himport, houtput]

namespace Registry

theorem state_applyProperties (r : Registry) (specification : Specification) (directive : String)
    (s : ScanState) (ps : List (String × String)) :
    (r.applyProperties specification directive s ps).state =
      ps.foldl (fun s p => (r.applyProperty specification directive s p).state) s := by
  induction ps generalizing s with
  | nil => rfl
  | cons p ps ih => exact ih _

/-- The built-in directives by name. -/
theorem find?_builtIn_cases (settings : Settings) (directive : String) :
    (directive = "import" ∧
      (builtIn settings).find? directive = some [("namespace", .addNamespace)]) ∨
    (directive = "output" ∧
      (builtIn settings).find? directive = some [("extension", .setExtension)]) ∨
    (directive ≠ "import" ∧ directive ≠ "output" ∧
      ∀ specification, (builtIn settings).find? directive = some specification →
        ∀ entry ∈ specification, ∃ label, entry.2 = .announce label) := by
  by_cases himport : directive = "import"
  · exact .inl ⟨himport, by subst himport; rfl⟩
  by_cases houtput : directive = "output"
  · exact .inr (.inl ⟨houtput, by subst houtput; rfl⟩)
  refine .inr (.inr ⟨himport, houtput, fun specification h => ?_⟩)
  -- what is found is in the table, and what is left of the table only announces
  have hmem : (directive, specification) ∈ (builtIn settings).specifications := mem_of_lookup h
  simp only [builtIn, List.mem_cons, Prod.mk.injEq, himport, houtput, false_and, or_false,
    List.not_mem_nil] at hmem
  rcases hmem with ⟨-, rfl⟩ | ⟨-, rfl⟩ <;> simp

/-- A property of a built-in directive does what the grammar says. -/
theorem state_applyProperty_builtIn (settings : Settings) {directive : String}
    {specification : Specification}
    (h : (builtIn settings).find? directive = some specification) (s : ScanState)
    (p : Grammar.Property) :
    ((builtIn settings).applyProperty specification directive s p.pair).state =
      p.effect settings directive s := by
  rcases find?_builtIn_cases settings directive with
    ⟨rfl, hfind⟩ | ⟨rfl, hfind⟩ | ⟨himport, houtput, hannounce⟩
  · obtain rfl := Option.some.inj (h.symm.trans hfind)
    by_cases hkey : p.key.text = "namespace"
    · simp [applyProperty, Grammar.Property.pair, Grammar.Property.effect, hkey, handle]
    · simp [applyProperty, Grammar.Property.pair, Grammar.Property.effect, hkey, List.lookup_cons,
        beq_false_of_ne hkey]
  · obtain rfl := Option.some.inj (h.symm.trans hfind)
    by_cases hkey : p.key.text = "extension"
    · cases hpath : s.outputPath <;>
        simp [applyProperty, Grammar.Property.pair, Grammar.Property.effect, hkey, handle, hpath,
          ScanState.setOutputPath, builtIn]
    · simp [applyProperty, Grammar.Property.pair, Grammar.Property.effect, hkey, List.lookup_cons,
        beq_false_of_ne hkey]
  · rw [Grammar.Property.effect_of_ne settings himport houtput, applyProperty]
    split
    · rfl
    · next handler hlookup =>
      obtain ⟨label, rfl⟩ : ∃ label, handler = .announce label :=
        hannounce specification h _ (mem_of_lookup hlookup)
      rfl

theorem state_applyDirective_builtIn (settings : Settings) (line : Int) (s : ScanState)
    (d : Grammar.Directive) :
    ((builtIn settings).applyDirective s (d.read line)).state =
      (Grammar.Block.directive d).effect settings s := by
  rw [applyDirective, Grammar.Block.effect]
  split
  · next hnone =>
    -- an unknown name is neither of the two, so the grammar's fold stands still as well
    have hname : d.name.text ≠ "import" ∧ d.name.text ≠ "output" := by
      rcases find?_builtIn_cases settings d.name.text with ⟨-, hfind⟩ | ⟨-, hfind⟩ | ⟨hne, hne', -⟩
      · cases hnone.symm.trans hfind
      · cases hnone.symm.trans hfind
      · exact ⟨hne, hne'⟩
    refine (List.foldl_fixed' (fun p => ?_) d.properties).symm
    exact Grammar.Property.effect_of_ne settings hname.1 hname.2 s p
  · next specification h =>
    have hstep : ∀ s p, ((builtIn settings).applyProperty specification d.name.text s
        (Grammar.Property.pair p)).state = p.effect settings d.name.text s :=
      fun s p => state_applyProperty_builtIn settings h s p
    rw [state_applyProperties, Grammar.Directive.read, List.foldl_map]
    simp only [hstep]

/-- What is read of an element does what the element does. -/
theorem state_applyItem_builtIn (settings : Settings) (line : Int) (s : ScanState) (el : Element) :
    ((builtIn settings).applyItem s (el.item line)).state = el.effect settings s := by
  cases el with
  | text run => rfl
  | block b gap =>
    cases b with
    | control body plain => rfl
    | expression body =>
      have hchars : body.text.toList = body.chars := String.toList_ofList
      rw [Element.effect, Grammar.Block.effect, ← hchars]
      rfl
    | classFeature body => rfl
    | directive d => exact state_applyDirective_builtIn settings line s d

theorem state_applyItems_builtIn (settings : Settings) (p : Position) (s : ScanState)
    (es : List Element) :
    ((builtIn settings).applyItems s (itemsFrom p es)).state = effects settings s es := by
  induction es generalizing p s with
  | nil => rfl
  | cons el es ih =>
    rw [itemsFrom, applyItems, Grammar.effects_cons, ← state_applyItem_builtIn settings p.line]
    exact ih _ _

end Registry

/-! ### Regions -/

namespace Grammar

theorem Property.region_effect (settings : Settings) (directive : String) (s : ScanState)
    (p : Property) (m : Mode) : (p.effect settings directive s).region m = s.region m := by
  unfold Property.effect
  split
  · cases m <;> rfl
  · split
    · split <;> cases m <;> rfl
    · rfl

theorem region_properties (settings : Settings) (directive : String) (s : ScanState)
    (ps : List Property) (m : Mode) :
    (ps.foldl (Property.effect settings directive) s).region m = s.region m := by
  induction ps generalizing s with
  | nil => rfl
  | cons p ps ih => rw [List.foldl_cons, ih, p.region_effect]

/-- An element leaves a region alone or puts one fragment at its end, and a literal there is the
escaped text of the element. -/
theorem region_effect (settings : Settings) (s : ScanState) (el : Element) (m : Mode) :
    (el.effect settings s).region m = s.region m ∨
      ∃ fragment, (el.effect settings s).region m = s.region m ++ [fragment] ∧
        ∀ text, fragment = .literal text →
          ∃ run, el = .text run ∧ text = Verbatim.escape run.text ∧ s.mode = m := by
  cases el with
  | text run =>
    rw [Element.effect, ScanState.region_put]
    split
    · next hm =>
      refine .inr ⟨_, rfl, fun text htext => ⟨run, rfl, ?_, hm.symm⟩⟩
      exact (Fragment.literal.inj htext).symm
    · exact .inl rfl
  | block b gap =>
    cases b with
    | control body plain =>
      cases m with
      | script => exact .inr ⟨_, rfl, fun _ h => by cases h⟩
      | classFeature => exact .inl rfl
    | expression body =>
      rw [Element.effect, Block.effect, ScanState.region_put]
      split
      · exact .inr ⟨_, rfl, fun _ h => by cases h⟩
      · exact .inl rfl
    | classFeature body =>
      cases m with
      | script => exact .inl rfl
      | classFeature => exact .inr ⟨_, rfl, fun _ h => by cases h⟩
    | directive d => exact .inl (region_properties settings _ s _ m)

/-- Regions only grow. -/
theorem region_isPrefix_effects (settings : Settings) (s : ScanState) (es : List Element)
    (m : Mode) : s.region m <+: (effects settings s es).region m := by
  induction es generalizing s with
  | nil => exact List.prefix_rfl
  | cons el es ih =>
    refine List.IsPrefix.trans ?_ (ih (el.effect settings s))
    rcases region_effect settings s el m with h | ⟨fragment, h, -⟩
    · rw [h]
    · rw [h]
      exact List.prefix_append _ _

/-- **Every literal comes from a run of text.**  When the elements in front of the run have acted,
the literal's region is the current one and holds what stands in front of the literal. -/
theorem exists_run_of_literal (settings : Settings) {s : ScanState} {es : List Element} {m : Mode}
    {before after : List Fragment} {text : String}
    (hbefore : (s.region m).length ≤ before.length)
    (h : (effects settings s es).region m = before ++ .literal text :: after) :
    ∃ front run back, es = front ++ .text run :: back ∧
      (effects settings s front).mode = m ∧ (effects settings s front).region m = before ∧
      text = Verbatim.escape run.text := by
  induction es generalizing s with
  | nil =>
    rw [effects_nil] at h
    rw [h, List.length_append, List.length_cons] at hbefore
    omega
  | cons el es ih =>
    by_cases hle : ((el.effect settings s).region m).length ≤ before.length
    · obtain ⟨front, run, back, rfl, hmode, hregion, htext⟩ := ih hle h
      exact ⟨el :: front, run, back, rfl, hmode, hregion, htext⟩
    · -- the region has grown past the place of the literal, so this element put it there
      rcases region_effect settings s el m with hsame | ⟨fragment, hgrown, hliteral⟩
      · rw [hsame] at hle
        exact absurd hbefore hle
      · obtain ⟨rest, hrest⟩ := region_isPrefix_effects settings (el.effect settings s) es m
        rw [effects_cons] at h
        rw [h, hgrown, List.append_assoc, List.singleton_append] at hrest
        rw [hgrown, List.length_append, List.length_singleton] at hle
        obtain ⟨hregion, hfragment⟩ := List.append_inj hrest (by omega)
        obtain ⟨run, rfl, htext, hmode⟩ := hliteral text (List.cons.inj hfragment).1
        exact ⟨[], run, es, rfl, hmode, hregion, htext⟩

end Grammar

end Stencil
