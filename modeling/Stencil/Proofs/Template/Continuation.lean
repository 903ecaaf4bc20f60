import Stencil.Proofs.Template.DirectiveValues

/-!
# Scanning on from a state

What items do hardly depends on the state they begin at.  A scan that goes on from a state gathers
what it would have gathered from the start, behind what is there already; only the mode it begins in
sends text and expressions to the one region or to the other, up to the first block that sets the
mode itself.

## Main definitions

* `ScanState.followedBy` — what one scan has gathered, and behind it what another has.
* `ScanState.redirected` — a scan in which the current region was that of the class.
* `Item.switches` — the item sets the mode.

## Main results

* `Registry.applyItems_followedBy` — items do behind what is gathered what they do by themselves.
* `Registry.applyItems_redirected` — in front of the first item that sets the mode all code goes to
  the current region.
* `Registry.applyItems_classFeature` — what items do in the region of the class.
-/

namespace Stencil

/-! ### Items and modes -/

/-- The item sets the mode, so text and expressions behind it go where it says. -/
def Item.switches : Item → Bool
  | .block b => b.kind = .control || b.kind = .classFeature
  | .directive _ => false

namespace ScanState

/-- What one scan has gathered, and behind it what another has: the mode is that of the second, and
the output path is that of the first if it has one. -/
def followedBy (s t : ScanState) : ScanState where
  templatePath := t.templatePath
  mode := t.mode
  usings := s.usings ++ t.usings
  outputPath := s.outputPath.or t.outputPath
  script := s.script ++ t.script
  classFeature := s.classFeature ++ t.classFeature

/-- What is gathered in the region of the class instead of the entry routine. -/
def redirected (s : ScanState) : ScanState :=
  { s with mode := .classFeature, script := [], classFeature := s.classFeature ++ s.script }

/-- Nothing is gathered yet behind a state. -/
theorem followedBy_start (s : ScanState) :
    s.followedBy { templatePath := s.templatePath, mode := s.mode } = s := by
  simp [followedBy]

theorem put_followedBy (s t : ScanState) (fragment : Fragment) (m : Mode) :
    (s.followedBy t).put fragment m = s.followedBy (t.put fragment m) := by
  cases m <;> simp [put, followedBy]

theorem assemble_followedBy (s t : ScanState) (body : String) (kind : CodeKind) :
    (s.followedBy t).assemble body kind = s.followedBy (t.assemble body kind) := by
  cases kind with
  | text => exact put_followedBy s t _ _
  | expression => exact put_followedBy s t _ _
  | classFeature => simp [assemble, putClassFeature, put, followedBy]
  | control => simp [assemble, putControl, put, followedBy]

end ScanState

namespace Registry

variable (r : Registry)

theorem effect_applyItems_append (s : ScanState) (items items' : List Item) :
    r.applyItems s (items ++ items') =
      let first := r.applyItems s items
      let others := r.applyItems first.state items'
      { state := others.state, events := first.events ++ others.events,
        calls := first.calls ++ others.calls } := by
  induction items generalizing s with
  | nil => rfl
  | cons item items ih => simp only [List.cons_append, applyItems, ih, List.append_assoc]

theorem applyItems_append (s : ScanState) (items items' : List Item) :
    (r.applyItems s (items ++ items')).state =
      (r.applyItems (r.applyItems s items).state items').state := by
  rw [effect_applyItems_append]

/-- What commutes with the handlers commutes with directives. -/
theorem applyDirective_comm {f : ScanState → ScanState}
    (hf : ∀ s directive property value handler,
      (r.handle (f s) directive property value handler).state =
        f (r.handle s directive property value handler).state)
    (s : ScanState) (d : Directive) :
    (r.applyDirective (f s) d).state = f (r.applyDirective s d).state := by
  have hproperties : ∀ (specification : Specification) (ps : List (String × String)),
      (r.applyProperties specification d.name (f s) ps).state =
        f (r.applyProperties specification d.name s ps).state := by
    intro specification ps
    induction ps generalizing s with
    | nil => rfl
    | cons p ps ih =>
      have hstep : (r.applyProperty specification d.name (f s) p).state =
          f (r.applyProperty specification d.name s p).state := by
        unfold applyProperty
        split
        · rfl
        · exact hf s d.name p.1 p.2 _
      simp only [applyProperties]
      rw [hstep]
      exact ih _
  unfold applyDirective
  split
  · rfl
  · exact hproperties _ _

/-! ### Behind what is gathered -/

theorem handle_followedBy (s t : ScanState) (directive property value : String)
    (handler : Handler) :
    (r.handle (s.followedBy t) directive property value handler).state =
      s.followedBy (r.handle t directive property value handler).state := by
  cases handler with
  | announce label => rfl
  | addNamespace => simp [handle, ScanState.followedBy]
  | setExtension =>
    cases hs : s.outputPath <;> cases ht : t.outputPath <;>
      simp [handle, ScanState.setOutputPath, ScanState.followedBy, hs, ht]
  | hand => rfl

theorem applyItem_followedBy (s t : ScanState) (item : Item) :
    (r.applyItem (s.followedBy t) item).state = s.followedBy (r.applyItem t item).state := by
  cases item with
  | block b => exact ScanState.assemble_followedBy s t b.body b.kind
  | directive d => exact r.applyDirective_comm (r.handle_followedBy s) t d

/-- **Items do behind what is gathered what they do by themselves.** -/
theorem applyItems_followedBy (s t : ScanState) (items : List Item) :
    (r.applyItems (s.followedBy t) items).state = s.followedBy (r.applyItems t items).state := by
  induction items generalizing t with
  | nil => rfl
  | cons item items ih =>
    simp only [applyItems]
    rw [r.applyItem_followedBy, ih]

/-- What items do from a state on is what they do from the start in its mode, behind the state. -/
theorem applyItems_eq_followedBy (s : ScanState) (items : List Item) :
    (r.applyItems s items).state =
      s.followedBy
        (r.applyItems { templatePath := s.templatePath, mode := s.mode } items).state := by
  rw [← r.applyItems_followedBy, s.followedBy_start]

/-! ### In front of the first item that sets the mode -/

theorem handle_redirected (s : ScanState) (directive property value : String)
    (handler : Handler) :
    (r.handle s.redirected directive property value handler).state =
      (r.handle s directive property value handler).state.redirected := by
  cases handler with
  | setExtension =>
    cases hs : s.outputPath <;> simp [handle, ScanState.setOutputPath, ScanState.redirected, hs]
  | _ => rfl

/-- An item that does not set the mode puts its code into the current region. -/
theorem applyItem_redirected {s : ScanState} (hs : s.mode = .script) {item : Item}
    (h : item.switches = false) :
    (r.applyItem s item).state.mode = .script ∧
      (r.applyItem s item).state.classFeature = s.classFeature ∧
      (r.applyItem s.redirected item).state = (r.applyItem s item).state.redirected := by
  have put_redirected : ∀ fragment : Fragment,
      (s.put fragment s.mode).mode = .script ∧
        (s.put fragment s.mode).classFeature = s.classFeature ∧
        s.redirected.put fragment s.redirected.mode = (s.put fragment s.mode).redirected := by
    intro fragment
    simp [hs, ScanState.put, ScanState.redirected]
  cases item with
  | block b =>
    rw [applyItem, applyItem]
    cases hkind : b.kind with
    | text => exact put_redirected _
    | expression => exact put_redirected _
    | classFeature => simp [Item.switches, hkind] at h
    | control => simp [Item.switches, hkind] at h
  | directive d =>
    obtain ⟨hmode, -, hclass⟩ := r.sameCode_applyDirective s d
    exact ⟨hmode.trans hs, hclass, r.applyDirective_comm r.handle_redirected s d⟩

/-- **In front of the first item that sets the mode all code goes to the current region,** and the
mode stays as it is. -/
theorem applyItems_redirected {s : ScanState} (hs : s.mode = .script) {items : List Item}
    (h : ∀ item ∈ items, item.switches = false) :
    (r.applyItems s items).state.mode = .script ∧
      (r.applyItems s items).state.classFeature = s.classFeature ∧
      (r.applyItems s.redirected items).state = (r.applyItems s items).state.redirected := by
  induction items generalizing s with
  | nil => exact ⟨hs, rfl, rfl⟩
  | cons item items ih =>
    obtain ⟨hmode, hclass, hitem⟩ := r.applyItem_redirected hs (h item List.mem_cons_self)
    simp only [applyItems]
    rw [hitem, ← hclass]
    exact ih hmode fun item' hitem' => h item' (List.mem_cons_of_mem _ hitem')

/-- Where an item sets the mode, it does not matter which mode it was. -/
theorem applyItem_of_switches (templatePath : String) (m m' : Mode) {item : Item}
    (h : item.switches = true) :
    (r.applyItem { templatePath, mode := m } item).state =
      (r.applyItem { templatePath, mode := m' } item).state := by
  cases item with
  | block b =>
    rw [applyItem, applyItem]
    cases hkind : b.kind with
    | text => simp [Item.switches, hkind] at h
    | expression => simp [Item.switches, hkind] at h
    | classFeature => rfl
    | control => rfl
  | directive d => cases h

/-- Where the first item sets the mode, what it was does not matter to any of the items. -/
theorem applyItems_of_switches (templatePath : String) (m m' : Mode) {item : Item}
    (h : item.switches = true) (items : List Item) :
    (r.applyItems { templatePath, mode := m } (item :: items)).state =
      (r.applyItems { templatePath, mode := m' } (item :: items)).state := by
  simp only [applyItems]
  rw [r.applyItem_of_switches templatePath m m' h]

/-- **What items do in the region of the class.**  The code in front of the first item that sets the
mode goes to that region; all else is as it is from the start. -/
theorem applyItems_classFeature (templatePath : String) (items : List Item) :
    let alone := (r.applyItems { templatePath } items).state
    let moved := (r.applyItems { templatePath } (items.takeWhile (!·.switches))).state.script
    ∃ kept, alone.script = moved ++ kept ∧
      (r.applyItems { templatePath, mode := .classFeature } items).state =
        { alone with
          mode := if items.any Item.switches then alone.mode else .classFeature
          script := kept
          classFeature := moved ++ alone.classFeature } := by
  intro alone moved
  let start : ScanState := { templatePath }
  let s := (r.applyItems start (items.takeWhile (!·.switches))).state
  have hquiet : ∀ item ∈ items.takeWhile (!·.switches), item.switches = false := by
    intro item hitem
    simpa using List.mem_takeWhile_imp hitem
  obtain ⟨-, hclass, hredirected⟩ := r.applyItems_redirected (s := start) rfl hquiet
  have hclass : s.classFeature = [] := hclass
  -- both runs are split where the mode is set for the first time
  have hsplit : items.takeWhile (!·.switches) ++ items.dropWhile (!·.switches) = items :=
    List.takeWhile_append_dropWhile
  have halone : alone = (r.applyItems s (items.dropWhile (!·.switches))).state := by
    rw [← r.applyItems_append, hsplit]
  have hwhole : (r.applyItems { templatePath, mode := .classFeature } items).state =
      (r.applyItems s.redirected (items.dropWhile (!·.switches))).state := by
    rw [← hsplit, r.applyItems_append, hsplit]
    exact congrArg (fun t => (r.applyItems t _).state) hredirected
  rw [hwhole]
  cases hrest : items.dropWhile (!·.switches) with
  | nil =>
    rw [hrest] at halone
    have hnone : items.any Item.switches = false := by
      rw [List.any_eq_false]
      intro item hitem
      simpa using List.dropWhile_eq_nil_iff.mp hrest item hitem
    refine ⟨[], ?_, ?_⟩
    · rw [halone, List.append_nil]
      rfl
    · rw [hnone, halone]
      simp [applyItems, ScanState.redirected, hclass, moved, s, start]
  | cons item rest =>
    have hitem : item.switches = true := by
      have hhead := List.head?_dropWhile_not (!·.switches) items
      rw [hrest] at hhead
      simpa using hhead
    have hany : items.any Item.switches = true := by
      refine List.any_eq_true.mpr ⟨item, ?_, hitem⟩
      rw [← hsplit, hrest]
      simp
    have hsame := r.applyItems_of_switches s.templatePath s.mode .classFeature hitem rest
    rw [hrest, applyItems_eq_followedBy, hsame] at halone
    rw [applyItems_eq_followedBy, halone, hany]
    exact ⟨_, rfl, by simp [ScanState.followedBy, ScanState.redirected, hclass, moved, s, start]⟩

end Registry

end Stencil
