import Mathlib.Data.List.DropRight
import Stencil.Proofs.Template.DirectiveValues
import Stencil.Proofs.Template.ScanSteps
import Stencil.Proofs.Text.QuoteRuns

/-!
# The shape of what is gathered

Whatever a template looks like, and however far its scan has come, what is gathered has a certain
shape.  No fragment holds a marker that would have ended the block or the run it was read from,
expressions are trimmed, and literals have even runs of quotes.  A literal begins with no blank,
unless the template itself begins with it.  The class begins with code of its own, and no namespace
holds a quote.

That a literal begins with no blank cannot be told from what is gathered.  It holds because the
cursor is on no blank when text is read, or still where the template begins, so the invariant of a
scan says where the cursor is as well.

## Main definitions

* `Fragment.WellFormed`, `ScanState.WellShaped` — the shape.
* `Underway.Sound` — the invariant of a scan.

## Main results

* `Underway.Sound.step` — every step of a scan keeps the invariant.
* `wellShaped_of_reachable` — **what is gathered is well shaped at any time.**
-/

namespace Stencil

/-! ### Trimmed code -/

theorem prefix_trimBlanks (s : List Char) : trimBlanks s <+: s.dropWhile isBlank :=
  List.rdropWhile_prefix isBlank _

theorem infix_trimBlanks (s : List Char) : trimBlanks s <:+: s :=
  (prefix_trimBlanks s).isInfix.trans (List.dropWhile_suffix isBlank).isInfix

theorem isBlank_head?_trimBlanks (s : List Char) :
    ∀ x ∈ (trimBlanks s).head?, isBlank x = false := by
  intro x hx
  -- what is left in the end begins what is left when the front is trimmed
  obtain ⟨back, hback⟩ := prefix_trimBlanks s
  have hfront : (s.dropWhile isBlank).head? = some x := by
    rw [← hback, List.head?_append, Option.mem_def.mp hx]
    rfl
  have := List.head?_dropWhile_not isBlank s
  rw [hfront] at this
  simpa using this

theorem isBlank_getLast?_trimBlanks (s : List Char) :
    ∀ x ∈ (trimBlanks s).getLast?, isBlank x = false := by
  intro x hx
  obtain ⟨hne, rfl⟩ := List.mem_getLast?_eq_getLast hx
  have := List.rdropWhile_last_not isBlank (s.dropWhile isBlank) hne
  exact Bool.eq_false_iff.mpr this

/-! ### Fragments -/

/-- A fragment as scans gather it. -/
def Fragment.WellFormed : Fragment → Prop
  | .raw code => ¬ ['#', '>'] <:+: code.toList
  | .literal text =>
      text.toList ≠ [] ∧ Verbatim.EvenQuotes text.toList ∧ ¬ ['<', '#'] <:+: text.toList
  | .expression code =>
      ¬ ['#', '>'] <:+: code.toList ∧ (∀ x ∈ code.toList.head?, isBlank x = false) ∧
        ∀ x ∈ code.toList.getLast?, isBlank x = false

theorem Grammar.Body.wellFormed_raw (body : Grammar.Body) :
    (Fragment.raw body.text).WellFormed := by
  rw [Fragment.WellFormed, Body.text, String.toList_ofList]
  exact body.unclosed

theorem Grammar.Body.wellFormed_expression (body : Grammar.Body) :
    (Fragment.expression (String.ofList (trimBlanks body.text.toList))).WellFormed := by
  rw [Fragment.WellFormed, Body.text, String.toList_ofList, String.toList_ofList]
  exact ⟨fun h => body.unclosed (h.trans (infix_trimBlanks body.chars)),
    isBlank_head?_trimBlanks body.chars, isBlank_getLast?_trimBlanks body.chars⟩

theorem Grammar.Run.toList_escape (run : Grammar.Run) :
    (Verbatim.escape run.text).toList = Verbatim.escapeChars run.chars := by
  rw [Verbatim.toList_escape, Run.text, String.toList_ofList]

theorem Grammar.Run.wellFormed_literal (run : Grammar.Run) :
    (Fragment.literal (Verbatim.escape run.text)).WellFormed := by
  rw [Fragment.WellFormed, run.toList_escape]
  exact ⟨fun h => run.nonempty (Verbatim.escapeChars_eq_nil_iff.mp h),
    Verbatim.evenQuotes_escapeChars run.chars,
    fun h => run.unopened (Verbatim.infix_of_infix_escapeChars h)⟩

/-! ### States -/

/-- A literal is that of the text that a template begins with, up to its first block. -/
def OpensWith (text : List Char) (literal : String) : Prop :=
  ∃ run rest, text = run ++ rest ∧ literal = Verbatim.escape (String.ofList run) ∧
    (rest = [] ∨ ['<', '#'] <+: rest)

/-- A literal may stand at some place of a region: it begins with no blank, or it is the first
fragment of all and the template begins with it. -/
def MayStand (text : List Char) (m : Mode) (i : Nat) (literal : String) : Prop :=
  (∀ x ∈ literal.toList.head?, isBlank x = false) ∨ m = .script ∧ i = 0 ∧ OpensWith text literal

/-- What is gathered from a text as scans gather it. -/
structure ScanState.WellShaped (text : List Char) (s : ScanState) : Prop where
  /-- Every fragment is well formed. -/
  fragments : ∀ m, ∀ fragment ∈ s.region m, fragment.WellFormed
  /-- Every literal stands where it may. -/
  literals : ∀ m i literal, (s.region m)[i]? = some (.literal literal) → MayStand text m i literal
  /-- The class begins with code of its own, if it has members. -/
  features : ∀ fragment ∈ s.classFeature.head?, ∃ code, fragment = .raw code
  /-- Text and expressions go to the class only behind such code. -/
  mode : s.mode = .classFeature → s.classFeature ≠ []
  /-- No namespace holds a quote. -/
  usings : ∀ namespaceName ∈ s.usings, '"' ∉ namespaceName.toList

namespace ScanState

variable {text : List Char} {s t : ScanState}

theorem wellShaped_start (templatePath : String) (text : List Char) :
    WellShaped text { templatePath } where
  fragments m fragment h := by cases m <;> cases h
  literals m i literal h := by cases m <;> cases h
  features fragment h := by cases h
  mode h := by cases h
  usings namespaceName h := by cases h

/-- A fragment may be put behind a region if it is well formed, a literal may stand there, and
nothing but code begins the class. -/
theorem WellShaped.put (hs : s.WellShaped text) {fragment : Fragment} {m : Mode}
    (hfragment : fragment.WellFormed)
    (hliteral : ∀ literal, fragment = .literal literal →
      MayStand text m (s.region m).length literal)
    (hfeature : m = .classFeature → s.classFeature = [] → ∃ code, fragment = .raw code) :
    (s.put fragment m).WellShaped text where
  fragments m' f hf := by
    rw [region_put] at hf
    split at hf
    · rcases List.mem_append.mp hf with hold | hnew
      · exact hs.fragments m' f hold
      · obtain rfl := List.mem_singleton.mp hnew
        exact hfragment
    · exact hs.fragments m' f hf
  literals m' i literal hi := by
    rw [region_put] at hi
    split at hi
    · next hm =>
      subst hm
      rcases Nat.lt_or_ge i (s.region m').length with hlt | hge
      · rw [List.getElem?_append_left hlt] at hi
        exact hs.literals m' i literal hi
      · -- behind what was there stands the new fragment and nothing else
        rw [List.getElem?_append_right hge, List.getElem?_singleton] at hi
        split at hi
        · obtain rfl : i = (s.region m').length := by omega
          exact hliteral literal (Option.some.inj hi)
        · cases hi
    · exact hs.literals m' i literal hi
  features f hf := by
    cases m with
    | script => exact hs.features f hf
    | classFeature =>
      cases hold : s.classFeature with
      | nil =>
        obtain ⟨code, rfl⟩ := hfeature rfl hold
        simp only [ScanState.put, hold] at hf
        exact ⟨code, (Option.some.inj hf).symm⟩
      | cons first others =>
        simp only [ScanState.put, hold] at hf
        exact hs.features f (by rw [hold]; exact hf)
  mode hm := by
    cases m with
    | script => exact hs.mode hm
    | classFeature => exact List.append_ne_nil_of_right_ne_nil _ (List.cons_ne_nil _ _)
  usings namespaceName h := by
    cases m <;> exact hs.usings namespaceName h

theorem WellShaped.withMode (hs : s.WellShaped text) {m : Mode}
    (hm : m = .classFeature → s.classFeature ≠ []) :
    WellShaped text { s with mode := m } where
  fragments := hs.fragments
  literals := hs.literals
  features := hs.features
  mode := hm
  usings := hs.usings

theorem WellShaped.of_sameCode (hs : s.WellShaped text) (h : t.SameCode s)
    (husings : ∀ namespaceName ∈ t.usings, '"' ∉ namespaceName.toList) : t.WellShaped text := by
  obtain ⟨hmode, hscript, hclass⟩ := h
  have hregion : ∀ m, t.region m = s.region m := by
    intro m
    cases m
    · exact hscript
    · exact hclass
  exact {
    fragments := fun m => hregion m ▸ hs.fragments m
    literals := fun m => hregion m ▸ hs.literals m
    features := hclass ▸ hs.features
    mode := by rw [hmode, hclass]; exact hs.mode
    usings := husings }

end ScanState

/-! ### Properties -/

/-- A property makes no namespace but its own value. -/
theorem Registry.mem_usings_applyProperty (r : Registry) (s : ScanState)
    (specification : Specification) (directive : String) (p : String × String)
    {namespaceName : String}
    (h : namespaceName ∈ (r.applyProperty specification directive s p).state.usings) :
    namespaceName ∈ s.usings ∨ namespaceName = p.2 := by
  unfold applyProperty at h
  split at h
  · exact .inl h
  next handler _ =>
  cases handler with
  | announce label => exact .inl h
  | addNamespace => exact (List.mem_append.mp h).imp_right List.mem_singleton.mp
  | setExtension =>
    refine .inl ?_
    cases hpath : s.outputPath <;> simpa [handle, hpath, ScanState.setOutputPath] using h
  | hand => exact .inl h

namespace Cursor

theorem isBlank_current_skipBlanks (c : Cursor) :
    ∀ x ∈ c.skipBlanks.current, isBlank x = false := by
  obtain ⟨_, _, hend⟩ := c.exists_blanks_skipBlanks
  exact hend

/-- The values of a directive that is read hold no quote. -/
theorem unquoted_of_readItem {c d : Cursor} {e : Directive} (hc : c.current.isSome = true)
    (hread : c.readItem = .read (.directive e) d) : ∀ p ∈ e.properties, '"' ∉ p.2.toList := by
  intro p hp
  obtain ⟨el, hitem, -, -⟩ := (readItem_skipBlanks_iff hc).mp ⟨d, hread, rfl⟩
  match el, hitem with
  | .block (.directive e') gap, hitem =>
    obtain rfl := Item.directive.inj hitem
    obtain ⟨q, -, rfl⟩ := List.mem_map.mp hp
    rw [Grammar.Property.pair, Grammar.Value.text, String.toList_ofList]
    exact fun hquote => q.value.unquoted _ hquote rfl

end Cursor

/-! ### Steps -/

/-- The invariant of a scan. -/
structure Underway.Sound (text : List Char) (u : Underway) : Prop where
  /-- What is gathered is well shaped. -/
  shape : u.state.WellShaped text
  /-- Between two items the cursor is on no blank, unless no item has been read yet. -/
  place : u.acting = none →
    (∀ x ∈ u.cursor.current, isBlank x = false) ∨
      u.cursor.pending = text ∧ u.state.mode = .script ∧ u.state.script = []
  /-- The values that are still to act hold no quote. -/
  values : ∀ a ∈ u.acting, ∀ p ∈ a.properties, '"' ∉ p.2.toList

namespace Underway

variable {text : List Char} {s : ScanState} {c d : Cursor}

/-- A run of text is read where its literal may stand. -/
theorem Sound.mayStand (h : Sound text ⟨s, c, none⟩) {run : Grammar.Run}
    (hpass : c.Passes run.chars d) (hend : d.AtMarker '<' '#') :
    MayStand text s.mode (s.region s.mode).length (Verbatim.escape run.text) := by
  rcases h.place rfl with hblank | ⟨hpending, hmode, hscript⟩
  · left
    intro x hx
    rw [run.toList_escape, Verbatim.head?_escapeChars] at hx
    obtain ⟨others, hchars⟩ := List.head?_eq_some_iff.mp hx
    rw [hchars] at hpass
    exact hblank x hpass.1
  · -- the cursor is still on the first character, so the run begins the template
    right
    refine ⟨hmode, ?_, run.chars, d.pending, ?_, rfl, ?_⟩
    · rw [hmode, ScanState.region, hscript, List.length_nil]
    · rw [← hpending, hpass.pending_eq]
    · refine (Cursor.atMarker_iff.mp hend).imp_right ?_
      rintro ⟨rest, hrest⟩
      exact ⟨rest, hrest.symm⟩

/-- A block that is read leaves the state well shaped. -/
theorem Sound.wellShaped_assemble (h : Sound text ⟨s, c, none⟩) {b : Block}
    (hc : c.current.isSome = true) (hread : c.readItem = .read (.block b) d) :
    (s.assemble b.body b.kind).WellShaped text := by
  obtain ⟨el, hitem, hpass, hend⟩ := (Cursor.readItem_skipBlanks_iff hc).mp ⟨d, hread, rfl⟩
  -- text and expressions never begin the class, because a mode is set with code
  have hbehind : ∀ {fragment : Fragment}, s.mode = .classFeature → s.classFeature = [] →
      ∃ code, fragment = .raw code := fun hmode hnil => absurd hnil (h.shape.mode hmode)
  cases el with
  | text run =>
    obtain rfl := Item.block.inj hitem
    refine h.shape.put run.wellFormed_literal ?_ hbehind
    rintro _ ⟨⟩
    exact h.mayStand hpass hend
  | block b gap =>
    cases b with
    | control body plain =>
      obtain rfl := Item.block.inj hitem
      have hput := h.shape.put (m := .script) body.wellFormed_raw (by rintro _ ⟨⟩) (by rintro ⟨⟩)
      exact hput.withMode (by rintro ⟨⟩)
    | expression body =>
      obtain rfl := Item.block.inj hitem
      exact h.shape.put body.wellFormed_expression (by rintro _ ⟨⟩) hbehind
    | classFeature body =>
      obtain rfl := Item.block.inj hitem
      have hput := h.shape.put (m := .classFeature) body.wellFormed_raw (by rintro _ ⟨⟩)
        fun _ _ => ⟨_, rfl⟩
      exact hput.withMode fun _ => List.append_ne_nil_of_right_ne_nil _ (List.cons_ne_nil _ _)
    | directive e => cases hitem

theorem sound_start (templatePath : String) (text : List Char) :
    Sound text ⟨{ templatePath }, (Cursor.ofText text).advance, none⟩ where
  shape := ScanState.wellShaped_start templatePath text
  place _ := .inr ⟨Cursor.pending_advance _, rfl, rfl⟩
  values a h := by cases h

/-- **Every step of a scan keeps the invariant.** -/
theorem Sound.step {r : Registry} {u v : Underway} (h : u.Sound text) (hstep : r.Step u v) :
    v.Sound text := by
  cases hstep with
  | block hc hread =>
    exact {
      shape := h.wellShaped_assemble hc hread
      place := fun _ => .inl (Cursor.isBlank_current_skipBlanks _)
      values := by rintro a ⟨⟩ }
  | ignored hc hread hname =>
    exact {
      shape := h.shape
      place := fun _ => .inl (Cursor.isBlank_current_skipBlanks _)
      values := by rintro a ⟨⟩ }
  | begins hc hread hname =>
    exact {
      shape := h.shape
      place := by rintro ⟨⟩
      values := by
        rintro a ⟨⟩
        exact Cursor.unquoted_of_readItem hc hread }
  | property =>
    have hvalues := h.values _ rfl
    exact {
      shape := by
        refine h.shape.of_sameCode (r.sameCode_applyProperty _ _ _ _) fun namespaceName hmem => ?_
        rcases r.mem_usings_applyProperty _ _ _ _ hmem with hold | rfl
        · exact h.shape.usings namespaceName hold
        · exact hvalues _ List.mem_cons_self
      place := by rintro ⟨⟩
      values := by
        rintro a ⟨⟩ p hp
        exact hvalues p (List.mem_cons_of_mem _ hp) }
  | ends =>
    exact {
      shape := h.shape
      place := fun _ => .inl (Cursor.isBlank_current_skipBlanks _)
      values := by rintro a ⟨⟩ }

theorem sound_of_reachable {r : Registry} {templatePath : String} {u : Underway}
    (h : r.Reachable templatePath text u) : u.Sound text := by
  induction h with
  | start => exact sound_start templatePath text
  | step _ hstep ih => exact ih.step hstep

end Underway

/-- **What is gathered is well shaped at any time.**  Every state that a scan reaches is, and the
one it ends with is reached, whether it comes to the end of the template or not. -/
theorem wellShaped_of_reachable (r : Registry) (templatePath : String) (source : Source) :
    (∀ u, r.Reachable templatePath source.text u → u.state.WellShaped source.text) ∧
      ∃ u, r.Reachable templatePath source.text u ∧ u.acting = none ∧
        u.state = (r.scanSource templatePath source).state := by
  obtain ⟨e, hreachable⟩ := r.reachable_scanSource templatePath source
  exact ⟨fun u hu => (Underway.sound_of_reachable hu).shape, _, hreachable, rfl, rfl⟩

-- The blanks that the template begins with are kept, those behind a block are not.
example :
    ((Registry.builtIn {}).scan "a.tt" " \"<#=\t#\n#> b").state.script =
      [.literal " \"\"", .expression "#", .literal "b"] := by decide +kernel

end Stencil
