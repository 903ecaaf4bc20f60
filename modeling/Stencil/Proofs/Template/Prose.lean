import Stencil.Proofs.Template.DirectiveValues

/-!
# Templates without code

A template whose blocks are all directives is a stretch of text, and then directives with a stretch
of text behind each of them.  What it writes can be read off the stretches: the first one as it
stands, the others without the blanks that they begin with, and nothing where nothing is left.

## Main definitions

* `Grammar.Stretch`, `Grammar.Prose` — text between directives, and templates that are made of it.
* `Grammar.Prose.runs` — the texts that a template without code writes.
* `Grammar.Prose.elements` — its elements.

## Main results

* `Grammar.Prose.wellLaid_elements`, `Grammar.Prose.printed_elements` — a template without code is
  what its elements are written as.
* `Grammar.Prose.script_effects` — the entry routine writes its runs and nothing else.
* `Grammar.exists_prose` — well-laid elements without code are written as a template without code.
-/

namespace Stencil

namespace Grammar

/-! ### Stretches of text -/

/-- Text in front of a directive or behind it, of which there may be none. -/
structure Stretch where
  /-- The characters. -/
  chars : List Char
  /-- No opening marker is among them. -/
  unopened : ¬ ['<', '#'] <:+: chars

namespace Stretch

/-- No text. -/
def empty : Stretch := ⟨[], by simp⟩

/-- The blanks that a stretch begins with. -/
def gap (t : Stretch) : Blanks :=
  ⟨t.chars.takeWhile isBlank, fun _ hx => List.mem_takeWhile_imp hx⟩

/-- A stretch without the blanks that it begins with. -/
def trimmed (t : Stretch) : Stretch :=
  ⟨t.chars.dropWhile isBlank, fun h => t.unopened (h.trans (List.dropWhile_suffix _).isInfix)⟩

/-- More blanks in front of a stretch. -/
def behindBlanks (gap : Blanks) (t : Stretch) : Stretch where
  chars := gap.chars ++ t.chars
  unopened := by
    obtain ⟨blanks, hblank⟩ := gap
    induction blanks with
    | nil => exact t.unopened
    | cons x blanks ih =>
      intro h
      rcases List.infix_cons_iff.mp h with hhere | hlater
      · -- no marker begins with a blank
        obtain rfl := (List.cons_prefix_cons.mp hhere).1
        exact absurd (hblank '<' List.mem_cons_self) (by decide)
      · exact ih (fun y hy => hblank y (List.mem_cons_of_mem _ hy)) hlater

/-- A stretch as an element, if there is any text. -/
def elements (t : Stretch) : List Element :=
  if h : t.chars = [] then [] else [.text ⟨t.chars, h, t.unopened⟩]

theorem elements_of_nil {t : Stretch} (h : t.chars = []) : t.elements = [] := dif_pos h

theorem elements_of_ne_nil {t : Stretch} (h : t.chars ≠ []) :
    t.elements = [.text ⟨t.chars, h, t.unopened⟩] :=
  dif_neg h

theorem printed_elements (t : Stretch) : printed t.elements = t.chars := by
  by_cases h : t.chars = []
  · rw [elements_of_nil h, h, printed_nil]
  · rw [elements_of_ne_nil h, printed_cons, printed_nil, List.append_nil, Element.print]

end Stretch

/-! ### Prose -/

/-- A template without code: a stretch of text, and directives with a stretch of text behind each of
them. -/
structure Prose where
  /-- The text in front of the first directive. -/
  opening : Stretch
  /-- The directives, with the text behind each of them. -/
  sections : List (Directive × Stretch)

namespace Prose

/-- How a template without code is written. -/
def print (t : Prose) : List Char :=
  t.opening.chars ++ t.sections.flatMap fun s => (Block.directive s.1).print ++ s.2.chars

/-- The texts that a template without code writes: the first stretch is kept as it stands, those
behind directives lose the blanks that they begin with, and nothing is written for nothing. -/
def runs (t : Prose) : List (List Char) :=
  (t.opening.chars :: t.sections.map fun s => s.2.chars.dropWhile isBlank).filter (· ≠ [])

/-- The elements of a directive and of the text behind it. -/
def sectionElements (s : Directive × Stretch) : List Element :=
  .block (.directive s.1) s.2.gap :: s.2.trimmed.elements

/-- The elements of a template without code. -/
def elements (t : Prose) : List Element :=
  t.opening.elements ++ t.sections.flatMap sectionElements

theorem printed_section (s : Directive × Stretch) :
    printed (sectionElements s) = (Block.directive s.1).print ++ s.2.chars := by
  rw [sectionElements, printed_cons, Element.print, Stretch.printed_elements, List.append_assoc]
  exact congrArg _ List.takeWhile_append_dropWhile

/-- **A template without code is what its elements are written as.** -/
theorem printed_elements (t : Prose) : printed t.elements = t.print := by
  rw [elements, printed_append, Stretch.printed_elements, print]
  congr 1
  induction t.sections with
  | nil => rfl
  | cons s sections ih =>
    rw [List.flatMap_cons, List.flatMap_cons, printed_append, printed_section, ih]

theorem wellLaid_section (s : Directive × Stretch) : WellLaid (sectionElements s) := by
  by_cases h : s.2.trimmed.chars = []
  · rw [sectionElements, Stretch.elements_of_nil h]
    exact List.IsChain.singleton _
  · rw [sectionElements, Stretch.elements_of_ne_nil h]
    refine List.isChain_pair.mpr fun x hx => ?_
    have hnot := List.head?_dropWhile_not isBlank s.2.chars
    rw [show (s.2.chars.dropWhile isBlank).head? = some x from hx] at hnot
    simpa using hnot

/-- Behind a stretch only directives follow. -/
theorem wellLaid_sections (sections : List (Directive × Stretch)) {es : List Element}
    (h : WellLaid es) : WellLaid (es ++ sections.flatMap sectionElements) := by
  induction sections generalizing es with
  | nil => rwa [List.flatMap_nil, List.append_nil]
  | cons s sections ih =>
    rw [List.flatMap_cons, ← List.append_assoc]
    exact ih (h.append_block (wellLaid_section s))

/-- **The elements of a template without code are well laid.** -/
theorem wellLaid_elements (t : Prose) : WellLaid t.elements := by
  refine wellLaid_sections t.sections ?_
  by_cases h : t.opening.chars = []
  · rw [Stretch.elements_of_nil h]
    exact List.IsChain.nil
  · rw [Stretch.elements_of_ne_nil h]
    exact List.IsChain.singleton _

end Prose

/-! ### What is written -/

/-- The instructions that write some texts. -/
def literals (runs : List (List Char)) : List Fragment :=
  runs.map fun run => .literal (Verbatim.escape (String.ofList run))

section Effects

variable (settings : Settings) {s : ScanState}

/-- In the entry routine a stretch is written unless it is empty. -/
theorem Stretch.script_effects (hs : s.mode = .script) (t : Stretch) :
    (effects settings s t.elements).mode = .script ∧
      (effects settings s t.elements).script =
        s.script ++ literals ([t.chars].filter (· ≠ [])) := by
  by_cases h : t.chars = []
  · rw [elements_of_nil h]
    simp [hs, h, literals]
  · rw [elements_of_ne_nil h]
    simp [Element.effect, ScanState.put, hs, h, literals, Run.text]

/-- A directive writes nothing, so the text behind it is what its section writes. -/
theorem Prose.script_effects_section (hs : s.mode = .script) (p : Directive × Stretch) :
    (effects settings s (sectionElements p)).mode = .script ∧
      (effects settings s (sectionElements p)).script =
        s.script ++ literals ([p.2.chars.dropWhile isBlank].filter (· ≠ [])) := by
  have hsame : ((Block.directive p.1).effect settings s).SameCode s := by
    rw [← Registry.state_applyDirective_builtIn settings 0]
    exact Registry.sameCode_applyDirective _ _ _
  rw [sectionElements, effects_cons, ← hsame.2.1]
  exact p.2.trimmed.script_effects settings (hsame.1.trans hs)

theorem Prose.script_effects_sections (hs : s.mode = .script)
    (sections : List (Directive × Stretch)) :
    (effects settings s (sections.flatMap sectionElements)).script =
      s.script ++
        literals ((sections.map fun p => p.2.chars.dropWhile isBlank).filter (· ≠ [])) := by
  induction sections generalizing s with
  | nil => simp [literals]
  | cons p sections ih =>
    obtain ⟨hmode, hscript⟩ := script_effects_section settings hs p
    rw [List.flatMap_cons, effects_append, ih hmode, hscript]
    simp only [literals, List.map_cons, List.append_assoc, ← List.map_append, ← List.filter_append]
    rfl

/-- **The entry routine writes the runs of a template without code and nothing else.** -/
theorem Prose.script_effects (hs : s.mode = .script) (t : Prose) :
    (effects settings s t.elements).script = s.script ++ literals t.runs := by
  obtain ⟨hmode, hscript⟩ := t.opening.script_effects settings hs
  rw [elements, effects_append, script_effects_sections settings hmode, hscript]
  simp only [literals, runs, List.append_assoc, ← List.map_append, ← List.filter_append]
  rfl

end Effects

/-! ### Templates without code among all templates -/

/-- The element is no code: text or a directive. -/
def Element.IsPlain : Element → Prop
  | text _ => True
  | block (.directive _) _ => True
  | block _ _ => False

/-- **Well-laid elements without code are written as a template without code.** -/
theorem exists_prose {es : List Element} (hlaid : WellLaid es) (h : ∀ el ∈ es, el.IsPlain) :
    ∃ t : Prose, t.print = printed es := by
  -- text in front of the first directive is the first element
  suffices hfirst : ∃ t : Prose, t.print = printed es ∧
      (t.opening.chars ≠ [] → ∃ run, es.head? = some (.text run)) by
    obtain ⟨t, ht, -⟩ := hfirst
    exact ⟨t, ht⟩
  induction es with
  | nil => exact ⟨⟨.empty, []⟩, rfl, fun hne => absurd rfl hne⟩
  | cons el es ih =>
    obtain ⟨t, ht, hopening⟩ := ih hlaid.tail fun el' hel' => h el' (List.mem_cons_of_mem _ hel')
    cases el with
    | text run =>
      -- one run never follows another, so all that follows are directives and what is behind them
      have hnil : t.opening.chars = [] := by
        by_contra hne
        obtain ⟨run', hrun'⟩ := hopening hne
        obtain ⟨es', rfl⟩ := List.head?_eq_some_iff.mp hrun'
        exact (List.isChain_cons_cons.mp hlaid).1
      refine ⟨⟨⟨run.chars, run.unopened⟩, t.sections⟩, ?_, fun _ => ⟨run, rfl⟩⟩
      rw [printed_cons, ← ht, Prose.print, Prose.print, hnil]
      rfl
    | block b gap =>
      cases b with
      | directive d =>
        refine ⟨⟨.empty, (d, t.opening.behindBlanks gap) :: t.sections⟩, ?_,
          fun hne => absurd rfl hne⟩
        rw [printed_cons, ← ht]
        simp [Prose.print, Stretch.empty, Stretch.behindBlanks, Element.print]
      | _ => exact (h _ List.mem_cons_self).elim

end Grammar

end Stencil
