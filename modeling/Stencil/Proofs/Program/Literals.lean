import Stencil.Program
import Stencil.Proofs.Template.RoundTrip
import Stencil.Proofs.Text.VerbatimLiteral

/-!
# Literals in generated programs

No literal escapes its string.  Every literal of a program comes from one run of text of the
template, and whoever reads the program from behind the opening quote reads exactly this run and
stops at the closing quote.  The same goes for the output path in the entry routine.

## Main definitions

* `Program.inFront`, `Program.behind` — what a program holds around a fragment of a region.
* `Grammar.Wrote` — the run of text that a fragment comes from.

## Main results

* `Program.text_eq_of_literal`, `Program.exists_text_eq` — a program around one of its literals and
  around its output path.
* `read_literals_of_program` — the literals of a program and its output path are read back.
-/

namespace Stencil

open Grammar (Element Run WellLaid printed effects)

/-! ### A program around a fragment -/

namespace Program

/-- What a program holds in front of a fragment of a region, where `before` are the fragments of the
region in front of it. -/
def inFront (settings : Settings) (outputPath : String) (s : ScanState) (before : List Fragment) :
    Mode → String
  | .script =>
      usingLines s.usings ++ header settings ++ entryOpening settings ++ Verbatim.escape outputPath
        ++ "\")) \x7b\n" ++ regionText settings before
  | .classFeature =>
      usingLines s.usings ++ header settings ++ entryRoutine settings outputPath s.script
        ++ regionText settings before

/-- What a program holds behind a fragment of a region, where `after` are the fragments of the
region behind it. -/
def behind (settings : Settings) (s : ScanState) (after : List Fragment) : Mode → String
  | .script =>
      regionText settings after ++ "    \x7d\x7d\n" ++ features settings s.classFeature
        ++ footer settings
  | .classFeature => regionText settings after ++ "\n" ++ footer settings

theorem regionText_append (settings : Settings) (xs ys : List Fragment) :
    regionText settings (xs ++ ys) = regionText settings xs ++ regionText settings ys := by
  rw [regionText, renderRegion, List.map_append, String.join_append]
  rfl

theorem regionText_cons (settings : Settings) (x : Fragment) (xs : List Fragment) :
    regionText settings (x :: xs)
      = x.render settings.writerName settings.indent ++ regionText settings xs := by
  rw [regionText, renderRegion, List.map_cons, String.join_cons]
  rfl

theorem text_eq_of_region (settings : Settings) (outputPath : String) {s : ScanState} {m : Mode}
    {before after : List Fragment} {fragment : Fragment}
    (h : s.region m = before ++ fragment :: after) :
    text settings outputPath s = inFront settings outputPath s before m
      ++ fragment.render settings.writerName settings.indent ++ behind settings s after m := by
  cases m with
  | script =>
    have hscript : s.script = before ++ fragment :: after := h
    simp only [text, entryRoutine, inFront, behind, hscript, regionText_append, regionText_cons,
      String.append_assoc]
  | classFeature =>
    have hfeatures : s.classFeature = before ++ fragment :: after := h
    simp only [text, features, inFront, behind, hfeatures, regionText_append, regionText_cons,
      String.append_assoc]

theorem text_eq_of_literal (settings : Settings) (outputPath : String) {s : ScanState} {m : Mode}
    {before after : List Fragment} {literal : String}
    (h : s.region m = before ++ .literal literal :: after) :
    text settings outputPath s = (inFront settings outputPath s before m ++ settings.indent
      ++ settings.writerName ++ ".Write(") ++ "@\"" ++ literal ++ "\");\n"
      ++ behind settings s after m := by
  have hopening : ".Write(@\"" = ".Write(" ++ "@\"" := rfl
  rw [text_eq_of_region settings outputPath h, Fragment.render, hopening]
  simp only [String.append_assoc]

/-- A program around the output path of its entry routine. -/
theorem exists_text_eq (settings : Settings) (outputPath : String) (s : ScanState) :
    ∃ rest, text settings outputPath s = usingLines s.usings ++ header settings
      ++ entryOpening settings ++ Verbatim.escape outputPath ++ "\")) \x7b\n" ++ rest := by
  refine ⟨regionText settings s.script ++ "    \x7d\x7d\n" ++ features settings s.classFeature
    ++ footer settings, ?_⟩
  simp only [text, entryRoutine, String.append_assoc]

end Program

theorem ScanState.program_eq_ok {settings : Settings} {s : ScanState} {program : String}
    (h : s.program settings = .ok program) :
    ∃ outputPath, s.outputPath = some outputPath ∧
      Program.text settings outputPath s = program := by
  unfold ScanState.program at h
  split at h
  · cases h
  · next outputPath hpath => exact ⟨outputPath, hpath, Except.ok.inj h⟩

/-! ### Literals -/

/-- The run of text that the fragment behind `before` in the region of a mode comes from: it is an
element of the template, and once the elements in front of it have acted, this region is the current
one and holds `before`. -/
def Grammar.Wrote (settings : Settings) (templatePath text : String) (m : Mode)
    (before : List Fragment) (run : Run) : Prop :=
  ∃ front back, WellLaid (front ++ .text run :: back) ∧
    printed (front ++ .text run :: back) = text.toList ∧
    (effects settings { templatePath } front).mode = m ∧
    (effects settings { templatePath } front).region m = before

/-- **No literal escapes its string.**  In the program of a complete scan, whoever reads a literal
from behind its opening quote reads the run of text that it comes from and stops at its closing
quote, whatever stands behind; so does whoever reads the output path in the entry routine. -/
theorem read_literals_of_program (scanning writing : Settings)
    {templatePath text program : String}
    (hcomplete : ((Registry.builtIn scanning).scan templatePath text).ending = .complete)
    (hprogram : ((Registry.builtIn scanning).scan templatePath text).state.program writing
      = .ok program) :
    let s := ((Registry.builtIn scanning).scan templatePath text).state
    ∃ outputPath, s.outputPath = some outputPath ∧
      (∀ m before literal after, s.region m = before ++ .literal literal :: after →
        ∃ run, Grammar.Wrote scanning templatePath text m before run ∧
          program = (Program.inFront writing outputPath s before m ++ writing.indent
            ++ writing.writerName ++ ".Write(") ++ "@\"" ++ literal ++ "\");\n"
            ++ Program.behind writing s after m ∧
          ∀ rest, Verbatim.read (literal ++ "\");\n" ++ rest) = some (run.text, ");\n" ++ rest)) ∧
      ∃ rest, program = Program.usingLines s.usings ++ Program.header writing
          ++ Program.entryOpening writing ++ Verbatim.escape outputPath ++ "\")) \x7b\n" ++ rest ∧
        Verbatim.read (Verbatim.escape outputPath ++ "\")) \x7b\n" ++ rest)
          = some (outputPath, ")) \x7b\n" ++ rest) := by
  intro s
  rw [Registry.ending_scan] at hcomplete
  obtain ⟨es, hlaid, hprinted, hitems⟩ := Cursor.exists_wellLaid_of_readItems hcomplete
  rw [Cursor.pending_start] at hprinted
  have hstate : s = effects scanning { templatePath } es := by
    rw [← Registry.state_applyItems_builtIn scanning _ _ es, ← hitems]
    rfl
  obtain ⟨outputPath, hpath, rfl⟩ := ScanState.program_eq_ok hprogram
  refine ⟨outputPath, hpath, fun m before literal after hregion => ?_, ?_⟩
  · rw [hstate] at hregion
    obtain ⟨front, run, back, rfl, hmode, hfront, rfl⟩ :=
      Grammar.exists_run_of_literal scanning (by cases m <;> simp [ScanState.region]) hregion
    refine ⟨run, ⟨front, back, hlaid, hprinted, hmode, hfront⟩, ?_, fun rest => ?_⟩
    · rw [← hstate] at hregion
      exact Program.text_eq_of_literal writing outputPath hregion
    · have hclosing : "\");\n" = "\"" ++ ");\n" := rfl
      rw [hclosing, String.append_assoc, String.append_assoc]
      exact Verbatim.read_escape run.text (by simp)
  · have hclosing : "\")) \x7b\n" = "\"" ++ ")) \x7b\n" := rfl
    obtain ⟨rest, hrest⟩ := Program.exists_text_eq writing outputPath s
    refine ⟨rest, hrest, ?_⟩
    rw [hclosing, String.append_assoc, String.append_assoc]
    exact Verbatim.read_escape outputPath (by simp)

-- Quotes next to the delimiters, in the other region, and in the output path.
theorem read_literals_of_quotes :
    let text := "\"b\"\"<#@output extension=\"c\"#><#+ d #>e\""
    let s := ((Registry.builtIn {}).scan "\"a\".tt" text).state
    ∃ program, s.program {} = .ok program ∧
      s.region .classFeature = [.raw " d "] ++ .literal "e\"\"" :: [] ∧
      ∃ run, Grammar.Wrote {} "\"a\".tt" text .classFeature [.raw " d "] run ∧
        program = (Program.inFront {} "\"a\".c" s [.raw " d "] .classFeature ++ Settings.indent {}
          ++ Settings.writerName {} ++ ".Write(") ++ "@\"" ++ "e\"\"" ++ "\");\n"
          ++ Program.behind {} s [] .classFeature ∧
        ∀ rest, Verbatim.read ("e\"\"" ++ "\");\n" ++ rest) = some (run.text, ");\n" ++ rest) := by
  intro text s
  have hcomplete : ((Registry.builtIn {}).scan "\"a\".tt" text).ending = .complete := by
    decide +kernel
  have hpath : s.outputPath = some "\"a\".c" := by decide +kernel
  have hfeatures : s.region .classFeature = [.raw " d "] ++ .literal "e\"\"" :: [] := by
    decide +kernel
  have hprogram : s.program {} = .ok (Program.text {} "\"a\".c" s) := by
    simp only [ScanState.program, hpath]
  obtain ⟨outputPath, hpath', hread, -⟩ := read_literals_of_program {} {} hcomplete hprogram
  obtain rfl := Option.some.inj (hpath.symm.trans hpath')
  exact ⟨_, hprogram, hfeatures, hread .classFeature _ _ _ hfeatures⟩

end Stencil
