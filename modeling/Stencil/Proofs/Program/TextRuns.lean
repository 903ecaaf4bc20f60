import Stencil.Proofs.Program.Literals
import Stencil.Proofs.Template.Composition
import Stencil.Proofs.Template.Prose

/-!
# Texts in generated programs

The text of a template without code survives in the program.  Whoever reads the entry routine
instruction by instruction up to its end reads the runs of the template, in order, whatever the text
looks like: no run can be taken for the end of its instruction or of the routine.

## Main definitions

* `Program.readWrites` — the texts that the instructions of the entry routine write.

## Main results

* `Program.readWrites_regionText` — instructions that write texts are read back.
* `read_runs_of_program` — **the entry routine of a template without code is read back.**
-/

namespace Stencil

open Grammar (Prose WellLaid printed effects itemsFrom literals)

namespace Program

/-! ### Reading the entry routine -/

/-- What stands in front of the text in an instruction that writes it. -/
def writeOpening : List Char := "        _writer.Write(@\"".toList

/-- What stands behind the closing quote in an instruction that writes a text. -/
def writeClosing : List Char := ");\n".toList

/-- The end of the entry routine. -/
def entryClosing : List Char := "    \x7d\x7d\n".toList

/-- The text that one instruction writes, and what stands behind the instruction. -/
def readWrite (s : List Char) : Option (List Char × List Char) := do
  let inside ← s.dropPrefix? writeOpening
  let (run, behind) ← Verbatim.readChars inside
  let rest ← behind.dropPrefix? writeClosing
  return (run, rest)

theorem length_le_of_dropPrefix? {s p rest : List Char} (h : s.dropPrefix? p = some rest) :
    rest.length ≤ s.length := by
  obtain ⟨p', rfl, -⟩ := List.dropPrefix?_eq_some_iff.mp h
  simp

theorem length_lt_of_readWrite {s run rest : List Char} (h : readWrite s = some (run, rest)) :
    rest.length < s.length := by
  simp only [readWrite, Option.bind_eq_bind, Option.bind_eq_some_iff, Option.pure_def,
    Option.some.injEq, Prod.mk.injEq, Prod.exists] at h
  obtain ⟨inside, hinside, run', behind, hbehind, rest', hrest, rfl, rfl⟩ := h
  have := length_le_of_dropPrefix? hinside
  have := Verbatim.length_lt_of_readChars hbehind
  have := length_le_of_dropPrefix? hrest
  simp only at *
  omega

/-- The texts that instructions write, one behind the other up to the end of the entry routine, and
what stands behind that; nothing if anything else stands there. -/
def readWrites (s : List Char) : Option (List (List Char) × List Char) :=
  match s.dropPrefix? entryClosing with
  | some rest => some ([], rest)
  | none =>
    match _h : readWrite s with
    | none => none
    | some (run, rest) => (readWrites rest).map fun r => (run :: r.1, r.2)
termination_by s.length
decreasing_by exact length_lt_of_readWrite _h

theorem readWrites_entryClosing (rest : List Char) :
    readWrites (entryClosing ++ rest) = some ([], rest) := by
  rw [readWrites, List.dropPrefix?_append_of_beq rest BEq.rfl]

theorem readWrites_of_readWrite {s run rest : List Char} (hs : s.dropPrefix? entryClosing = none)
    (h : readWrite s = some (run, rest)) :
    readWrites s = (readWrites rest).map fun r => (run :: r.1, r.2) := by
  rw [readWrites, hs]
  simp only
  split <;> simp_all

/-! ### Reading back -/

/-- An instruction that writes a text, read back with anything behind it. -/
theorem readWrite_escapeChars (run rest : List Char) :
    readWrite (writeOpening ++ (Verbatim.escapeChars run ++ '"' :: (writeClosing ++ rest))) =
      some (run, rest) := by
  have hread : Verbatim.readChars (Verbatim.escapeChars run ++ '"' :: (writeClosing ++ rest)) =
      some (run, writeClosing ++ rest) :=
    Verbatim.readChars_escapeChars run (by simp [writeClosing])
  simp [readWrite, List.dropPrefix?_append_of_beq, hread]

theorem toList_render_literal (run : List Char) :
    (Fragment.render (Settings.writerName {}) (Settings.indent {})
        (.literal (Verbatim.escape (String.ofList run)))).toList =
      writeOpening ++ (Verbatim.escapeChars run ++ '"' :: writeClosing) := by
  have hopening : "        ".toList ++ "_writer".toList ++ ".Write(@\"".toList = writeOpening := by
    decide
  have hclosing : "\");\n".toList = '"' :: writeClosing := by decide
  simp only [Fragment.render, String.toList_append, Verbatim.toList_escape]
  rw [hclosing, ← hopening]
  simp

/-- **Instructions that write texts are read back,** whatever the texts look like and whatever
stands behind the end of the routine. -/
theorem readWrites_regionText (runs : List (List Char)) (rest : List Char) :
    readWrites ((regionText {} (literals runs)).toList ++ (entryClosing ++ rest)) =
      some (runs, rest) := by
  induction runs with
  | nil => exact readWrites_entryClosing rest
  | cons run runs ih =>
    have hcons : (regionText {} (literals (run :: runs))).toList ++ (entryClosing ++ rest) =
        writeOpening ++ (Verbatim.escapeChars run ++ '"' :: (writeClosing ++
          ((regionText {} (literals runs)).toList ++ (entryClosing ++ rest)))) := by
      rw [literals, List.map_cons, regionText_cons, String.toList_append, toList_render_literal]
      simp [literals]
    -- the routine does not end here: four blanks more stand in front of an instruction
    have hnone : ∀ t, (writeOpening ++ t).dropPrefix? entryClosing = none := fun _ => rfl
    rw [hcons, readWrites_of_readWrite (hnone _) (readWrite_escapeChars run _), ih]
    rfl

/-- A program around its entry routine. -/
theorem text_eq_of_script (settings : Settings) (outputPath : String) (s : ScanState) :
    text settings outputPath s = usingLines s.usings ++ header settings ++ entryOpening settings
      ++ Verbatim.escape outputPath ++ "\")) \x7b\n" ++ (regionText settings s.script
        ++ "    \x7d\x7d\n" ++ (features settings s.classFeature ++ footer settings)) := by
  simp only [text, entryRoutine, String.append_assoc]

end Program

/-! ### Elements and items -/

namespace Grammar

/-- If all code that is read is text, no element is code. -/
theorem isPlain_of_items {p : Position} {es : List Element}
    (h : ∀ b, Item.block b ∈ itemsFrom p es → b.kind = .text) : ∀ el ∈ es, el.IsPlain := by
  intro el hel
  obtain ⟨line, hline⟩ := exists_item_mem_itemsFrom p hel
  cases el with
  | text run => trivial
  | block b gap =>
    cases b with
    | directive d => trivial
    | control body plain => cases h _ hline
    | expression body => cases h _ hline
    | classFeature body => cases h _ hline

/-- A directive with an extension settles the output path. -/
theorem exists_outputPath (settings : Settings) (templatePath : String) {p : Position}
    {es : List Element} {d : Stencil.Directive} {value : String}
    (h : Item.directive d ∈ itemsFrom p es) (hname : d.name = "output")
    (hvalue : ("extension", value) ∈ d.properties) :
    ∃ path, (effects settings { templatePath } es).outputPath = some path := by
  have hmem : value ∈ values "output" "extension" es := by
    obtain ⟨el, hel, line, hitem⟩ := exists_mem_of_mem_itemsFrom h
    refine List.mem_flatMap.mpr ⟨el, hel, ?_⟩
    cases el with
    | text run => cases hitem
    | block b gap =>
      cases b with
      | directive g =>
        obtain rfl := Item.directive.inj hitem
        have hname : g.name.text = "output" := hname
        obtain ⟨property, hproperty, hpair⟩ := List.mem_map.mp hvalue
        obtain ⟨hkey, hvalue⟩ := Prod.mk.inj hpair
        rw [Element.values, if_pos hname]
        exact List.mem_map.mpr
          ⟨property, List.mem_filter.mpr ⟨hproperty, decide_eq_true hkey⟩, hvalue⟩
      | _ => cases hitem
  obtain ⟨first, others, hvalues⟩ := List.exists_cons_of_ne_nil (List.ne_nil_of_mem hmem)
  rw [outputPath_effects, hvalues]
  exact ⟨_, rfl⟩

end Grammar

/-- **The entry routine of a template without code is read back.**  The template is a stretch of
text and directives with text behind each of them.  There is a program of its scan, and whoever
reads it from behind the opening of the entry routine, instruction by instruction, reads the runs of
the template and stops behind the end of the routine.  So templates with other runs have other entry
routines. -/
theorem read_runs_of_program {templatePath text : String}
    (hcomplete : ((Registry.builtIn {}).scan templatePath text).ending = .complete)
    (hplain : ∀ b, Item.block b ∈ ((Cursor.start text).readItems none).items → b.kind = .text)
    (houtput : ∃ d value, Item.directive d ∈ ((Cursor.start text).readItems none).items ∧
      d.name = "output" ∧ ("extension", value) ∈ d.properties) :
    let s := ((Registry.builtIn {}).scan templatePath text).state
    ∃ outputPath behind, s.outputPath = some outputPath ∧
      s.program {} = .ok (Program.usingLines s.usings ++ Program.header {}
        ++ Program.entryOpening {} ++ Verbatim.escape outputPath ++ "\")) \x7b\n"
        ++ (Program.regionText {} s.script ++ "    \x7d\x7d\n" ++ behind)) ∧
      (∃ t : Prose, t.print = text.toList) ∧
      ∀ t : Prose, t.print = text.toList →
        Program.readWrites (Program.regionText {} s.script ++ "    \x7d\x7d\n" ++ behind).toList =
          some (t.runs, behind.toList) ∧
        ∀ (templatePath' : String) (t' : Prose), t'.runs ≠ t.runs →
          Program.regionText {} ((Registry.builtIn {}).scan templatePath'
              (String.ofList t'.print)).state.script ≠
            Program.regionText {} s.script := by
  intro s
  have hscript : ∀ (templatePath : String) (t : Prose),
      ((Registry.builtIn {}).scan templatePath (String.ofList t.print)).state.script =
        literals t.runs := by
    intro templatePath t
    rw [← t.printed_elements, (scan_printed {} templatePath t.wellLaid_elements).2]
    exact t.script_effects {} rfl
  have hread : ∀ (t : Prose) (behind : String),
      Program.readWrites (Program.regionText {} (literals t.runs) ++ "    \x7d\x7d\n"
        ++ behind).toList = some (t.runs, behind.toList) := by
    intro t behind
    have hclosing : "    \x7d\x7d\n".toList = Program.entryClosing := rfl
    rw [String.toList_append, String.toList_append, hclosing, List.append_assoc]
    exact Program.readWrites_regionText t.runs behind.toList
  rw [Registry.ending_scan] at hcomplete
  obtain ⟨es, hlaid, hprinted, hitems⟩ := Cursor.exists_wellLaid_of_readItems hcomplete
  rw [Cursor.pending_start] at hprinted
  rw [hitems] at hplain houtput
  obtain ⟨outputPath, hpath⟩ : ∃ path, s.outputPath = some path := by
    obtain ⟨d, value, hd, hname, hvalue⟩ := houtput
    have hstate : s = effects {} { templatePath } es := by
      rw [← Registry.state_applyItems_builtIn {} _ _ es, ← hitems]
      rfl
    rw [hstate]
    exact Grammar.exists_outputPath {} templatePath hd hname hvalue
  obtain ⟨t, ht⟩ := Grammar.exists_prose hlaid (Grammar.isPlain_of_items hplain)
  refine ⟨outputPath, Program.features {} s.classFeature ++ Program.footer {}, hpath, ?_,
    ⟨t, ht.trans hprinted⟩, fun t ht => ?_⟩
  · simp only [ScanState.program, hpath]
    exact congrArg _ (Program.text_eq_of_script {} outputPath s)
  · have htext : text = String.ofList t.print := by
      rw [ht, String.ofList_toList]
    have hruns : s.script = literals t.runs := by
      rw [← hscript templatePath t, ← htext]
    rw [hruns]
    refine ⟨hread t _, fun templatePath' t' hne hsame => hne ?_⟩
    -- one reader reads both regions
    rw [hscript] at hsame
    have hboth := hread t' ""
    rw [hsame, hread t ""] at hboth
    exact (Prod.mk.inj (Option.some.inj hboth)).1.symm

-- Text that looks like the end of an instruction and of the routine, in front of a marker, and
-- blanks between two directives.
theorem read_runs_of_imitation :
    let text := "\");\n    \x7d\x7d\n<<#@ output extension=\"c\" #> \n<#@ t #> \"b"
    let s := ((Registry.builtIn {}).scan "a.tt" text).state
    ∃ behind,
      s.program {} = .ok (Program.usingLines s.usings ++ Program.header {}
        ++ Program.entryOpening {} ++ "a.c" ++ "\")) \x7b\n"
        ++ (Program.regionText {} s.script ++ "    \x7d\x7d\n" ++ behind)) ∧
      Program.readWrites (Program.regionText {} s.script ++ "    \x7d\x7d\n" ++ behind).toList =
        some (["\");\n    \x7d\x7d\n<".toList, "\"b".toList], behind.toList) := by
  intro text s
  obtain ⟨hcomplete, hpath, hitems⟩ :
      ((Registry.builtIn {}).scan "a.tt" text).ending = .complete ∧ s.outputPath = some "a.c" ∧
        ((Cursor.start text).readItems none).items =
          [.block ⟨.text, "\"\");\n    \x7d\x7d\n<", 1⟩,
            .directive ⟨"output", [("extension", "c")], 3⟩, .directive ⟨"t", [], 4⟩,
            .block ⟨.text, "\"\"b", 4⟩] := by
    decide +kernel
  have hplain : ∀ b, Item.block b ∈ ((Cursor.start text).readItems none).items →
      b.kind = .text := by
    rw [hitems]
    intro b hb
    simp only [List.mem_cons, Item.block.injEq, reduceCtorEq, List.not_mem_nil, false_or,
      or_false] at hb
    rcases hb with rfl | rfl <;> rfl
  have houtput : ∃ d value, Item.directive d ∈ ((Cursor.start text).readItems none).items ∧
      d.name = "output" ∧ ("extension", value) ∈ d.properties :=
    ⟨⟨"output", [("extension", "c")], 3⟩, "c", by simp [hitems], rfl, by simp⟩
  let t : Prose :=
    { opening := ⟨"\");\n    \x7d\x7d\n<".toList, by decide⟩
      sections :=
        [({ beforeName := ⟨[' '], List.all_eq_true.mp rfl⟩
            name := ⟨"output".toList, List.all_eq_true.mp (by decide)⟩
            behindName := ⟨[' '], List.all_eq_true.mp rfl⟩
            properties :=
              [{ key := ⟨"extension".toList, List.all_eq_true.mp (by decide)⟩
                 named := by decide
                 beforeEquals := ⟨[], by simp⟩
                 behindEquals := ⟨[], by simp⟩
                 value := ⟨['c'], by simp⟩
                 behind := ⟨[' '], List.all_eq_true.mp rfl⟩ }]
            apart := fun _ => ⟨by decide, by decide⟩ }, ⟨" \n".toList, by decide⟩),
         ({ beforeName := ⟨[' '], List.all_eq_true.mp rfl⟩
            name := ⟨['t'], List.all_eq_true.mp (by decide)⟩
            behindName := ⟨[' '], List.all_eq_true.mp rfl⟩
            properties := []
            apart := fun h => absurd rfl h }, ⟨" \"b".toList, by decide⟩)] }
  have hruns : t.runs = ["\");\n    \x7d\x7d\n<".toList, "\"b".toList] := by decide
  obtain ⟨outputPath, behind, hpath', hprogram, -, hread⟩ :=
    read_runs_of_program hcomplete hplain houtput
  obtain rfl := Option.some.inj (hpath.symm.trans hpath')
  refine ⟨behind, hprogram, ?_⟩
  rw [← hruns]
  exact (hread t (by decide)).1

end Stencil
