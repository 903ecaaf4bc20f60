import Stencil.Proofs.CommandLine.Stages
import Stencil.Proofs.Encoding.Chunks
import Stencil.Proofs.Files.Atomic
import Stencil.Proofs.Program.Literals
import Stencil.Proofs.Template.ItemRuns
import Stencil.Proofs.Template.OutputPath

/-!
# Template files

A template file that holds a text is scanned as the text is, and the program that is written is the
program of that scan.

## Main definitions

* `FileTree.Opens` — a template can be opened, with its bytes and its encoding.
* `ScanState.InFile` — the program of a state is in a file.

## Main results

* `FileTree.scanFile_of_spells` — the scan of a file that holds a text.
* `files_agree_with_texts` — **files and texts agree**, for scans, transformations and command
  lines.
-/

namespace Stencil

namespace FileTree

/-- The template at a path can be opened: a file with these bytes is there, and the settings name
this encoding, which may be one that the host has a codec for. -/
structure Opens (t : FileTree) (settings : Settings) (template : String) (encoding : Encoding)
    (bytes : Bytes) (codecs : Codecs := .none) : Prop where
  /-- The path is one that files have. -/
  path : holdsNull template = false
  /-- The file is there. -/
  file : t.readFile template = .ok bytes
  /-- The name of the encoding is one that is looked up. -/
  name : holdsNull settings.sourceEncoding = false
  /-- The name is that of the encoding. -/
  encoding : Encoding.ofName? settings.sourceEncoding codecs = some encoding

variable {t : FileTree} {settings : Settings} {template text : String} {encoding : Encoding}
  {bytes : Bytes} {codecs : Codecs}

/-- A template that can be read is opened with the usual settings. -/
theorem opens_of_readFile (hpath : holdsNull template = false)
    (hfile : t.readFile template = .ok bytes) : t.Opens {} template .utf8Marked bytes :=
  ⟨hpath, hfile, by decide, Encoding.ofName?_of_standard (by decide +kernel) .none⟩

theorem Opens.readSource_eq (h : t.Opens settings template encoding bytes codecs) :
    t.readSource settings template codecs = .ok (encoding.decode bytes) := by
  simp only [readSource, h.name, h.path, h.file, h.encoding, Bool.false_eq_true, if_false]

/-- A file that holds a text is scanned as the text is. -/
theorem scanFile_of_spells (h : t.Opens settings template encoding bytes codecs)
    (hspells : encoding.Spells bytes text.toList) :
    let scan := (Registry.builtIn settings).scan template text
    t.scanFile settings template codecs =
      { result := scan.result template, tree := t,
        events := .scanning template :: scan.events } := by
  have hsource : t.readSource settings template codecs = .ok { text := text.toList } := by
    rw [h.readSource_eq, Encoding.decode_eq_iff.2 hspells]
  simp only [scanFile, hsource]
  split
  · next h => cases h
  · rfl

end FileTree

/-- The program of a state is in the file at a path, in the encoding of programs. -/
def ScanState.InFile (settings : Settings) (t : FileTree) (path : String) (s : ScanState)
    (codecs : Codecs := .none) : Prop :=
  ∃ program bytes, s.program settings = .ok program ∧
    FileTree.encodeProgram settings.programEncoding program codecs = .ok bytes ∧
    t.readFile (Path.ofString path).toString = .ok bytes

/-- A transformation that succeeds leaves the program of its scan in its file. -/
theorem FileTree.inFile_of_transform {t : FileTree} {settings : Settings} {codecs : Codecs}
    {template programPath : String} {summary : Summary}
    (h : (t.transform settings template programPath codecs).result = .ok summary) :
    ∃ s, (t.scanFile settings template codecs).result = .ok s ∧
      s.InFile settings (t.transform settings template programPath codecs).tree programPath
        codecs := by
  rcases t.transform_cases settings codecs template programPath with
    ⟨failure, hresult, -⟩ | ⟨summary', s, program, bytes, -, hscan, hprogram, hencode, hreplaced⟩
  · rw [hresult] at h
    cases h
  · exact ⟨s, hscan, program, bytes, hprogram, hencode, hreplaced.readFile_eq⟩

theorem Scan.eq_state_of_result {scan : Scan} {template : String} {s : ScanState}
    (h : scan.result template = .ok s) : s = scan.state := by
  unfold result at h
  split at h
  · cases h
    rfl
  · cases h
  · cases h

/-- A program has an output path, and that of a scan is made from its template's path. -/
theorem Registry.outputPath_of_program {settings writing : Settings} {template text : String}
    {s : ScanState} {program : String}
    (h : ((builtIn settings).scan template text).result template = .ok s)
    (hprogram : s.program writing = .ok program) :
    ∃ extension, s.outputPath = some (settings.outputPath template extension) := by
  obtain ⟨outputPath, hpath, -⟩ := ScanState.program_eq_ok hprogram
  have hderived : s.Derived settings template := by
    rw [Scan.eq_state_of_result h]
    exact derived_scanSource (builtIn settings) template { text := text.toList }
  obtain ⟨extension, rfl⟩ := hderived.2 outputPath hpath
  exact ⟨extension, hpath⟩

theorem FileTree.encodeProgram_utf8 (program : String) :
    encodeProgram "utf-8" program = .ok (Utf8.encode program.toList) := by
  have hname : holdsNull "utf-8" = false := by decide
  have hencoding : Encoding.ofName? "utf-8" = some .utf8 :=
    Encoding.ofName?_of_standard (by decide +kernel) .none
  rw [encodeProgram, hname, hencoding]
  rfl

/-- **Files and texts agree,** whatever codecs the host has.  Let a template file hold the bytes of
a text, with a byte-order mark in front of them or without one.  The scan of the file has the
outcome of the scan of the text, and whenever a transformation succeeds, the program of that scan is
in the program's file.  The same is true of a command line with two arguments, where the output path
is made from the first argument as it was given. -/
theorem files_agree_with_texts {t : FileTree} {settings : Settings} {codecs : Codecs}
    {template text : String} {bytes : Bytes}
    (h : t.Opens settings template .utf8Marked bytes codecs)
    (hbytes : bytes = Encoding.mark ++ Utf8.encode text.toList ∨
      bytes = Utf8.encode text.toList ∧ text.toList.head? ≠ some '\uFEFF') :
    let scan := (Registry.builtIn settings).scan template text
    let scanned := t.scanFile settings template codecs
    (scanned.result = scan.result template ∧ scanned.events = .scanning template :: scan.events ∧
      ∀ flaw, scan.ending ≠ .unreadable flaw) ∧
    (∀ programPath summary,
      (t.transform settings template programPath codecs).result = .ok summary →
      ∃ s, scan.result template = .ok s ∧
        s.InFile settings (t.transform settings template programPath codecs).tree programPath
          codecs) ∧
    ∀ programPath, (Command.run {} [template, programPath] t).result = .ok () →
      ∃ s extension program,
        ((Registry.builtIn {}).scan template text).result template = .ok s ∧
        s.outputPath = some (({} : Settings).outputPath template extension) ∧
        s.program {} = .ok program ∧
        (Command.run {} [template, programPath] t).tree.readFile
          (Path.ofString programPath).toString = .ok (Utf8.encode program.toList) := by
  intro scan scanned
  have hspells : Encoding.utf8Marked.Spells bytes text.toList :=
    hbytes.elim .inl fun hplain => .inr (.inl hplain)
  have hscan : scanned = _ := FileTree.scanFile_of_spells h hspells
  refine ⟨⟨?_, ?_, Registry.ending_scan_ne_unreadable _ _ _⟩, ?_, ?_⟩
  · rw [hscan]
  · rw [hscan]
  · intro programPath summary hsummary
    obtain ⟨s, hs, hfile⟩ := FileTree.inFile_of_transform hsummary
    exact ⟨s, by rw [← hs]; exact congrArg FileRun.result hscan.symm, hfile⟩
  · intro programPath hrun
    have hopens := FileTree.opens_of_readFile h.path h.file
    obtain ⟨⟨summary, hsummary⟩, htree⟩ := Command.run_pair_eq_ok hrun
    obtain ⟨s, hs, program, encoded, hprogram, hencode, hfile⟩ :=
      FileTree.inFile_of_transform hsummary
    rw [FileTree.scanFile_of_spells hopens hspells] at hs
    obtain ⟨extension, hpath⟩ := Registry.outputPath_of_program hs hprogram
    rw [FileTree.encodeProgram_utf8] at hencode
    cases hencode
    refine ⟨s, extension, program, hs, hpath, hprogram, ?_⟩
    rw [htree]
    exact hfile

-- Both paths are given in another form than their normal one, and only the first shows in the
-- output path.
theorem files_agree_with_texts_marked :
    let text := "<#@ output extension=\"é\" #>é\r\n"
    let t : FileTree :=
      { workingDirectory := ["d"]
        entries := [(["d"], .directory),
          (["d", "a.tt"], .file (Encoding.mark ++ Utf8.encode text.toList))] }
    let scan := (Registry.builtIn {}).scan ".//a.tt" text
    let transformed := t.transform {} ".//a.tt" "./b.cs/"
    let command := Command.run {} [".//a.tt", "./b.cs/"] t
    (t.scanFile {} ".//a.tt").result = scan.result ".//a.tt" ∧
      transformed.result = .ok ⟨"./b.cs/", some ".//a.é", [], 1, 0⟩ ∧
      (∃ s, scan.result ".//a.tt" = .ok s ∧ s.InFile {} transformed.tree "./b.cs/") ∧
      command.result = .ok () ∧
      ∃ s extension program, scan.result ".//a.tt" = .ok s ∧
        s.outputPath = some (({} : Settings).outputPath ".//a.tt" extension) ∧
        s.program {} = .ok program ∧
        command.tree.readFile "b.cs" = .ok (Utf8.encode program.toList) := by
  intro text t scan transformed command
  have hopens : t.Opens {} ".//a.tt" .utf8Marked (Encoding.mark ++ Utf8.encode text.toList) :=
    FileTree.opens_of_readFile (by decide) (by decide +kernel)
  obtain ⟨hscan, htransform, hcommand⟩ := files_agree_with_texts hopens (.inl rfl)
  have hresult : transformed.result = .ok ⟨"./b.cs/", some ".//a.é", [], 1, 0⟩ := by
    decide +kernel
  have hrun : command.result = .ok () := by
    decide +kernel
  have hpath : (Path.ofString "./b.cs/").toString = "b.cs" := by decide +kernel
  have hfile := hcommand "./b.cs/" hrun
  rw [hpath] at hfile
  exact ⟨hscan.1, hresult, htransform "./b.cs/" _ hresult, hrun, hfile⟩

end Stencil
