import Stencil.Proofs.Files.TemplateFile
import Stencil.Proofs.Template.FlawedSource

/-!
# Template files that are no text

A template file may hold bytes that are no text in its encoding.  Its scan fails, and so does its
transformation; what comes of it depends on how far the scan gets.  If it gives up in front of the
flaw, that is the failure.  If it gets there, the template cannot be read.  But the first character
is looked at before the scan begins, and if there is none in front of the flaw, the failure is not
one that is expected of a transformation; nor is it if a codec of the host gives up without finding
the flaw.

## Main results

* `scanFile_of_undecodable` — the ways in which the scan of such a file fails.
-/

namespace Stencil

namespace FileTree

variable {t : FileTree} {settings : Settings} {template : String} {encoding : Encoding}
  {bytes : Bytes} {codecs : Codecs}

/-- No character stands in front of the flaw. -/
theorem scanFile_of_flaw_in_front (h : t.Opens settings template encoding bytes codecs)
    {flaw : DecodeFault} (hflaw : (encoding.decode bytes).fault = some flaw)
    (htext : (encoding.decode bytes).text = []) :
    (t.scanFile settings template codecs).result = .error (.undecodable flaw) := by
  simp only [scanFile, h.readSource_eq]
  rw [htext, hflaw]

/-- Behind its first character, a template is scanned up to the flaw. -/
theorem scanFile_of_flaw_behind (h : t.Opens settings template encoding bytes codecs)
    (htext : (encoding.decode bytes).text ≠ []) :
    (t.scanFile settings template codecs).result =
      ((Registry.builtIn settings).scanSource template (encoding.decode bytes)).result
        template := by
  simp only [scanFile, h.readSource_eq]
  split
  · next hnil _ => exact absurd hnil htext
  · rfl

/-- A transformation fails as its scan does. -/
theorem transform_of_scanFile {failure : Failure}
    (h : (t.scanFile settings template codecs).result = .error failure) (programPath : String) :
    (t.transform settings template programPath codecs).result = .error failure := by
  simp only [transform, h]

end FileTree

theorem Scan.result_of_broken {scan : Scan} {fault : SyntaxFault}
    (h : scan.ending = .broken fault) (template : String) :
    scan.result template = .error (.expected (.malformed (fault.within template))) := by
  rw [result, h]

theorem Scan.result_of_unreadable {scan : Scan} {flaw : DecodeFault}
    (h : scan.ending = .unreadable flaw) (template : String) :
    scan.result template = .error (flaw.failure template) := by
  rw [result, h]

/-- **A file that is no text fails in one of three ways,** in every encoding.  Let `scan` be the
scan of the characters that stand in front of the flaw.  If there are none, the failure is a bare
flaw.  Otherwise, if the scan gives up before it gets to the last of them, the failure is its own,
as is expected of a transformation.  If it gets there, the template cannot be read; this too is
expected of a transformation, unless a codec of the host gives up without finding the flaw. -/
theorem scanFile_of_undecodable {t : FileTree} {settings : Settings} {template : String}
    {encoding : Encoding} {bytes : Bytes} {codecs : Codecs}
    (h : t.Opens settings template encoding bytes codecs)
    (hbytes : ∀ s, ¬encoding.Spells bytes s) :
    let source := encoding.decode bytes
    let scan := (Registry.builtIn settings).scan template (String.ofList source.text)
    let scanned := t.scanFile settings template codecs
    ∃ flaw, source.fault = some flaw ∧
      (source.text = [] → scanned.result = .error (.undecodable flaw)) ∧
      (source.text ≠ [] → scan.cursor.ahead = [] →
        (flaw.isLocated = true →
          scanned.result = .error (.expected (.unreadable template (some flaw.message)))) ∧
        (flaw.isLocated = false → scanned.result = .error (.undecodable flaw))) ∧
      (source.text ≠ [] → scan.cursor.ahead ≠ [] → ∃ fault, scan.ending = .broken fault ∧
        scanned.result = .error (.expected (.malformed (fault.within template)))) ∧
      (∀ standard, encoding = .standard standard → flaw.isLocated = true) ∧
      ∀ programPath, ∃ failure, scanned.result = .error failure ∧
        (t.transform settings template programPath codecs).result = .error failure := by
  intro source scan scanned
  obtain ⟨flaw, hflaw⟩ : ∃ flaw, source.fault = some flaw := by
    rw [← Option.ne_none_iff_exists']
    intro hnone
    obtain ⟨s, hs⟩ := Encoding.fault_eq_none_iff.1 hnone
    exact hbytes s hs
  have hfront : source.text = [] → scanned.result = .error (.undecodable flaw) :=
    FileTree.scanFile_of_flaw_in_front h hflaw
  have hending : ((Registry.builtIn settings).scanSource template source).ending =
      if scan.cursor.ahead = [] then .unreadable flaw else scan.ending := by
    have hsource : source = { text := source.text, fault := some flaw } := by rw [← hflaw]
    rw [hsource]
    exact Registry.ending_scanSource_flaw _ _ _ _
  have hmet : source.text ≠ [] → scan.cursor.ahead = [] →
      scanned.result = .error (flaw.failure template) := by
    intro htext hahead
    rw [if_pos hahead] at hending
    exact (FileTree.scanFile_of_flaw_behind h htext).trans
      (Scan.result_of_unreadable hending template)
  have hgiven : source.text ≠ [] → scan.cursor.ahead ≠ [] → ∃ fault, scan.ending = .broken fault ∧
      scanned.result = .error (.expected (.malformed (fault.within template))) := by
    intro htext hahead
    obtain ⟨fault, hbroken⟩ := Registry.exists_broken_of_ahead hahead
    rw [if_neg hahead, hbroken] at hending
    exact ⟨fault, hbroken, (FileTree.scanFile_of_flaw_behind h htext).trans
      (Scan.result_of_broken hending template)⟩
  have hstandard : ∀ standard, encoding = .standard standard → flaw.isLocated = true := by
    rintro standard rfl
    exact StandardEncoding.isLocated_of_decodeChunks hflaw
  refine ⟨flaw, hflaw, hfront, fun htext hahead => ⟨fun hlocated => ?_, fun hlocated => ?_⟩, hgiven,
    hstandard, fun programPath => ?_⟩
  · rw [hmet htext hahead, DecodeFault.failure, if_pos hlocated]
  · rw [hmet htext hahead, DecodeFault.failure, hlocated, if_neg Bool.false_ne_true]
  have hfails : ∃ failure, scanned.result = .error failure := by
    by_cases htext : source.text = []
    · exact ⟨_, hfront htext⟩
    by_cases hahead : scan.cursor.ahead = []
    · exact ⟨_, hmet htext hahead⟩
    · obtain ⟨fault, -, hresult⟩ := hgiven htext hahead
      exact ⟨_, hresult⟩
  obtain ⟨failure, hresult⟩ := hfails
  exact ⟨failure, hresult, FileTree.transform_of_scanFile hresult programPath⟩

-- Three files that end in a flaw: in their one chunk, where it hides the characters in front of it;
-- and behind that chunk, where the scan gets to it or gives up.
theorem scanFile_of_three_flaws :
    let t (bytes : Bytes) : FileTree :=
      { workingDirectory := ["d"]
        entries := [(["d"], .directory), (["d", "a.tt"], .file bytes)] }
    (∃ flaw, ((t [0x61, 0xFF]).scanFile {} "a.tt").result = .error (.undecodable flaw)) ∧
      (∃ flaw, ((t [0x61, 0x62, 0xC3]).scanFile {} "a.tt").result =
        .error (.expected (.unreadable "a.tt" (some flaw)))) ∧
      ∃ fault, ((t (Utf8.encode "<#@ 1 #>".toList ++ [0xC3])).scanFile {} "a.tt").result =
        .error (.expected (.malformed fault)) := by
  intro t
  have hopens : ∀ bytes, (t bytes).readFile "a.tt" = .ok bytes →
      (t bytes).Opens {} "a.tt" .utf8Marked bytes :=
    fun _ hfile => FileTree.opens_of_readFile (by decide) hfile
  have hflawed : ∀ bytes, (Encoding.utf8Marked.decode bytes).fault ≠ none →
      ∀ s, ¬Encoding.utf8Marked.Spells bytes s :=
    fun bytes hfault s hs => hfault (Encoding.fault_eq_none_iff.2 ⟨s, hs⟩)
  obtain ⟨flaw, -, hfront, -⟩ := scanFile_of_undecodable (hopens [0x61, 0xFF] (by decide +kernel))
    (hflawed _ (by decide +kernel))
  obtain ⟨flaw', -, -, hmet, -, hstandard, -⟩ := scanFile_of_undecodable
    (hopens [0x61, 0x62, 0xC3] (by decide +kernel)) (hflawed _ (by decide +kernel))
  obtain ⟨flaw'', -, -, -, hgiven, -⟩ := scanFile_of_undecodable
    (hopens (Utf8.encode "<#@ 1 #>".toList ++ [0xC3]) (by decide +kernel))
    (hflawed _ (by decide +kernel))
  obtain ⟨fault, -, hfault⟩ := hgiven (by decide +kernel) (by decide +kernel)
  exact ⟨⟨flaw, hfront (by decide +kernel)⟩,
    ⟨flaw'.message, (hmet (by decide +kernel) (by decide +kernel)).1 (hstandard _ rfl)⟩,
    ⟨_, hfault⟩⟩

/-- So the scan of a file that is no text may fail in a way that is not expected of a
transformation. -/
theorem unexpected_failure_of_flaw :
    let bytes : Bytes := [0x61, 0x62, 0xFF]
    let t : FileTree :=
      { workingDirectory := ["d"]
        entries := [(["d"], .directory), (["d", "a.tt"], .file bytes)] }
    t.Opens {} "a.tt" .utf8Marked bytes ∧ (∀ s, ¬Encoding.utf8Marked.Spells bytes s) ∧
      ∀ fault, (t.scanFile {} "a.tt").result ≠ .error (.expected fault) := by
  intro bytes t
  have hfile : t.readFile "a.tt" = .ok bytes := by decide +kernel
  have hflaw : (Encoding.utf8Marked.decode bytes).fault =
      some (.flawed ⟨.utf8Marked, 0xFF, 2, 1, .flaw .invalidStart⟩) := by
    decide +kernel
  have hresult : (t.scanFile {} "a.tt").result =
      .error (.undecodable (.flawed ⟨.utf8Marked, 0xFF, 2, 1, .flaw .invalidStart⟩)) := by
    decide +kernel
  refine ⟨FileTree.opens_of_readFile (by decide) hfile, ?_, ?_⟩
  · intro s hs
    have hnone := Encoding.fault_eq_none_iff.2 ⟨s, hs⟩
    rw [hflaw] at hnone
    cases hnone
  · intro fault hfault
    rw [hresult] at hfault
    cases hfault

end Stencil
