import Stencil.Proofs.Encoding.Repertoire
import Stencil.Proofs.Files.Atomic

/-!
# Program files that cannot be written

A program that is due may still not get into its file.  If no temporary file can be made, or if it
cannot be filled and moved over the target, the failure is expected of a transformation and names
the path of the program.  But the encoding of programs may be narrow, and if it has no bytes for the
program, the failure is a bare flaw of the text.  Either way the temporary file is taken away, and
if that is refused, the refusal is the failure.

## Main definitions

* `ProgramDue` — a program can be made, and where and how to write it is known.
* `FileFault.unwritable` — the failure that a fault of the files leads to.
* `FileTree.withdrawn` — what a failure becomes when the temporary file is taken away.

## Main results

* `failures_of_writeProgram` — **how a program that is due fails to be written.**
* `unexpected_failure_of_missing` — so it may fail in a way that is not expected.
-/

namespace Stencil

/-- A program is due: its output path is settled, its own path may be that of a file, and its
encoding is known, be it to every host or only to this one. -/
structure ProgramDue (settings : Settings) (s : ScanState) (programPath outputPath : String)
    (encoding : Encoding) (codecs : Codecs := .none) : Prop where
  /-- The output path is settled. -/
  settled : s.outputPath = some outputPath
  /-- The path of the program may be that of a file. -/
  path : holdsNull programPath = false
  /-- The name of the encoding can be looked up. -/
  name : holdsNull settings.programEncoding = false
  /-- The encoding is known. -/
  known : Encoding.ofName? settings.programEncoding codecs = some encoding

/-- The failure that a fault of the files leads to when a program is written. -/
def FileFault.unwritable (fault : FileFault) (programPath : String) : Failure :=
  .expected (.unwritable programPath (some fault.message))

/-- What a failure becomes when the temporary file at a location is taken away because of it. -/
def FileTree.withdrawn (t : FileTree) (l : Location) (program : Path) (failure : Failure) :
    Failure :=
  match t.refused? .remove l.dropLast with
  | some fault => .inaccessible fault (temporaryPath l program)
  | none => failure

namespace FileTree

variable {t created failed : FileTree} {directory target : Path} {name : String} {l : Location}
  {bytes : Bytes} {fault : FileFault}

theorem result_withdraw (t : FileTree) (l : Location) (program : Path) (failure : Failure) :
    (t.withdraw l program failure).result = .error (t.withdrawn l program failure) := by
  rw [withdraw, withdrawn]
  cases t.refused? .remove l.dropLast <;> rfl

/-- What is refused does not depend on the temporary file. -/
theorem withdrawn_of_createTemporary (h : t.createTemporary directory name = .ok (l, created)) :
    created.withdrawn = t.withdrawn := by
  obtain ⟨-, -, -, rfl⟩ := createTemporary_eq_ok h
  rfl

theorem withdrawn_of_publish (h : created.publish l bytes target = .error (fault, failed)) :
    failed.withdrawn = created.withdrawn := by
  rcases created.publish_cases l bytes target with
    ⟨fault', hpublish⟩ | ⟨fault', hpublish⟩ | ⟨moved, -, hpublish⟩
  · cases hpublish.symm.trans h
    rfl
  · cases hpublish.symm.trans h
    rfl
  · cases hpublish.symm.trans h

/-- Where what may be made may be taken away again, a failure stays what it is. -/
theorem Revocable.withdrawn_eq (h : t.Revocable)
    (htemporary : t.createTemporary directory name = .ok (l, created)) (program : Path)
    (failure : Failure) : t.withdrawn l program failure = failure := by
  obtain ⟨-, -, hmade, -⟩ := createTemporary_eq_ok htemporary
  rw [withdrawn, h _ hmade]

end FileTree

namespace ProgramDue

variable {settings : Settings} {s : ScanState} {programPath outputPath : String}
  {encoding : Encoding} {codecs : Codecs} {t created : FileTree} {l : Location}

theorem program_eq (h : ProgramDue settings s programPath outputPath encoding codecs) :
    s.program settings = .ok (Program.text settings outputPath s) := by
  simp only [ScanState.program, h.settled]

theorem encodeProgram_eq (h : ProgramDue settings s programPath outputPath encoding codecs)
    (program : String) :
    FileTree.encodeProgram settings.programEncoding program codecs =
      (encoding.encode program.toList).mapError Failure.unencodable := by
  simp only [FileTree.encodeProgram, h.name, h.known]
  cases encoding.encode program.toList <;> rfl

/-- No temporary file can be made. -/
theorem result_of_noTemporary (h : ProgramDue settings s programPath outputPath encoding codecs)
    {fault : FileFault}
    (htemporary : t.createTemporary (Path.ofString programPath).parent
      (Path.ofString programPath).name = .error fault) :
    (t.writeProgram settings s programPath codecs).result =
      .error (fault.unwritable programPath) := by
  simp only [FileTree.writeProgram, h.program_eq, h.path, htemporary]
  rfl

/-- The encoding has no bytes for the program. -/
theorem result_of_misses (h : ProgramDue settings s programPath outputPath encoding codecs)
    (htemporary : t.createTemporary (Path.ofString programPath).parent
      (Path.ofString programPath).name = .ok (l, created)) {fault : EncodeFault}
    (hmisses : encoding.Misses (Program.text settings outputPath s).toList fault) :
    (t.writeProgram settings s programPath codecs).result =
      .error (t.withdrawn l (Path.ofString programPath) (.unencodable fault)) := by
  have hencode := h.encodeProgram_eq (Program.text settings outputPath s)
  rw [Encoding.encode_eq_error_iff.mpr hmisses] at hencode
  simp only [FileTree.writeProgram, h.program_eq, h.path, htemporary, hencode, Except.mapError,
    Bool.false_eq_true, if_false]
  rw [FileTree.result_withdraw, FileTree.withdrawn_of_createTemporary htemporary]

/-- The encoding has bytes for the program, so it depends on the target whether the program is
written. -/
theorem exists_result_of_fits (h : ProgramDue settings s programPath outputPath encoding codecs)
    (htemporary : t.createTemporary (Path.ofString programPath).parent
      (Path.ofString programPath).name = .ok (l, created))
    (hfits : encoding.Fits (Program.text settings outputPath s).toList) :
    ∃ bytes, encoding.encode (Program.text settings outputPath s).toList = .ok bytes ∧
      (∀ fault failed,
        created.publish l bytes (Path.ofString programPath) = .error (fault, failed) →
        (t.writeProgram settings s programPath codecs).result =
          .error (t.withdrawn l (Path.ofString programPath) (fault.unwritable programPath))) ∧
      ∀ published, created.publish l bytes (Path.ofString programPath) = .ok published →
        (t.writeProgram settings s programPath codecs).result =
          .ok (Program.text settings outputPath s) := by
  obtain ⟨bytes, hbytes⟩ := Encoding.exists_encode_eq_ok_iff.mpr hfits
  have hencode := h.encodeProgram_eq (Program.text settings outputPath s)
  rw [hbytes] at hencode
  refine ⟨bytes, hbytes, fun fault failed hpublish => ?_, fun published hpublish => ?_⟩
  · simp only [FileTree.writeProgram, h.program_eq, h.path, htemporary, hencode, Except.mapError,
      Bool.false_eq_true, if_false, hpublish]
    rw [FileTree.result_withdraw, FileTree.withdrawn_of_publish hpublish,
      FileTree.withdrawn_of_createTemporary htemporary]
    rfl
  · simp only [FileTree.writeProgram, h.program_eq, h.path, htemporary, hencode, Except.mapError,
      Bool.false_eq_true, if_false, hpublish]

/-- Where a temporary file may be taken away, every failure is one of the files, unless such a file
is made for a program that does not fit its encoding. -/
theorem unwritable_iff (h : ProgramDue settings s programPath outputPath encoding codecs)
    (ht : t.Revocable) :
    (∀ failure, (t.writeProgram settings s programPath codecs).result = .error failure →
        ∃ fault : FileFault, failure = fault.unwritable programPath) ↔
      (∃ fault, t.createTemporary (Path.ofString programPath).parent
        (Path.ofString programPath).name = .error fault) ∨
      encoding.Fits (Program.text settings outputPath s).toList := by
  cases htemporary :
      t.createTemporary (Path.ofString programPath).parent (Path.ofString programPath).name with
  | error fault =>
    refine ⟨fun _ => .inl ⟨fault, rfl⟩, fun _ failure herror => ⟨fault, ?_⟩⟩
    rw [h.result_of_noTemporary htemporary] at herror
    exact (Except.error.inj herror).symm
  | ok pair =>
    obtain ⟨l, created⟩ := pair
    constructor
    · intro hrefused
      right
      by_contra hmissing
      obtain ⟨fault, hfault⟩ := Encoding.exists_misses hmissing
      obtain ⟨_, hfailure⟩ := hrefused _ (h.result_of_misses htemporary hfault)
      rw [ht.withdrawn_eq htemporary] at hfailure
      cases hfailure
    · rintro (⟨fault, ⟨⟩⟩ | hfits) failure herror
      obtain ⟨bytes, -, hfails, hsucceeds⟩ := h.exists_result_of_fits htemporary hfits
      cases hpublish : created.publish l bytes (Path.ofString programPath) with
      | error failed =>
        rw [hfails _ _ hpublish, ht.withdrawn_eq htemporary] at herror
        exact ⟨failed.1, (Except.error.inj herror).symm⟩
      | ok published =>
        rw [hsucceeds _ hpublish] at herror
        cases herror

end ProgramDue

/-- **How a program that is due fails to be written,** in every encoding that the host knows.  If no
temporary file can be made, that is the failure.  If one is made, it depends on the encoding: if it
has no bytes for the program, the failure is what the encoding says of it; if it has, the program is
in its file unless it cannot be filled and moved there.  Where the temporary file may be taken away,
this is all: every failure is one of the files unless a temporary file is made for a program that
does not fit its encoding, and in any case the files are as before.  Where it may not, the refusal
is the failure, and the temporary file may stay. -/
theorem failures_of_writeProgram {settings : Settings} {s : ScanState} {codecs : Codecs}
    {programPath outputPath : String} {encoding : Encoding}
    (h : ProgramDue settings s programPath outputPath encoding codecs) (t : FileTree) :
    let program := Program.text settings outputPath s
    let target := Path.ofString programPath
    let temporary := t.createTemporary target.parent target.name
    let run := t.writeProgram settings s programPath codecs
    (∀ fault, temporary = .error fault → run.result = .error (fault.unwritable programPath)) ∧
      (∀ l created, temporary = .ok (l, created) →
        (∀ fault, encoding.Misses program.toList fault →
          run.result = .error (t.withdrawn l target (.unencodable fault))) ∧
        (encoding.Fits program.toList → ∃ bytes, encoding.encode program.toList = .ok bytes ∧
          (∀ fault failed, created.publish l bytes target = .error (fault, failed) →
            run.result = .error (t.withdrawn l target (fault.unwritable programPath))) ∧
          ∀ published, created.publish l bytes target = .ok published →
            run.result = .ok program) ∧
        (t.Revocable → ∀ failure, t.withdrawn l target failure = failure)) ∧
      (t.Revocable → ((∀ failure, run.result = .error failure → ∃ fault : FileFault,
          failure = fault.unwritable programPath) ↔
        (∃ fault, temporary = .error fault) ∨ encoding.Fits program.toList)) ∧
      (t.Revocable → ∀ failure, run.result = .error failure → run.tree = t) ∧
      ∀ failure, run.result = .error failure → t.Left run.tree target failure := by
  intro program target temporary run
  have hleft : ∀ failure, run.result = .error failure → t.Left run.tree target failure := by
    intro failure herror
    rcases t.writeProgram_cases settings codecs s programPath with
      ⟨failure', hresult, hleft⟩ | ⟨_, _, hok, -⟩
    · cases hresult.symm.trans herror
      exact hleft
    · cases hok.symm.trans herror
  exact ⟨fun _ => h.result_of_noTemporary, fun l created htemporary =>
    ⟨fun _ => h.result_of_misses htemporary, h.exists_result_of_fits htemporary,
      fun ht => ht.withdrawn_eq htemporary target⟩, h.unwritable_iff,
    fun ht failure herror => (hleft failure herror).tree_eq ht, hleft⟩

/-- A program begins with the lines of its namespaces. -/
theorem Program.exists_toList_text (settings : Settings) (outputPath : String) (s : ScanState) :
    ∃ back, (Program.text settings outputPath s).toList =
      (Program.usingLines s.usings).toList ++ back := by
  simp only [Program.text, String.toList_append, List.append_assoc]
  exact ⟨_, rfl⟩

/-- A character that is missing in the first line of a program. -/
theorem misses_of_usings {s : ScanState} (h : s.usings = ["Café"]) (settings : Settings)
    (outputPath : String) :
    Encoding.ascii.Misses (Program.text settings outputPath s).toList
      (.missing ⟨.ascii, 'é', 9, 1, 128⟩) := by
  obtain ⟨back, htext⟩ := Program.exists_toList_text settings outputPath s
  have hline : StandardEncoding.ascii.Misses (Program.usingLines ["Café"]).toList
      ⟨.ascii, 'é', 9, 1, 128⟩ :=
    StandardEncoding.encode_eq_error_iff.mp (by decide +kernel)
  rw [htext, h]
  exact ⟨_, hline.append (by decide +kernel) back, rfl⟩

-- A directory that is missing, a character that is missing, a directory in the place of the target,
-- and a directory that lets no file go.
theorem failures_of_writeProgram_in_ascii :
    let t : FileTree :=
      { workingDirectory := ["d"], entries := [(["d"], .directory), (["d", "e"], .directory)] }
    let refusal : Refusal := ⟨1, "Operation not permitted", by decide⟩
    let sealed : FileTree := { t with refusals := [((.remove, ["d"]), refusal)] }
    let narrow : Settings := { programEncoding := "ascii" }
    let wide : Settings := { programEncoding := "utf-8" }
    let s : ScanState := { usings := ["Café"], outputPath := some "a.txt" }
    (t.writeProgram narrow s "f/a.cs").result = .error (FileFault.notFound.unwritable "f/a.cs") ∧
      (t.writeProgram narrow s "a.cs").result =
        .error (.unencodable (.missing ⟨.ascii, 'é', 9, 1, 128⟩)) ∧
      (t.writeProgram narrow s "a.cs").tree = t ∧
      (t.writeProgram wide s "e").result = .error (FileFault.isDirectory.unwritable "e") ∧
      (sealed.writeProgram narrow s "a.cs").result =
        .error (.inaccessible (.refused refusal) "/d/.a.cs.00000000.tmp") := by
  intro t refusal sealed narrow wide s
  have hnarrow : ∀ programPath, holdsNull programPath = false →
      ProgramDue narrow s programPath "a.txt" .ascii :=
    fun _ hpath => ⟨rfl, hpath, by decide, Encoding.ofName?_of_standard (by decide +kernel) .none⟩
  have hwide : ProgramDue wide s "e" "a.txt" .utf8 :=
    ⟨rfl, by decide, by decide, Encoding.ofName?_of_standard (by decide +kernel) .none⟩
  have hrevocable : t.Revocable := fun _ _ => rfl
  obtain ⟨habsent, -⟩ := failures_of_writeProgram (hnarrow "f/a.cs" (by decide)) t
  obtain ⟨-, hmissing, -, htree, -⟩ := failures_of_writeProgram (hnarrow "a.cs" (by decide)) t
  obtain ⟨-, hfits, -⟩ := failures_of_writeProgram hwide t
  obtain ⟨-, hsealed, -⟩ := failures_of_writeProgram (hnarrow "a.cs" (by decide)) sealed
  have hmade : t.createTemporary (Path.ofString "a.cs").parent (Path.ofString "a.cs").name =
      .ok (["d", ".a.cs.00000000.tmp"], t.put ["d", ".a.cs.00000000.tmp"] (.file [])) := by
    decide +kernel
  have hunencodable := (hmissing _ _ hmade).1 _ (misses_of_usings rfl narrow "a.txt")
  have hmade' : t.createTemporary (Path.ofString "e").parent (Path.ofString "e").name =
      .ok (["d", ".e.00000000.tmp"], t.put ["d", ".e.00000000.tmp"] (.file [])) := by
    decide +kernel
  obtain ⟨bytes, hbytes, hpublish, -⟩ := (hfits _ _ hmade').2.1
    fun c _ => StandardEncoding.has_of_limit_none rfl c
  obtain rfl : Utf8.encode _ = bytes := Except.ok.inj hbytes
  have hrefused : ∀ bytes, (t.put ["d", ".e.00000000.tmp"] (.file [])).publish
      ["d", ".e.00000000.tmp"] bytes (Path.ofString "e") =
      .error (.isDirectory, t.put ["d", ".e.00000000.tmp"] (.file bytes)) := by
    intro bytes
    rfl
  have hmade'' : sealed.createTemporary (Path.ofString "a.cs").parent (Path.ofString "a.cs").name =
      .ok (["d", ".a.cs.00000000.tmp"], sealed.put ["d", ".a.cs.00000000.tmp"] (.file [])) := by
    decide +kernel
  have hstuck := (hsealed _ _ hmade'').1 _ (misses_of_usings rfl narrow "a.txt")
  exact ⟨habsent .notFound (by decide +kernel), hunencodable, htree hrevocable _ hunencodable,
    hpublish _ _ (hrefused _), hstuck⟩

/-- So a program that is due may fail to be written in a way that is not expected of a
transformation. -/
theorem unexpected_failure_of_missing :
    let t : FileTree := { workingDirectory := ["d"], entries := [(["d"], .directory)] }
    let settings : Settings := { programEncoding := "ascii" }
    let s : ScanState := { usings := ["Café"], outputPath := some "a.txt" }
    ProgramDue settings s "a.cs" "a.txt" .ascii ∧
      (∃ failure, (t.writeProgram settings s "a.cs").result = .error failure) ∧
      ∀ fault, (t.writeProgram settings s "a.cs").result ≠ .error (.expected fault) := by
  intro t settings s
  have hdue : ProgramDue settings s "a.cs" "a.txt" .ascii :=
    ⟨rfl, by decide, by decide, Encoding.ofName?_of_standard (by decide +kernel) .none⟩
  have hmade : t.createTemporary (Path.ofString "a.cs").parent (Path.ofString "a.cs").name =
      .ok (["d", ".a.cs.00000000.tmp"], t.put ["d", ".a.cs.00000000.tmp"] (.file [])) := by
    decide +kernel
  have hresult : (t.writeProgram settings s "a.cs").result =
      .error (.unencodable (.missing ⟨.ascii, 'é', 9, 1, 128⟩)) :=
    hdue.result_of_misses hmade (misses_of_usings rfl settings "a.txt")
  refine ⟨hdue, ⟨_, hresult⟩, fun fault hfault => ?_⟩
  rw [hresult] at hfault
  cases hfault

end Stencil
