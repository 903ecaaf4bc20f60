import Mathlib.Control.Monad.Basic
import Stencil.Proofs.Files.Places
import Stencil.Transform

/-!
# Transformations and files

A transformation changes one file or none.  The program is written to a temporary file first: while
that is there, nothing that was there before has been touched, so taking it away leaves the files as
they were; and moving it over its target changes what is there and nothing else.

All this stands and falls with the temporary file being taken away.  Making a file in a directory
and taking away one's own file need the same right to the directory, so where the operating system
goes by rights alone, it allows both or neither; this is `FileTree.Revocable`.  The exception is a
directory that may only grow.  There the temporary file of a transformation that fails may stay, and
nothing else may.

## Main definitions

* `FileTree.Replaced` — one tree is another with the file at a path replaced.
* `FileTree.Revocable` — what may be made may be taken away again.
* `FileTree.Littered` — one tree is another with a temporary file that may not be taken away.

## Main results

* `FileTree.createTemporary_eq_ok`, `FileTree.moveOver_eq_ok` — what making a temporary file and
  moving it does to a tree.
* `FileTree.writeProgram_cases` — a program is written to its file, or the files are as before, or
  its temporary file stays.
* `tree_of_transform` — the same for a whole transformation.
-/

namespace Stencil

namespace FileTree

/-- After is before with the bytes in the file that a path leads to, which may be read; nothing else
is different. -/
def Replaced (before after : FileTree) (path : String) (bytes : Bytes) : Prop :=
  after.workingDirectory = before.workingDirectory ∧
    ∃ l, after.locate path = .ok (.file l bytes) ∧ (∀ m, m ≠ l → after.find? m = before.find? m) ∧
      ∀ attempt m, after.refused? attempt m =
        if (attempt, m) = (.read, l) then none else before.refused? attempt m

/-- The file that a path leads to can be read back after it was replaced. -/
theorem Replaced.readFile_eq {before after : FileTree} {path : String} {bytes : Bytes}
    (h : Replaced before after path bytes) : after.readFile path = .ok bytes := by
  obtain ⟨-, l, hl, -, hrefused⟩ := h
  have hread : after.refused? .read l = none := by rw [hrefused, if_pos rfl]
  simp only [readFile, hl, Place.location, hread]

/-- Whatever file may be made in a directory may be taken away again: it is the right to write to the
directory that either needs. -/
def Revocable (t : FileTree) : Prop :=
  ∀ l, t.refused? .create l = none → t.refused? .remove l = none

/-- After is before with a temporary file for a program: it could be made at a location, but it may
not be taken away, because of a fault.  Nothing else is different. -/
structure Littered (before after : FileTree) (program : Path) (l : Location) (fault : FileFault) :
    Prop where
  /-- It has the name of a temporary file. -/
  name : ∃ n, l = before.directoryOf program.parent ++ [temporaryName program.name n]
  /-- Nothing was there before. -/
  free : before.find? l = none
  /-- It may be made. -/
  made : before.refused? .create l.dropLast = none
  /-- It may not be taken away. -/
  refused : before.refused? .remove l.dropLast = some fault
  /-- It is there. -/
  left : ∃ bytes, after = before.put l (.file bytes)

theorem Revocable.not_littered {before after : FileTree} (h : before.Revocable) {program : Path}
    {l : Location} {fault : FileFault} : ¬before.Littered after program l fault := by
  intro hlittered
  have hnone := h _ hlittered.made
  rw [hlittered.refused] at hnone
  cases hnone

/-! ### Temporary files -/

/-- A temporary file is new and empty, and has a name of its own in a directory where files may be
made. -/
theorem createTemporary_eq_ok {t created : FileTree} {directory : Path} {name : String}
    {l : Location} (h : t.createTemporary directory name = .ok (l, created)) :
    (∃ n, l = t.directoryOf directory ++ [temporaryName name n]) ∧ t.find? l = none ∧
      t.refused? .create l.dropLast = none ∧ created = t.put l (.file []) := by
  simp only [createTemporary] at h
  split at h
  · cases h
  split at h
  · cases h
  next hcreate =>
  split at h
  · cases h
  · next n hn =>
    cases h
    have hfree := List.find?_some hn
    simp only [decide_eq_true_eq] at hfree
    obtain ⟨k, -, rfl⟩ := List.mem_map.mp (List.mem_of_find?_eq_some hn)
    exact ⟨⟨k, rfl⟩, hfree, by rw [List.dropLast_concat, hcreate], rfl⟩

/-- What is put at a location takes the place of what was put there before. -/
theorem put_put (t : FileTree) (l : Location) (first second : Entry) :
    (t.put l first).put l second = t.put l second := by
  simp only [put, without_cons_self, FileTree.mk.injEq, List.cons.injEq, true_and, and_true]
  exact without_eq_self (by rw [lookup_without, if_pos rfl])

/-- Moving a file over what a path leads to puts its bytes there, for everyone to read. -/
theorem moveOver_eq_ok {t moved : FileTree} {l : Location} {bytes : Bytes} {path : Path}
    (h : t.moveOver l bytes path = .ok moved) :
    ∃ place, t.locate path.toString = .ok place ∧ (∀ m, place ≠ .directory m) ∧
      moved = ((t.remove l).put place.location (.file bytes)).allowReading place.location := by
  unfold moveOver at h
  split at h
  · cases h
  · cases h
  · cases h
  split at h
  · cases h
  split at h
  · cases h
  next hlocate =>
  split at h
  · cases h
  · cases h
  · next hdirectory =>
    cases h
    exact ⟨_, hlocate, hdirectory, rfl⟩

/-- Moving a temporary file over its target replaces the file there and leaves no other trace. -/
theorem replaced_of_moveOver {t moved : FileTree} {l : Location} {bytes : Bytes} {target : Path}
    (hl : l ≠ []) (hfree : t.find? l = none)
    (h : (t.put l (.file bytes)).moveOver l bytes target = .ok moved) :
    Replaced t moved target.toString bytes := by
  obtain ⟨place, hlocate, hplace, hmoved⟩ := moveOver_eq_ok h
  rw [remove_put hl _ hfree] at hmoved
  obtain ⟨hbelow, hnot⟩ := location_of_holds (holds_of_locate hlocate) hplace
  have hfind : ∀ m, moved.find? m =
      if m = place.location then some (.file bytes) else t.find? m := by
    intro m
    rw [hmoved, find?_allowReading, find?_put hbelow]
  have hrefused : ∀ attempt m, moved.refused? attempt m =
      if (attempt, m) = (.read, place.location) then none else t.refused? attempt m := by
    intro attempt m
    rw [hmoved, refused?_allowReading, refused?_put]
  have hworking : moved.workingDirectory = t.workingDirectory := by rw [hmoved]; rfl
  -- the directories on the way are older than the temporary file, and the target is none of them
  have hdirectories : ∀ m, (t.put l (.file bytes)).find? m = some .directory →
      moved.find? m = some .directory := by
    intro m hm
    have hmt : m ≠ place.location := by
      rintro rfl
      exact hnot hm
    rw [hfind, if_neg hmt]
    rw [find?_put hl] at hm
    split at hm
    · cases hm
    · exact hm
  have hsearch : ∀ m,
      moved.refused? .search m = (t.put l (.file bytes)).refused? .search m := by
    intro m
    rw [hrefused, if_neg (by simp), refused?_put]
  have hfile : moved.find? place.location = some (.file bytes) := by rw [hfind, if_pos rfl]
  refine ⟨hworking, place.location, ?_, fun m hm => ?_, hrefused⟩
  · exact locate_of_directories hdirectories hsearch hworking hfile hplace hlocate
  · rw [hfind, if_neg hm]

/-- A new file is not filled, or it is filled and not moved, or it is moved. -/
theorem publish_cases (t : FileTree) (l : Location) (bytes : Bytes) (path : Path) :
    (∃ fault, t.publish l bytes path = .error (fault, t)) ∨
    (∃ fault, t.publish l bytes path = .error (fault, t.put l (.file bytes))) ∨
    ∃ moved, (t.put l (.file bytes)).moveOver l bytes path = .ok moved ∧
      t.publish l bytes path = .ok moved := by
  unfold publish
  cases t.refused? .write l.dropLast with
  | some fault => exact .inl ⟨fault, rfl⟩
  | none =>
    cases hmove : (t.put l (.file bytes)).moveOver l bytes path with
    | error fault => exact .inr (.inl ⟨fault, by simp only [hmove, Except.mapError]⟩)
    | ok moved => exact .inr (.inr ⟨moved, rfl, by simp only [hmove, Except.mapError]⟩)

/-- A program that is published replaces the file at its path. -/
theorem replaced_of_publish {t published : FileTree} {l : Location} {bytes : Bytes} {target : Path}
    (hl : l ≠ []) (hfree : t.find? l = none)
    (h : (t.put l (.file [])).publish l bytes target = .ok published) :
    Replaced t published target.toString bytes := by
  rcases publish_cases (t.put l (.file [])) l bytes target with
    ⟨fault, hpublish⟩ | ⟨fault, hpublish⟩ | ⟨moved, hmove, hpublish⟩
  · cases hpublish.symm.trans h
  · cases hpublish.symm.trans h
  · cases hpublish.symm.trans h
    rw [put_put] at hmove
    exact replaced_of_moveOver hl hfree hmove

/-- If it cannot be published, there is the temporary file and nothing else is different. -/
theorem exists_put_of_publish {t failed : FileTree} {l : Location} {bytes : Bytes} {target : Path}
    {fault : FileFault} (h : (t.put l (.file [])).publish l bytes target = .error (fault, failed)) :
    ∃ left, failed = t.put l (.file left) := by
  rcases publish_cases (t.put l (.file [])) l bytes target with
    ⟨fault, hpublish⟩ | ⟨fault, hpublish⟩ | ⟨moved, -, hpublish⟩
  · cases hpublish.symm.trans h
    exact ⟨[], rfl⟩
  · cases hpublish.symm.trans h
    exact ⟨bytes, put_put t l _ _⟩
  · cases hpublish.symm.trans h

/-- A temporary file is taken away because of a failure, unless that is refused. -/
theorem withdraw_put {t : FileTree} {l : Location} (hl : l ≠ []) (hfree : t.find? l = none)
    (bytes : Bytes) (program : Path) (failure : Failure) :
    (t.put l (.file bytes)).withdraw l program failure =
      match t.refused? .remove l.dropLast with
      | none => { result := .error failure, tree := t }
      | some fault =>
          { result := .error (.inaccessible fault (temporaryPath l program)),
            tree := t.put l (.file bytes) } := by
  rw [withdraw, refused?_put, remove_put hl _ hfree]
  cases t.refused? .remove l.dropLast <;> rfl

/-! ### Programs -/

/-- What is left after a failure: nothing, or a temporary file that may not be taken away.  In the
latter case the refusal is the failure. -/
def Left (before after : FileTree) (program : Path) (failure : Failure) : Prop :=
  after = before ∨
    ∃ l fault, failure = .inaccessible fault (temporaryPath l program) ∧
      before.Littered after program l fault

section Left

variable {before after : FileTree} {program : Path}

/-- Where what may be made may be taken away again, nothing is left. -/
theorem Left.tree_eq {failure : Failure} (h : before.Left after program failure)
    (hbefore : before.Revocable) : after = before := by
  rcases h with htree | ⟨l, fault, -, hlittered⟩
  · exact htree
  · exact absurd hlittered hbefore.not_littered

/-- Nothing is left after a failure that is expected. -/
theorem Left.tree_eq_of_expected {fault : TransformFault}
    (h : before.Left after program (.expected fault)) : after = before := by
  rcases h with htree | ⟨l, fault, ⟨⟩, -⟩
  exact htree

end Left

/-- What is left when a temporary file is withdrawn. -/
theorem left_of_withdraw {t : FileTree} {program : Path} {l : Location}
    {n : Nat} (hn : l = t.directoryOf program.parent ++ [temporaryName program.name n])
    (hfree : t.find? l = none) (hmade : t.refused? .create l.dropLast = none) (bytes : Bytes)
    (failure : Failure) :
    let run := (t.put l (.file bytes)).withdraw l program failure
    ∃ failure, run.result = .error failure ∧ t.Left run.tree program failure := by
  intro run
  have hl : l ≠ [] := by simp [hn]
  have hrun : run = _ := withdraw_put hl hfree bytes program failure
  cases hremove : t.refused? .remove l.dropLast with
  | none =>
    rw [hremove] at hrun
    exact ⟨failure, by rw [hrun], .inl (by rw [hrun])⟩
  | some fault =>
    rw [hremove] at hrun
    refine ⟨_, by rw [hrun], .inr ⟨l, fault, rfl, ⟨n, hn⟩, hfree, hmade, hremove, bytes, ?_⟩⟩
    rw [hrun]

/-- A program is written to its file in its encoding, or what is left is at most its temporary
file. -/
theorem writeProgram_cases (t : FileTree) (settings : Settings) (codecs : Codecs) (s : ScanState)
    (programPath : String) :
    let run := t.writeProgram settings s programPath codecs
    (∃ failure, run.result = .error failure ∧ t.Left run.tree (Path.ofString programPath) failure) ∨
    ∃ program bytes, run.result = .ok program ∧ s.program settings = .ok program ∧
      encodeProgram settings.programEncoding program codecs = .ok bytes ∧
      Replaced t run.tree (Path.ofString programPath).toString bytes := by
  intro run
  show (∃ failure, (t.writeProgram settings s programPath codecs).result = _ ∧
    t.Left (t.writeProgram settings s programPath codecs).tree _ _) ∨ _
  unfold run writeProgram
  cases hprogram : s.program settings with
  | error fault => exact .inl ⟨_, rfl, .inl rfl⟩
  | ok program =>
    simp only
    split
    · exact .inl ⟨_, rfl, .inl rfl⟩
    cases htemporary :
        t.createTemporary (Path.ofString programPath).parent (Path.ofString programPath).name with
    | error fault => exact .inl ⟨_, rfl, .inl rfl⟩
    | ok pair =>
      obtain ⟨l, created⟩ := pair
      obtain ⟨⟨n, hn⟩, hfree, hmade, rfl⟩ := createTemporary_eq_ok htemporary
      simp only
      cases hencode : encodeProgram settings.programEncoding program codecs with
      | error failure => exact .inl (left_of_withdraw hn hfree hmade [] failure)
      | ok bytes =>
        simp only
        cases hpublish : (t.put l (.file [])).publish l bytes (Path.ofString programPath) with
        | error failed =>
          obtain ⟨fault, failed⟩ := failed
          obtain ⟨left, rfl⟩ := exists_put_of_publish hpublish
          exact .inl (left_of_withdraw hn hfree hmade left _)
        | ok published =>
          have hreplaced := replaced_of_publish (by simp [hn]) hfree hpublish
          exact .inr ⟨program, bytes, rfl, rfl, hencode, hreplaced⟩

/-- A transformation ends in the program of its scan, written to its file, or what is left is at
most its temporary file. -/
theorem transform_cases (t : FileTree) (settings : Settings) (codecs : Codecs)
    (template programPath : String) :
    let run := t.transform settings template programPath codecs
    (∃ failure, run.result = .error failure ∧ t.Left run.tree (Path.ofString programPath) failure) ∨
    ∃ summary s program bytes, run.result = .ok summary ∧
      (t.scanFile settings template codecs).result = .ok s ∧ s.program settings = .ok program ∧
      encodeProgram settings.programEncoding program codecs = .ok bytes ∧
      Replaced t run.tree (Path.ofString programPath).toString bytes := by
  intro run
  show (∃ failure, (t.transform settings template programPath codecs).result = _ ∧
    t.Left (t.transform settings template programPath codecs).tree _ _) ∨ _
  unfold run transform
  cases hscan : (t.scanFile settings template codecs).result with
  | error failure =>
    simp only [hscan]
    exact .inl ⟨failure, rfl, .inl rfl⟩
  | ok s =>
    simp only [hscan]
    rcases writeProgram_cases t settings codecs s programPath with
      ⟨failure, hresult, hleft⟩ | ⟨program, bytes, hresult, hprogram, hencode, hreplaced⟩
    · exact .inl ⟨failure, by rw [hresult]; rfl, hleft⟩
    · exact .inr ⟨_, s, program, bytes, by rw [hresult]; rfl, rfl, hprogram, hencode, hreplaced⟩

end FileTree

end Stencil
