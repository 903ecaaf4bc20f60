import Stencil.Proofs.Files.FlawedFile
import Stencil.Proofs.Files.ProgramFile

/-!
# How the program ends

Given a template and a program, the program ends with the latter in its file, or it explains an
error and ends with status 1.  So it is meant; but two stages look at the same paths, only one of
them expects faults, and it does not expect all of them.  Here is what can happen instead, as long
as settings are the usual ones: a path has a name that is too long to be looked at, or leads through
a directory that may not be searched; the template is flawed in front of its first character; the
path of the program is none that files have; or a temporary file may not be taken away.

## Main definitions

* `FileTree.InPlace` — the template and the directory of the program are there.
* `FileTree.Stuck` — a program is not put in its file, and its temporary file may not be taken away.
* `Unprepared` — what no stage is prepared for.

## Main results

* `Session.checkEnvironment_cases` — what comes of checking the paths.
* `Session.runStages_all_cases` — what comes of all stages.
* `exits_of_run` — **how the program ends,** for every template, program and tree of files.
-/

namespace Stencil

/-! ### Arguments -/

/-- An argument that does not begin with a hyphen is a value. -/
theorem Argument.ofText_of_value {text : String} (h : text.toList.head? ≠ some '-') :
    ofText text = .ok (.value text) := by
  unfold ofText
  split
  · next htext => exact absurd (by rw [htext]; rfl) h
  · next htext => exact absurd (by rw [htext]; rfl) h
  · rfl

/-- Two values ask for the transformation of the first into the second. -/
theorem Request.parse_of_values {template program : String}
    (htemplate : template.toList.head? ≠ some '-') (hprogram : program.toList.head? ≠ some '-') :
    parse [template, program] = .ok (.transform (some template) (some program) 0) := by
  have hnoEnd : ∀ text : String, text.toList.head? ≠ some '-' → text ≠ "--" := by
    rintro text h rfl
    exact h rfl
  have hclassify : Argument.classify [template, program] =
      .ok [.value template, .value program] := by
    simp only [Argument.classify, if_neg (hnoEnd _ htemplate), if_neg (hnoEnd _ hprogram),
      Argument.ofText_of_value htemplate, Argument.ofText_of_value hprogram]
  have hparse : parseFrom {} [] [.value template, .value program] =
      .ok (.transform (Argument.due template) (Argument.due program) 0) := rfl
  rw [parse, hclassify]
  simp only
  rw [hparse, Argument.due, if_neg (hnoEnd _ htemplate), Argument.due,
    if_neg (hnoEnd _ hprogram)]

/-! ### Paths -/

/-- The pieces of a text are what it is without its slashes. -/
theorem flatten_splitSlashes (s : List Char) :
    (splitSlashes s).flatten = s.filter (· ≠ '/') := by
  induction s with
  | nil => rfl
  | cons c cs ih =>
    by_cases hc : c = '/'
    · subst hc
      simpa [splitSlashes] using ih
    · cases hpieces : splitSlashes cs with
      | nil =>
        rw [hpieces] at ih
        simpa [splitSlashes, hpieces, hc] using ih
      | cons piece pieces =>
        rw [hpieces] at ih
        simpa [splitSlashes, hpieces, hc] using ih

theorem splitSlashes_of_not_mem {s : List Char} (h : '/' ∉ s) : splitSlashes s = [s] := by
  induction s with
  | nil => rfl
  | cons c cs ih =>
    have hc := List.ne_of_not_mem_cons h
    simp [splitSlashes, ih (List.not_mem_of_not_mem_cons h), hc.symm]

theorem mem_intercalate {x : Char} {separator c : String} {cs : List String} (hc : c ∈ cs)
    (hx : x ∈ c.toList) : x ∈ (separator.intercalate cs).toList := by
  induction cs with
  | nil => cases hc
  | cons c' cs ih =>
    cases cs with
    | nil =>
      obtain rfl := List.mem_singleton.mp hc
      rwa [String.intercalate_singleton]
    | cons c'' cs =>
      rw [String.intercalate_cons_cons, String.toList_append, List.mem_append]
      rcases List.mem_cons.mp hc with rfl | hc
      · exact .inl (String.toList_append ▸ List.mem_append_left _ hx)
      · exact .inr (ih hc)

/-- The normal form of a path keeps the character that ends paths. -/
theorem Path.holdsNull_toString {path : String} (h : holdsNull path = true) :
    holdsNull (Path.ofString path).toString = true := by
  rw [holdsNull, List.contains_iff_mem] at h ⊢
  have hflat : '\x00' ∈ (splitSlashes path.toList).flatten := by
    rw [flatten_splitSlashes]
    exact List.mem_filter.mpr ⟨h, by decide⟩
  obtain ⟨piece, hpiece, hnull⟩ := List.mem_flatten.mp hflat
  have hnot : ∀ c : String, '\x00' ∉ c.toList → (String.ofList piece != c) = true := by
    intro c hc
    refine bne_iff_ne.mpr fun heq => hc ?_
    rwa [← heq, String.toList_ofList]
  have hkept : (String.ofList piece != "" && String.ofList piece != ".") = true := by
    rw [hnot "" (by decide), hnot "." (by decide)]
    rfl
  have hcomponent : String.ofList piece ∈ (Path.ofString path).components :=
    List.mem_filter.mpr ⟨List.mem_map_of_mem hpiece, hkept⟩
  have hne : (Path.ofString path).components.isEmpty = false := by
    cases hcs : (Path.ofString path).components with
    | nil =>
      rw [hcs] at hcomponent
      cases hcomponent
    | cons c cs => rfl
  rw [Path.toString, hne, Bool.and_false, if_neg (by decide), String.toList_append]
  refine List.mem_append_right _ (mem_intercalate hcomponent ?_)
  rwa [String.toList_ofList]

/-! ### What is not prepared for -/

namespace FileTree

variable {t : FileTree} {template program : String}

/-- The template and the directory of the program are there. -/
def InPlace (t : FileTree) (template program : String) : Prop :=
  t.isFile (Path.ofString template).toString = .ok true ∧
    t.isDirectory (Path.ofString program).parent.toString = .ok true

/-- A path that leads nowhere has nothing in a place, no directory in it, or too long a name, or it
leads through a directory that may not be searched. -/
theorem fault_of_walk {here : Location} {cs : List String} {fault : FileFault}
    (h : t.walk here cs = .error fault) :
    fault = .notFound ∨ fault = .notDirectory ∨ fault = .nameTooLong ∨
      ∃ l, t.refused? .search l = some fault := by
  fun_induction t.walk here cs with
  | case3 here c rest hc fault' hrefused =>
    cases h
    exact .inr (.inr (.inr ⟨here, hrefused⟩))
  | _ => simp_all

/-- The operating system refuses to look at too long a name, and into a directory that may not be
searched, and at nothing else. -/
theorem fault_of_holds {condition : Place → Bool} {path : String} {fault : FileFault}
    (h : t.holds condition path = .error fault) :
    fault = .nameTooLong ∨ ∃ l, t.refused? .search l = some fault := by
  have hlocate : ∀ fault, t.locate path = .error fault →
      fault = .notFound ∨ fault = .notDirectory ∨ fault = .nameTooLong ∨
        ∃ l, t.refused? .search l = some fault := by
    intro fault h
    unfold locate at h
    split at h
    · cases h
      exact .inl rfl
    split at h
    · cases h
      exact .inr (.inr (.inl rfl))
    · exact fault_of_walk h
  unfold holds at h
  split at h
  · cases h
  split at h
  · cases h
  · cases h
  · cases h
  · next fault' hfound hdirectory hfault =>
    cases h
    rcases hlocate fault hfault with rfl | rfl | hrefused
    · exact absurd rfl hfound
    · exact absurd rfl hdirectory
    · exact hrefused

/-- A name that is too long is refused, whatever is there, if it is looked at. -/
theorem isFile_of_long {name : String} (hslash : '/' ∉ name.toList)
    (hnull : holdsNull name = false) (hsize : maxNameSize < name.utf8ByteSize)
    (hsearch : t.refused? .search t.workingDirectory = none) :
    t.isFile (Path.ofString name).toString = .error .nameTooLong := by
  have hne : ∀ short : String, short.utf8ByteSize ≤ maxNameSize → name ≠ short := by
    rintro short hshort rfl
    omega
  have hempty : name ≠ "" := hne "" (by decide)
  have hdot : name ≠ "." := hne "." (by decide)
  have hwritten : writtenComponents name = [name] := by
    rw [writtenComponents, splitSlashes_of_not_mem hslash]
    simp
  have hhead : name.toList.head? ≠ some '/' := fun h => hslash (List.mem_of_head? h)
  have hslashes : name.toList.takeWhile (· == '/') = [] := by
    refine List.takeWhile_eq_nil_iff.mpr fun hlength => ?_
    have hfirst : name.toList[0] ≠ '/' := fun heq => hslash (heq ▸ List.getElem_mem hlength)
    simpa using hfirst
  have hpath : (Path.ofString name).toString = name := by
    simp [Path.ofString, Path.toString, hslashes, hwritten, hempty, hdot]
  have hwalk : t.walk t.workingDirectory [name] = .error .nameTooLong := by
    unfold walk
    rw [if_neg hempty, hsearch]
    simp only
    rw [if_neg hdot, if_neg (hne ".." (by decide)), if_pos hsize]
  rw [holdsNull] at hnull
  have hlocate : t.locate name = .error .nameTooLong := by
    rw [locate, hwritten, if_neg hhead, hwalk, if_neg (by simpa using hempty), ite_self]
  rw [hpath, isFile, holds, hnull, if_neg (by decide), hlocate]

/-- What is there has a path that files have. -/
theorem holdsNull_of_isFile (h : t.isFile (Path.ofString template).toString = .ok true) :
    holdsNull template = false := by
  by_contra hnull
  have hnormal := Path.holdsNull_toString (eq_true_of_ne_false hnull)
  rw [holdsNull] at hnormal
  rw [isFile, holds, if_pos hnormal] at h
  cases h

end FileTree

/-- A scan that does not come to its end fails as is expected of a transformation, if the bytes that
are no text are found whenever it gets to them. -/
theorem Scan.exists_expected {scan : Scan} {template : String} {failure : Failure}
    (h : scan.result template = .error failure)
    (hlocated : ∀ flaw, scan.ending = .unreadable flaw → flaw.isLocated = true) :
    ∃ fault, failure = .expected fault := by
  unfold result at h
  split at h
  · cases h
  · cases h
    exact ⟨_, rfl⟩
  · next flaw hending =>
    cases h
    exact ⟨_, if_pos (hlocated flaw hending)⟩

namespace FileTree

variable {t : FileTree} {template program : String} {failure : Failure}

/-- With the usual settings the scan of a template file fails as is expected of a transformation, or
because of a flaw in front of its first character. -/
theorem scanFile_error_cases (hpath : holdsNull template = false)
    (h : (t.scanFile {} template).result = .error failure) :
    (∃ fault, failure = .expected fault) ∨
    ∃ bytes flaw, t.readFile template = .ok bytes ∧
      (Encoding.utf8Marked.decode bytes).text = [] ∧
      (Encoding.utf8Marked.decode bytes).fault = some flaw ∧ failure = .undecodable flaw := by
  cases hfile : t.readFile template with
  | error fault =>
    have hname : holdsNull ({} : Settings).sourceEncoding = false := by decide
    simp only [scanFile, readSource, hname, hpath, hfile, Bool.false_eq_true, if_false] at h
    cases h
    exact .inl ⟨_, rfl⟩
  | ok bytes =>
    have hopens := opens_of_readFile hpath hfile
    simp only [scanFile, hopens.readSource_eq] at h
    split at h
    · next flaw htext hflaw =>
      cases h
      exact .inr ⟨bytes, flaw, rfl, htext, hflaw, rfl⟩
    · refine .inl (Scan.exists_expected h fun flaw hending => ?_)
      exact StandardEncoding.isLocated_of_decodeChunks (Registry.fault_of_unreadable hending)

/-- A program cannot be put in its file once there is a temporary file for it, and this may not be
taken away, because of a fault. -/
structure Stuck (t : FileTree) (text program : String) (l : Location) (fault : FileFault) :
    Prop where
  /-- The path of the program may be that of a file. -/
  path : holdsNull program = false
  /-- There is a temporary file, which is not put in the place of the program. -/
  failed : ∃ created reason failed,
    t.createTemporary (Path.ofString program).parent (Path.ofString program).name =
      .ok (l, created) ∧
    created.publish l (Utf8.encode text.toList) (Path.ofString program) = .error (reason, failed)
  /-- It may not be taken away. -/
  refused : t.refused? .remove l.dropLast = some fault

/-- With the usual settings a program is not written as may be expected of a transformation, or
because its path is none that files have, or it is stuck. -/
theorem writeProgram_error_cases {s : ScanState}
    (h : (t.writeProgram {} s program).result = .error failure) :
    (∃ fault, failure = .expected fault) ∨
    (∃ text, s.program {} = .ok text ∧ holdsNull program = true ∧ failure = .nullInPath) ∨
    ∃ text l fault, s.program {} = .ok text ∧ t.Stuck text program l fault ∧
      failure = .inaccessible fault (temporaryPath l (Path.ofString program)) := by
  unfold writeProgram at h
  cases htext : s.program {} with
  | error fault =>
    rw [htext] at h
    cases h
    exact .inl ⟨_, rfl⟩
  | ok text =>
    simp only [htext] at h
    have hencode : encodeProgram ({} : Settings).programEncoding text =
        .ok (Utf8.encode text.toList) := encodeProgram_utf8 text
    split at h
    · next hnull =>
      cases h
      exact .inr (.inl ⟨text, rfl, hnull, rfl⟩)
    next hpath =>
    split at h
    · cases h
      exact .inl ⟨_, rfl⟩
    next l created htemporary =>
    simp only [hencode] at h
    split at h
    · next reason failed hpublish =>
      rw [result_withdraw, withdrawn_of_publish hpublish,
        withdrawn_of_createTemporary htemporary, withdrawn] at h
      cases hremove : t.refused? .remove l.dropLast with
      | none =>
        rw [hremove] at h
        cases h
        exact .inl ⟨_, rfl⟩
      | some fault =>
        rw [hremove] at h
        cases h
        exact .inr (.inr ⟨text, l, fault, rfl,
          ⟨eq_false_of_ne_true hpath, ⟨created, reason, failed, htemporary, hpublish⟩, hremove⟩,
            rfl⟩)
    · cases h

/-- The failure of a program that is stuck. -/
theorem Stuck.result_eq {s : ScanState} {text : String} {l : Location} {fault : FileFault}
    (h : t.Stuck text program l fault) (htext : s.program {} = .ok text) :
    (t.writeProgram {} s program).result =
      .error (.inaccessible fault (temporaryPath l (Path.ofString program))) := by
  obtain ⟨created, reason, failed, htemporary, hpublish⟩ := h.failed
  have hencode : encodeProgram ({} : Settings).programEncoding text =
      .ok (Utf8.encode text.toList) := encodeProgram_utf8 text
  simp only [writeProgram, htext, h.path, htemporary, hencode, hpublish, Bool.false_eq_true,
    if_false]
  rw [result_withdraw, withdrawn_of_publish hpublish, withdrawn_of_createTemporary htemporary,
    withdrawn, h.refused]

end FileTree

/-- What no stage is prepared for when a template is to be transformed with the usual settings. -/
inductive Unprepared (t : FileTree) (template program : String) : Failure → Prop where
  /-- The path of the template has too long a name. -/
  | templateTooLong (h : t.isFile (Path.ofString template).toString = .error .nameTooLong) :
      Unprepared t template program
        (.inaccessible .nameTooLong (Path.ofString template).toString)
  /-- The path of the template leads through a directory that may not be searched. -/
  | templateRefused {fault : FileFault} {l : Location}
      (hrefused : t.refused? .search l = some fault)
      (h : t.isFile (Path.ofString template).toString = .error fault) :
      Unprepared t template program (.inaccessible fault (Path.ofString template).toString)
  /-- The template is there, and the path of the directory of the program has too long a name. -/
  | programTooLong (htemplate : t.isFile (Path.ofString template).toString = .ok true)
      (h : t.isDirectory (Path.ofString program).parent.toString = .error .nameTooLong) :
      Unprepared t template program
        (.inaccessible .nameTooLong (Path.ofString program).parent.toString)
  /-- The template is there, and the path of the directory of the program leads through one that may
  not be searched. -/
  | programRefused {fault : FileFault} {l : Location}
      (htemplate : t.isFile (Path.ofString template).toString = .ok true)
      (hrefused : t.refused? .search l = some fault)
      (h : t.isDirectory (Path.ofString program).parent.toString = .error fault) :
      Unprepared t template program (.inaccessible fault (Path.ofString program).parent.toString)
  /-- Both are there, and the template has a flaw in front of its first character. -/
  | undecodable {bytes : Bytes} {flaw : DecodeFault} (hplace : t.InPlace template program)
      (hfile : t.readFile template = .ok bytes)
      (htext : (Encoding.utf8Marked.decode bytes).text = [])
      (hflaw : (Encoding.utf8Marked.decode bytes).fault = some flaw) :
      Unprepared t template program (.undecodable flaw)
  /-- Both are there and the template is scanned, but files have no such path as the program. -/
  | nullInProgram {s : ScanState} {text : String} (hplace : t.InPlace template program)
      (hscan : (t.scanFile {} template).result = .ok s) (htext : s.program {} = .ok text)
      (hnull : holdsNull program = true) : Unprepared t template program .nullInPath
  /-- Both are there and the template is scanned, but the program is stuck. -/
  | stuck {s : ScanState} {text : String} {l : Location} {fault : FileFault}
      (hplace : t.InPlace template program) (hscan : (t.scanFile {} template).result = .ok s)
      (htext : s.program {} = .ok text) (hstuck : t.Stuck text program l fault) :
      Unprepared t template program
        (.inaccessible fault (FileTree.temporaryPath l (Path.ofString program)))

/-- With the usual settings a transformation fails as is expected of it, or in a way that no stage
is prepared for. -/
theorem FileTree.transform_error_cases {t : FileTree} {template program : String}
    {failure : Failure} (hplace : t.InPlace template program)
    (h : (t.transform {} template program).result = .error failure) :
    (∃ fault, failure = .expected fault) ∨ Unprepared t template program failure := by
  have hpath := holdsNull_of_isFile hplace.1
  cases hscan : (t.scanFile {} template).result with
  | error failure' =>
    rw [transform_of_scanFile hscan] at h
    cases h
    rcases scanFile_error_cases hpath hscan with
      hfault | ⟨bytes, flaw, hfile, htext, hflaw, rfl⟩
    · exact .inl hfault
    · exact .inr (.undecodable hplace hfile htext hflaw)
  | ok s =>
    simp only [transform, hscan] at h
    cases hwrite : (t.writeProgram {} s program).result with
    | error failure' =>
      rw [hwrite] at h
      cases h
      rcases writeProgram_error_cases hwrite with
        hfault | ⟨text, htext, hnull, rfl⟩ | ⟨text, l, fault, htext, hstuck, rfl⟩
      · exact .inl hfault
      · exact .inr (.nullInProgram hplace hscan htext hnull)
      · exact .inr (.stuck hplace hscan htext hstuck)
    | ok text =>
      rw [hwrite] at h
      cases h

/-! ### Stages -/

/-- How the failure of a transformation stops the program. -/
def Stop.ofFailure : Failure → Stop
  | .expected fault => .error fault.message
  | other => .failure other

theorem Stop.ofFailure_of_unprepared {t : FileTree} {template program : String} {failure : Failure}
    (h : Unprepared t template program failure) : ofFailure failure = .failure failure := by
  cases h <;> rfl

namespace Session

variable (settings : Settings) {session : Session} {tree : FileTree}

/-- The paths are in place, or the check of them explains what is missing, or it is refused to look
at them. -/
theorem checkEnvironment_cases (session : Session) (tree : FileTree) :
    let result := (session.checkEnvironment tree).result
    (tree.InPlace session.templateFile session.programFile ∧ ∃ next, result = .ok next) ∨
    (∃ explanation, result = .error (.error explanation)) ∨
    ∃ failure, result = .error (.failure failure) ∧
      Unprepared tree session.templateFile session.programFile failure := by
  intro result
  unfold result checkEnvironment
  simp only
  split
  · next fault hfault =>
    rcases FileTree.fault_of_holds hfault with rfl | ⟨l, hrefused⟩
    · exact .inr (.inr ⟨_, rfl, .templateTooLong hfault⟩)
    · exact .inr (.inr ⟨_, rfl, .templateRefused hrefused hfault⟩)
  · exact .inr (.inl ⟨_, rfl⟩)
  next htemplate =>
  split
  · next fault hfault =>
    rcases FileTree.fault_of_holds hfault with rfl | ⟨l, hrefused⟩
    · exact .inr (.inr ⟨_, rfl, .programTooLong htemplate hfault⟩)
    · exact .inr (.inr ⟨_, rfl, .programRefused htemplate hrefused hfault⟩)
  · exact .inr (.inl ⟨_, rfl⟩)
  · next hprogram => exact .inl ⟨⟨htemplate, hprogram⟩, _, rfl⟩

/-- What a transformation did can be reported. -/
theorem reportSummary_of_table {summary : Summary} (h : session.summary = some summary.table) :
    (session.reportSummary tree).result = .ok session := by
  unfold reportSummary
  rw [h]
  rfl

/-- A stage that stops is the last. -/
theorem runStages_cons_of_error (stage : Stage) (stages : List Stage) {stop : Stop}
    (h : (stage.run settings session tree).result = .error stop) :
    (session.runStages settings tree (stage :: stages)).result = .error stop ∧
      (session.runStages settings tree (stage :: stages)).tree =
        (stage.run settings session tree).tree := by
  simp only [runStages, h, and_self]

/-- A stage that comes to its end leaves the rest to the others. -/
theorem runStages_cons_of_ok (stage : Stage) (stages : List Stage) {next : Session}
    (h : (stage.run settings session tree).result = .ok next) :
    (session.runStages settings tree (stage :: stages)).result =
        (next.runStages settings (stage.run settings session tree).tree stages).result ∧
      (session.runStages settings tree (stage :: stages)).tree =
        (next.runStages settings (stage.run settings session tree).tree stages).tree := by
  simp only [runStages, h, and_self]

/-- If the paths are not in place, nothing else is done. -/
theorem runStages_of_stop {stop : Stop} (h : (session.checkEnvironment tree).result = .error stop) :
    let run := session.runStages settings tree Stage.all
    run.result = .error stop ∧ run.tree = tree := by
  have hfirst : (Stage.checkEnvironment.run settings session tree).result = .error stop := h
  obtain ⟨hresult, htree⟩ :=
    runStages_cons_of_error settings _ [.transformTemplate, .reportSummary] hfirst
  exact ⟨hresult, htree.trans (tree_checkEnvironment session tree)⟩

theorem transformTemplate_of_ok {summary : Summary}
    (h : (tree.transform settings session.templateFile session.programFile).result = .ok summary) :
    (session.transformTemplate settings tree).result =
      .ok { session with summary := some summary.table } := by
  simp only [transformTemplate, h]

theorem transformTemplate_of_error {failure : Failure}
    (h : (tree.transform settings session.templateFile session.programFile).result =
      .error failure) :
    (session.transformTemplate settings tree).result = .error (Stop.ofFailure failure) := by
  simp only [transformTemplate, h]
  cases failure <;> rfl

/-- If they are, what comes of the session is what comes of the transformation. -/
theorem runStages_of_inPlace (h : tree.InPlace session.templateFile session.programFile) :
    let run := session.runStages settings tree Stage.all
    let transformed := tree.transform settings session.templateFile session.programFile
    run.tree = transformed.tree ∧
      (∀ summary, transformed.result = .ok summary → ∃ last, run.result = .ok last) ∧
      ∀ failure, transformed.result = .error failure →
        run.result = .error (Stop.ofFailure failure) := by
  intro run transformed
  let checked : Session :=
    { session with
      templatePath := Path.ofString session.templateFile
      programPath := Path.ofString session.programFile
      checked := true }
  have hcheck : (Stage.checkEnvironment.run settings session tree).result = .ok checked := by
    unfold Stage.run checkEnvironment
    simp only [h.1, h.2, checked]
  obtain ⟨hresult, htree⟩ :=
    runStages_cons_of_ok settings _ [.transformTemplate, .reportSummary] hcheck
  simp only [Stage.run, tree_checkEnvironment] at hresult htree
  cases htransformed : transformed.result with
  | ok summary =>
    have hstage : (Stage.transformTemplate.run settings checked tree).result = _ :=
      transformTemplate_of_ok settings htransformed
    obtain ⟨hresult', htree'⟩ := runStages_cons_of_ok settings _ [.reportSummary] hstage
    have hreport : (Stage.reportSummary.run settings
        { checked with summary := some summary.table } transformed.tree).result = _ :=
      reportSummary_of_table rfl
    obtain ⟨hresult'', htree''⟩ := runStages_cons_of_ok settings _ [] hreport
    refine ⟨?_, fun _ _ => ⟨_, hresult.trans (hresult'.trans hresult'')⟩,
      fun failure hfailure => ?_⟩
    · exact htree.trans (htree'.trans (htree''.trans (tree_reportSummary _ _)))
    · cases hfailure
  | error failure =>
    have hstage : (Stage.transformTemplate.run settings checked tree).result = _ :=
      transformTemplate_of_error settings htransformed
    obtain ⟨hresult', htree'⟩ := runStages_cons_of_error settings _ [.reportSummary] hstage
    refine ⟨htree.trans htree', fun summary hsummary => ?_, fun failure' hfailure => ?_⟩
    · cases hsummary
    · cases hfailure
      exact hresult.trans hresult'

/-- **What comes of all stages.**  The program is in its file, or an error is explained and the
files are what they were, or what no stage is prepared for happens and at most a temporary file is
left. -/
theorem runStages_all_cases (session : Session) (tree : FileTree) :
    let run := session.runStages {} tree Stage.all
    ((∃ last, run.result = .ok last) ∧
      ∃ s text, (tree.scanFile {} session.templateFile).result = .ok s ∧
        s.program {} = .ok text ∧ FileTree.Replaced tree run.tree
          (Path.ofString session.programFile).toString (Utf8.encode text.toList)) ∨
    ((∃ explanation, run.result = .error (.error explanation)) ∧ run.tree = tree) ∨
    ∃ failure, run.result = .error (.failure failure) ∧
      Unprepared tree session.templateFile session.programFile failure ∧
      tree.Left run.tree (Path.ofString session.programFile) failure := by
  intro run
  rcases checkEnvironment_cases session tree with
    ⟨hplace, -⟩ | ⟨explanation, hstop⟩ | ⟨failure, hstop, hunprepared⟩
  · obtain ⟨htree, hok, herror⟩ := runStages_of_inPlace {} hplace
    rcases tree.transform_cases {} .none session.templateFile session.programFile with
      ⟨failure, hresult, hleft⟩ |
      ⟨summary, s, text, bytes, hresult, hscan, htext, hencode, hreplaced⟩
    · have hstop := herror failure hresult
      rw [← htree] at hleft
      rcases FileTree.transform_error_cases hplace hresult with ⟨fault, rfl⟩ | hunprepared
      · exact .inr (.inl ⟨⟨_, hstop⟩, hleft.tree_eq_of_expected⟩)
      · rw [Stop.ofFailure_of_unprepared hunprepared] at hstop
        exact .inr (.inr ⟨failure, hstop, hunprepared, hleft⟩)
    · have hbytes := hencode.symm.trans (FileTree.encodeProgram_utf8 text)
      obtain rfl := Except.ok.inj hbytes
      rw [← htree] at hreplaced
      exact .inl ⟨hok summary hresult, s, text, hscan, htext, hreplaced⟩
  · obtain ⟨hresult, htree⟩ := runStages_of_stop {} hstop
    exact .inr (.inl ⟨⟨explanation, hresult⟩, htree⟩)
  · obtain ⟨hresult, htree⟩ := runStages_of_stop {} hstop
    exact .inr (.inr ⟨failure, hresult, hunprepared, .inl htree⟩)

/-- What no stage is prepared for does happen. -/
theorem runStages_of_unprepared (session : Session) (tree : FileTree) {failure : Failure}
    (h : Unprepared tree session.templateFile session.programFile failure) :
    (session.runStages {} tree Stage.all).result = .error (.failure failure) := by
  cases h with
  | templateTooLong h =>
    refine (runStages_of_stop {} ?_).1
    unfold checkEnvironment
    simp only [h]
  | templateRefused hrefused h =>
    refine (runStages_of_stop {} ?_).1
    unfold checkEnvironment
    simp only [h]
  | programTooLong htemplate h =>
    refine (runStages_of_stop {} ?_).1
    unfold checkEnvironment
    simp only [htemplate, h]
  | programRefused htemplate hrefused h =>
    refine (runStages_of_stop {} ?_).1
    unfold checkEnvironment
    simp only [htemplate, h]
  | undecodable hplace hfile htext hflaw =>
    have hopens :=
      FileTree.opens_of_readFile (FileTree.holdsNull_of_isFile hplace.1) hfile
    have hscan := FileTree.scanFile_of_flaw_in_front hopens hflaw htext
    exact (runStages_of_inPlace {} hplace).2.2 _ (FileTree.transform_of_scanFile hscan _)
  | nullInProgram hplace hscan htext hnull =>
    have hfails : (tree.transform {} session.templateFile session.programFile).result =
        .error .nullInPath := by
      simp only [FileTree.transform, hscan, FileTree.writeProgram, htext, hnull, if_true]
      rfl
    exact (runStages_of_inPlace {} hplace).2.2 _ hfails
  | @stuck s text l fault hplace hscan htext hstuck =>
    have hwrite := hstuck.result_eq htext
    have hfails : (tree.transform {} session.templateFile session.programFile).result =
        .error (.inaccessible fault
          (FileTree.temporaryPath l (Path.ofString session.programFile))) := by
      simp only [FileTree.transform, hscan, hwrite]
      rfl
    exact (runStages_of_inPlace {} hplace).2.2 _ hfails

end Session

/-! ### Command lines -/

/-- Two values are transformed as a session does it. -/
theorem Command.run_of_values (settings : Settings) {template program : String} (tree : FileTree)
    (htemplate : template.toList.head? ≠ some '-') (hprogram : program.toList.head? ≠ some '-') :
    let session : Session := { templateFile := template, programFile := program, verbosity := 1 }
    let run := session.runStages settings tree Stage.all
    let command := Command.run settings [template, program] tree
    command.result = run.result.map (fun _ => ()) ∧ command.tree = run.tree ∧
      command.shown = "" := by
  intro session run command
  have hcommand : command = { result := run.result.map fun _ => (), tree := run.tree,
                              verbosity := some 1, events := run.events } := by
    simp only [command, Command.run, Request.parse_of_values htemplate hprogram]
    exact Command.transform_of_both settings template program 1 tree
  simp only [hcommand, and_self]

/-- What no stage is prepared for is not prepared for by the program. -/
theorem Command.run_of_unprepared {template program : String} {tree : FileTree} {failure : Failure}
    (htemplate : template.toList.head? ≠ some '-') (hprogram : program.toList.head? ≠ some '-')
    (h : Unprepared tree template program failure) :
    (Command.run {} [template, program] tree).result = .error (.failure failure) := by
  obtain ⟨hresult, -, -⟩ := Command.run_of_values {} tree htemplate hprogram
  let session : Session := { templateFile := template, programFile := program, verbosity := 1 }
  have hstop := session.runStages_of_unprepared tree h
  rw [hresult, hstop]
  rfl

/-- **How the program ends.**  Let the paths of template and program not begin with a hyphen.
Either the run ends with what the template leads to in the file of the program, or it explains an
error and ends with status 1, or something happens that no stage is prepared for.  In the last two
cases the files are what they were, as long as a file that may be made may be taken away again;
without that, a temporary file may stay, and then the refusal to take it away is what happens.  The
third case comes about whenever a name is too long or a directory on the way may not be searched, a
flaw is in front of the first character of the template, the program has a path that files have not,
or the program is stuck, and at no other time.  Paths are texts of whole characters here, as names
in a tree are. -/
theorem exits_of_run (template program : String) (tree : FileTree)
    (htemplate : template.toList.head? ≠ some '-') (hprogram : program.toList.head? ≠ some '-') :
    let run := Command.run {} [template, program] tree
    run.shown = "" ∧
      (run.result = .ok () ∨
        (∃ explanation, run.result = .error (.exit 1 ("Error: " ++ explanation ++ "\n"))) ∨
        ∃ failure, run.result = .error (.failure failure)) ∧
      (run.result = .ok () → ∃ s text, (tree.scanFile {} template).result = .ok s ∧
        s.program {} = .ok text ∧ FileTree.Replaced tree run.tree
          (Path.ofString program).toString (Utf8.encode text.toList)) ∧
      (tree.Revocable → run.result ≠ .ok () → run.tree = tree) ∧
      (run.result ≠ .ok () → run.tree = tree ∨ ∃ l fault,
        run.result = .error (.failure
          (.inaccessible fault (FileTree.temporaryPath l (Path.ofString program)))) ∧
        tree.Littered run.tree (Path.ofString program) l fault) ∧
      ∀ failure, run.result = .error (.failure failure) ↔
        Unprepared tree template program failure := by
  intro run
  obtain ⟨hresult, htree, hshown⟩ := Command.run_of_values {} tree htemplate hprogram
  let session : Session := { templateFile := template, programFile := program, verbosity := 1 }
  have hunprepared : ∀ failure, Unprepared tree template program failure →
      run.result = .error (.failure failure) :=
    fun failure h => Command.run_of_unprepared htemplate hprogram h
  rcases session.runStages_all_cases tree with
    ⟨⟨last, hlast⟩, hwritten⟩ | ⟨⟨explanation, hstop⟩, hsame⟩ | ⟨failure, hstop, h, hleft⟩
  · have hok : run.result = .ok () := by
      rw [hresult, hlast]
      rfl
    refine ⟨hshown, .inl hok, fun _ => htree ▸ hwritten, fun _ hne => absurd hok hne,
      fun hne => absurd hok hne, fun failure => ⟨fun hfailure => ?_, hunprepared failure⟩⟩
    cases hok.symm.trans hfailure
  · have hexit : run.result = .error (.error explanation) := by
      rw [hresult, hstop]
      rfl
    have hrun : run.tree = tree := htree.trans hsame
    refine ⟨hshown, .inr (.inl ⟨explanation, hexit⟩), fun hok => ?_, fun _ _ => hrun,
      fun _ => .inl hrun, fun failure => ⟨fun hfailure => ?_, hunprepared failure⟩⟩
    · cases hexit.symm.trans hok
    · cases hexit.symm.trans hfailure
  · have hfails := hunprepared failure h
    have hrun : tree.Left run.tree (Path.ofString program) failure := htree ▸ hleft
    refine ⟨hshown, .inr (.inr ⟨failure, hfails⟩), fun hok => ?_, fun ht _ => hrun.tree_eq ht,
      fun _ => hrun.imp_right ?_, fun failure' => ⟨fun hfailure => ?_, hunprepared failure'⟩⟩
    · cases hfails.symm.trans hok
    · rintro ⟨l, fault, rfl, hlittered⟩
      exact ⟨l, fault, hfails, hlittered⟩
    · cases hfails.symm.trans hfailure
      exact h

-- A template that is transformed, one that is not there, and one that is flawed at its beginning.
theorem exits_of_three_runs :
    let t (bytes : Bytes) : FileTree :=
      { workingDirectory := ["d"]
        entries := [(["d"], .directory), (["d", "a.tt"], .file bytes)] }
    let whole := t (Utf8.encode "<#@ output extension=\"c\" #>é".toList)
    let done := Command.run {} ["a.tt", ".//b.cs"] whole
    let missing := Command.run {} ["", "b.cs"] whole
    let flawed := Command.run {} ["a.tt", "b.cs"] (t [0xFF])
    (done.result = .ok () ∧ ∃ s text, (whole.scanFile {} "a.tt").result = .ok s ∧
      s.program {} = .ok text ∧
      FileTree.Replaced whole done.tree "b.cs" (Utf8.encode text.toList)) ∧
    (missing.result = .error (.exit 1 "Error: Template not found: .\n") ∧ missing.tree = whole) ∧
    ∃ flaw, flawed.result = .error (.failure (.undecodable flaw)) ∧
      Unprepared (t [0xFF]) "a.tt" "b.cs" (.undecodable flaw) := by
  intro t whole done missing flawed
  have hdone : done.result = .ok () := by decide +kernel
  have hmissing : missing.result = .error (.exit 1 "Error: Template not found: .\n") := by
    decide +kernel
  have hflawed : flawed.result = .error (.failure (.undecodable
      (.flawed ⟨.utf8Marked, 0xFF, 0, 1, .flaw .invalidStart⟩))) := by
    decide +kernel
  have hpath : (Path.ofString ".//b.cs").toString = "b.cs" := by decide +kernel
  have hwritten := (exits_of_run "a.tt" ".//b.cs" whole (by decide) (by decide)).2.2.1 hdone
  rw [hpath] at hwritten
  have hne : missing.result ≠ .ok () := by
    rw [hmissing]
    exact nofun
  have hrevocable : whole.Revocable := fun _ _ => rfl
  have hsame := (exits_of_run "" "b.cs" whole (by decide) (by decide)).2.2.2.1 hrevocable hne
  have hunprepared :=
    ((exits_of_run "a.tt" "b.cs" (t [0xFF]) (by decide) (by decide)).2.2.2.2.2 _).mp hflawed
  exact ⟨⟨hdone, hwritten⟩, ⟨hmissing, hsame⟩, _, hflawed, hunprepared⟩

/-- So the program may end neither with the program in its file nor with status 1. -/
theorem neither_success_nor_exit :
    let t (bytes : Bytes) : FileTree :=
      { workingDirectory := ["d"]
        entries := [(["d"], .directory), (["d", "a.tt"], .file bytes)] }
    let long := String.ofList (List.replicate 256 'a')
    let template := Utf8.encode "<#@ output extension=\"c\" #>".toList
    let neither (run : CommandRun) : Prop := run.result ≠ .ok () ∧
      ∀ explanation, run.result ≠ .error (.exit 1 ("Error: " ++ explanation ++ "\n"))
    neither (Command.run {} [long, "b.cs"] (t [])) ∧
      neither (Command.run {} ["a.tt", "b.cs"] (t [0xFF])) ∧
      neither (Command.run {} ["a.tt", "b\x00"] (t template)) := by
  intro t long template neither
  have hneither : ∀ (run : CommandRun) (failure : Failure),
      run.result = .error (.failure failure) → neither run := by
    intro run failure h
    refine ⟨fun hok => ?_, fun explanation hexit => ?_⟩
    · cases h.symm.trans hok
    · cases h.symm.trans hexit
  have hsize : FileTree.maxNameSize < long.utf8ByteSize := by decide +kernel
  have hletters : ∀ x ∈ long.toList, x = 'a' := by
    intro x hx
    rw [String.toList_ofList] at hx
    exact List.eq_of_mem_replicate hx
  clear_value long
  have hslash : '/' ∉ long.toList := fun h => absurd (hletters _ h) (by decide)
  have hnull : holdsNull long = false := by
    refine Bool.eq_false_iff.mpr fun h => ?_
    exact absurd (hletters _ (List.contains_iff_mem.mp h)) (by decide)
  have hhyphen : long.toList.head? ≠ some '-' := by
    intro h
    exact absurd (hletters _ (List.mem_of_head? h)) (by decide)
  have hrefused : Unprepared (t []) long "b.cs" _ :=
    .templateTooLong (FileTree.isFile_of_long hslash hnull hsize rfl)
  have hlong := Command.run_of_unprepared hhyphen (by decide) hrefused
  have hflawed : (Command.run {} ["a.tt", "b.cs"] (t [0xFF])).result =
      .error (.failure
        (.undecodable (.flawed ⟨.utf8Marked, 0xFF, 0, 1, .flaw .invalidStart⟩))) := by
    decide +kernel
  have hnowhere : (Command.run {} ["a.tt", "b\x00"] (t template)).result =
      .error (.failure .nullInPath) := by
    decide +kernel
  exact ⟨hneither _ _ hlong, hneither _ _ hflawed, hneither _ _ hnowhere⟩

end Stencil
