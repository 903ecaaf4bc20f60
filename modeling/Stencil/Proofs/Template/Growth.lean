import Mathlib.Algebra.GroupWithZero.Nat
import Stencil.Proofs.Template.DirectiveValues
import Stencil.Proofs.Template.Routing

/-!
# How the state of a scan grows

A host may drive the state of a scan by hand: take in code, have directives act, settle the output
path, and take a snapshot of what is gathered at any time.  In whatever order it does so, nothing
that was gathered is ever taken back, moved or replaced.  Regions and namespaces grow at their ends,
and an output path, once settled, is kept; so of two snapshots the later one extends the earlier.

## Main definitions

* `Operation`, `Operation.perform` — what may be done to a state, and what it answers.
* `History`, `Operation.performAll` — the answers of operations, and the state behind them.
* `ScanState.ExtendedBy` — one state holds all that another has gathered.
* `Operation.Adds` — what an operation adds to a state.

## Main results

* `Operation.extendedBy_perform`, `Operation.extendedBy_performAll` — states only grow.
* `Operation.settlings_performAll` — an output path is settled once at most.
* `growth_of_history` — **a later snapshot extends an earlier one.**
-/

namespace Stencil

/-! ### Operations -/

/-- What a host may do to the state of a scan. -/
inductive Operation where
  /-- Take in code of some kind. -/
  | assemble (kind : CodeKind) (body : String)
  /-- Offer a block of any kind. -/
  | offer (o : Offer)
  /-- Settle the output path. -/
  | setOutputPath (path : String)
  /-- Have a directive act. -/
  | applyDirective (d : Directive)
  /-- Take a snapshot of what is gathered. -/
  | makeResult
  deriving DecidableEq, Repr, Inhabited

/-- What an operation answers. -/
inductive Answer where
  /-- Nothing in particular. -/
  | done
  /-- A block was refused. -/
  | refused (why : ScanState.Refusal)
  /-- Whether this settled the output path. -/
  | settled (first : Bool)
  /-- What a directive reported. -/
  | reported (events : List Event)
  /-- A snapshot. -/
  | result (snapshot : ScanState)
  deriving DecidableEq, Repr, Inhabited

/-- The answers of operations, and the state behind them. -/
structure History where
  /-- The answers, in order. -/
  answers : List Answer
  /-- The state. -/
  state : ScanState
  deriving DecidableEq, Repr, Inhabited

/-- The snapshot that an answer is. -/
def Answer.result? : Answer → Option ScanState
  | .result snapshot => some snapshot
  | _ => none

/-- The snapshots among the answers, in order. -/
def History.results (h : History) : List ScanState := h.answers.filterMap Answer.result?

namespace Operation

/-- Do something to a state. -/
def perform (r : Registry) (s : ScanState) : Operation → Answer × ScanState
  | assemble kind body => (.done, s.assemble body kind)
  | offer o =>
      match s.assembleBlock o.body o.kind with
      | .ok t => (.done, t)
      | .error why => (.refused why, s)
  | setOutputPath path =>
      let attempt := s.setOutputPath path
      (.settled attempt.1, attempt.2)
  | applyDirective d =>
      let effect := r.applyDirective s d
      (.reported effect.events, effect.state)
  | makeResult => (.result s, s)

/-- Do one thing after the other. -/
def performAll (r : Registry) : ScanState → List Operation → History
  | s, [] => ⟨[], s⟩
  | s, op :: ops =>
      let first := op.perform r s
      let others := performAll r first.2 ops
      ⟨first.1 :: others.answers, others.state⟩

theorem performAll_append (r : Registry) (s : ScanState) (front back : List Operation) :
    performAll r s (front ++ back) =
      let first := performAll r s front
      let others := performAll r first.state back
      ⟨first.answers ++ others.answers, others.state⟩ := by
  induction front generalizing s with
  | nil => rfl
  | cons op ops ih => simp only [List.cons_append, performAll, ih]

end Operation

/-! ### States that extend others -/

/-- A state holds all that another has gathered: each list of the other begins it, and the output
path of the other, if there is one, is its own. -/
structure ScanState.ExtendedBy (s t : ScanState) : Prop where
  /-- The namespaces begin the later ones. -/
  usings : s.usings <+: t.usings
  /-- The entry routine begins the later one. -/
  script : s.script <+: t.script
  /-- The members of the class begin the later ones. -/
  classFeature : s.classFeature <+: t.classFeature
  /-- An output path that is settled is kept. -/
  outputPath : ∀ path, s.outputPath = some path → t.outputPath = some path

namespace ScanState

theorem ExtendedBy.refl (s : ScanState) : s.ExtendedBy s :=
  ⟨List.prefix_rfl, List.prefix_rfl, List.prefix_rfl, fun _ h => h⟩

theorem ExtendedBy.trans {s t u : ScanState} (h : s.ExtendedBy t) (h' : t.ExtendedBy u) :
    s.ExtendedBy u where
  usings := h.usings.trans h'.usings
  script := h.script.trans h'.script
  classFeature := h.classFeature.trans h'.classFeature
  outputPath := fun path hpath => h'.outputPath path (h.outputPath path hpath)

variable (s : ScanState)

theorem extendedBy_assemble (body : String) (kind : CodeKind) :
    s.ExtendedBy (s.assemble body kind) := by
  have hregion : ∀ m, s.region m <+: (s.assemble body kind).region m := by
    intro m
    rw [region_assemble]
    split
    · exact List.prefix_append _ _
    · exact List.prefix_rfl
  obtain ⟨-, husings, houtput⟩ := s.gathered_assemble body kind
  refine ⟨?_, hregion .script, hregion .classFeature, fun path hpath => ?_⟩
  · rw [husings]
  · rw [houtput, hpath]

/-- What settling the output path does: the one that is settled already wins. -/
theorem setOutputPath_eq (path : String) :
    s.setOutputPath path =
      (s.outputPath.isNone, { s with outputPath := s.outputPath.or (some path) }) := by
  obtain ⟨templatePath, mode, usings, outputPath, script, classFeature⟩ := s
  cases outputPath <;> rfl

theorem extendedBy_setOutputPath (path : String) : s.ExtendedBy (s.setOutputPath path).2 := by
  rw [setOutputPath_eq]
  refine ⟨List.prefix_rfl, List.prefix_rfl, List.prefix_rfl, fun path' hpath => ?_⟩
  rw [hpath]
  rfl

end ScanState

namespace Registry

variable (r : Registry) (s : ScanState)

theorem extendedBy_handle (directive property value : String) (handler : Handler) :
    s.ExtendedBy (r.handle s directive property value handler).state := by
  cases handler with
  | announce label => exact .refl s
  | addNamespace =>
    exact ⟨List.prefix_append _ _, List.prefix_rfl, List.prefix_rfl, fun _ h => h⟩
  | setExtension =>
    rw [handle]
    split
    · exact .refl s
    · exact s.extendedBy_setOutputPath _
  | hand => exact .refl s

theorem extendedBy_applyProperty (specification : Specification) (directive : String)
    (p : String × String) :
    s.ExtendedBy (r.applyProperty specification directive s p).state := by
  unfold applyProperty
  split
  · exact .refl s
  · exact r.extendedBy_handle s directive p.1 p.2 _

theorem extendedBy_applyProperties (specification : Specification) (directive : String)
    (ps : List (String × String)) :
    s.ExtendedBy (r.applyProperties specification directive s ps).state := by
  -- the properties act in turn, so the state varies in the induction
  induction ps generalizing s with
  | nil => exact .refl s
  | cons p ps ih => exact (r.extendedBy_applyProperty s specification directive p).trans (ih _)

theorem extendedBy_applyDirective (d : Directive) :
    s.ExtendedBy (r.applyDirective s d).state := by
  unfold applyDirective
  split
  · exact .refl s
  · exact r.extendedBy_applyProperties s _ d.name d.properties

end Registry

namespace Operation

variable (r : Registry) (s : ScanState)

/-- **An operation only extends the state.** -/
theorem extendedBy_perform (op : Operation) : s.ExtendedBy (op.perform r s).2 := by
  cases op with
  | assemble kind body => exact s.extendedBy_assemble body kind
  | offer o =>
    obtain ⟨kind, body⟩ := o
    cases kind with
    | directive => exact .refl s
    | code kind => exact s.extendedBy_assemble body kind
  | setOutputPath path => exact s.extendedBy_setOutputPath path
  | applyDirective d => exact r.extendedBy_applyDirective s d
  | makeResult => exact .refl s

theorem extendedBy_performAll (ops : List Operation) :
    s.ExtendedBy (performAll r s ops).state := by
  induction ops generalizing s with
  | nil => exact .refl s
  | cons op ops ih => exact (extendedBy_perform r s op).trans (ih _)

/-- A snapshot is the state that it is taken of. -/
theorem eq_of_result?_perform {op : Operation} {t : ScanState}
    (h : (op.perform r s).1.result? = some t) : s = t := by
  cases op with
  | makeResult => exact Option.some.inj h
  | offer o =>
    simp only [perform] at h
    split at h <;> cases h
  | _ => cases h

/-- The snapshots behind a first operation, and in front of them the one that it takes. -/
theorem results_performAll_cons (op : Operation) (ops : List Operation) :
    (performAll r s (op :: ops)).results =
      (op.perform r s).1.result?.toList ++ (performAll r (op.perform r s).2 ops).results := by
  rw [performAll, History.results, List.filterMap_cons]
  cases (op.perform r s).1.result? <;> rfl

theorem extendedBy_of_mem_results {ops : List Operation} {t : ScanState}
    (h : t ∈ (performAll r s ops).results) : s.ExtendedBy t := by
  induction ops generalizing s with
  | nil => cases h
  | cons op ops ih =>
    rw [results_performAll_cons, List.mem_append, Option.mem_toList] at h
    rcases h with h | h
    · obtain rfl := eq_of_result?_perform r s h
      exact .refl s
    · exact (extendedBy_perform r s op).trans (ih _ h)

/-- Of two snapshots the later one extends the earlier. -/
theorem pairwise_results (ops : List Operation) :
    (performAll r s ops).results.Pairwise ScanState.ExtendedBy := by
  induction ops generalizing s with
  | nil => exact List.Pairwise.nil
  | cons op ops ih =>
    rw [results_performAll_cons]
    refine List.pairwise_append.mpr ⟨?_, ih _, fun t ht t' ht' => ?_⟩
    · cases (op.perform r s).1.result? <;> simp
    · obtain rfl := eq_of_result?_perform r s (Option.mem_toList.mp ht)
      exact (extendedBy_perform r s op).trans (extendedBy_of_mem_results r _ ht')

end Operation

/-! ### How often an output path is settled -/

/-- A directive settles the output path. -/
def Event.settlesOutput : Event → Bool
  | outputFile _ => true
  | _ => false

/-- How often an answer tells of an output path being settled: by the operation itself, or by a
directive that was to act. -/
def Answer.settlings : Answer → Nat
  | .settled first => if first then 1 else 0
  | .reported events => events.countP Event.settlesOutput
  | _ => 0

/-- How many output paths a state still has to settle. -/
def ScanState.unsettled (s : ScanState) : Nat := if s.outputPath = none then 1 else 0

theorem ScanState.unsettled_assemble (s : ScanState) (body : String) (kind : CodeKind) :
    (s.assemble body kind).unsettled = s.unsettled := by
  rw [unsettled, unsettled, (s.gathered_assemble body kind).2.2]

namespace Registry

variable (r : Registry) (s : ScanState)

theorem settlings_handle (directive property value : String) (handler : Handler) :
    (r.handle s directive property value handler).events.countP Event.settlesOutput +
        (r.handle s directive property value handler).state.unsettled = s.unsettled := by
  cases handler with
  | setExtension =>
    cases hpath : s.outputPath <;>
      simp [handle, hpath, ScanState.setOutputPath, ScanState.unsettled, List.countP_cons,
        Event.settlesOutput]
  | _ => exact Nat.zero_add _

theorem settlings_applyProperty (specification : Specification) (directive : String)
    (p : String × String) :
    (r.applyProperty specification directive s p).events.countP Event.settlesOutput +
        (r.applyProperty specification directive s p).state.unsettled = s.unsettled := by
  unfold applyProperty
  split
  · simp [Event.settlesOutput]
  · exact r.settlings_handle s directive p.1 p.2 _

theorem settlings_applyProperties (specification : Specification) (directive : String)
    (ps : List (String × String)) :
    (r.applyProperties specification directive s ps).events.countP Event.settlesOutput +
        (r.applyProperties specification directive s ps).state.unsettled = s.unsettled := by
  induction ps generalizing s with
  | nil => exact Nat.zero_add _
  | cons p ps ih =>
    have hfirst := r.settlings_applyProperty s specification directive p
    have hrest := ih (r.applyProperty specification directive s p).state
    simp only [applyProperties, List.countP_append]
    omega

theorem settlings_applyDirective (d : Directive) :
    (r.applyDirective s d).events.countP Event.settlesOutput +
        (r.applyDirective s d).state.unsettled = s.unsettled := by
  unfold applyDirective
  split
  · simp [Event.settlesOutput]
  · exact r.settlings_applyProperties s _ d.name d.properties

end Registry

namespace Operation

variable (r : Registry) (s : ScanState)

/-- What an operation settles is no longer to be settled. -/
theorem settlings_perform (op : Operation) :
    (op.perform r s).1.settlings + (op.perform r s).2.unsettled = s.unsettled := by
  cases op with
  | assemble kind body => simpa [perform, Answer.settlings] using s.unsettled_assemble body kind
  | offer o =>
    obtain ⟨kind, body⟩ := o
    cases kind with
    | directive => exact Nat.zero_add _
    | code kind => exact (Nat.zero_add _).trans (s.unsettled_assemble body kind)
  | setOutputPath path =>
    rw [perform, ScanState.setOutputPath_eq]
    cases hpath : s.outputPath <;> simp [Answer.settlings, ScanState.unsettled, hpath]
  | applyDirective d => exact r.settlings_applyDirective s d
  | makeResult => exact Nat.zero_add _

/-- **An output path is settled once at most**, and only if there was none. -/
theorem settlings_performAll (ops : List Operation) :
    ((performAll r s ops).answers.map Answer.settlings).sum +
      (performAll r s ops).state.unsettled = s.unsettled := by
  induction ops generalizing s with
  | nil => exact Nat.zero_add _
  | cons op ops ih =>
    have hfirst := settlings_perform r s op
    have hrest := ih (op.perform r s).2
    simp only [performAll, List.map_cons, List.sum_cons]
    omega

end Operation

/-! ### What operations add -/

/-- The namespaces that a directive adds when it acts: the values of one property of one directive.
-/
def Directive.namespaces (d : Directive) : List String :=
  if d.name = "import" then (d.properties.filter (·.1 = "namespace")).map (·.2) else []

/-- How many fragments a state holds. -/
def ScanState.size (s : ScanState) : Nat := s.script.length + s.classFeature.length

theorem ScanState.size_assemble (s : ScanState) (body : String) (kind : CodeKind) :
    (s.assemble body kind).size = s.size + 1 := by
  have hscript := congrArg List.length (s.region_assemble body kind .script)
  have hfeatures := congrArg List.length (s.region_assemble body kind .classFeature)
  simp only [region] at hscript hfeatures
  rw [size, size, hscript, hfeatures]
  cases hgoes : kind.destination s.mode <;> simp <;> omega

namespace Registry

variable (settings : Settings) (s : ScanState)

/-- A property of a built-in directive adds a namespace if it is the one that does. -/
theorem usings_applyProperty_builtIn {directive : String} {specification : Specification}
    (h : (builtIn settings).find? directive = some specification) (p : String × String) :
    ((builtIn settings).applyProperty specification directive s p).state.usings =
      s.usings ++ if directive = "import" ∧ p.1 = "namespace" then [p.2] else [] := by
  obtain ⟨key, value⟩ := p
  rcases find?_builtIn_cases settings directive with
    ⟨rfl, hfind⟩ | ⟨rfl, hfind⟩ | ⟨himport, -, hannounce⟩
  · obtain rfl := Option.some.inj (h.symm.trans hfind)
    by_cases hkey : key = "namespace"
    · simp [applyProperty, hkey, handle]
    · simp [applyProperty, hkey, List.lookup_cons, beq_false_of_ne hkey]
  · obtain rfl := Option.some.inj (h.symm.trans hfind)
    by_cases hkey : key = "extension"
    · cases hpath : s.outputPath <;>
        simp [applyProperty, hkey, handle, hpath, ScanState.setOutputPath]
    · simp [applyProperty, List.lookup_cons, beq_false_of_ne hkey]
  · rw [applyProperty]
    split
    · simp [himport]
    · next handler hlookup =>
      obtain ⟨label, rfl⟩ : ∃ label, handler = .announce label :=
        hannounce specification h _ (mem_of_lookup hlookup)
      simp [handle, himport]

theorem usings_applyProperties_builtIn {directive : String} {specification : Specification}
    (h : (builtIn settings).find? directive = some specification) (ps : List (String × String)) :
    ((builtIn settings).applyProperties specification directive s ps).state.usings =
      s.usings ++
        if directive = "import" then (ps.filter (·.1 = "namespace")).map (·.2) else [] := by
  induction ps generalizing s with
  | nil => simp [applyProperties]
  | cons p ps ih =>
    simp only [applyProperties]
    rw [ih, usings_applyProperty_builtIn settings s h, List.append_assoc]
    by_cases hname : directive = "import"
    · by_cases hkey : p.1 = "namespace" <;> simp [hname, hkey]
    · simp [hname]

theorem usings_applyDirective_builtIn (d : Directive) :
    ((builtIn settings).applyDirective s d).state.usings = s.usings ++ d.namespaces := by
  unfold applyDirective
  split
  · next hnone =>
    have hname : d.name ≠ "import" := by
      intro hname
      rw [hname] at hnone
      cases hnone
    rw [Directive.namespaces, if_neg hname, List.append_nil]
  · next specification hfind =>
    exact usings_applyProperties_builtIn settings s hfind d.properties

end Registry

/-- What an operation of each kind answers and adds, where a state comes to be another one. -/
def Operation.Adds (before : ScanState) (answer : Answer) (after : ScanState) : Operation → Prop
  | .assemble _ _ => answer = .done ∧ after.size = before.size + 1
  | .offer o =>
      if o.isCode then answer = .done ∧ after.size = before.size + 1
      else answer = .refused .directive ∧ after = before
  | .setOutputPath path =>
      answer = .settled before.outputPath.isNone ∧
        after = { before with outputPath := before.outputPath.or (some path) }
  | .applyDirective d =>
      after.script = before.script ∧ after.classFeature = before.classFeature ∧
        after.usings = before.usings ++ d.namespaces
  | .makeResult => answer = .result before ∧ after = before

theorem Operation.adds_perform (settings : Settings) (s : ScanState) (op : Operation) :
    let step := op.perform (.builtIn settings) s
    op.Adds s step.1 step.2 := by
  intro step
  cases op with
  | assemble kind body => exact ⟨rfl, s.size_assemble body kind⟩
  | offer o =>
    obtain ⟨kind, body⟩ := o
    cases kind with
    | directive => exact ⟨rfl, rfl⟩
    | code kind => exact ⟨rfl, s.size_assemble body kind⟩
  | setOutputPath path =>
    show Answer.settled (s.setOutputPath path).1 = _ ∧ (s.setOutputPath path).2 = _
    rw [s.setOutputPath_eq]
    exact ⟨rfl, rfl⟩
  | applyDirective d =>
    obtain ⟨-, hscript, hfeatures⟩ := (Registry.builtIn settings).sameCode_applyDirective s d
    exact ⟨hscript, hfeatures, Registry.usings_applyDirective_builtIn settings s d⟩
  | makeResult => exact ⟨rfl, rfl⟩

/-- **A later snapshot extends an earlier one.**  Let a host do any operations with a state, the
directives being those that are built in.  Each snapshot extends those before it, and an output path
that is settled at some time is that of all snapshots from then on.  It is settled once at most, and
just then if there was none before and there is one behind.  Whatever is done next extends the state
again: code that is taken in adds one fragment, a refused block nothing, and a directive no fragment
but the namespaces it gives; settling the output path succeeds where there is none. -/
theorem growth_of_history (settings : Settings) (s : ScanState) (ops : List Operation) :
    let r := Registry.builtIn settings
    let history := Operation.performAll r s ops
    let t := history.state
    history.results.Pairwise ScanState.ExtendedBy ∧
      (∀ later,
        (Operation.performAll r s (ops ++ later)).answers =
          history.answers ++ (Operation.performAll r t later).answers ∧
        ∀ path, t.outputPath = some path →
          ∀ snapshot ∈ (Operation.performAll r t later).results,
            snapshot.outputPath = some path) ∧
      (history.answers.map Answer.settlings).sum =
        (if s.outputPath = none ∧ t.outputPath ≠ none then 1 else 0) ∧
      ∀ op : Operation, let step := op.perform r t
        t.ExtendedBy step.2 ∧ op.Adds t step.1 step.2 := by
  intro r history t
  refine ⟨Operation.pairwise_results r s ops, fun later => ⟨?_, ?_⟩, ?_, fun op => ?_⟩
  · rw [Operation.performAll_append]
  · intro path hpath snapshot hsnapshot
    exact (Operation.extendedBy_of_mem_results r t hsnapshot).outputPath path hpath
  · have hcount : (history.answers.map Answer.settlings).sum + t.unsettled = s.unsettled :=
      Operation.settlings_performAll r s ops
    have hgrows : s.ExtendedBy t := Operation.extendedBy_performAll r s ops
    rw [ScanState.unsettled, ScanState.unsettled] at hcount
    cases hs : s.outputPath with
    | none =>
      cases ht : t.outputPath <;> simp [hs, ht] at hcount ⊢ <;> omega
    | some path =>
      rw [hs, hgrows.outputPath path hs] at hcount
      simpa [hs] using hcount
  · exact ⟨Operation.extendedBy_perform r t op, op.adds_perform settings t⟩

end Stencil
