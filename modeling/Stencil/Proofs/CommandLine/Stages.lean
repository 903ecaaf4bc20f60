import Stencil.CommandLine.Command

/-!
# Sessions that come to their end

With two arguments the program can only come to its end as a transformation of the first into the
second: options would leave too few values.  Of the three stages only the second touches files, and
it is handed the arguments as they were given.

## Main results

* `Request.parse_pair` — what two arguments ask for.
* `Session.runStages_all_eq_ok` — a session that comes to its end has transformed its template.
* `Command.run_pair_eq_ok` — the same for a command line.
-/

namespace Stencil

/-! ### Arguments -/

namespace Argument

/-- A value is the argument as it was given. -/
theorem eq_of_ofText_value {text value : String} (h : ofText text = .ok (.value value)) :
    value = text := by
  have hunknown : ∀ result : Argument, ofUnknown text = result → result = .value value →
      value = text := by
    rintro _ rfl hvalue
    unfold ofUnknown at hvalue
    split at hvalue
    · cases hvalue
      rfl
    · cases hvalue
  have hlong : ∀ (flag : Flag) (behind : Option (List Char)),
      ofLong flag behind ≠ .value value := by
    intro flag behind hvalue
    cases behind <;> cases hvalue
  unfold ofText at h
  split at h
  · simp only at h
    split at h
    · exact absurd (Except.ok.inj h) (hlong _ _)
    split at h
    · exact hunknown _ rfl (Except.ok.inj h)
    · exact absurd (Except.ok.inj h) (hlong _ _)
    · cases h
  · split at h
    · exact hunknown _ rfl (Except.ok.inj h)
    · cases h
    · cases h
    · cases h
  · cases h
    rfl

/-- An argument ends the options, or it is what its text makes it. -/
theorem classify_cons_eq_ok {text : String} {rest : List String} {arguments : List Argument}
    (h : classify (text :: rest) = .ok arguments) :
    (text = "--" ∧ arguments = .endOfOptions :: rest.map .value) ∨
    ∃ argument others, text ≠ "--" ∧ ofText text = .ok argument ∧ classify rest = .ok others ∧
      arguments = argument :: others := by
  unfold classify at h
  split at h
  · next hend =>
    cases h
    exact .inl ⟨hend, rfl⟩
  next hend =>
  split at h
  · cases h
  · cases h
  · next argument others hargument hothers =>
    cases h
    exact .inr ⟨argument, others, hend, hargument, hothers, rfl⟩

/-- Whether an argument is a value. -/
def isValue : Argument → Bool
  | value _ => true
  | _ => false

/-- No more values are taken than there are. -/
theorem length_takeValues_le (n : Nat) (segment : List Argument) :
    (takeValues n segment).1.length ≤ segment.countP isValue := by
  fun_induction takeValues n segment with
  | case1 n text rest others ih =>
    simp only [others, List.countP_cons, isValue, List.length_cons, if_true]
    omega
  | case2 n text rest others ih =>
    simp only [others, List.countP_cons, isValue, List.length_cons, if_true]
    omega
  | case3 n text rest _ others ih =>
    simp only [others, List.countP_cons, isValue, List.length_cons, if_true]
    omega
  | case4 n rest => exact Nat.zero_le _

end Argument

namespace Request

open Argument (isValue)

theorem Gathered.length_takeIn_le (g : Gathered) (segment : List Argument) :
    (g.takeIn segment).values.length ≤ g.values.length + segment.countP isValue := by
  have hle := Argument.length_takeValues_le (valueNames.length - g.values.length) segment
  rw [takeIn, List.length_append]
  omega

/-- Options have no part in the values. -/
theorem Gathered.values_of_act {g next : Gathered} {flags : List Flag}
    (h : g.act flags = .ok next) : next.values = g.values := by
  induction flags generalizing g with
  | nil =>
    cases h
    rfl
  | cons flag flags ih =>
    cases flag with
    | help => cases h
    | verbosity =>
      rw [act] at h
      have hvalues := ih h
      exact hvalues
    | version => cases h

/-- What options show is no transformation. -/
theorem Gathered.act_ne_transform {g : Gathered} {flags : List Flag}
    {template program : Option String} {verbosity : Nat} :
    g.act flags ≠ .error (.transform template program verbosity) := by
  intro h
  induction flags generalizing g with
  | nil => cases h
  | cons flag flags ih =>
    cases flag with
    | help => cases h
    | verbosity =>
      rw [act] at h
      exact ih h
    | version => cases h

theorem Gathered.length_of_finish {g : Gathered} {template program : Option String}
    {verbosity : Nat} (h : g.finish = .ok (.transform template program verbosity)) :
    g.values.length = 2 := by
  unfold finish at h
  split at h
  · next hvalues _ =>
    rw [hvalues]
    rfl
  · cases h
  · cases h

/-- A transformation takes two values, wherever they stand. -/
theorem two_le_of_parseFrom {g : Gathered} {segment arguments : List Argument}
    {template program : Option String} {verbosity : Nat}
    (h : parseFrom g segment arguments = .ok (.transform template program verbosity)) :
    2 ≤ g.values.length + segment.countP isValue + arguments.countP isValue := by
  fun_induction parseFrom g segment arguments with
  | case1 g segment =>
    have htwo := Gathered.length_of_finish h
    have hle := g.length_takeIn_le segment.reverse
    rw [List.countP_reverse] at hle
    omega
  | case2 g segment text rest g' ih =>
    have hle := g.length_takeIn_le segment.reverse
    rw [List.countP_reverse] at hle
    have htwo := ih h
    simp only [g', List.countP_nil, List.countP_cons, isValue] at htwo ⊢
    omega
  | case3 => cases h
  | case4 g segment flags rest request hact =>
    cases h
    exact absurd hact Gathered.act_ne_transform
  | case5 g segment flags rest next hact ih =>
    have hle := g.length_takeIn_le segment.reverse
    rw [List.countP_reverse] at hle
    have htwo := ih h
    rw [Gathered.values_of_act hact] at htwo
    simp only [List.countP_nil, List.countP_cons, isValue] at htwo ⊢
    omega
  | case6 g segment argument rest _ _ _ ih =>
    have htwo := ih h
    simp only [List.countP_cons] at htwo ⊢
    omega

/-- Two arguments that ask for a transformation are the template and the program. -/
theorem parse_pair {template program : String} {first second : Option String} {verbosity : Nat}
    (h : parse [template, program] = .ok (.transform first second verbosity)) :
    first = some template ∧ second = some program := by
  unfold parse at h
  split at h
  · cases h
  next arguments hclassify =>
  have htwo := two_le_of_parseFrom h
  -- an end of the options would leave one value at most
  rcases Argument.classify_cons_eq_ok hclassify with
    ⟨-, rfl⟩ | ⟨argument, others, hfirst, hargument, hothers, rfl⟩
  · exact absurd htwo (by simp [List.countP_cons, isValue])
  rcases Argument.classify_cons_eq_ok hothers with
    ⟨-, rfl⟩ | ⟨argument', others', hsecond, hargument', hothers', rfl⟩
  · cases argument <;> exact absurd htwo (by simp [List.countP_cons, isValue])
  cases hothers'
  cases argument with
  | value text =>
    cases argument' with
    | value text' =>
      obtain rfl := Argument.eq_of_ofText_value hargument
      obtain rfl := Argument.eq_of_ofText_value hargument'
      have hparse : parseFrom {} [] [.value text, .value text'] =
          .ok (.transform (Argument.due text) (Argument.due text') 0) := rfl
      rw [hparse, Argument.due, if_neg hfirst, Argument.due, if_neg hsecond] at h
      cases h
      exact ⟨rfl, rfl⟩
    | _ => exact absurd htwo (by simp [List.countP_cons, isValue])
  | _ => cases argument' <;> exact absurd htwo (by simp [List.countP_cons, isValue])

end Request

/-! ### Stages -/

namespace Session

theorem tree_checkEnvironment (session : Session) (tree : FileTree) :
    (session.checkEnvironment tree).tree = tree := by
  unfold checkEnvironment
  simp only
  split
  · rfl
  · rfl
  split <;> rfl

/-- The paths are checked beside the arguments, which stay as they were given. -/
theorem files_of_checkEnvironment {session next : Session} {tree : FileTree}
    (h : (session.checkEnvironment tree).result = .ok next) :
    next.templateFile = session.templateFile ∧ next.programFile = session.programFile := by
  unfold checkEnvironment at h
  simp only at h
  split at h
  · cases h
  · cases h
  split at h
  · cases h
  · cases h
  · cases h
    exact ⟨rfl, rfl⟩

theorem tree_reportSummary (session : Session) (tree : FileTree) :
    (session.reportSummary tree).tree = tree := by
  unfold reportSummary
  split <;> rfl

theorem transformTemplate_eq_ok {settings : Settings} {session next : Session} {tree : FileTree}
    (h : (session.transformTemplate settings tree).result = .ok next) :
    ∃ summary, (tree.transform settings session.templateFile session.programFile).result =
      .ok summary := by
  simp only [transformTemplate] at h
  split at h
  · next summary hsummary => exact ⟨summary, hsummary⟩
  · cases h
  · cases h

/-- Stages come to their end one after the other, each on the files that the one before it left. -/
theorem runStages_cons_eq_ok {settings : Settings} {session last : Session} {tree : FileTree}
    {stage : Stage} {stages : List Stage}
    (h : (session.runStages settings tree (stage :: stages)).result = .ok last) :
    ∃ next, (stage.run settings session tree).result = .ok next ∧
      (next.runStages settings (stage.run settings session tree).tree stages).result = .ok last ∧
      (session.runStages settings tree (stage :: stages)).tree =
        (next.runStages settings (stage.run settings session tree).tree stages).tree := by
  simp only [runStages] at h ⊢
  split at h
  · next stop hstop =>
    rw [hstop] at h
    cases h
  · next next hnext =>
    simp only [hnext]
    exact ⟨next, rfl, h, rfl⟩

/-- **A session that comes to its end has transformed its template**, and nothing else has become of
the files. -/
theorem runStages_all_eq_ok {settings : Settings} {session last : Session} {tree : FileTree}
    (h : (session.runStages settings tree Stage.all).result = .ok last) :
    let run := tree.transform settings session.templateFile session.programFile
    (∃ summary, run.result = .ok summary) ∧
      (session.runStages settings tree Stage.all).tree = run.tree := by
  obtain ⟨checked, hcheck, h, htree⟩ := runStages_cons_eq_ok h
  obtain ⟨transformed, htransform, h, htree'⟩ := runStages_cons_eq_ok h
  obtain ⟨reported, hreport, h, htree''⟩ := runStages_cons_eq_ok h
  simp only [Stage.run, tree_checkEnvironment] at hcheck htransform htree htree' htree''
  obtain ⟨htemplate, hprogram⟩ := files_of_checkEnvironment hcheck
  obtain ⟨summary, hsummary⟩ := transformTemplate_eq_ok htransform
  rw [htemplate, hprogram] at hsummary
  refine ⟨⟨summary, hsummary⟩, ?_⟩
  rw [Stage.all, htree, htree', htree'', tree_reportSummary]
  rw [← htemplate, ← hprogram]
  rfl

end Session

theorem exists_ok_of_map {ε α β : Type} {f : α → β} {x : Except ε α} {y : β}
    (h : x.map f = .ok y) : ∃ a, x = .ok a := by
  cases x with
  | error e => cases h
  | ok a => exact ⟨a, rfl⟩

theorem Command.transform_of_both (settings : Settings) (template program : String)
    (verbosity : Int) (tree : FileTree) :
    let session : Session := { templateFile := template, programFile := program, verbosity }
    let run := session.runStages settings tree Stage.all
    Command.transform settings (some template) (some program) verbosity tree =
      { result := run.result.map fun _ => (), tree := run.tree, verbosity := some verbosity,
        events := run.events } :=
  rfl

/-- A command line of two arguments that comes to its end has transformed the first into the
second. -/
theorem Command.run_pair_eq_ok {settings : Settings} {template program : String} {tree : FileTree}
    (h : (Command.run settings [template, program] tree).result = .ok ()) :
    let run := tree.transform settings template program
    (∃ summary, run.result = .ok summary) ∧
      (Command.run settings [template, program] tree).tree = run.tree := by
  unfold Command.run at h ⊢
  split at h
  · cases h
  · cases h
  · cases h
  next first second verbosity hparse =>
  obtain ⟨rfl, rfl⟩ := Request.parse_pair hparse
  rw [Command.transform_of_both] at h ⊢
  obtain ⟨last, hlast⟩ := exists_ok_of_map h
  have htransformed := Session.runStages_all_eq_ok hlast
  simp only at htransformed ⊢
  exact htransformed

end Stencil
