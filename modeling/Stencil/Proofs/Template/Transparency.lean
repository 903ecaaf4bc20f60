import Stencil.Proofs.Template.Composition
import Stencil.Proofs.Template.Reporting

/-!
# What a template may hold without effect

Behind a block a template may hold blanks and directives of names that are not registered, in any
number and order.  They do nothing: the scan gathers what it would gather without them and ends as
it would end without them.  All that shows is one report for each of the directives, and that what
is reported of the template behind them is reported for lines further down.

## Main definitions

* `Grammar.Filler`, `Grammar.filled` — blanks and directives, and how they are written.
* `Grammar.filledBehind` — the elements that a block and what fills the space behind it make up.
* `Item.lower`, `Event.lower` — the same on a line further down.

## Main results

* `Grammar.itemsFrom_filledBehind` — of fillers behind a block the directives are read.
* `Cursor.readItems_filled` — what is read of a template with fillers in it.
* `scan_filled` — **fillers behind a block change reports and nothing else.**
-/

namespace Stencil

open Grammar (Element WellLaid printed itemsFrom)

/-! ### Fillers -/

namespace Grammar

/-- No blanks. -/
def Blanks.empty : Blanks := ⟨[], by simp⟩

/-- Blanks with more blanks behind them. -/
def Blanks.append (w w' : Blanks) : Blanks :=
  ⟨w.chars ++ w'.chars, fun x hx => (List.mem_append.mp hx).elim (w.blank x) (w'.blank x)⟩

/-- What may fill the space behind a block. -/
inductive Filler where
  /-- Blanks. -/
  | blanks (blanks : Blanks)
  /-- `<#@ … #>` -/
  | directive (directive : Directive)

/-- How a filler is written. -/
def Filler.print : Filler → List Char
  | blanks w => w.chars
  | directive d => (Block.directive d).print

/-- How fillers are written, one behind the other. -/
def filled (fs : List Filler) : List Char := fs.flatMap Filler.print

@[simp] theorem filled_nil : filled [] = [] := rfl

@[simp] theorem filled_cons (f : Filler) (fs : List Filler) :
    filled (f :: fs) = f.print ++ filled fs := rfl

@[simp] theorem filled_append (fs fs' : List Filler) :
    filled (fs ++ fs') = filled fs ++ filled fs' :=
  List.flatMap_append

/-- The directives that are read of fillers that are written from a place on. -/
def directivesFrom : Position → List Filler → List Stencil.Directive
  | _, [] => []
  | p, .blanks w :: fs => directivesFrom (p.across w.chars) fs
  | p, .directive d :: fs => d.read p.line :: directivesFrom (p.across (Block.directive d).print) fs

/-- The elements that a block, the blanks behind it and fillers make up.  Blanks belong to the block
in front of them. -/
def filledBehind : Block → Blanks → List Filler → List Element
  | b, gap, [] => [.block b gap]
  | b, gap, .blanks w :: fs => filledBehind b (gap.append w) fs
  | b, gap, .directive d :: fs => .block b gap :: filledBehind (.directive d) .empty fs

theorem printed_filledBehind (b : Block) (gap : Blanks) (fs : List Filler) :
    printed (filledBehind b gap fs) = (Element.block b gap).print ++ filled fs := by
  induction fs generalizing b gap with
  | nil => simp [filledBehind]
  | cons f fs ih =>
    cases f with
    | blanks w => simp [filledBehind, ih, Element.print, Blanks.append, Filler.print]
    | directive d => simp [filledBehind, ih, Element.print, Blanks.empty, Filler.print]

/-- Trailing blanks are no directive. -/
theorem directivesFrom_append_blanks (p : Position) (fs : List Filler) (w : Blanks) :
    directivesFrom p (fs ++ [.blanks w]) = directivesFrom p fs := by
  induction fs generalizing p with
  | nil => rfl
  | cons f fs ih =>
    cases f with
    | blanks w' => exact ih _
    | directive d => exact congrArg (d.read p.line :: ·) (ih _)

/-- Whatever is read of fillers is one of their directives. -/
theorem exists_filler_of_mem_directivesFrom {p : Position} {fs : List Filler}
    {d : Stencil.Directive} (h : d ∈ directivesFrom p fs) :
    ∃ d', Filler.directive d' ∈ fs ∧ d'.name.text = d.name := by
  induction fs generalizing p with
  | nil => cases h
  | cons f fs ih =>
    cases f with
    | blanks w =>
      obtain ⟨d', hd', hname⟩ := ih h
      exact ⟨d', List.mem_cons_of_mem _ hd', hname⟩
    | directive d' =>
      rcases List.mem_cons.mp h with rfl | h
      · exact ⟨d', List.mem_cons_self, rfl⟩
      · obtain ⟨d'', hd'', hname⟩ := ih h
        exact ⟨d'', List.mem_cons_of_mem _ hd'', hname⟩

/-- **Of fillers behind a block the directives are read,** and behind them what follows. -/
theorem itemsFrom_filledBehind (p : Position) (b : Block) (gap : Blanks) (fs : List Filler)
    (es : List Element) :
    itemsFrom p (filledBehind b gap fs ++ es) =
      b.item p.line ::
        ((directivesFrom (p.across (Element.block b gap).print) fs).map .directive ++
          itemsFrom (p.across ((Element.block b gap).print ++ filled fs)) es) := by
  induction fs generalizing p b gap with
  | nil =>
    rw [filled_nil, List.append_nil]
    rfl
  | cons f fs ih =>
    cases f with
    | blanks w =>
      have hgap : (Element.block b (gap.append w)).print =
          (Element.block b gap).print ++ w.chars := by
        simp [Element.print, Blanks.append]
      rw [filledBehind, ih, hgap, Position.across_append, List.append_assoc]
      rfl
    | directive d =>
      have hdirective : (Element.block (.directive d) .empty).print =
          (Block.directive d).print := by
        simp [Element.print, Blanks.empty]
      rw [filledBehind, List.cons_append, itemsFrom, ih, hdirective,
        Position.across_append (Element.block b gap).print]
      rfl

/-- Fillers and more elements may stand behind a block. -/
theorem wellLaid_filled {front es : List Element} {b : Block} {gap : Blanks}
    (h : WellLaid (front ++ [.block b gap])) (hes : WellLaid es)
    (hhead : ∀ x ∈ (printed es).head?, isBlank x = false) (fs : List Filler) :
    WellLaid (front ++ (filledBehind b gap fs ++ es)) := by
  induction fs generalizing front b gap with
  | nil => exact wellLaid_joined h hes hhead
  | cons f fs ih =>
    cases f with
    | blanks w =>
      exact ih (WellLaid.append_block (List.IsChain.left_of_append h) (List.IsChain.singleton _))
    | directive d =>
      have hlonger : WellLaid (front ++ [.block b gap] ++ [.block (.directive d) .empty]) :=
        h.append_block (List.IsChain.singleton _)
      have hrest := ih hlonger
      rwa [List.append_assoc] at hrest

end Grammar

/-! ### Further down -/

/-- The same item on a line further down. -/
def Item.lower (n : Int) : Item → Item
  | .block b => .block { b with line := b.line + n }
  | .directive d => .directive { d with line := d.line + n }

/-- The same event for a line further down, if it tells of a line. -/
def Event.lower (n : Int) : Event → Event
  | .directiveIgnored name line => .directiveIgnored name (line + n)
  | .assembling kind line mode => .assembling kind (line + n) mode
  | e => e

/-- What a property reports tells of no line. -/
theorem Event.lower_of_ofProperty {e : Event} (n : Int) (h : e.ofProperty = true) :
    e.lower n = e := by
  cases e <;> simp_all [Event.ofProperty, Event.lower]

@[simp] theorem Item.lower_zero (item : Item) : item.lower 0 = item := by
  cases item <;> simp [lower]

namespace Grammar

theorem Element.item_lower (el : Element) (line n : Int) :
    el.item (line + n) = (el.item line).lower n := by
  cases el with
  | text run => rfl
  | block b gap => cases b <;> rfl

/-- What is read of elements further down is the same, further down. -/
theorem itemsFrom_lower {p q : Position} {n : Int} (h : q.line = p.line + n) (es : List Element) :
    itemsFrom q es = (itemsFrom p es).map (Item.lower n) := by
  induction es generalizing p q with
  | nil => rfl
  | cons el es ih =>
    have hbehind : (q.across el.print).line = (p.across el.print).line + n := by
      rw [Position.line_across, Position.line_across]
      omega
    rw [itemsFrom, itemsFrom, List.map_cons, ih hbehind, h, el.item_lower]

end Grammar

namespace Registry

variable (r : Registry) (s : ScanState)

theorem applyItem_lower (n : Int) (item : Item) :
    r.applyItem s (item.lower n) =
      { r.applyItem s item with events := (r.applyItem s item).events.map (Event.lower n) } := by
  cases item with
  | block b => rfl
  | directive d =>
    simp only [Item.lower, applyItem, applyDirective]
    split
    · rfl
    · next specification _ =>
      have hsame : ∀ e ∈ (r.applyProperties specification d.name s d.properties).events,
          e.lower n = id e :=
        fun e he => Event.lower_of_ofProperty n (r.ofProperty_of_mem_applyProperties s he)
      rw [List.map_congr_left hsame, List.map_id]

/-- **Items further down do the same** and report it for lines further down. -/
theorem applyItems_lower (n : Int) (items : List Item) :
    r.applyItems s (items.map (Item.lower n)) =
      { r.applyItems s items with
        events := (r.applyItems s items).events.map (Event.lower n) } := by
  induction items generalizing s with
  | nil => rfl
  | cons item items ih =>
    simp only [List.map_cons, applyItems, applyItem_lower, ih, List.map_append]

/-- A directive of a name that is not registered does nothing but to be reported. -/
theorem applyItems_directives {ds : List Directive} (h : ∀ d ∈ ds, r.find? d.name = none)
    (items : List Item) :
    r.applyItems s (ds.map .directive ++ items) =
      { r.applyItems s items with
        events := ds.map (fun d => .directiveIgnored d.name d.line) ++
          (r.applyItems s items).events } := by
  induction ds with
  | nil => rfl
  | cons d ds ih =>
    have hd : r.applyItem s (.directive d) =
        { state := s, events := [.directiveIgnored d.name d.line] } := by
      rw [applyItem, applyDirective, h d List.mem_cons_self]
    simp only [List.map_cons, List.cons_append, applyItems, hd,
      ih fun d' hd' => h d' (List.mem_cons_of_mem _ hd'), List.nil_append]

/-- What comes before directives that mean nothing, they themselves, and what comes behind them. -/
theorem applyItems_around {ds : List Directive} (h : ∀ d ∈ ds, r.find? d.name = none)
    (front behind : List Item) (n : Int) :
    r.applyItems s (front ++ (ds.map .directive ++ behind.map (Item.lower n))) =
      let first := r.applyItems s front
      let others := r.applyItems first.state behind
      { state := others.state
        events := first.events ++ (ds.map (fun d => .directiveIgnored d.name d.line) ++
          others.events.map (Event.lower n))
        calls := first.calls ++ others.calls } := by
  simp only [effect_applyItems_append, r.applyItems_directives _ h, applyItems_lower]

end Registry

/-! ### Templates with fillers in them -/

theorem Ending.Alike.symm {e e' : Ending} (h : e.Alike e') : e'.Alike e := by
  cases e <;> cases e' <;> simp_all [Alike]

theorem Ending.Alike.trans {e e' e'' : Ending} (h : e.Alike e') (h' : e'.Alike e'') :
    e.Alike e'' := by
  cases e <;> cases e' <;> cases e'' <;> simp_all [Alike]

namespace Cursor

/-- **What is read of a template with fillers in it.**  Behind a block the directives among the
fillers are read, and behind them the same as without fillers, further down. -/
theorem readItems_filled {first : String} {item : Item}
    (hcomplete : ((start first).readItems none).ending = .complete)
    (hlast : ((start first).readItems none).items.getLast? = some item)
    (hitem : item.isBlock = true) (second : String) :
    ∃ (behind : List Item) (ending : Ending), ∀ fs : List Grammar.Filler,
      let reading :=
        (start (first ++ String.ofList (Grammar.filled fs) ++ second)).readItems none
      reading.ending.Alike ending ∧
        reading.items =
          ((start first).readItems none).items ++
            ((Grammar.directivesFrom (Position.across first.toList ⟨1, 1⟩) fs).map .directive ++
              behind.map (Item.lower ((Grammar.filled fs).count '\n'))) := by
  obtain ⟨es₁, hlaid₁, hprinted₁, hitems₁⟩ := exists_wellLaid_of_readItems hcomplete
  rw [hitems₁] at hlast
  obtain ⟨front, b, gap, rfl⟩ := Grammar.exists_block_of_getLast? hlast hitem
  rw [pending_start] at hprinted₁
  -- the second template is the same elements behind its leading blanks whatever they stand behind
  let lead : Grammar.Blanks :=
    ⟨second.toList.takeWhile isBlank, fun x hx => List.mem_takeWhile_imp hx⟩
  obtain ⟨es, e, hlaid, hrest, hhead, -, hending⟩ := exists_wellLaid_of_dropWhile second
  have hsecond : second.toList = lead.chars ++ (printed es ++ e.pending) := by
    rw [← hrest]
    exact List.takeWhile_append_dropWhile.symm
  have position_of_first : ∀ behind : String, (start (first ++ behind)).position = ⟨1, 1⟩ := by
    intro behind
    refine position_start ?_
    rw [String.toList_append, ← hprinted₁]
    simp [Element.print, Grammar.Block.print]
  refine ⟨itemsFrom (Position.across (first.toList ++ lead.chars) ⟨1, 1⟩) es,
    ((start (String.ofList (second.toList.dropWhile isBlank))).readItems none).ending,
    fun fs => ?_⟩
  have hwhole : (start (first ++ String.ofList (Grammar.filled fs) ++ second)).pending =
      printed (front ++ (Grammar.filledBehind b gap (fs ++ [.blanks lead]) ++ es)) ++
        e.pending := by
    rw [pending_start, String.toList_append, String.toList_append, ← hprinted₁, hsecond,
      String.toList_ofList]
    simp [Grammar.printed_filledBehind, Grammar.Filler.print]
  have hfilled := Grammar.wellLaid_filled hlaid₁ hlaid hhead (fs ++ [.blanks lead])
  obtain ⟨hitems, halike⟩ := readItems_alike hfilled hwhole hending
  refine ⟨halike, ?_⟩
  have hfirst : (start first).position = ⟨1, 1⟩ := by
    have := position_of_first ""
    rwa [String.append_empty] at this
  have hafter : ((Position.across (printed front) ⟨1, 1⟩).across (Element.block b gap).print) =
      Position.across first.toList ⟨1, 1⟩ := by
    rw [← Position.across_append, ← hprinted₁]
    simp
  have hlower : (Position.across (first.toList ++ (Grammar.filled fs ++ lead.chars)) ⟨1, 1⟩).line =
      (Position.across (first.toList ++ lead.chars) ⟨1, 1⟩).line +
        ((Grammar.filled fs).count '\n' : Int) := by
    simp only [Position.line_across, List.count_append]
    omega
  rw [hitems, hitems₁, hfirst, String.append_assoc, position_of_first,
    Grammar.itemsFrom_append_across, Grammar.itemsFrom_filledBehind,
    Grammar.directivesFrom_append_blanks, Position.across_append, hafter,
    ← Position.across_append, ← Grammar.itemsFrom_lower hlower,
    Grammar.itemsFrom_append_across _ front [.block b gap]]
  simp [itemsFrom, Element.item, Grammar.Filler.print]

end Cursor

/-- What a scan reports when it ends depends on whether the template is complete. -/
theorem ScanState.closing_of_alike (s : ScanState) {e e' : Ending} (h : e.Alike e') :
    s.closing e = s.closing e' := by
  cases e <;> cases e' <;> simp_all [Ending.Alike, closing]

/-- The closing report of a scan tells of no line. -/
theorem ScanState.lower_closing (s : ScanState) (n : Int) (e : Ending) :
    (s.closing e).map (Event.lower n) = s.closing e := by
  cases e <;> rfl

/-- Directives that mean nothing leave one notice each in the caller's record. -/
theorem diagnosticsOf_ignored (ds : List Directive) :
    diagnosticsOf .record (ds.map fun d => .directiveIgnored d.name d.line) =
      ds.map fun d => ⟨3, "Ignoring unrecognized directive '" ++ d.name ++ "' at line " ++
        toString d.line⟩ := by
  induction ds with
  | nil => rfl
  | cons d ds ih => exact congrArg (_ :: ·) ih

/-- **Fillers behind a block change reports and nothing else.**  Let the first template be complete
and end in a block, and let no filler be a directive of a name that is registered.  Whatever stands
behind, with the fillers in between the scan ends in the same way and leaves the same state as
without them.  It reports the same, but for one report of each of the directives, in the place where
they stand, and for the lines of what is reported behind them. -/
theorem scan_filled (r : Registry) {templatePath first : String} {fs : List Grammar.Filler}
    (hcomplete : (r.scan templatePath first).ending = .complete)
    (hlast : ∃ item ∈ ((Cursor.start first).readItems none).items.getLast?, item.isBlock = true)
    (hunknown : ∀ d, Grammar.Filler.directive d ∈ fs → r.find? d.name.text = none)
    (second : String) :
    let inserted := Grammar.directivesFrom (Position.across first.toList ⟨1, 1⟩) fs
    let front := r.scan templatePath first
    let shorter := r.scan templatePath (first ++ second)
    let longer := r.scan templatePath (first ++ String.ofList (Grammar.filled fs) ++ second)
    longer.ending.Alike shorter.ending ∧ longer.state = shorter.state ∧
      longer.calls = shorter.calls ∧
      ∃ before behind : List Event, front.events = before ++ front.state.closing .complete ∧
        shorter.events = before ++ behind ∧
        longer.events = before ++ (inserted.map (fun d => .directiveIgnored d.name d.line) ++
          behind.map (Event.lower ((Grammar.filled fs).count '\n'))) ∧
        diagnosticsOf .record longer.events = diagnosticsOf .record before ++
          (inserted.map (fun d => ⟨3, "Ignoring unrecognized directive '" ++ d.name ++
            "' at line " ++ toString d.line⟩) ++
          diagnosticsOf .record (behind.map (Event.lower ((Grammar.filled fs).count '\n')))) := by
  intro inserted front shorter longer
  obtain ⟨item, hitem, hblock⟩ := hlast
  obtain ⟨items, ending, hread⟩ := Cursor.readItems_filled hcomplete hitem hblock second
  obtain ⟨hlonger, hitems⟩ := hread fs
  obtain ⟨hshorter, hitems'⟩ := hread []
  have hknown : ∀ d ∈ inserted, r.find? d.name = none := by
    intro d hd
    obtain ⟨d', hd', hname⟩ := Grammar.exists_filler_of_mem_directivesFrom hd
    exact hname ▸ hunknown d' hd'
  -- without fillers the same is read in the same place
  have hnil : first ++ String.ofList (Grammar.filled []) = first := String.append_empty
  have hunmoved : items.map (Item.lower ((Grammar.filled []).count '\n')) = items :=
    List.map_id'' Item.lower_zero items
  rw [hnil] at hshorter hitems'
  rw [hunmoved] at hitems'
  have hended : longer.ending.Alike shorter.ending := by
    rw [Registry.ending_scan, Registry.ending_scan]
    exact hlonger.trans hshorter.symm
  let before := r.applyItems { templatePath } ((Cursor.start first).readItems none).items
  let behind := r.applyItems before.state items
  have hstate : longer.state = behind.state := by
    rw [Registry.state_scan, hitems, r.applyItems_around _ hknown]
  have hstate' : shorter.state = behind.state := by
    rw [Registry.state_scan, hitems', r.effect_applyItems_append]
    rfl
  have hcalls : longer.calls = shorter.calls := by
    rw [Registry.calls_scan, Registry.calls_scan, hitems, hitems', r.applyItems_around _ hknown,
      r.effect_applyItems_append]
    rfl
  have hfront : front.events = before.events ++ front.state.closing .complete := by
    rw [Registry.events_scan, hcomplete]
  have hevents' : shorter.events =
      before.events ++ (behind.events ++ behind.state.closing shorter.ending) := by
    rw [Registry.events_scan, hstate', hitems', r.effect_applyItems_append]
    exact List.append_assoc _ _ _
  have hevents : longer.events =
      before.events ++ (inserted.map (fun d => .directiveIgnored d.name d.line) ++
        (behind.events ++ behind.state.closing shorter.ending).map
          (Event.lower ((Grammar.filled fs).count '\n'))) := by
    rw [Registry.events_scan, hstate, ScanState.closing_of_alike _ hended, hitems,
      r.applyItems_around _ hknown, List.map_append, ScanState.lower_closing]
    simp only [List.append_assoc]
    rfl
  refine ⟨hended, hstate.trans hstate'.symm, hcalls, before.events,
    behind.events ++ behind.state.closing shorter.ending, hfront, hevents', hevents, ?_⟩
  rw [hevents, diagnosticsOf_append, diagnosticsOf_append, diagnosticsOf_ignored]

-- Behind a directive, with blanks and two directives of no use in between, one without a name; what
-- follows is broken.
theorem scan_filled_in_front_of_fault :
    let r := Registry.builtIn {}
    let first := "<#@ output extension=\"c\"#>"
    let second := "\n t<#= e #>u<#@ z #><#"
    let front := r.scan "a.tt" first
    let shorter := r.scan "a.tt" (first ++ second)
    let longer := r.scan "a.tt" (first ++ "\n\u2003<#@ #>\n<#@ q p=\"\n#><#\"#> " ++ second)
    front.ending = .complete ∧
      (∃ item ∈ ((Cursor.start first).readItems none).items.getLast?, item.isBlock = true) ∧
      (r.find? "" = none ∧ r.find? "q" = none) ∧
      longer.ending.Alike shorter.ending ∧ longer.state = shorter.state ∧
      ∃ before behind : List Event, front.events = before ++ front.state.closing .complete ∧
        shorter.events = before ++ behind ∧
        longer.events = before ++ ([.directiveIgnored "" 2, .directiveIgnored "q" 3] ++
          behind.map (Event.lower 3)) := by
  intro r first second front shorter longer
  let fs : List Grammar.Filler :=
    [.blanks ⟨['\n', '\u2003'], List.all_eq_true.mp rfl⟩,
     .directive
      { beforeName := ⟨[' '], List.all_eq_true.mp rfl⟩
        name := ⟨[], by simp⟩
        behindName := ⟨[], by simp⟩
        properties := []
        apart := fun h => absurd rfl h },
     .blanks ⟨['\n'], List.all_eq_true.mp rfl⟩,
     .directive
      { beforeName := ⟨[' '], List.all_eq_true.mp rfl⟩
        name := ⟨['q'], List.all_eq_true.mp (by decide)⟩
        behindName := ⟨[' '], List.all_eq_true.mp rfl⟩
        properties :=
          [{ key := ⟨['p'], List.all_eq_true.mp (by decide)⟩
             named := by decide
             beforeEquals := ⟨[], by simp⟩
             behindEquals := ⟨[], by simp⟩
             value := ⟨['\n', '#', '>', '<', '#'], by simp⟩
             behind := ⟨[], by simp⟩ }]
        apart := fun _ => ⟨by decide, by decide⟩ },
     .blanks ⟨[' '], List.all_eq_true.mp rfl⟩]
  have hcomplete : front.ending = .complete := by decide +kernel
  have hread : .directive ⟨"output", [("extension", "c")], 1⟩ ∈
      ((Cursor.start first).readItems none).items.getLast? := by
    decide +kernel
  have hlast : ∃ item ∈ ((Cursor.start first).readItems none).items.getLast?,
      item.isBlock = true := ⟨_, hread, rfl⟩
  have hnames : r.find? "" = none ∧ r.find? "q" = none := by decide
  have hunknown : ∀ d, Grammar.Filler.directive d ∈ fs → r.find? d.name.text = none := by
    intro d hd
    simp only [fs, List.mem_cons, Grammar.Filler.directive.injEq, reduceCtorEq, List.not_mem_nil,
      false_or, or_false] at hd
    rcases hd with rfl | rfl
    · exact hnames.1
    · exact hnames.2
  have hfilled : String.ofList (Grammar.filled fs) = "\n\u2003<#@ #>\n<#@ q p=\"\n#><#\"#> " := by
    decide
  have hlines : (Grammar.filled fs).count '\n' = 3 := by decide
  have hread' : Grammar.directivesFrom (Position.across first.toList ⟨1, 1⟩) fs =
      [⟨"", [], 2⟩, ⟨"q", [("p", "\n#><#")], 3⟩] := by
    decide
  obtain ⟨hending, hstate, -, before, behind, hfront, hshorter, hlonger, -⟩ :=
    scan_filled r hcomplete hlast hunknown second
  rw [hfilled] at hending hstate hlonger
  rw [hread', hlines] at hlonger
  exact ⟨hcomplete, hlast, hnames, hending, hstate, before, behind, hfront, hshorter, hlonger⟩

end Stencil
