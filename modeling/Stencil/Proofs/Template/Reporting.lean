import Stencil.Proofs.Template.BrokenScan
import Stencil.Proofs.Template.Continuation

/-!
# Reports as they happen

What a scan reports is one list of events.  Here the scan is run with its reports handed over one by
one, each as soon as it happens, to a log of some verbosity and to the sink of the caller.  Whatever
the two are, the scan gathers the same and ends in the same way, and what arrives at them is what
the list says.  The list itself is known element by element of the template.

## Main definitions

* `Outlet`, `Outlet.report` — what has arrived at the log and in the caller's record.
* `Progress`, `Progress.scan` — a scan under way, which hands over its reports as they happen.
* `Grammar.modeBehind` — the mode that elements leave the scan in.
* `Grammar.Element.Reports` — what an element may report.

## Main results

* `Progress.scan_eq` — handing over reports one by one is handing over the list of events.
* `Outlet.foldl_report` — what arrives of a list of events.
* `Grammar.exists_reports_getElem?` — what each element reports.
* `trace_of_scan` — **one list of events underlies every sink and verbosity.**
-/

namespace Stencil

open Grammar (Element WellLaid printed itemsFrom)

/-! ### Logs and records -/

/-- What has arrived at the log, and in the record that a caller may keep. -/
structure Outlet where
  /-- The messages that were logged. -/
  log : List String := []
  /-- The notices that were recorded. -/
  record : List Notice := []

/-- An event is reported.  A sink that keeps a record takes what is for it, whatever its level; all
else is logged if the verbosity covers it. -/
def Outlet.report (verbosity : Option Int) (sink : Sink) (o : Outlet) (e : Event) : Outlet :=
  match e.channel, sink with
  | .sink, .record => { o with record := o.record ++ [e.notice] }
  | _, _ => if e.notice.passes verbosity then { o with log := o.log ++ [e.message] } else o

/-- What arrives of a list of events. -/
theorem Outlet.foldl_report (verbosity : Option Int) (sink : Sink) (events : List Event)
    (o : Outlet) :
    events.foldl (Outlet.report verbosity sink) o =
      ⟨o.log ++ logOf verbosity sink events, o.record ++ diagnosticsOf sink events⟩ := by
  induction events generalizing o with
  | nil => simp [logOf, diagnosticsOf]
  | cons e events ih =>
    rw [List.foldl_cons, ih]
    cases hchannel : e.channel <;> cases sink <;> cases hpasses : e.notice.passes verbosity <;>
      simp [report, logOf, diagnosticsOf, Sink.logs, hchannel, hpasses]

variable (verbosity : Option Int) (events : List Event)

/-- A sink that keeps a record leaves to the log what is not for it. -/
theorem logOf_record :
    logOf verbosity .record events =
      (events.filter fun e => e.channel = .log ∧ e.notice.passes verbosity).map Event.message := by
  refine congrArg (List.map _) (List.filter_congr fun e _ => ?_)
  cases hchannel : e.channel <;> simp [Sink.logs]

theorem diagnosticsOf_record :
    diagnosticsOf .record events = (events.filter (·.channel = .sink)).map Event.notice := by
  refine congrArg (List.map _) (List.filter_congr fun e _ => ?_)
  cases hchannel : e.channel <;> simp [Sink.logs]

/-- A sink that logs leaves everything to the log. -/
theorem logOf_log :
    logOf verbosity .log events =
      (events.filter (·.notice.passes verbosity)).map Event.message := by
  refine congrArg (List.map _) (List.filter_congr fun e _ => ?_)
  cases hchannel : e.channel <;> simp [Sink.logs]

theorem diagnosticsOf_log : diagnosticsOf .log events = [] := by
  have hnone : events.filter (fun e => !Sink.log.logs e.channel) = [] := by
    rw [List.filter_eq_nil_iff]
    intro e _
    cases hchannel : e.channel <;> simp [Sink.logs]
  rw [diagnosticsOf, hnone, List.map_nil]

/-- More is logged at a higher verbosity, in the same order. -/
theorem logOf_sublist {v w : Int} (h : v ≤ w) (sink : Sink) :
    (logOf (some v) sink events).Sublist (logOf (some w) sink events) := by
  refine List.Sublist.map _ (List.monotone_filter_right _ fun e he => ?_)
  simp only [Notice.passes, Bool.and_eq_true, decide_eq_true_eq] at he ⊢
  exact ⟨he.1, Int.le_trans he.2 h⟩

/-! ### Scans under way -/

/-- A scan under way: what is gathered, what was handed to the host, and what became of its
reports. -/
structure Progress (ω : Type) where
  /-- What is gathered. -/
  state : ScanState
  /-- What was handed to the host. -/
  calls : List Call := []
  /-- What became of the reports. -/
  out : ω

namespace Progress

variable {ω : Type} (report : ω → Event → ω) (r : Registry)

/-- Hand over a report. -/
def say (p : Progress ω) (e : Event) : Progress ω := { p with out := report p.out e }

/-- Handle one value of a property. -/
def handle (p : Progress ω) (directive property value : String) : Handler → Progress ω
  | .announce label => p.say report (.announced label value)
  | .addNamespace =>
      let p := p.say report (.usingNamespace value)
      { p with state := { p.state with usings := p.state.usings ++ [value] } }
  | .setExtension =>
      let p := p.say report (.outputExtension value)
      let path := r.settings.outputPath p.state.templatePath value
      match p.state.outputPath with
      | some settled => p.say report (.outputFileKept settled path)
      | none => { p with state := (p.state.setOutputPath path).2 }.say report (.outputFile path)
  | .hand tag => { p with calls := p.calls ++ [⟨tag, directive, property, value, p.state.mode⟩] }

/-- Apply one property of a directive with a given specification. -/
def property (specification : Specification) (directive : String) (p : Progress ω)
    (kv : String × String) : Progress ω :=
  match specification.lookup kv.1 with
  | none => p.say report (.propertyIgnored kv.1 directive)
  | some handler => p.handle report r directive kv.1 kv.2 handler

/-- Apply a directive: its properties in order, if its name is registered. -/
def directive (p : Progress ω) (d : Directive) : Progress ω :=
  match r.find? d.name with
  | none => p.say report (.directiveIgnored d.name d.line)
  | some specification => d.properties.foldl (property report r specification d.name) p

/-- Take in an item of a template. -/
def item (p : Progress ω) : Item → Progress ω
  | .block b =>
      let p := p.say report (.assembling b.kind b.line p.state.mode)
      { p with state := p.state.assemble b.body b.kind }
  | .directive d => p.directive report r d

/-- Read items and take them in, one behind the other. -/
def read (p : Progress ω) (c : Cursor) : Progress ω × Ending :=
  if _hc : c.current.isSome then
    match _h : c.readItem with
    | .broken fault _ => (p, .broken fault)
    | .read item d => (p.item report r item).read d.skipBlanks
  else (p.say report (.scanned p.state.script.length p.state.classFeature.length), .complete)
termination_by c.pending.length
decreasing_by
  exact Nat.lt_of_le_of_lt (Cursor.length_pending_skipBlanks_le d) (Cursor.readItem_lt _hc _h)

/-- Scan a text. -/
def scan (templatePath text : String) (out : ω) : Progress ω × Ending :=
  read report r { state := { templatePath }, out } (.start text)

/-! #### Effects -/

/-- The effect of a piece of a template has come about, its reports handed over in order. -/
def after (p : Progress ω) (effect : Effect) : Progress ω where
  state := effect.state
  calls := p.calls ++ effect.calls
  out := effect.events.foldl report p.out

theorem after_after (p : Progress ω) (first others : Effect) :
    (p.after report first).after report others =
      p.after report { state := others.state, events := first.events ++ others.events,
                       calls := first.calls ++ others.calls } := by
  simp [after, List.foldl_append]

theorem handle_eq (p : Progress ω) (directive property value : String) (handler : Handler) :
    p.handle report r directive property value handler =
      p.after report (r.handle p.state directive property value handler) := by
  cases handler with
  | setExtension =>
    cases hpath : p.state.outputPath <;> simp [handle, Registry.handle, say, after, hpath]
  | _ => simp [handle, Registry.handle, say, after]

theorem property_eq (specification : Specification) (directive : String) (p : Progress ω)
    (kv : String × String) :
    p.property report r specification directive kv =
      p.after report (r.applyProperty specification directive p.state kv) := by
  cases hhandler : specification.lookup kv.1 with
  | none => simp [property, Registry.applyProperty, hhandler, say, after]
  | some handler => simp only [property, Registry.applyProperty, hhandler, handle_eq]

theorem foldl_property (specification : Specification) (directive : String) (p : Progress ω)
    (kvs : List (String × String)) :
    kvs.foldl (property report r specification directive) p =
      p.after report (r.applyProperties specification directive p.state kvs) := by
  induction kvs generalizing p with
  | nil => simp [Registry.applyProperties, after]
  | cons kv kvs ih =>
    rw [List.foldl_cons, ih, property_eq, after_after]
    rfl

theorem item_eq (p : Progress ω) (item : Item) :
    p.item report r item = p.after report (r.applyItem p.state item) := by
  cases item with
  | block b => simp [Progress.item, Registry.applyItem, say, after]
  | directive d =>
    cases hfind : r.find? d.name with
    | none =>
      simp [Progress.item, directive, Registry.applyItem, Registry.applyDirective, hfind, say,
        after]
    | some specification =>
      simp only [Progress.item, directive, Registry.applyItem, Registry.applyDirective, hfind,
        foldl_property]

/-- **Reading and taking in items in turn** is reading them all and then having them act. -/
theorem read_eq (p : Progress ω) (c : Cursor) :
    p.read report r c =
      let transcript := c.readItems none
      let effect := r.applyItems p.state transcript.items
      (p.after report { effect with
        events := effect.events ++ effect.state.closing transcript.ending },
        transcript.ending) := by
  fun_induction p.read report r c with
  | case1 p c hc fault d hread =>
    rw [Cursor.readItems_of_broken hc hread]
    simp [Registry.applyItems, ScanState.closing, after]
  | case2 p c hc item d hread ih =>
    rw [ih, Cursor.readItems_of_read hc hread, item_eq]
    simp only [after_after, Registry.applyItems, List.append_assoc]
    rfl
  | case3 p c hc =>
    rw [Cursor.readItems_of_end (by simpa using hc)]
    simp [Registry.applyItems, ScanState.closing, after, say]

/-- **Handing over reports one by one** is handing over the list of events. -/
theorem scan_eq (templatePath text : String) (out : ω) :
    scan report r templatePath text out =
      let s := r.scan templatePath text
      (⟨s.state, s.calls, s.events.foldl report out⟩, s.ending) := by
  rw [scan, read_eq]
  simp only [after, List.nil_append, Registry.events_scan, Registry.state_scan,
    Registry.calls_scan, Registry.ending_scan]

end Progress

/-! ### What elements report -/

/-- Events that properties of directives may be reported by. -/
def Event.ofProperty : Event → Bool
  | announced _ _ | usingNamespace _ | outputExtension _ | outputFile _ | outputFileKept _ _
  | propertyIgnored _ _ => true
  | _ => false

theorem Event.level_of_ofProperty {e : Event} (h : e.ofProperty = true) : e.level ≠ 2 := by
  cases e <;> simp_all [ofProperty, level]

theorem ScanState.mode_put (s : ScanState) (fragment : Fragment) (mode : Mode) :
    (s.put fragment mode).mode = s.mode := by
  cases mode <;> rfl

namespace Grammar

/-- The mode that an element leaves the scan in. -/
def Element.modeBehind (mode : Mode) : Element → Mode
  | .block (.control _ _) _ => .script
  | .block (.classFeature _) _ => .classFeature
  | _ => mode

/-- The mode that elements leave a scan in. -/
def modeBehind (es : List Element) : Mode := es.foldl Element.modeBehind .script

/-- What an element may report that begins on some line, where the scan comes to it in some mode.
Text and code are reported once, and so is a directive of a name that is not registered; of other
directives the properties are reported. -/
def Element.Reports (r : Registry) (line : Int) (mode : Mode) (events : List Event) :
    Element → Prop
  | .text _ => events = [.assembling .text line mode]
  | .block (.control _ _) _ => events = [.assembling .control line mode]
  | .block (.expression _) _ => events = [.assembling .expression line mode]
  | .block (.classFeature _) _ => events = [.assembling .classFeature line mode]
  | .block (.directive d) _ =>
      if r.find? d.name.text = none then events = [.directiveIgnored d.name.text line]
      else ∀ e ∈ events, e.ofProperty = true

/-- What elements report, one behind the other, from a state and a place on. -/
def reports (r : Registry) : ScanState → Position → List Element → List (List Event)
  | _, _, [] => []
  | s, p, el :: es =>
      let first := r.applyItem s (el.item p.line)
      first.events :: reports r first.state (p.across el.print) es

end Grammar

namespace Registry

variable (r : Registry) (s : ScanState)

theorem ofProperty_of_mem_handle {directive property value : String} {handler : Handler} {e : Event}
    (h : e ∈ (r.handle s directive property value handler).events) : e.ofProperty = true := by
  cases handler with
  | setExtension =>
    simp only [handle] at h
    split at h <;> simp only [List.mem_cons, List.not_mem_nil, or_false] at h <;>
      rcases h with rfl | rfl <;> rfl
  | hand => cases h
  | _ =>
    obtain rfl := List.mem_singleton.mp h
    rfl

theorem ofProperty_of_mem_applyProperties {specification : Specification} {directive : String}
    {ps : List (String × String)} {e : Event}
    (h : e ∈ (r.applyProperties specification directive s ps).events) : e.ofProperty = true := by
  induction ps generalizing s with
  | nil => cases h
  | cons p ps ih =>
    rcases List.mem_append.mp h with h | h
    · unfold applyProperty at h
      split at h
      · obtain rfl := List.mem_singleton.mp h
        rfl
      · exact r.ofProperty_of_mem_handle s h
    · exact ih _ h

theorem mode_handle (directive property value : String) (handler : Handler) :
    (r.handle s directive property value handler).state.mode = s.mode := by
  cases handler with
  | setExtension =>
    cases hpath : s.outputPath <;> simp [handle, ScanState.setOutputPath, hpath]
  | _ => rfl

theorem mode_applyProperties (specification : Specification) (directive : String)
    (ps : List (String × String)) :
    (r.applyProperties specification directive s ps).state.mode = s.mode := by
  induction ps generalizing s with
  | nil => rfl
  | cons p ps ih =>
    refine (ih _).trans ?_
    unfold applyProperty
    split
    · rfl
    · exact r.mode_handle s _ _ _ _

theorem mode_applyItem (el : Element) (line : Int) :
    (r.applyItem s (el.item line)).state.mode = el.modeBehind s.mode := by
  cases el with
  | text run => exact s.mode_put _ _
  | block b gap =>
    cases b with
    | expression body => exact s.mode_put _ _
    | directive d =>
      simp only [Element.item, Grammar.Block.item, applyItem, applyDirective]
      split
      · rfl
      · exact r.mode_applyProperties s _ _ _
    | _ => rfl

theorem reports_applyItem (el : Element) (line : Int) :
    el.Reports r line s.mode (r.applyItem s (el.item line)).events := by
  cases el with
  | text run => rfl
  | block b gap =>
    cases b with
    | directive d =>
      simp only [Element.Reports, Element.item, Grammar.Block.item, applyItem, applyDirective,
        Grammar.Directive.read]
      cases hfind : r.find? d.name.text with
      | none => rfl
      | some specification =>
        exact fun e he => r.ofProperty_of_mem_applyProperties s he
    | _ => rfl

/-- Items report nothing on the second level. -/
theorem level_of_mem_applyItems {items : List Item} {e : Event}
    (h : e ∈ (r.applyItems s items).events) : e.level ≠ 2 := by
  induction items generalizing s with
  | nil => cases h
  | cons item items ih =>
    rcases List.mem_append.mp h with h | h
    · cases item with
      | block b =>
        obtain rfl := List.mem_singleton.mp h
        exact Int.ne_of_gt (by decide : (2 : Int) < 3)
      | directive d =>
        simp only [applyItem, applyDirective] at h
        split at h
        · obtain rfl := List.mem_singleton.mp h
          exact Int.ne_of_gt (by decide : (2 : Int) < 3)
        · exact Event.level_of_ofProperty (r.ofProperty_of_mem_applyProperties s h)
    · exact ih _ h

end Registry

namespace Grammar

variable (r : Registry) (s : ScanState) (p : Position)

theorem flatten_reports (es : List Element) :
    (reports r s p es).flatten = (r.applyItems s (itemsFrom p es)).events := by
  induction es generalizing s p with
  | nil => rfl
  | cons el es ih => rw [reports, List.flatten_cons, ih]; rfl

theorem length_reports (es : List Element) : (reports r s p es).length = es.length := by
  induction es generalizing s p with
  | nil => rfl
  | cons el es ih => rw [reports, List.length_cons, ih, List.length_cons]

/-- **What each element reports** is what may be reported of it, for the line that the elements in
front of it lead to and the mode that they leave the scan in. -/
theorem exists_reports_getElem? (front back : List Element) (el : Element) :
    ∃ own, (reports r s p (front ++ el :: back))[front.length]? = some own ∧
      el.Reports r (p.line + (printed front).count '\n')
        (front.foldl Element.modeBehind s.mode) own := by
  induction front generalizing s p with
  | nil =>
    refine ⟨_, rfl, ?_⟩
    simpa using r.reports_applyItem s el p.line
  | cons el' front ih =>
    obtain ⟨own, hown, hreports⟩ :=
      ih (r.applyItem s (el'.item p.line)).state (p.across el'.print)
    rw [Position.line_across, r.mode_applyItem, Int.add_assoc, ← Int.natCast_add,
      ← List.count_append, ← printed_cons] at hreports
    exact ⟨own, hown, hreports⟩

end Grammar

/-! ### Traces -/

namespace Registry

variable (r : Registry) (templatePath text : String)

/-- The closing event is the only one of the second level. -/
theorem level_two_iff :
    (∃ e ∈ (r.scan templatePath text).events, e.level = 2) ↔
      (r.scan templatePath text).ending = .complete := by
  rw [events_scan]
  constructor
  · rintro ⟨e, he, hlevel⟩
    rcases List.mem_append.mp he with he | he
    · exact absurd hlevel (r.level_of_mem_applyItems _ he)
    · cases hending : (r.scan templatePath text).ending with
      | complete => rfl
      | _ =>
        rw [hending] at he
        cases he
  · intro hcomplete
    rw [hcomplete]
    exact ⟨_, List.mem_append_right _ (List.mem_singleton_self _), rfl⟩

/-- The events of a scan are those of the elements that are read, and the closing one behind. -/
theorem exists_reports_scan :
    ∃ (es : List Element) (rest : List Char) (own : List (List Event)),
      WellLaid es ∧ text.toList = printed es ++ rest ∧
      ((Cursor.start text).readItems none).items = itemsFrom ⟨1, 1⟩ es ∧
      ((r.scan templatePath text).ending = .complete → rest = []) ∧
      (r.scan templatePath text).events = own.flatten ++
        (r.scan templatePath text).state.closing (r.scan templatePath text).ending ∧
      own.length = es.length ∧
      ∀ front el back, es = front ++ el :: back →
        ∃ reports, own[front.length]? = some reports ∧
          el.Reports r (1 + (printed front).count '\n') (Grammar.modeBehind front) reports := by
  obtain ⟨es, e, hlaid, hpass, hitems, hend⟩ := Cursor.exists_wellLaid (Cursor.start text)
  have htext : text.toList = printed es ++ e.pending := by
    rw [← hpass.pending_eq, Cursor.pending_start]
  have hread : ((Cursor.start text).readItems none).items = itemsFrom ⟨1, 1⟩ es := by
    cases es with
    | nil => exact hitems
    | cons el es =>
      rw [hitems, Cursor.position_start]
      simp [htext, el.print_ne_nil]
  refine ⟨es, e.pending, Grammar.reports r { templatePath } ⟨1, 1⟩ es, hlaid, htext, hread, ?_, ?_,
    Grammar.length_reports r _ _ es, ?_⟩
  · intro hcomplete
    rw [ending_scan] at hcomplete
    rcases hend with ⟨hnone, -⟩ | ⟨fault, d, -, hbroken⟩
    · exact Cursor.pending_eq_nil_iff.mpr hnone
    · rw [hbroken] at hcomplete
      cases hcomplete
  · rw [events_scan, hread, Grammar.flatten_reports]
  · rintro front el back rfl
    exact Grammar.exists_reports_getElem? r { templatePath } ⟨1, 1⟩ front back el

end Registry

/-- **One list of events underlies every sink and verbosity.**  Whatever is logged and whoever keeps
the reports of directives, a scan gathers the same and ends in the same way.  A sink that keeps a
record gets the events of directives, whatever their level, and the log those of the others that the
verbosity covers; with a sink that logs, the log shows all that the verbosity covers.  A log at a
higher verbosity shows no less.  The events are those of the elements that are read, in their order,
and behind them the one of the second level if the template is complete. -/
theorem trace_of_scan (r : Registry) (templatePath text : String) :
    let scan := r.scan templatePath text
    let events := scan.events
    let run := fun verbosity sink =>
      Progress.scan (Outlet.report verbosity sink) r templatePath text {}
    (∀ verbosity sink, run verbosity sink =
        (⟨scan.state, scan.calls, ⟨logOf verbosity sink events, diagnosticsOf sink events⟩⟩,
          scan.ending)) ∧
      (∀ verbosity, (run verbosity .record).1.out =
        { log := (events.filter fun e => e.channel = .log ∧ e.notice.passes verbosity).map
            Event.message
          record := (events.filter (·.channel = .sink)).map Event.notice }) ∧
      (∀ verbosity, (run verbosity .log).1.out =
        { log := (events.filter (·.notice.passes verbosity)).map Event.message, record := [] }) ∧
      (∀ (v w : Int) sink, v ≤ w →
        (run (some v) sink).1.out.log.Sublist (run (some w) sink).1.out.log) ∧
      ((∃ e ∈ events, e.level = 2) ↔ scan.ending = .complete) ∧
      ∃ (es : List Element) (rest : List Char) (own : List (List Event)),
        WellLaid es ∧ text.toList = printed es ++ rest ∧
        ((Cursor.start text).readItems none).items = itemsFrom ⟨1, 1⟩ es ∧
        (scan.ending = .complete → rest = []) ∧
        events = own.flatten ++ scan.state.closing scan.ending ∧ own.length = es.length ∧
        ∀ front el back, es = front ++ el :: back →
          ∃ reports, own[front.length]? = some reports ∧
            el.Reports r (1 + (printed front).count '\n') (Grammar.modeBehind front) reports := by
  intro scan events run
  have hrun : ∀ verbosity sink, run verbosity sink =
      (⟨scan.state, scan.calls, ⟨logOf verbosity sink events, diagnosticsOf sink events⟩⟩,
        scan.ending) := by
    intro verbosity sink
    have hfold := Outlet.foldl_report verbosity sink events {}
    refine (Progress.scan_eq _ r templatePath text _).trans ?_
    exact congrArg (fun out => (Progress.mk scan.state scan.calls out, scan.ending)) hfold
  refine ⟨hrun, fun verbosity => ?_, fun verbosity => ?_, fun v w sink h => ?_, ?_, ?_⟩
  · rw [hrun, logOf_record, diagnosticsOf_record]
  · rw [hrun, logOf_log, diagnosticsOf_log]
  · rw [hrun, hrun]
    exact logOf_sublist _ h sink
  · exact r.level_two_iff templatePath text
  · exact r.exists_reports_scan templatePath text

end Stencil
