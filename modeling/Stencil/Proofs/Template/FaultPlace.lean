import Stencil.Proofs.Template.BrokenReaders
import Stencil.Proofs.Template.BrokenScan
import Stencil.Proofs.Text.Offset

/-!
# Which fault, and where

The fault of a broken scan can be read off the text.  The first block that is not well formed
decides: code that is never closed is at fault where it was opened; a directive is at fault at the
first offset at which no directive goes on like this, and if that is the end of the text, behind it.

## Main definitions

* `Grammar.BreaksAt` — where the first block opens that is not well formed.
* `Grammar.Begun`, `Grammar.LeavesAt` — how far a text goes on like some directive.
* `Grammar.LeavesValueOpen` — a text ends inside a value.

## Main results

* `Grammar.begun_print`, `Grammar.not_begun_of_stopsAt` — a stub can be carried on to a directive,
  but not with the character it stops at.
* `place_of_broken_scan` — the fault of a broken scan and its place.
-/

namespace Stencil

open Grammar (WellLaid printed PropertyStub DirectiveStub)

namespace Grammar

/-! ### Beginnings of directives -/

/-- The first block that is not well formed opens at an offset: what is in front of it is well laid,
and no block is written from there on. -/
def BreaksAt (s : List Char) (k : Nat) : Prop :=
  (∃ es, WellLaid es ∧ printed es = s.take k) ∧ (∃ rest, s.drop k = '<' :: '#' :: rest) ∧
    ∀ b : Block, ¬ b.print <+: s.drop k

/-- Some directive begins like this.  The two characters of a closing marker are one token, which is
there as a whole or not at all. -/
def Begun (s : List Char) : Prop := ∃ d : Directive, s <+: '<' :: '#' :: '@' :: d.inner

/-- The first offset at which a text no longer goes on like any directive. -/
def LeavesAt (s : List Char) (j : Nat) : Prop :=
  j ≤ s.length ∧ ∀ i ≤ s.length, Begun (s.take i) ↔ i ≤ j

/-- A text is a directive up to some value, which has been opened and is not closed. -/
def LeavesValueOpen (s : List Char) : Prop :=
  ∃ e : DirectiveStub, e.last.isOpen = true ∧ s = '<' :: '#' :: '@' :: e.print

theorem Begun.mono {s t : List Char} (h : Begun t) (hs : s <+: t) : Begun s := by
  obtain ⟨d, hd⟩ := h
  exact ⟨d, hs.trans hd⟩

/-- A directive in front of its closing marker as a stub. -/
def Directive.stub (d : Directive) : DirectiveStub where
  beforeName := d.beforeName
  name := d.name
  behindName := d.behindName
  properties := d.properties
  last := .due
  apart := by
    intro hne
    refine d.apart fun hnil => hne ?_
    rw [hnil]
    rfl

theorem Directive.print_stub (d : Directive) : d.stub.print = d.inner := by
  simp [DirectiveStub.print, Directive.stub, PropertyStub.print, Directive.inner]

/-- A stub with nothing of a last property is all of a directive but its closing marker. -/
theorem DirectiveStub.exists_directive {e : DirectiveStub} (h : e.last = .due) :
    ∃ d : Directive, d.inner = e.print := by
  refine ⟨⟨e.beforeName, e.name, e.behindName, e.properties, fun hne => e.apart ?_⟩, ?_⟩
  · obtain ⟨q, qs, hqs⟩ := List.exists_cons_of_ne_nil hne
    obtain ⟨x, s, hprint, -⟩ := q.exists_print_eq_cons
    simp [hqs, hprint]
  · simp [DirectiveStub.print, Directive.inner, h, PropertyStub.print]

/-- What there is of a property can be carried on to a whole one. -/
theorem PropertyStub.exists_property {stub : PropertyStub} (h : stub.print ≠ []) :
    ∃ q : Property, stub.print <+: q.print := by
  let none : Blanks := ⟨[], by simp⟩
  let empty : Value := ⟨[], by simp⟩
  cases stub with
  | due => exact absurd rfl h
  | key k named behind =>
    exact ⟨⟨k, named, behind, none, empty, none⟩, by simp [print, Property.print]⟩
  | equals k named before behind =>
    exact ⟨⟨k, named, before, behind, empty, none⟩, by simp [print, Property.print]⟩
  | value k named before behind v =>
    exact ⟨⟨k, named, before, behind, v, none⟩, by simp [print, Property.print]⟩

/-- A stub can be carried on to a directive. -/
theorem begun_print (e : DirectiveStub) : Begun ('<' :: '#' :: '@' :: e.print) := by
  by_cases hlast : e.last.print = []
  · obtain ⟨d, hd⟩ := DirectiveStub.exists_directive (PropertyStub.eq_due_of_print hlast)
    exact ⟨d, by rw [hd]⟩
  · obtain ⟨q, rest, hq⟩ := PropertyStub.exists_property hlast
    have hapart := e.apart (by simp [hlast])
    refine ⟨⟨e.beforeName, e.name, e.behindName, e.properties ++ [q], fun _ => hapart⟩, rest, ?_⟩
    simp [DirectiveStub.print, Directive.inner, printedProperties, ← hq]

/-- Where a stub stops is decided by the character that stands there and, where the directive may
end, by the one behind it. -/
theorem PropertyStub.StopsAt.of_current {stub : PropertyStub} {c d : Cursor} (h : stub.StopsAt c)
    (hcurrent : d.current = c.current) (hclosing : stub = .due → ¬ d.onPair '#' '>' = true) :
    stub.StopsAt d := by
  cases stub with
  | due => exact ⟨by rw [hcurrent]; exact h.1, hclosing rfl⟩
  | key k named behind =>
    show ∀ x ∈ d.current, _
    rw [hcurrent]
    exact h
  | equals k named before behind =>
    show ∀ x ∈ d.current, _
    rw [hcurrent]
    exact h
  | value k named before behind v =>
    show d.current = none
    rw [hcurrent]
    exact h

/-- With the character that it stops at, a stub cannot be carried on to a directive. -/
theorem not_begun_of_stopsAt {e : DirectiveStub} {d : Cursor} {x : Char}
    (hstop : e.last.StopsAt d) (hx : d.current = some x) :
    ¬ Begun ('<' :: '#' :: '@' :: (e.print ++ [x])) := by
  rintro ⟨whole, hwhole⟩
  simp only [List.cons_prefix_cons, true_and] at hwhole
  obtain ⟨t, ht⟩ := hwhole
  rw [List.append_assoc, List.singleton_append] at ht
  -- a reader on the whole directive would have to give up where the stub ends
  let c := Cursor.start (String.ofList (whole.inner ++ ['#', '>']))
  have hc : c.pending = whole.inner ++ ['#', '>'] := by
    rw [Cursor.pending_start, String.toList_ofList]
  have hwholly := Cursor.passes_of_pending (t := []) (by rw [hc, List.append_nil])
  have hread : c.readDirective 0 = .read (whole.read 0) _ :=
    Cursor.readDirective_eq_read_iff.mpr ⟨whole, rfl, hwholly⟩
  have hsplit : c.pending = e.print ++ x :: (t ++ ['#', '>']) := by
    rw [hc, ← ht, List.append_assoc, List.cons_append]
  obtain ⟨d', hpass, hpending⟩ := Cursor.exists_passes hsplit
  have hcurrent : d'.current = d.current := (Cursor.current_of_pending hpending).trans hx.symm
  by_cases hclosing : e.last = .due → ¬ d'.onPair '#' '>' = true
  · have hbroken : c.readDirective 0 = .broken ⟨_, d'.position⟩ d' :=
      Cursor.readDirective_eq_broken_iff.mpr ⟨e, hpass, hstop.of_current hcurrent hclosing, rfl⟩
    rw [hread] at hbroken
    cases hbroken
  · -- the directive would end right here, but more than its closing marker is left of it
    rw [Classical.not_imp, not_not] at hclosing
    obtain ⟨hdue, hpair⟩ := hclosing
    obtain ⟨part, hpart⟩ := DirectiveStub.exists_directive hdue
    have hmarker := Cursor.onPair_iff_passes.mp hpair
    have hread' : c.readDirective 0 = .read (part.read 0) (d'.advanceBy 2) :=
      Cursor.readDirective_eq_read_iff.mpr ⟨part, rfl, by rw [hpart]; exact hpass.trans hmarker⟩
    obtain ⟨-, hend⟩ := Reading.read.inj (hread.symm.trans hread')
    have hnil : (d'.advanceBy 2).pending = [] := by
      rw [← hend]
      simpa using hwholly.pending_eq.symm.trans hc
    have hlength := congrArg List.length (hpending.symm.trans hmarker.pending_eq)
    rw [hnil] at hlength
    simp at hlength

/-- A text leaves the directives behind the stub that a reader gives up behind. -/
theorem leavesAt_of_passes {e : DirectiveStub} {c d : Cursor} (hpass : c.Passes e.print d)
    (hstop : e.last.StopsAt d) :
    LeavesAt ('<' :: '#' :: '@' :: c.pending) (3 + e.print.length) := by
  have hfront : ('<' :: '#' :: '@' :: c.pending).take (3 + e.print.length) =
      '<' :: '#' :: '@' :: e.print := by
    rw [hpass.pending_eq, Nat.add_comm]
    simp
  constructor
  · rw [hpass.pending_eq]
    simp
    omega
  intro i hi
  constructor
  · intro hbegun
    by_contra hlt
    -- one character more is in front of the offset, and the stub stops at it
    obtain ⟨x, rest, hrest⟩ : ∃ x rest, d.pending = x :: rest := by
      refine List.exists_cons_of_ne_nil fun hnil => ?_
      rw [hpass.pending_eq, hnil] at hi
      simp at hi
      omega
    refine not_begun_of_stopsAt hstop (Cursor.current_of_pending hrest) (hbegun.mono ?_)
    have hprefix : '<' :: '#' :: '@' :: (e.print ++ [x]) <+: '<' :: '#' :: '@' :: c.pending := by
      rw [hpass.pending_eq, hrest]
      simp
    refine List.prefix_of_prefix_length_le hprefix (List.take_prefix _ _) ?_
    simp only [List.length_cons, List.length_append, List.length_take, List.length_nil] at hi ⊢
    omega
  · intro hle
    refine (begun_print e).mono ?_
    rw [← hfront]
    exact List.take_prefix_take_left hle

end Grammar

/-! ### Places in a text -/

namespace Cursor

/-- A reader that passed the beginning of a text stands at the place of its offset. -/
theorem Passes.position_of_start {text : String} {s : List Char} {d : Cursor}
    (h : (start text).Passes s d) (hd : d.current.isSome = true) :
    d.position = .ofOffset text.toList s.length := by
  have htext : text.toList = s ++ d.pending := by
    rw [← h.pending_eq, pending_start]
  obtain ⟨x, hx⟩ := Option.isSome_iff_exists.mp hd
  have hstart : (start text).position = .ofOffset text.toList 0 :=
    position_start (by simp [htext, pending_eq_cons hx])
  have hplace := h.position_ofOffset hstart ⟨d.pending, htext.symm⟩ hd
  rwa [Nat.zero_add] at hplace

/-- A reader that passed all of a text shows the place behind it. -/
theorem Passes.position_of_end {text : String} {s : List Char} {d : Cursor}
    (h : (start text).Passes s d) (hs : s ≠ []) (hd : d.current = none) :
    d.position = .behind text.toList := by
  have htext : text.toList = s := by
    rw [← pending_start, h.pending_eq, pending_eq_nil_iff.mpr hd, List.append_nil]
  have hstart : (start text).position = .ofOffset text.toList 0 :=
    position_start (by rwa [htext])
  rw [htext] at hstart ⊢
  exact h.position_behind hs hstart hd

/-! ### The block that a scan breaks in -/

/-- On an opening marker an item is read exactly if a block is written from there on. -/
theorem exists_readItem_iff {c : Cursor} (hpair : c.onPair '<' '#' = true) :
    (∃ item d, c.readItem = .read item d) ↔ ∃ b : Grammar.Block, b.print <+: c.pending := by
  have hopening := onPair_iff_passes.mp hpair
  rw [readItem, if_pos hpair]
  constructor
  · rintro ⟨item, d, h⟩
    obtain ⟨b, -, hb⟩ := readBlock_eq_read_iff.mp h
    exact ⟨b, d.pending, (hopening.trans hb).pending_eq.symm⟩
  · rintro ⟨b, rest, hb⟩
    have hpass := passes_of_pending hb.symm
    obtain ⟨d, hd, hb⟩ := (passes_append (s := ['<', '#'])).mp hpass
    obtain rfl := hd.eq_advanceBy
    exact ⟨_, _, readBlock_eq_read_iff.mpr ⟨b, rfl, hb⟩⟩

/-- A reading that breaks does so in the first block that is not well formed. -/
theorem exists_breaksAt {text : String} {fault : SyntaxFault}
    (h : ((start text).readItems none).ending = .broken fault) :
    ∃ k, Grammar.BreaksAt text.toList k := by
  obtain ⟨es, opening, hlaid, hpass, -, hpair, hbroken, -⟩ := exists_wellLaid_of_broken h
  have htext : text.toList = printed es ++ opening.pending := by
    rw [← hpass.pending_eq, pending_start]
  have hdrop : text.toList.drop (printed es).length = opening.pending := by
    rw [htext, List.drop_left]
  refine ⟨(printed es).length, ⟨es, hlaid, by rw [htext, List.take_left]⟩, ?_, fun b hb => ?_⟩
  · rw [hdrop]
    exact onPair_iff.mp hpair
  · rw [hdrop] at hb
    obtain ⟨item, d, hread⟩ := (exists_readItem_iff hpair).mpr ⟨b, hb⟩
    rw [hread] at hbroken
    cases hbroken

/-- Where the first block opens that is not well formed, a reading breaks. -/
theorem exists_opening_of_breaksAt {text : String} {fault : SyntaxFault} {k : Nat}
    (h : ((start text).readItems none).ending = .broken fault)
    (hk : Grammar.BreaksAt text.toList k) :
    ∃ opening d, (start text).Passes (text.toList.take k) opening ∧
      opening.pending = text.toList.drop k ∧ opening.onPair '<' '#' = true ∧
      (opening.advanceBy 2).readBlock opening.position = .broken fault d := by
  obtain ⟨⟨es, hlaid, hprinted⟩, hopening, hnone⟩ := hk
  have hsplit : (start text).pending = text.toList.take k ++ text.toList.drop k := by
    rw [pending_start, List.take_append_drop]
  obtain ⟨opening, hpass, hpending⟩ := exists_passes hsplit
  have hpair : opening.onPair '<' '#' = true := onPair_iff.mpr (by rw [hpending]; exact hopening)
  have hreads := (reads_iff (.inr hpair)).mpr ⟨es, hlaid, rfl, by rw [hprinted]; exact hpass⟩
  cases hread : opening.readItem with
  | read item d =>
    obtain ⟨b, hb⟩ := (exists_readItem_iff hpair).mp ⟨item, d, hread⟩
    rw [hpending] at hb
    exact absurd hb (hnone b)
  | broken fault' d =>
    have hcurrent : opening.current.isSome = true := by
      rw [(onPair_iff_passes.mp hpair).1]
      rfl
    rw [hreads.readItems_eq, readItems_of_broken hcurrent hread] at h
    cases h
    rw [readItem, if_pos hpair] at hread
    exact ⟨opening, d, hpass, hpending, hpair, hread⟩

/-- Code that is never closed is at fault where it was opened. -/
theorem fault_of_readBlock {opening : Position} {c d : Cursor} {fault : SyntaxFault}
    (h : c.readBlock opening = .broken fault d) (hc : c.current ≠ some '@') :
    fault = ⟨.openBlock, opening⟩ := by
  rcases ofDiscriminator_cases c.current with ⟨hsign, -⟩ | ⟨-, hkind⟩ | ⟨-, hkind⟩ | ⟨-, hkind⟩
  · exact absurd hsign hc
  all_goals
    simp only [readBlock, hkind] at h
    exact fault_of_readBody (Reading.map_eq_broken.mp h)

theorem readDirective_of_readBlock {opening : Position} {c d : Cursor} {fault : SyntaxFault}
    (h : c.readBlock opening = .broken fault d) (hc : c.current = some '@') :
    c.advance.readDirective opening.line = .broken fault d := by
  simp only [readBlock, hc, BlockKind.ofDiscriminator] at h
  exact Reading.map_eq_broken.mp h

/-! ### Directives that break -/

section Directive

variable {c d : Cursor} {line : Int} {fault : SyntaxFault} {e : DirectiveStub}

/-- Behind the template a directive has a value open exactly if its stub has. -/
theorem leavesValueOpen_iff (hpass : c.Passes e.print d) (hstop : e.last.StopsAt d)
    (hd : d.pending = []) :
    Grammar.LeavesValueOpen ('<' :: '#' :: '@' :: c.pending) ↔ e.last.isOpen = true := by
  have hpending : c.pending = e.print := by
    rw [hpass.pending_eq, hd, List.append_nil]
  constructor
  · rintro ⟨e', hopen, heq⟩
    simp only [List.cons.injEq, true_and] at heq
    obtain ⟨d', hpass', hend'⟩ := exists_passes_all heq
    -- both stubs are all of the text, so the reader meets one fault behind them
    have hend := pending_eq_nil_iff.mp hd
    have hbroken : c.readDirective 0 = .broken ⟨_, d.position⟩ d :=
      readDirective_eq_broken_iff.mpr ⟨e, hpass, hstop, rfl⟩
    have hbroken' : c.readDirective 0 = .broken ⟨_, d'.position⟩ d' :=
      readDirective_eq_broken_iff.mpr ⟨e', hpass', PropertyStub.stopsAt_of_end _ hend', rfl⟩
    have hkind := congrArg (fun f => f.cause.kind)
      (Reading.broken.inj (hbroken.symm.trans hbroken')).1
    simp only [hend, hend', PropertyStub.kind_cause_none, hopen, if_true] at hkind
    by_contra hclosed
    rw [if_neg hclosed] at hkind
    cases hkind
  · intro hopen
    exact ⟨e, hopen, by rw [hpending]⟩

/-- A number sign where the directive may go on or end, and which opens no closing marker, is where
the directive breaks off. -/
theorem length_print_of_numberSign (h : c.readDirective line = .broken fault d)
    (hpass : c.Passes e.print d) {whole : Grammar.Directive} {rest : List Char}
    (hc : c.pending = whole.inner ++ '#' :: rest) (hrest : rest.head? ≠ some '>') :
    e.print.length = whole.inner.length := by
  obtain ⟨d', hpass', hd'⟩ := exists_passes hc
  have hstop : whole.stub.last.StopsAt d' := by
    refine ⟨forall_mem_current (current_of_pending hd') (by decide), fun hpair => ?_⟩
    obtain ⟨t, ht⟩ := onPair_iff.mp hpair
    rw [hd', List.cons.injEq] at ht
    rw [ht.2] at hrest
    exact hrest rfl
  have hbroken : c.readDirective line = .broken ⟨_, d'.position⟩ d' :=
    readDirective_eq_broken_iff.mpr
      ⟨whole.stub, by rw [whole.print_stub]; exact hpass', hstop, rfl⟩
  obtain ⟨-, rfl⟩ := Reading.broken.inj (h.symm.trans hbroken)
  have hlength := congrArg List.length (hpass.pending_eq.symm.trans hpass'.pending_eq)
  simpa using hlength

end Directive

end Cursor

/-! ### Broken scans -/

section Scan

variable {text : String} {fault : SyntaxFault} {k : Nat}

namespace Cursor

/-- The character behind the opening marker says what kind of block a reading breaks in. -/
theorem current_of_opening {opening : Cursor} (hpair : opening.onPair '<' '#' = true)
    (hpending : opening.pending = text.toList.drop k) :
    (opening.advanceBy 2).current = text.toList[k + 2]? := by
  rw [← head?_pending, ← List.head?_drop, ← List.drop_drop, ← hpending,
    (onPair_iff_passes.mp hpair).pending_eq]
  rfl

theorem length_take_of_breaksAt (hk : Grammar.BreaksAt text.toList k) :
    (text.toList.take k).length = k := by
  obtain ⟨-, ⟨rest, hrest⟩, -⟩ := hk
  have hlt : k < text.toList.length := by
    rw [← List.drop_eq_nil_iff.not.trans Nat.not_le, hrest]
    exact List.cons_ne_nil _ _
  exact List.length_take_of_le hlt.le

/-- Code in which a reading breaks is never closed, and it is at fault where it was opened. -/
theorem fault_of_code (h : ((start text).readItems none).ending = .broken fault)
    (hk : Grammar.BreaksAt text.toList k) (hcode : text.toList[k + 2]? ≠ some '@') :
    fault = ⟨.openBlock, .ofOffset text.toList k⟩ := by
  obtain ⟨opening, d, hpass, hpending, hpair, hread⟩ := exists_opening_of_breaksAt h hk
  rw [← current_of_opening hpair hpending] at hcode
  have hplace := hpass.position_of_start (by rw [(onPair_iff_passes.mp hpair).1]; rfl)
  rw [length_take_of_breaksAt hk] at hplace
  rw [fault_of_readBlock hread hcode, hplace]

/-- A directive in which a reading breaks is passed up to where its stub stops. -/
theorem exists_stub_of_directive (h : ((start text).readItems none).ending = .broken fault)
    (hk : Grammar.BreaksAt text.toList k) (hdirective : text.toList[k + 2]? = some '@') :
    ∃ (c d : Cursor) (line : Int) (e : DirectiveStub),
      text.toList.drop k = '<' :: '#' :: '@' :: c.pending ∧
      c.readDirective line = .broken fault d ∧
      c.Passes e.print d ∧ e.last.StopsAt d ∧
      fault = ⟨e.last.cause e.name.text d.current, d.position⟩ ∧
      (start text).Passes (text.toList.take k ++ '<' :: '#' :: '@' :: e.print) d := by
  obtain ⟨opening, d, hpass, hpending, hpair, hread⟩ := exists_opening_of_breaksAt h hk
  rw [← current_of_opening hpair hpending] at hdirective
  have hmarker := onPair_iff_passes.mp hpair
  have hbroken := readDirective_of_readBlock hread hdirective
  obtain ⟨e, hstub, hstop, hfault⟩ := readDirective_eq_broken_iff.mp hbroken
  refine ⟨_, d, _, e, ?_, hbroken, hstub, hstop, hfault, ?_⟩
  · rw [← hpending, hmarker.pending_eq, pending_eq_cons hdirective, pending_advance]
    rfl
  · exact hpass.trans (hmarker.trans (passes_cons.mpr ⟨hdirective, hstub⟩))

end Cursor

end Scan

/-- **The fault of a broken scan and its place.**  The first block that is not well formed decides.
Code is never closed, and is at fault where it was opened.  A directive is malformed at the first
character with which no directive goes on; if there is none, it is at fault behind the text, and its
value is never closed or, without an open value, the directive itself.  A number sign that may end
the directive but does not is such a character. -/
theorem place_of_broken_scan (r : Registry) {templatePath text : String} {fault : SyntaxFault}
    (h : (r.scan templatePath text).ending = .broken fault) :
    (∃ k, Grammar.BreaksAt text.toList k) ∧
      ∀ k, Grammar.BreaksAt text.toList k →
        (text.toList[k + 2]? ≠ some '@' →
          fault.cause.kind = .unterminatedBlock ∧ fault.position = .ofOffset text.toList k) ∧
        (text.toList[k + 2]? = some '@' →
          ∃ j, Grammar.LeavesAt (text.toList.drop k) j ∧
            (k + j < text.toList.length →
              fault.cause.kind = .malformedDirective ∧
                fault.position = .ofOffset text.toList (k + j)) ∧
            (k + j = text.toList.length →
              (fault.cause.kind = .unterminatedValue ↔
                Grammar.LeavesValueOpen (text.toList.drop k)) ∧
              (fault.cause.kind = .unterminatedBlock ↔
                ¬ Grammar.LeavesValueOpen (text.toList.drop k)) ∧
              fault.position = .behind text.toList) ∧
            ∀ (d : Grammar.Directive) rest,
              text.toList.drop k = '<' :: '#' :: '@' :: (d.inner ++ '#' :: rest) →
                rest.head? ≠ some '>' → j = 3 + d.inner.length) := by
  rw [Registry.ending_scan] at h
  refine ⟨Cursor.exists_breaksAt h, fun k hk => ⟨fun hcode => ?_, fun hdirective => ?_⟩⟩
  · obtain rfl := Cursor.fault_of_code h hk hcode
    exact ⟨rfl, rfl⟩
  · obtain ⟨c, d, line, e, hblock, hbroken, hstub, hstop, rfl, hfront⟩ :=
      Cursor.exists_stub_of_directive h hk hdirective
    have hj : (text.toList.take k ++ '<' :: '#' :: '@' :: e.print).length =
        k + (3 + e.print.length) := by
      simp only [List.length_append, List.length_cons, Cursor.length_take_of_breaksAt hk]
      omega
    have hcount : text.toList.length = k + (3 + e.print.length) + d.pending.length := by
      rw [← hj, ← List.length_append, ← hfront.pending_eq, Cursor.pending_start]
    refine ⟨3 + e.print.length, ?_, fun hlt => ?_, fun hend => ?_, fun whole rest hsplit hne => ?_⟩
    · rw [hblock]
      exact Grammar.leavesAt_of_passes hstub hstop
    · -- a character is where the directive breaks off
      obtain ⟨x, rest, hrest⟩ := List.exists_cons_of_length_pos (l := d.pending) (by omega)
      have hx := Cursor.current_of_pending hrest
      have hplace := hfront.position_of_start (by rw [hx]; rfl)
      rw [hj] at hplace
      refine ⟨?_, hplace⟩
      rw [hx]
      exact PropertyStub.kind_cause_some hstop hx _
    · -- the directive breaks off behind the text
      have hnil : d.pending = [] := List.length_eq_zero_iff.mp (by omega)
      have hnone := Cursor.pending_eq_nil_iff.mp hnil
      rw [hblock, Cursor.leavesValueOpen_iff hstub hstop hnil, hnone,
        PropertyStub.kind_cause_none]
      refine ⟨?_, ?_, hfront.position_of_end (by simp) hnone⟩
      · cases e.last.isOpen <;> simp
      · cases e.last.isOpen <;> simp
    · rw [hblock, List.cons.injEq, List.cons.injEq, List.cons.injEq] at hsplit
      rw [Cursor.length_print_of_numberSign hbroken hstub hsplit.2.2.2 hne]

-- A value that the template ends in, behind a line feed.
theorem place_of_open_value :
    let text := "a <#\n#><#@ b c = \"#>\n"
    let fault : SyntaxFault := ⟨.openValue "c", ⟨3, 0⟩⟩
    ((Registry.builtIn {}).scan "a.tt" text).ending = .broken fault ∧
      Grammar.BreaksAt text.toList 7 ∧
      ∃ j, Grammar.LeavesAt (text.toList.drop 7) j ∧
        (7 + j < text.toList.length →
          fault.cause.kind = .malformedDirective ∧
            fault.position = .ofOffset text.toList (7 + j)) ∧
        (7 + j = text.toList.length →
          (fault.cause.kind = .unterminatedValue ↔
            Grammar.LeavesValueOpen (text.toList.drop 7)) ∧
          (fault.cause.kind = .unterminatedBlock ↔
            ¬ Grammar.LeavesValueOpen (text.toList.drop 7)) ∧
          fault.position = .behind text.toList) ∧
        ∀ (d : Grammar.Directive) rest,
          text.toList.drop 7 = '<' :: '#' :: '@' :: (d.inner ++ '#' :: rest) →
            rest.head? ≠ some '>' → j = 3 + d.inner.length := by
  intro text fault
  have hbroken : ((Registry.builtIn {}).scan "a.tt" text).ending = .broken fault := by
    decide +kernel
  have hbreaks : Grammar.BreaksAt text.toList 7 := by
    have hlaid : WellLaid [.text ⟨['a', ' '], by decide, by decide⟩,
      .block (.control ⟨['\n'], by decide⟩ (by simp)) ⟨[], by simp⟩] := by decide
    refine ⟨⟨_, hlaid, by decide +kernel⟩, ⟨"@ b c = \"#>\n".toList, by decide +kernel⟩, ?_⟩
    intro b hb
    let c := Cursor.start "<#@ b c = \"#>\n"
    have hpending : text.toList.drop 7 = c.pending := by decide +kernel
    have hpair : c.onPair '<' '#' = true := by decide +kernel
    rw [hpending] at hb
    obtain ⟨item, d, hread⟩ := (Cursor.exists_readItem_iff hpair).mpr ⟨b, hb⟩
    have hitems := congrArg Transcript.items (Cursor.readItems_of_read rfl hread)
    have hnone : (c.readItems none).items = [] := by decide +kernel
    rw [hnone] at hitems
    cases hitems
  exact ⟨hbroken, hbreaks,
    ((place_of_broken_scan (Registry.builtIn {}) hbroken).2 7 hbreaks).2 (by decide +kernel)⟩

end Stencil
