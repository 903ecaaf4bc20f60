import Stencil.Proofs.Template.Readers

/-!
# Directives that break off

A directive that is not well formed breaks off somewhere: behind its name, behind the name of a
property, behind an equals sign, or inside a value that the template ends in.  What there is of it
up to there is a stub.  A reader gives up exactly behind a stub, on a character that cannot follow
it or behind the template, and which fault it meets is decided by the stub and by that character.

## Main definitions

* `Grammar.PropertyStub`, `Grammar.DirectiveStub` — what there is of a directive that breaks off.
* `Grammar.PropertyStub.StopsAt` — where the cursor is behind a stub.
* `Grammar.PropertyStub.cause` — the fault that is met there.

## Main results

* `Cursor.exists_property_or_stub` — where a property is due, one stands or a stub of one.
* `Cursor.readDirective_eq_broken_iff` — the reader of directives gives up behind a stub and nowhere
  else.
* `Cursor.fault_of_readBody` — the reader of bodies gives up where the block was opened.
-/

namespace Stencil

open Grammar (Blanks Name)

/-- The fault met where `expected` should stand, by what stands there. -/
def SyntaxCause.ofMissing (expected context : String) : Option Char → SyntaxCause
  | none => .openExpectation expected context
  | some found => .unexpected expected context found

namespace Grammar

/-- What there is of a property that breaks off. -/
inductive PropertyStub where
  /-- Nothing, where a property or the end of the directive is due. -/
  | due
  /-- Its name and the blanks behind the name. -/
  | key (key : Name) (named : key.chars ≠ []) (behind : Blanks)
  /-- All up to the equals sign and the blanks behind the sign. -/
  | equals (key : Name) (named : key.chars ≠ []) (beforeEquals behindEquals : Blanks)
  /-- All up to some of its value, which has been opened. -/
  | value (key : Name) (named : key.chars ≠ []) (beforeEquals behindEquals : Blanks) (value : Value)

namespace PropertyStub

/-- How a stub is written. -/
def print : PropertyStub → List Char
  | due => []
  | key k _ behind => k.chars ++ behind.chars
  | equals k _ before behind => k.chars ++ (before.chars ++ ('=' :: behind.chars))
  | value k _ before behind v =>
      k.chars ++ (before.chars ++ ('=' :: (behind.chars ++ ('"' :: v.chars))))

theorem eq_due_of_print {stub : PropertyStub} (h : stub.print = []) : stub = due := by
  cases stub with
  | due => rfl
  | key k named behind => simp [print, named] at h
  | equals k named before behind => simp [print] at h
  | value k named before behind v => simp [print] at h

/-- Where the cursor is behind a stub: on nothing that would carry the property on. -/
def StopsAt (d : Cursor) : PropertyStub → Prop
  | due => (∀ x ∈ d.current, isBlank x = false ∧ isLetter x = false) ∧ ¬ d.onPair '#' '>' = true
  | key _ _ behind =>
      ∀ x ∈ d.current, isBlank x = false ∧ x ≠ '=' ∧ (behind.chars = [] → isLetter x = false)
  | equals _ _ _ _ => ∀ x ∈ d.current, isBlank x = false ∧ x ≠ '"'
  | value _ _ _ _ _ => d.current = none

/-- The fault met behind a stub, by the character that stands there. -/
def cause (directive : String) (found : Option Char) : PropertyStub → SyntaxCause
  | due =>
      match found with
      | none => .openDirective directive
      | some x => .noPropertyName directive x
  | key k _ _ => .ofMissing "=" ("after property '" ++ k.text ++ "'") found
  | equals k _ _ _ => .ofMissing "\"" ("to open the value of '" ++ k.text ++ "'") found
  | value k _ _ _ _ => .openValue k.text

/-- The stub ends inside a value. -/
def isOpen : PropertyStub → Bool
  | value _ _ _ _ _ => true
  | _ => false

/-- Behind the template nothing carries a property on. -/
theorem stopsAt_of_end (stub : PropertyStub) {d : Cursor} (hd : d.current = none) :
    stub.StopsAt d := by
  have hnone : ∀ {p : Char → Prop}, ∀ x ∈ d.current, p x := by
    simp [hd]
  cases stub with
  | due =>
    refine ⟨hnone, fun hpair => ?_⟩
    obtain ⟨rest, hrest⟩ := Cursor.onPair_iff.mp hpair
    rw [Cursor.pending_eq_nil_iff.mpr hd] at hrest
    cases hrest
  | key k named behind => exact hnone
  | equals k named before behind => exact hnone
  | value k named before behind v => exact hd

/-- Behind the template the family of the fault says whether a value is open. -/
theorem kind_cause_none (stub : PropertyStub) (directive : String) :
    (stub.cause directive none).kind =
      if stub.isOpen then .unterminatedValue else .unterminatedBlock := by
  cases stub <;> rfl

/-- On a character the directive is malformed, whatever it breaks off in. -/
theorem kind_cause_some {stub : PropertyStub} {d : Cursor} {x : Char} (h : stub.StopsAt d)
    (hx : d.current = some x) (directive : String) :
    (stub.cause directive (some x)).kind = .malformedDirective := by
  cases stub with
  | due => rfl
  | key k named behind => rfl
  | equals k named before behind => rfl
  | value k named before behind v =>
    have hend : d.current = none := h
    rw [hend] at hx
    cases hx

end PropertyStub

/-- What there is of a directive that breaks off, behind its sign. -/
structure DirectiveStub where
  /-- The blanks in front of the name. -/
  beforeName : Blanks
  /-- The name. -/
  name : Name
  /-- The blanks behind the name. -/
  behindName : Blanks
  /-- The properties that are whole. -/
  properties : List Property
  /-- The property that the directive breaks off in. -/
  last : PropertyStub
  /-- Properties stand behind a name, apart from it. -/
  apart : printedProperties properties ++ last.print ≠ [] → name.chars ≠ [] ∧ behindName.chars ≠ []

/-- How a stub is written. -/
def DirectiveStub.print (e : DirectiveStub) : List Char :=
  e.beforeName.chars ++ (e.name.chars ++ (e.behindName.chars ++
    (printedProperties e.properties ++ e.last.print)))

end Grammar

open Grammar (PropertyStub DirectiveStub)

namespace Cursor

/-! ### Properties -/

theorem expect_eq_broken_iff {x : Char} {context : String} {c d : Cursor} {fault : SyntaxFault} :
    c.expect (String.singleton x) context = .broken fault d ↔
      c = d ∧ (∀ y ∈ c.current, y ≠ x) ∧
        fault = ⟨.ofMissing (String.singleton x) context c.current, c.position⟩ := by
  unfold expect
  cases hc : c.current with
  | none =>
    simp only [Reading.broken.injEq, SyntaxCause.ofMissing]
    constructor
    · rintro ⟨rfl, rfl⟩
      exact ⟨rfl, by simp, rfl⟩
    · rintro ⟨rfl, -, rfl⟩
      exact ⟨rfl, rfl⟩
  | some y =>
    simp only [String.singleton_inj, SyntaxCause.ofMissing]
    by_cases hy : y = x
    · rw [if_pos hy]
      constructor
      · intro h
        cases h
      · rintro ⟨-, hne, -⟩
        exact absurd hy (hne y rfl)
    · rw [if_neg hy, Reading.broken.injEq]
      constructor
      · rintro ⟨rfl, rfl⟩
        refine ⟨rfl, ?_, rfl⟩
        rintro z ⟨⟩
        exact hy
      · rintro ⟨rfl, -, rfl⟩
        exact ⟨rfl, rfl⟩

theorem readQuoted_eq_broken_iff {property : String} {c d : Cursor} {fault : SyntaxFault} :
    c.readQuoted property = .broken fault d ↔
      (c = d ∧ (∀ y ∈ c.current, y ≠ '"') ∧
        fault = ⟨.ofMissing "\"" ("to open the value of '" ++ property ++ "'") c.current,
          c.position⟩) ∨
      ∃ value : Grammar.Value, c.Passes ('"' :: value.chars) d ∧ d.current = none ∧
        fault = ⟨.openValue property, d.position⟩ := by
  have hquote : "\"" = String.singleton '"' := rfl
  rw [readQuoted, Reading.bind_eq_broken, hquote, expect_eq_broken_iff]
  refine or_congr Iff.rfl ?_
  constructor
  · rintro ⟨_, c₁, h₁, h⟩
    have hopen := expect_eq_read_iff.mp h₁
    obtain ⟨hpass, hvalue, -⟩ := takeWhile_eq_iff.mp (Prod.eta (c₁.takeWhile (· != '"'))).symm
    simp only at h
    split at h
    · next hend =>
      cases h
      exact ⟨⟨_, fun y hy => by simpa using hvalue y hy⟩, hopen.trans hpass, hend, rfl⟩
    · cases h
  · rintro ⟨value, h, hend, rfl⟩
    obtain ⟨hopen, h⟩ := passes_cons.mp h
    refine ⟨(), c.advance, expect_eq_read_iff.mpr (passes_singleton.mpr ⟨hopen, rfl⟩), ?_⟩
    have hrun : c.advance.takeWhile (· != '"') = (value.chars, d) :=
      takeWhile_eq_iff.mpr ⟨h, fun y hy => by simpa using value.unquoted y hy, by simp [hend]⟩
    simp only [hrun, hend]

/-- In front of a stub with something in it the cursor is on a letter. -/
theorem Passes.current_of_stub {c d : Cursor} {stub : PropertyStub} (h : c.Passes stub.print d)
    (hstub : stub.print ≠ []) : ∃ x, c.current = some x ∧ isLetter x = true := by
  have of_key : ∀ {k : Name} {s : List Char}, k.chars ≠ [] → c.Passes (k.chars ++ s) d →
      ∃ x, c.current = some x ∧ isLetter x = true := by
    intro k s hk hpass
    obtain ⟨x, t, hkey⟩ := List.exists_cons_of_ne_nil hk
    rw [hkey, List.cons_append] at hpass
    exact ⟨x, hpass.1, k.letters x (by simp [hkey])⟩
  cases stub with
  | due => exact absurd rfl hstub
  | key k named behind => exact of_key named h
  | equals k named before behind => exact of_key named h
  | value k named before behind v => exact of_key named h

/-- In front of a stub the cursor is on no blank. -/
theorem Passes.notBlank_of_stub {c d : Cursor} {stub : PropertyStub} (h : c.Passes stub.print d)
    (hstop : stub.StopsAt d) : ∀ x ∈ c.current, isBlank x = false := by
  by_cases hstub : stub.print = []
  · obtain rfl := PropertyStub.eq_due_of_print hstub
    obtain rfl := passes_nil.mp h
    exact fun x hx => (hstop.1 x hx).1
  · obtain ⟨x, hx, hletter⟩ := h.current_of_stub hstub
    exact forall_mem_current hx (isBlank_eq_false_of_isLetter hletter)

/-- In front of a stub the cursor is not on the closing marker. -/
theorem Passes.not_closing_of_stub {c d : Cursor} {stub : PropertyStub} (h : c.Passes stub.print d)
    (hstop : stub.StopsAt d) : ¬ c.onPair '#' '>' = true := by
  by_cases hstub : stub.print = []
  · obtain rfl := PropertyStub.eq_due_of_print hstub
    obtain rfl := passes_nil.mp h
    exact hstop.2
  · intro hpair
    obtain ⟨x, hx, hletter⟩ := h.current_of_stub hstub
    obtain rfl := Option.some.inj (hx.symm.trans (onPair_iff_passes.mp hpair).1)
    exact absurd hletter (by decide)

/-- No name: where no letter stands, no property begins. -/
theorem readProperty_of_unnamed {directive : String} {c : Cursor}
    (hletter : ∀ x ∈ c.current, isLetter x = false) :
    c.readProperty directive =
      .broken ⟨PropertyStub.due.cause directive c.current, c.position⟩ c := by
  cases hc : c.current with
  | none => simp [readProperty, hc, PropertyStub.cause]
  | some x =>
    have hname : c.readName = (Name.text ⟨[], by simp⟩, c) := Passes.readName_eq rfl hletter
    simp [readProperty, hc, hname, Name.text, PropertyStub.cause]

/-- No equals sign behind the name. -/
theorem readProperty_of_unassigned {directive : String} {key : Name} {behind : Blanks}
    {c d : Cursor} (hnamed : key.chars ≠ []) (h : c.Passes (key.chars ++ behind.chars) d)
    (hstop : (PropertyStub.key key hnamed behind).StopsAt d) :
    c.readProperty directive =
      .broken ⟨(PropertyStub.key key hnamed behind).cause directive d.current, d.position⟩ d := by
  have hequals : "=" = String.singleton '=' := rfl
  obtain ⟨c₁, hkey, hbehind⟩ := passes_append.mp h
  have hexpect : d.expect (String.singleton '=') ("after property '" ++ key.text ++ "'") =
      .broken ⟨_, d.position⟩ d :=
    expect_eq_broken_iff.mpr ⟨rfl, fun y hy => (hstop y hy).2.1, rfl⟩
  rw [readProperty_of_key hnamed hkey hbehind (fun y hy => (hstop y hy).1)
    (fun hnil y hy => (hstop y hy).2.2 hnil), hequals, hexpect]
  rfl

/-- No opening quote behind the equals sign. -/
theorem readProperty_of_unopened {directive : String} {key : Name} {before behind : Blanks}
    {c d : Cursor} (hnamed : key.chars ≠ [])
    (h : c.Passes (key.chars ++ (before.chars ++ ('=' :: behind.chars))) d)
    (hstop : (PropertyStub.equals key hnamed before behind).StopsAt d) :
    c.readProperty directive =
      .broken ⟨(PropertyStub.equals key hnamed before behind).cause directive d.current,
        d.position⟩ d := by
  have hquoted : d.readQuoted key.text = .broken ⟨_, d.position⟩ d :=
    readQuoted_eq_broken_iff.mpr (.inl ⟨rfl, fun y hy => (hstop y hy).2, rfl⟩)
  rw [readProperty_of_equals hnamed h (fun y hy => (hstop y hy).1), hquoted]
  rfl

/-- No closing quote: the template ends in the value. -/
theorem readProperty_of_unclosed {directive : String} {key : Name} {before behind : Blanks}
    {value : Grammar.Value} {c c₁ d : Cursor} (hnamed : key.chars ≠ [])
    (h : c.Passes (key.chars ++ (before.chars ++ ('=' :: behind.chars))) c₁)
    (hvalue : c₁.Passes ('"' :: value.chars) d) (hend : d.current = none) :
    c.readProperty directive = .broken ⟨.openValue key.text, d.position⟩ d := by
  have hquoted : c₁.readQuoted key.text = .broken ⟨.openValue key.text, d.position⟩ d :=
    readQuoted_eq_broken_iff.mpr (.inr ⟨value, hvalue, hend, rfl⟩)
  rw [readProperty_of_equals hnamed h (forall_mem_current hvalue.1 (by decide)), hquoted]
  rfl

/-- Behind a stub the reader gives up. -/
theorem Passes.readProperty_of_stub {c d : Cursor} {stub : PropertyStub}
    (h : c.Passes stub.print d) (hstop : stub.StopsAt d) (directive : String) :
    c.readProperty directive = .broken ⟨stub.cause directive d.current, d.position⟩ d := by
  cases stub with
  | due =>
    obtain rfl := passes_nil.mp h
    exact readProperty_of_unnamed fun x hx => (hstop.1 x hx).2
  | key k named behind => exact readProperty_of_unassigned named h hstop
  | equals k named before behind => exact readProperty_of_unopened named h hstop
  | value k named before behind v =>
    have hprint : (PropertyStub.value k named before behind v).print =
        k.chars ++ (before.chars ++ ('=' :: behind.chars)) ++ ('"' :: v.chars) := by
      simp [PropertyStub.print]
    rw [hprint] at h
    obtain ⟨c₁, hfront, hvalue⟩ := passes_append.mp h
    exact readProperty_of_unclosed named hfront hvalue hstop

/-- What stands where a property is due begins with a property or with a stub. -/
theorem exists_property_or_stub {c : Cursor} (hblank : ∀ x ∈ c.current, isBlank x = false)
    (hclosing : ¬ c.onPair '#' '>' = true) :
    (∃ (q : Grammar.Property) (d : Cursor), c.Passes q.print d ∧
        ∀ x ∈ d.current, isBlank x = false) ∨
      ∃ (stub : PropertyStub) (d : Cursor), c.Passes stub.print d ∧ stub.StopsAt d := by
  obtain ⟨key, -, hkey, hletter⟩ := exists_name_readName c
  by_cases hnil : key.chars = []
  · -- no name
    rw [hnil] at hkey
    rw [← passes_nil.mp hkey] at hletter
    exact .inr ⟨.due, c, rfl, fun x hx => ⟨hblank x hx, hletter x hx⟩, hclosing⟩
  obtain ⟨before, hbefore, hstop⟩ := exists_blanks_skipBlanks c.readName.2
  generalize c.readName.2.skipBlanks = c₁ at hbefore hstop
  by_cases hsign : ∀ x ∈ c₁.current, x ≠ '='
  · -- no equals sign
    refine .inr ⟨.key key hnil before, c₁, hkey.trans hbefore, fun x hx => ?_⟩
    refine ⟨hstop x hx, hsign x hx, fun hnone => hletter x ?_⟩
    rw [hnone] at hbefore
    rwa [passes_nil.mp hbefore]
  have hsign : c₁.current = some '=' := by simpa using hsign
  obtain ⟨behind, hbehind, hstop⟩ := exists_blanks_skipBlanks c₁.advance
  have hfront := hkey.trans (hbefore.trans (passes_cons.mpr ⟨hsign, hbehind⟩))
  generalize c₁.advance.skipBlanks = c₂ at hfront hstop
  by_cases hquote : ∀ x ∈ c₂.current, x ≠ '"'
  · -- no opening quote
    exact .inr ⟨.equals key hnil before behind, c₂, hfront,
      fun x hx => ⟨hstop x hx, hquote x hx⟩⟩
  have hquote : c₂.current = some '"' := by simpa using hquote
  obtain ⟨hvalue, hchars, hend⟩ :=
    takeWhile_eq_iff.mp (Prod.eta (c₂.advance.takeWhile (· != '"'))).symm
  have hfront := hfront.trans (passes_cons.mpr ⟨hquote, hvalue⟩)
  have unquoted : ∀ x ∈ (c₂.advance.takeWhile (· != '"')).1, x ≠ '"' := by simpa using hchars
  generalize (c₂.advance.takeWhile (· != '"')).2 = c₃ at hfront hend
  cases hc₃ : c₃.current with
  | none =>
    -- no closing quote
    refine .inr ⟨.value key hnil before behind ⟨_, unquoted⟩, c₃, ?_, hc₃⟩
    simpa [PropertyStub.print] using hfront
  | some x =>
    obtain rfl : x = '"' := by simpa using hend x hc₃
    obtain ⟨rest, hrest, hstop⟩ := exists_blanks_skipBlanks c₃.advance
    refine .inl ⟨⟨key, hnil, before, behind, ⟨_, unquoted⟩, rest⟩, _, ?_, hstop⟩
    simpa [Grammar.Property.print] using hfront.trans (passes_cons.mpr ⟨hc₃, hrest⟩)

theorem readProperty_eq_broken_iff {directive : String} {c d : Cursor} {fault : SyntaxFault}
    (hblank : ∀ x ∈ c.current, isBlank x = false) (hclosing : ¬ c.onPair '#' '>' = true) :
    c.readProperty directive = .broken fault d ↔
      ∃ stub : PropertyStub, c.Passes stub.print d ∧ stub.StopsAt d ∧
        fault = ⟨stub.cause directive d.current, d.position⟩ := by
  constructor
  · intro h
    obtain ⟨q, d', hq, hstop⟩ | ⟨stub, d', hstub, hstop⟩ := exists_property_or_stub hblank hclosing
    · have hread : c.readProperty directive = .read q.pair d' :=
        readProperty_eq_read_iff.mpr ⟨q, rfl, hq, hstop⟩
      rw [hread] at h
      cases h
    · rw [hstub.readProperty_of_stub hstop] at h
      cases h
      exact ⟨stub, hstub, hstop, rfl⟩
  · rintro ⟨stub, h, hstop, rfl⟩
    exact h.readProperty_of_stub hstop directive

/-! ### Directives -/

theorem readProperties_of_broken {directive : String} {c d : Cursor} {fault : SyntaxFault}
    (hclosing : ¬ c.onPair '#' '>' = true) (h : c.readProperty directive = .broken fault d) :
    c.readProperties directive = .broken fault d := by
  rw [readProperties, if_neg hclosing]
  split <;> simp_all

/-- Behind a property stands another one or what there is of one, so no blank. -/
theorem Passes.notBlank_of_properties {c d : Cursor} {qs : List Grammar.Property}
    {stub : PropertyStub} (h : c.Passes (Grammar.printedProperties qs ++ stub.print) d)
    (hstop : stub.StopsAt d) : ∀ x ∈ c.current, isBlank x = false := by
  cases qs with
  | nil => exact Passes.notBlank_of_stub h hstop
  | cons q qs =>
    rw [Grammar.printedProperties_cons, List.append_assoc] at h
    obtain ⟨x, hx, hletter⟩ := h.current_of_property
    exact forall_mem_current hx (isBlank_eq_false_of_isLetter hletter)

theorem readProperties_eq_broken_iff {directive : String} {c d : Cursor} {fault : SyntaxFault}
    (hblank : ∀ x ∈ c.current, isBlank x = false) :
    c.readProperties directive = .broken fault d ↔
      ∃ qs, ∃ stub : PropertyStub,
        c.Passes (Grammar.printedProperties qs ++ stub.print) d ∧ stub.StopsAt d ∧
          fault = ⟨stub.cause directive d.current, d.position⟩ := by
  constructor
  · intro h
    fun_induction readProperties directive c with
    | case1 c hclosing => cases h
    | case2 c hclosing fault' d' hp =>
      cases h
      obtain ⟨stub, hpass, hstop, hfault⟩ := (readProperty_eq_broken_iff hblank hclosing).mp hp
      exact ⟨[], stub, hpass, hstop, hfault⟩
    | case3 c hclosing p d' hp ih =>
      obtain ⟨q, -, hq, hblank'⟩ := readProperty_eq_read_iff.mp hp
      obtain ⟨qs, stub, hpass, hstop, hfault⟩ := ih hblank' (Reading.map_eq_broken.mp h)
      refine ⟨q :: qs, stub, ?_, hstop, hfault⟩
      rw [Grammar.printedProperties_cons, List.append_assoc]
      exact hq.trans hpass
  · rintro ⟨qs, stub, h, hstop, rfl⟩
    induction qs generalizing c with
    | nil =>
      have hclosing := Passes.not_closing_of_stub h hstop
      exact readProperties_of_broken hclosing
        ((readProperty_eq_broken_iff hblank hclosing).mpr ⟨stub, h, hstop, rfl⟩)
    | cons q qs ih =>
      rw [Grammar.printedProperties_cons, List.append_assoc] at h
      obtain ⟨x, hx, hletter⟩ := h.current_of_property
      obtain ⟨c₁, h₁, h⟩ := passes_append.mp h
      have hblank' := h.notBlank_of_properties hstop
      have hclosing : ¬ c.onPair '#' '>' = true := by
        intro hpair
        obtain rfl := Option.some.inj (hx.symm.trans (onPair_iff_passes.mp hpair).1)
        exact absurd hletter (by decide)
      have hread : c.readProperty directive = .read q.pair c₁ :=
        readProperty_eq_read_iff.mpr ⟨q, rfl, h₁, hblank'⟩
      rw [readProperties_of_read hclosing hread, ih hblank' h]
      rfl

/-- **The reader of directives gives up behind a stub and nowhere else,** and the fault is that of
the stub on the character that stands there. -/
theorem readDirective_eq_broken_iff {line : Int} {c d : Cursor} {fault : SyntaxFault} :
    c.readDirective line = .broken fault d ↔
      ∃ e : DirectiveStub, c.Passes e.print d ∧ e.last.StopsAt d ∧
        fault = ⟨e.last.cause e.name.text d.current, d.position⟩ := by
  rw [readDirective, Reading.map_eq_broken]
  constructor
  · intro h
    obtain ⟨before, hbefore, hblank⟩ := exists_blanks_skipBlanks c
    obtain ⟨name, hname, hpass, hletter⟩ := exists_name_readName c.skipBlanks
    obtain ⟨behind, hbehind, hblank'⟩ := exists_blanks_skipBlanks c.skipBlanks.readName.2
    obtain ⟨qs, last, hqs, hstop, rfl⟩ := (readProperties_eq_broken_iff hblank').mp h
    have hapart : Grammar.printedProperties qs ++ last.print ≠ [] →
        name.chars ≠ [] ∧ behind.chars ≠ [] := by
      intro hne
      obtain ⟨x, hx, hproperty⟩ : ∃ x, c.skipBlanks.readName.2.skipBlanks.current = some x ∧
          isLetter x = true := by
        cases qs with
        | nil => exact Passes.current_of_stub hqs hne
        | cons q qs =>
          rw [Grammar.printedProperties_cons, List.append_assoc] at hqs
          exact hqs.current_of_property
      exact apart_of_letter hpass hletter hblank hbehind hx hproperty
    refine ⟨⟨before, name, behind, qs, last, hapart⟩, ?_, hstop, by rw [hname]⟩
    exact hbefore.trans (hpass.trans (hbehind.trans hqs))
  · rintro ⟨e, h, hstop, rfl⟩
    obtain ⟨c₁, h₁, h⟩ := passes_append.mp h
    obtain ⟨c₂, h₂, h⟩ := passes_append.mp h
    obtain ⟨c₃, h₃, h⟩ := passes_append.mp h
    have hblank := h.notBlank_of_properties hstop
    have hletter : e.name.chars = [] ∨ e.behindName.chars = [] →
        ∀ x ∈ c₃.current, isLetter x = false := by
      intro hnil
      have hnone : Grammar.printedProperties e.properties ++ e.last.print = [] := by
        by_contra hne
        exact hnil.elim (e.apart hne).1 (e.apart hne).2
      have hdue := PropertyStub.eq_due_of_print (List.append_eq_nil_iff.mp hnone).2
      rw [hnone] at h
      rw [hdue] at hstop
      rw [passes_nil.mp h]
      exact fun x hx => (hstop.1 x hx).2
    obtain ⟨hname, hbehind⟩ := readName_of_passes h₁ h₂ h₃ hblank hletter
    rw [hname, hbehind]
    exact (readProperties_eq_broken_iff hblank).mpr ⟨e.properties, e.last, h, hstop, rfl⟩

/-! ### Bodies -/

/-- **The reader of bodies gives up where the block was opened.** -/
theorem fault_of_readBody {opening : Position} {c d : Cursor} {fault : SyntaxFault}
    (h : c.readBody opening = .broken fault d) : fault = ⟨.openBlock, opening⟩ := by
  simp only [readBody] at h
  split at h
  · cases h
    rfl
  · cases h

end Cursor

end Stencil
