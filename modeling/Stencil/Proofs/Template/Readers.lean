import Stencil.Proofs.Template.Grammar
import Stencil.Proofs.Text.Passage
import Stencil.Template.Reading

/-!
# The readers and the grammar

Every reader succeeds on what the grammar writes and on nothing else.  One equivalence for each
reader says so: it reads a value and leaves the cursor somewhere exactly if some piece of the
grammar stands for that value and is written between the two places of the cursor.  Left to right
this is acceptance, right to left it is reading back what was written.

## Main definitions

* `Grammar.Property.pair`, `Grammar.Block.item`, `Grammar.Element.item` — what is read of a piece.
* `Grammar.Element.StopsAt` — where the cursor is behind an element and its blanks.

## Main results

* `Cursor.readDirective_eq_read_iff`, `Cursor.readBlock_eq_read_iff` — the readers of blocks.
* `Cursor.readItem_skipBlanks_iff` — one turn of a scan: an item and the blanks behind it.
-/

namespace Stencil

/-! ### Classes of characters -/

namespace RangeTable

/-- No range of one table meets a range of the other. -/
def Apart (t u : RangeTable) : Bool := t.all fun a => u.all fun b => a.2 < b.1 || b.2 < a.1

theorem exists_range_of_covers {t : RangeTable} {n : Nat} (h : t.covers n = true) :
    ∃ a ∈ t, a.1 ≤ n ∧ n ≤ a.2 := by
  induction t with
  | nil => cases h
  | cons a t ih =>
    rw [covers_cons] at h
    split at h
    · cases h
    · next hlow =>
      split at h
      · next hhigh => exact ⟨a, List.mem_cons_self, by omega, hhigh⟩
      · obtain ⟨b, hb, hn⟩ := ih h
        exact ⟨b, List.mem_cons_of_mem _ hb, hn⟩

/-- Tables that are apart have no code point in common. -/
theorem covers_eq_false_of_apart {t u : RangeTable} (h : t.Apart u = true) {n : Nat}
    (hn : t.covers n = true) : u.covers n = false := by
  rw [Bool.eq_false_iff]
  intro hu
  obtain ⟨a, ha, hlow, hhigh⟩ := exists_range_of_covers hn
  obtain ⟨b, hb, hlow', hhigh'⟩ := exists_range_of_covers hu
  have := List.all_eq_true.mp (List.all_eq_true.mp h a ha) b hb
  simp only [Bool.or_eq_true, decide_eq_true_eq] at this
  omega

end RangeTable

theorem isLetter_eq_false_of_isBlank {c : Char} (h : isBlank c = true) : isLetter c = false :=
  RangeTable.covers_eq_false_of_apart (by decide +kernel) h

theorem isBlank_eq_false_of_isLetter {c : Char} (h : isLetter c = true) : isBlank c = false := by
  rw [Bool.eq_false_iff]
  intro hb
  rw [isLetter_eq_false_of_isBlank hb] at h
  cases h

open Grammar (Blanks Name Body Run)

namespace Cursor

/-! ### Tokens -/

theorem exists_blanks_skipBlanks (c : Cursor) :
    ∃ w : Blanks, c.Passes w.chars c.skipBlanks ∧
      ∀ x ∈ c.skipBlanks.current, isBlank x = false := by
  obtain ⟨s, hpass, hs, hend⟩ := skipBlanks_eq_iff.mp (Eq.refl c.skipBlanks)
  exact ⟨⟨s, hs⟩, hpass, hend⟩

theorem Passes.skipBlanks_eq {c d : Cursor} {w : Blanks} (h : c.Passes w.chars d)
    (hd : ∀ x ∈ d.current, isBlank x = false) : c.skipBlanks = d :=
  skipBlanks_eq_iff.mpr ⟨w.chars, h, w.blank, hd⟩

theorem exists_name_readName (c : Cursor) :
    ∃ name : Name, name.text = c.readName.1 ∧ c.Passes name.chars c.readName.2 ∧
      ∀ x ∈ c.readName.2.current, isLetter x = false := by
  obtain ⟨hpass, hletters, hend⟩ := takeWhile_eq_iff.mp (Prod.eta (c.takeWhile isLetter)).symm
  exact ⟨⟨_, hletters⟩, rfl, hpass, hend⟩

theorem Passes.readName_eq {c d : Cursor} {name : Name} (h : c.Passes name.chars d)
    (hd : ∀ x ∈ d.current, isLetter x = false) : c.readName = (name.text, d) := by
  rw [readName, takeWhile_eq_iff.mpr ⟨h, name.letters, hd⟩]
  rfl

theorem expect_eq_read_iff {x : Char} {context : String} {c d : Cursor} {u : Unit} :
    c.expect (String.singleton x) context = .read u d ↔ c.Passes [x] d := by
  rw [passes_singleton]
  constructor
  · intro h
    obtain ⟨y, hy, heq, rfl⟩ := expect_eq_read h
    rw [String.singleton_inj] at heq
    exact ⟨by rw [hy, heq], rfl⟩
  · rintro ⟨hc, rfl⟩
    simp [expect, hc]

theorem readQuoted_eq_read_iff {property text : String} {c d : Cursor} :
    c.readQuoted property = .read text d ↔
      ∃ value : Grammar.Value, value.text = text ∧ c.Passes ('"' :: (value.chars ++ ['"'])) d := by
  have hquote : "\"" = String.singleton '"' := rfl
  rw [readQuoted, Reading.bind_eq_read, hquote]
  constructor
  · rintro ⟨_, c₁, h₁, h⟩
    have hopen := expect_eq_read_iff.mp h₁
    obtain ⟨hpass, hvalue, hend⟩ :=
      takeWhile_eq_iff.mp (Prod.eta (c₁.takeWhile (· != '"'))).symm
    simp only at h
    split at h
    · cases h
    · next x hx =>
      cases h
      -- the run ends on a character that is no value's, so on the closing quote
      obtain rfl : x = '"' := by simpa using hend x hx
      refine ⟨⟨_, fun y hy => by simpa using hvalue y hy⟩, rfl, ?_⟩
      exact hopen.trans (hpass.trans (passes_singleton.mpr ⟨hx, rfl⟩))
  · rintro ⟨value, rfl, h⟩
    obtain ⟨hopen, h⟩ := passes_cons.mp h
    obtain ⟨c₁, h₁, h₂⟩ := passes_append.mp h
    obtain ⟨hclose, rfl⟩ := passes_singleton.mp h₂
    refine ⟨(), c.advance, expect_eq_read_iff.mpr ⟨hopen, rfl⟩, ?_⟩
    have hrun : c.advance.takeWhile (· != '"') = (value.chars, c₁) :=
      takeWhile_eq_iff.mpr ⟨h₁, fun y hy => by simpa using value.unquoted y hy, by simp [hclose]⟩
    simp only [hrun, hclose]
    rfl

end Cursor

/-! ### Properties and directives -/

namespace Grammar

/-- What is read of a property. -/
def Property.pair (p : Property) : String × String := (p.key.text, p.value.text)

/-- What is read of a directive that is opened on a line. -/
def Directive.read (line : Int) (d : Directive) : Stencil.Directive :=
  ⟨d.name.text, d.properties.map Property.pair, line⟩

theorem Property.exists_print_eq_cons (p : Property) :
    ∃ x s, p.print = x :: s ∧ isLetter x = true := by
  obtain ⟨x, s, hkey⟩ := List.exists_cons_of_ne_nil p.named
  refine ⟨x, _, by rw [Property.print, hkey, List.cons_append], p.key.letters x ?_⟩
  rw [hkey]
  exact List.mem_cons_self

end Grammar

namespace Cursor

/-- A cursor in front of a property is on a letter. -/
theorem Passes.current_of_property {c d : Cursor} {p : Grammar.Property} {s : List Char}
    (h : c.Passes (p.print ++ s) d) : ∃ x, c.current = some x ∧ isLetter x = true := by
  obtain ⟨x, t, hprint, hx⟩ := p.exists_print_eq_cons
  rw [hprint, List.cons_append] at h
  exact ⟨x, h.1, hx⟩

/-- The name of a property is read with the blanks behind it, where the cursor is on nothing that
would belong to them. -/
theorem readProperty_of_key {directive : String} {key : Name} {w : Blanks} {c c₁ c₂ : Cursor}
    (hnamed : key.chars ≠ []) (hkey : c.Passes key.chars c₁) (hw : c₁.Passes w.chars c₂)
    (hblank : ∀ x ∈ c₂.current, isBlank x = false)
    (hletter : w.chars = [] → ∀ x ∈ c₂.current, isLetter x = false) :
    c.readProperty directive =
      (c₂.expect "=" ("after property '" ++ key.text ++ "'")).bind fun _ c =>
      (c.skipBlanks.readQuoted key.text).bind fun value c =>
      .read (key.text, value) c.skipBlanks := by
  have hend : ∀ x ∈ c₁.current, isLetter x = false := by
    by_cases hnil : w.chars = []
    · rw [hnil] at hw
      rw [passes_nil.mp hw]
      exact hletter hnil
    · obtain ⟨x, hx, hcurrent⟩ := hw.current_mem hnil
      exact forall_mem_current hcurrent (isLetter_eq_false_of_isBlank (w.blank x hx))
  have hempty : key.text.isEmpty = false := by
    simpa [Name.text] using hnamed
  obtain ⟨x, -, hx⟩ := hkey.current_mem hnamed
  simp only [readProperty, hx, hkey.readName_eq hend, hempty, hw.skipBlanks_eq hblank]
  rfl

/-- Behind its equals sign a property is left to the reader of values. -/
theorem readProperty_of_equals {directive : String} {key : Name} {before behind : Blanks}
    {c d : Cursor} (hnamed : key.chars ≠ [])
    (h : c.Passes (key.chars ++ (before.chars ++ ('=' :: behind.chars))) d)
    (hblank : ∀ x ∈ d.current, isBlank x = false) :
    c.readProperty directive =
      (d.readQuoted key.text).bind fun value c => .read (key.text, value) c.skipBlanks := by
  have hequals : "=" = String.singleton '=' := rfl
  obtain ⟨c₁, hkey, h⟩ := passes_append.mp h
  obtain ⟨c₂, hbefore, h⟩ := passes_append.mp h
  obtain ⟨hc₂, hbehind⟩ := passes_cons.mp h
  have hexpect : c₂.expect (String.singleton '=') ("after property '" ++ key.text ++ "'") =
      .read () c₂.advance := expect_eq_read_iff.mpr (passes_singleton.mpr ⟨hc₂, rfl⟩)
  rw [readProperty_of_key hnamed hkey hbefore (forall_mem_current hc₂ (by decide))
    (fun _ => forall_mem_current hc₂ (by decide)), hequals, hexpect, Reading.bind_read,
    hbehind.skipBlanks_eq hblank]

theorem readProperty_eq_read_iff {directive : String} {p : String × String} {c d : Cursor} :
    c.readProperty directive = .read p d ↔
      ∃ q : Grammar.Property, q.pair = p ∧ c.Passes q.print d ∧
        ∀ x ∈ d.current, isBlank x = false := by
  have hequals : "=" = String.singleton '=' := rfl
  constructor
  · intro h
    obtain ⟨key, hkey, hpass, -⟩ := exists_name_readName c
    unfold readProperty at h
    split at h
    · cases h
    · simp only at h
      split at h
      · cases h
      · next hnamed =>
        obtain ⟨_, c₁, h₁, h⟩ := Reading.bind_eq_read.mp h
        obtain ⟨_, c₂, h₂, h⟩ := Reading.bind_eq_read.mp h
        cases h
        rw [hequals] at h₁
        obtain ⟨before, hbefore, -⟩ := exists_blanks_skipBlanks c.readName.2
        obtain ⟨behindEquals, hbehindEquals, -⟩ := exists_blanks_skipBlanks c₁
        obtain ⟨value, rfl, hvalue⟩ := readQuoted_eq_read_iff.mp h₂
        obtain ⟨behind, hbehind, hend⟩ := exists_blanks_skipBlanks c₂
        have hne : key.chars ≠ [] := by
          rintro hnil
          rw [← hkey, Name.text, hnil] at hnamed
          exact hnamed rfl
        refine ⟨⟨key, hne, before, behindEquals, value, behind⟩, ?_, ?_, hend⟩
        · rw [← hkey]; rfl
        · have := (((hpass.trans hbefore).trans (expect_eq_read_iff.mp h₁)).trans
            hbehindEquals).trans (hvalue.trans hbehind)
          simpa [Grammar.Property.print] using this
  · rintro ⟨q, rfl, h, hd⟩
    have hprint : q.print =
        q.key.chars ++ (q.beforeEquals.chars ++ ('=' :: q.behindEquals.chars)) ++
          ('"' :: (q.value.chars ++ ['"']) ++ q.behind.chars) := by
      simp [Grammar.Property.print]
    rw [hprint] at h
    obtain ⟨c₁, hfront, h⟩ := passes_append.mp h
    obtain ⟨c₂, hquoted, hbehind⟩ := passes_append.mp h
    have hvalue : c₁.readQuoted q.key.text = .read q.value.text c₂ :=
      readQuoted_eq_read_iff.mpr ⟨q.value, rfl, hquoted⟩
    rw [readProperty_of_equals q.named hfront (forall_mem_current hquoted.1 (by decide)), hvalue,
      Reading.bind_read, hbehind.skipBlanks_eq hd]
    rfl

/-- Behind a property, and behind the name of a directive and its blanks, stands the next property
or the closing marker, so no blank. -/
theorem Passes.current_of_properties {c d : Cursor} {qs : List Grammar.Property}
    (h : c.Passes (Grammar.printedProperties qs ++ ['#', '>']) d) :
    ∀ x ∈ c.current, isBlank x = false := by
  cases qs with
  | nil => exact forall_mem_current h.1 (by decide)
  | cons q qs =>
    rw [Grammar.printedProperties_cons, List.append_assoc] at h
    obtain ⟨x, hx, hletter⟩ := h.current_of_property
    exact forall_mem_current hx (isBlank_eq_false_of_isLetter hletter)

theorem readProperties_of_closing {directive : String} {c d : Cursor}
    (h : c.Passes ['#', '>'] d) : c.readProperties directive = .read [] d := by
  obtain rfl := h.eq_advanceBy
  rw [readProperties, if_pos (onPair_iff_passes.mpr h)]
  rfl

theorem readProperties_of_read {directive : String} {p : String × String} {c d : Cursor}
    (hclosing : ¬ c.onPair '#' '>' = true) (h : c.readProperty directive = .read p d) :
    c.readProperties directive = (d.readProperties directive).map (p :: ·) := by
  rw [readProperties, if_neg hclosing]
  split <;> simp_all

theorem readProperties_eq_read_iff {directive : String} {ps : List (String × String)}
    {c d : Cursor} :
    c.readProperties directive = .read ps d ↔
      ∃ qs, qs.map Grammar.Property.pair = ps ∧
        c.Passes (Grammar.printedProperties qs ++ ['#', '>']) d := by
  constructor
  · intro h
    fun_induction readProperties directive c generalizing ps with
    | case1 c hclosing =>
      cases h
      exact ⟨[], rfl, onPair_iff_passes.mp hclosing⟩
    | case2 c _ fault d' hp => cases h
    | case3 c _ p d' hp ih =>
      obtain ⟨ps', h', rfl⟩ := Reading.map_eq_read.mp h
      obtain ⟨qs, rfl, hqs⟩ := ih h'
      obtain ⟨q, rfl, hq, -⟩ := readProperty_eq_read_iff.mp hp
      refine ⟨q :: qs, rfl, ?_⟩
      rw [Grammar.printedProperties_cons, List.append_assoc]
      exact hq.trans hqs
  · rintro ⟨qs, rfl, h⟩
    induction qs generalizing c with
    | nil => exact readProperties_of_closing h
    | cons q qs ih =>
      rw [Grammar.printedProperties_cons, List.append_assoc] at h
      obtain ⟨x, hx, hletter⟩ := h.current_of_property
      obtain ⟨c₁, h₁, h⟩ := passes_append.mp h
      have hclosing : ¬ c.onPair '#' '>' = true := by
        intro hpair
        obtain rfl := Option.some.inj (hx.symm.trans (onPair_iff_passes.mp hpair).1)
        exact absurd hletter (by decide)
      have hread : c.readProperty directive = .read q.pair c₁ :=
        readProperty_eq_read_iff.mpr ⟨q, rfl, h₁, h.current_of_properties⟩
      rw [readProperties_of_read hclosing hread, ih h]
      rfl

/-- A letter behind the name of a directive and the blanks behind the name begins a property.  It
would belong to the name if there were no blanks, and without a name the blanks would be skipped in
front of it. -/
theorem apart_of_letter {c c₁ c₂ : Cursor} {name : Name} {w : Blanks}
    (hname : c.Passes name.chars c₁) (hend : ∀ x ∈ c₁.current, isLetter x = false)
    (hc : ∀ x ∈ c.current, isBlank x = false) (hw : c₁.Passes w.chars c₂) {x : Char}
    (hx : c₂.current = some x) (hletter : isLetter x = true) :
    name.chars ≠ [] ∧ w.chars ≠ [] := by
  have hwne : w.chars ≠ [] := by
    intro hnil
    rw [hnil] at hw
    rw [passes_nil.mp hw, hx] at hend
    rw [hend x rfl] at hletter
    cases hletter
  refine ⟨fun hnil => ?_, hwne⟩
  obtain ⟨y, hy, hcurrent⟩ := hw.current_mem hwne
  rw [hnil] at hname
  rw [passes_nil.mp hname] at hc
  have := hc y hcurrent
  rw [w.blank y hy] at this
  cases this

/-- The name of a directive is read with the blanks on its two sides.  Where it is empty they are
one run of blanks. -/
theorem readName_of_passes {before behind : Blanks} {name : Name} {c c₁ c₂ c₃ : Cursor}
    (hbefore : c.Passes before.chars c₁) (hname : c₁.Passes name.chars c₂)
    (hbehind : c₂.Passes behind.chars c₃) (hend : ∀ x ∈ c₃.current, isBlank x = false)
    (hletter : name.chars = [] ∨ behind.chars = [] → ∀ x ∈ c₃.current, isLetter x = false) :
    c.skipBlanks.readName.1 = name.text ∧ c.skipBlanks.readName.2.skipBlanks = c₃ := by
  by_cases hnamed : name.chars = []
  · rw [hnamed] at hname
    obtain rfl := passes_nil.mp hname
    -- without a name the two runs of blanks are skipped as one
    have hskip : c.skipBlanks = c₃ := by
      refine skipBlanks_eq_iff.mpr ⟨_, hbefore.trans hbehind, fun x hx => ?_, hend⟩
      exact (List.mem_append.mp hx).elim (before.blank x) (behind.blank x)
    have hread : c₃.readName = (name.text, c₃) :=
      Passes.readName_eq (by rw [hnamed]; rfl) (hletter (.inl hnamed))
    rw [hskip, hread]
    exact ⟨rfl, skipBlanks_of_notBlank hend⟩
  · obtain ⟨x, hx, hcurrent⟩ := hname.current_mem hnamed
    have hskip : c.skipBlanks = c₁ := by
      refine hbefore.skipBlanks_eq (forall_mem_current hcurrent ?_)
      exact isBlank_eq_false_of_isLetter (name.letters x hx)
    have hstop : ∀ y ∈ c₂.current, isLetter y = false := by
      by_cases hnil : behind.chars = []
      · rw [hnil] at hbehind
        rw [passes_nil.mp hbehind]
        exact hletter (.inr hnil)
      · obtain ⟨y, hy, hcurrent'⟩ := hbehind.current_mem hnil
        exact forall_mem_current hcurrent' (isLetter_eq_false_of_isBlank (behind.blank y hy))
    rw [hskip, hname.readName_eq hstop]
    exact ⟨rfl, hbehind.skipBlanks_eq hend⟩

theorem readDirective_eq_read_iff {line : Int} {directive : Directive} {c d : Cursor} :
    c.readDirective line = .read directive d ↔
      ∃ e : Grammar.Directive, e.read line = directive ∧ c.Passes (e.inner ++ ['#', '>']) d := by
  rw [readDirective, Reading.map_eq_read]
  constructor
  · rintro ⟨ps, h, rfl⟩
    obtain ⟨before, hbefore, hblank⟩ := exists_blanks_skipBlanks c
    obtain ⟨name, hname, hpass, hletter⟩ := exists_name_readName c.skipBlanks
    obtain ⟨behind, hbehind, -⟩ := exists_blanks_skipBlanks c.skipBlanks.readName.2
    obtain ⟨qs, rfl, hqs⟩ := readProperties_eq_read_iff.mp h
    -- that the properties stand apart from the name is forced by where the two runs stop
    have hapart : qs ≠ [] → name.chars ≠ [] ∧ behind.chars ≠ [] := by
      intro hne
      obtain ⟨q, qs, rfl⟩ := List.exists_cons_of_ne_nil hne
      rw [Grammar.printedProperties_cons, List.append_assoc] at hqs
      obtain ⟨x, hx, hproperty⟩ := hqs.current_of_property
      exact apart_of_letter hpass hletter hblank hbehind hx hproperty
    refine ⟨⟨before, name, behind, qs, hapart⟩, ?_, ?_⟩
    · rw [Grammar.Directive.read, hname]
    · have := hbefore.trans (hpass.trans (hbehind.trans hqs))
      simpa [Grammar.Directive.inner] using this
  · rintro ⟨e, rfl, h⟩
    have h : c.Passes (e.beforeName.chars ++ (e.name.chars ++ (e.behindName.chars ++
        (Grammar.printedProperties e.properties ++ ['#', '>'])))) d := by
      simpa [Grammar.Directive.inner] using h
    obtain ⟨c₁, h₁, h⟩ := passes_append.mp h
    obtain ⟨c₂, h₂, h⟩ := passes_append.mp h
    obtain ⟨c₃, h₃, h⟩ := passes_append.mp h
    have hletter : e.name.chars = [] ∨ e.behindName.chars = [] →
        ∀ x ∈ c₃.current, isLetter x = false := by
      intro hnil
      have hnone : e.properties = [] := by
        by_contra hne
        exact hnil.elim (e.apart hne).1 (e.apart hne).2
      rw [hnone] at h
      exact forall_mem_current h.1 (by decide)
    obtain ⟨hname, hbehind⟩ := readName_of_passes h₁ h₂ h₃ h.current_of_properties hletter
    refine ⟨e.properties.map Grammar.Property.pair, ?_, by rw [hname]; rfl⟩
    rw [hbehind]
    exact readProperties_eq_read_iff.mpr ⟨e.properties, rfl, h⟩

end Cursor

/-! ### Blocks, text and items -/

namespace Grammar

/-- What is read of a block that is opened on a line. -/
def Block.item (line : Int) : Block → Item
  | control body _ => .block ⟨.control, body.text, line⟩
  | expression body => .block ⟨.expression, body.text, line⟩
  | classFeature body => .block ⟨.classFeature, body.text, line⟩
  | directive d => .directive (d.read line)

/-- What is read of an element that begins on a line. -/
def Element.item (line : Int) : Element → Item
  | text run => .block ⟨.text, Verbatim.escape run.text, line⟩
  | block b _ => b.item line

/-- Where the cursor is behind an element: text ends on a marker or with the template, the blanks
behind a block end on no blank. -/
def Element.StopsAt (d : Cursor) : Element → Prop
  | text _ => d.AtMarker '<' '#'
  | block _ _ => ∀ x ∈ d.current, isBlank x = false

end Grammar

namespace Cursor

theorem readBody_eq_read_iff {opening : Position} {text : String} {c d : Cursor} :
    c.readBody opening = .read text d ↔
      ∃ body : Body, body.text = text ∧ c.Passes (body.chars ++ ['#', '>']) d := by
  constructor
  · intro h
    obtain ⟨hpass, hbody, hend⟩ :=
      (takeUntilPair_eq_iff (by decide)).mp (Prod.eta (c.takeUntilPair '#' '>')).symm
    simp only [readBody] at h
    split at h
    · cases h
    · next x hx =>
      cases h
      -- the run did not end with the template, so it ended on the marker
      have hclosing : (c.takeUntilPair '#' '>').2.onPair '#' '>' = true := by
        rcases hend with hnone | hpair
        · exact absurd (hx.symm.trans hnone) (by simp)
        · exact hpair
      exact ⟨⟨_, hbody⟩, rfl, hpass.trans (onPair_iff_passes.mp hclosing)⟩
  · rintro ⟨body, rfl, h⟩
    obtain ⟨c₁, h₁, h⟩ := passes_append.mp h
    obtain rfl := h.eq_advanceBy
    have hrun : c.takeUntilPair '#' '>' = (body.chars, c₁) :=
      (takeUntilPair_eq_iff (by decide)).mpr
        ⟨h₁, body.unclosed, .inr (onPair_iff_passes.mpr h)⟩
    simp only [readBody, hrun, h.1]
    rfl

/-- The four kinds of blocks by the character behind the opening marker. -/
theorem ofDiscriminator_cases (x : Option Char) :
    (x = some '@' ∧ BlockKind.ofDiscriminator x = .directive) ∨
    (x = some '=' ∧ BlockKind.ofDiscriminator x = .code .expression) ∨
    (x = some '+' ∧ BlockKind.ofDiscriminator x = .code .classFeature) ∨
    ((∀ y ∈ x, y ≠ '@' ∧ y ≠ '=' ∧ y ≠ '+') ∧ BlockKind.ofDiscriminator x = .code .control) := by
  unfold BlockKind.ofDiscriminator
  split
  · exact .inl ⟨rfl, rfl⟩
  · exact .inr (.inl ⟨rfl, rfl⟩)
  · exact .inr (.inr (.inl ⟨rfl, rfl⟩))
  · next hdirective hexpression hclassFeature =>
    refine .inr (.inr (.inr ⟨?_, rfl⟩))
    rintro y rfl
    exact ⟨fun h => hdirective (h ▸ rfl), fun h => hexpression (h ▸ rfl),
      fun h => hclassFeature (h ▸ rfl)⟩

theorem readBlock_eq_read_iff {opening : Position} {item : Item} {c d : Cursor} :
    c.readBlock opening = .read item d ↔
      ∃ b : Grammar.Block, b.item opening.line = item ∧ c.Passes (b.inner ++ ['#', '>']) d := by
  constructor
  · intro h
    rcases ofDiscriminator_cases c.current with
      ⟨hc, hkind⟩ | ⟨hc, hkind⟩ | ⟨hc, hkind⟩ | ⟨hc, hkind⟩ <;>
      simp only [readBlock, hkind] at h <;>
      obtain ⟨_, hread, rfl⟩ := Reading.map_eq_read.mp h
    · obtain ⟨e, rfl, he⟩ := readDirective_eq_read_iff.mp hread
      exact ⟨.directive e, rfl, passes_cons.mpr ⟨hc, he⟩⟩
    · obtain ⟨body, rfl, hbody⟩ := readBody_eq_read_iff.mp hread
      exact ⟨.expression body, rfl, passes_cons.mpr ⟨hc, hbody⟩⟩
    · obtain ⟨body, rfl, hbody⟩ := readBody_eq_read_iff.mp hread
      exact ⟨.classFeature body, rfl, passes_cons.mpr ⟨hc, hbody⟩⟩
    · obtain ⟨body, rfl, hbody⟩ := readBody_eq_read_iff.mp hread
      refine ⟨.control body fun x hx => hc x ?_, rfl, hbody⟩
      obtain ⟨s, hs⟩ := List.head?_eq_some_iff.mp hx
      rw [hs] at hbody
      exact hbody.1
  · rintro ⟨b, rfl, h⟩
    cases b with
    | control body plain =>
      -- behind an empty body stands the closing marker, which opens no other kind either
      have hc : ∀ x ∈ c.current, x ≠ '@' ∧ x ≠ '=' ∧ x ≠ '+' := by
        intro x hx
        cases hbody : body.chars with
        | nil =>
          simp only [Grammar.Block.inner, hbody] at h
          rw [h.1] at hx
          obtain rfl := Option.some.inj hx
          decide
        | cons y s =>
          simp only [Grammar.Block.inner, hbody] at h
          refine plain x ?_
          rw [hbody, List.head?_cons, ← h.1]
          exact hx
      have hkind : BlockKind.ofDiscriminator c.current = .code .control := by
        rcases ofDiscriminator_cases c.current with ⟨hx, -⟩ | ⟨hx, -⟩ | ⟨hx, -⟩ | ⟨-, hkind⟩
        · exact absurd rfl (hc _ hx).1
        · exact absurd rfl (hc _ hx).2.1
        · exact absurd rfl (hc _ hx).2.2
        · exact hkind
      simp only [readBlock, hkind]
      rw [readBody_eq_read_iff.mpr ⟨body, rfl, h⟩]
      rfl
    | expression body =>
      obtain ⟨hc, h⟩ := passes_cons.mp h
      simp only [readBlock, hc, BlockKind.ofDiscriminator]
      rw [readBody_eq_read_iff.mpr ⟨body, rfl, h⟩]
      rfl
    | classFeature body =>
      obtain ⟨hc, h⟩ := passes_cons.mp h
      simp only [readBlock, hc, BlockKind.ofDiscriminator]
      rw [readBody_eq_read_iff.mpr ⟨body, rfl, h⟩]
      rfl
    | directive e =>
      obtain ⟨hc, h⟩ := passes_cons.mp h
      simp only [readBlock, hc, BlockKind.ofDiscriminator]
      rw [readDirective_eq_read_iff.mpr ⟨e, rfl, h⟩]
      rfl

theorem exists_run_readText {c : Cursor} (hc : c.current.isSome = true)
    (hopening : ¬ c.onPair '<' '#' = true) :
    ∃ run : Run, c.readText.1 = ⟨.text, Verbatim.escape run.text, c.position.line⟩ ∧
      c.Passes run.chars c.readText.2 ∧ c.readText.2.AtMarker '<' '#' := by
  obtain ⟨hpass, hrun, hend⟩ :=
    (takeUntilPair_eq_iff (by decide)).mp (Prod.eta (c.takeUntilPair '<' '#')).symm
  have hne : (c.takeUntilPair '<' '#').1 ≠ [] := by
    intro hnil
    rw [hnil, passes_nil] at hpass
    rw [← hpass] at hend
    rcases hend with hnone | hpair
    · rw [hnone] at hc
      cases hc
    · exact hopening hpair
  exact ⟨⟨_, hne, hrun⟩, rfl, hpass, hend⟩

theorem Passes.readText_eq {c d : Cursor} {run : Run} (h : c.Passes run.chars d)
    (hd : d.AtMarker '<' '#') :
    c.readText = (⟨.text, Verbatim.escape run.text, c.position.line⟩, d) := by
  rw [readText, (takeUntilPair_eq_iff (by decide)).mpr ⟨h, run.unopened, hd⟩]
  rfl

theorem AtMarker.skipBlanks_eq {c : Cursor} (h : c.AtMarker '<' '#') : c.skipBlanks = c := by
  refine skipBlanks_of_notBlank ?_
  rcases h with hnone | hpair
  · simp [hnone]
  · exact forall_mem_current (onPair_iff_passes.mp hpair).1 (by decide)

/-- A run of text that ends where it must does not begin on a marker. -/
theorem Passes.not_onPair_of_run {c d : Cursor} {run : Run} (h : c.Passes run.chars d)
    (hd : d.AtMarker '<' '#') : ¬ c.onPair '<' '#' = true := by
  intro hpair
  have hboth := onPair_iff_passes.mp hpair
  obtain ⟨x, s, hxs⟩ := List.exists_cons_of_ne_nil run.nonempty
  rw [hxs] at h
  obtain rfl : x = '<' := Option.some.inj (h.1.symm.trans hboth.1)
  cases s with
  | nil =>
    -- the character behind is not `#`, since a marker or nothing begins there
    have hnext : d.current = some '#' := by
      rw [← passes_nil.mp h.2]
      exact hboth.2.1
    rcases hd with hnone | hpair'
    · rw [hnone] at hnext
      cases hnext
    · have := (onPair_iff_passes.mp hpair').1
      rw [hnext] at this
      exact absurd (Option.some.inj this) (by decide)
  | cons y s =>
    obtain rfl : y = '#' := Option.some.inj (h.2.1.symm.trans hboth.2.1)
    exact run.unopened ⟨[], s, by rw [hxs]; rfl⟩

/-- An item is read with the blanks behind it: some element stands for it and is written between the
two places of the cursor. -/
theorem readItem_skipBlanks_iff {item : Item} {c e : Cursor} (hc : c.current.isSome = true) :
    (∃ d, c.readItem = .read item d ∧ d.skipBlanks = e) ↔
      ∃ el : Grammar.Element,
        el.item c.position.line = item ∧ c.Passes el.print e ∧ el.StopsAt e := by
  constructor
  · rintro ⟨d, h, rfl⟩
    unfold readItem at h
    split at h
    · next hopening =>
      obtain ⟨b, rfl, hb⟩ := readBlock_eq_read_iff.mp h
      obtain ⟨gap, hgap, hend⟩ := exists_blanks_skipBlanks d
      exact ⟨.block b gap, rfl, ((onPair_iff_passes.mp hopening).trans hb).trans hgap, hend⟩
    · next hopening =>
      cases h
      obtain ⟨run, hrun, hpass, hend⟩ := exists_run_readText hc hopening
      rw [hend.skipBlanks_eq]
      exact ⟨.text run, by rw [hrun]; rfl, hpass, hend⟩
  · rintro ⟨el, rfl, h, hstop⟩
    cases el with
    | text run =>
      refine ⟨e, ?_, hstop.skipBlanks_eq⟩
      rw [readItem, if_neg (h.not_onPair_of_run hstop), h.readText_eq hstop]
      rfl
    | block b gap =>
      obtain ⟨d, hb, hgap⟩ := passes_append.mp h
      refine ⟨d, ?_, hgap.skipBlanks_eq hstop⟩
      obtain ⟨c₁, hopening, hb⟩ := (passes_append (s := ['<', '#'])).mp hb
      obtain rfl := hopening.eq_advanceBy
      rw [readItem, if_pos (onPair_iff_passes.mpr hopening)]
      exact readBlock_eq_read_iff.mpr ⟨b, rfl, hb⟩

end Cursor

end Stencil
