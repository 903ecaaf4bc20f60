import Stencil.Proofs.Template.FaultPlace

/-!
# Templates that are cut off

Cutting a template off breaks it exactly when the cut lies in a block, behind its opening marker and
in front of the end of its closing one.  What is missing then is the end of the block or of a value,
and the fault says so, with one exception: between the two characters of its closing marker a
directive is malformed, because the number sign alone is taken for the beginning of a property.

## Main definitions

* `Grammar.OpensAt` — a block opens at an offset of a text.
* `Grammar.InValue`, `Grammar.Block.InValue` — a cut lies in the value of a property.

## Main results

* `Grammar.Block.length_eq_of_prefix` — no block is the beginning of another one.
* `Grammar.Directive.exists_stub` — every beginning of a directive is a stub.
* `ending_of_cut` — **how the scan of a template that is cut off ends.**
-/

namespace Stencil

open Grammar (WellLaid printed itemsFrom PropertyStub DirectiveStub)

/-- The beginning of a text in two parts ends in the first part or in the second. -/
theorem prefix_of_append {s a b : List Char} (h : s <+: a ++ b) :
    s <+: a ∨ ∃ t, t <+: b ∧ s = a ++ t := by
  rcases List.prefix_or_prefix_of_prefix h (List.prefix_append a b) with h' | ⟨t, rfl⟩
  · exact .inl h'
  · exact .inr ⟨t, (List.prefix_append_right_inj a).mp h, rfl⟩

/-- The beginning of a text around a character ends in front of the character or behind it. -/
theorem prefix_of_append_cons {s a b : List Char} {x : Char} (h : s <+: a ++ x :: b) :
    s <+: a ∨ ∃ t, t <+: b ∧ s = a ++ x :: t := by
  rcases prefix_of_append h with h' | ⟨t, ht, rfl⟩
  · exact .inl h'
  · rcases List.prefix_cons_iff.mp ht with rfl | ⟨u, rfl, hu⟩
    · exact .inl (by simp)
    · exact .inr ⟨u, hu, rfl⟩

namespace Grammar

/-! ### Cuts -/

/-- A block opens at an offset of a text. -/
def OpensAt (s : List Char) (i : Nat) (b : Block) : Prop :=
  ∃ front gap back, WellLaid (front ++ .block b gap :: back) ∧
    printed (front ++ .block b gap :: back) = s ∧ (printed front).length = i

/-- How a property is written up to the opening quote of its value. -/
def Property.opening (p : Property) : List Char :=
  p.key.chars ++ (p.beforeEquals.chars ++ ('=' :: (p.behindEquals.chars ++ ['"'])))

/-- How a directive is written up to its properties, behind its sign. -/
def Directive.opening (d : Directive) : List Char :=
  d.beforeName.chars ++ (d.name.chars ++ d.behindName.chars)

/-- Where properties are written from offset `i` on, a cut lies in the value of one of them: behind
the opening quote, and not behind the closing one. -/
def InValue : Nat → List Property → Nat → Prop
  | _, [], _ => False
  | i, p :: ps, k =>
      (i + p.opening.length ≤ k ∧ k ≤ i + p.opening.length + p.value.chars.length) ∨
        InValue (i + p.print.length) ps k

/-- A cut lies in the value of a property of the block that opens at offset `i`. -/
def Block.InValue (i k : Nat) : Block → Prop
  | directive d => Grammar.InValue (i + 3 + d.opening.length) d.properties k
  | _ => False

theorem Property.print_eq_opening_append (p : Property) :
    p.print = p.opening ++ (p.value.chars ++ ('"' :: p.behind.chars)) := by
  simp [Property.print, Property.opening]

theorem Property.length_print (p : Property) :
    p.print.length = p.opening.length + p.value.chars.length + 1 + p.behind.chars.length := by
  rw [p.print_eq_opening_append]
  simp
  omega

theorem Property.length_opening (p : Property) :
    p.opening.length = p.key.chars.length + p.beforeEquals.chars.length + 1
      + p.behindEquals.chars.length + 1 := by
  simp [Property.opening]
  omega

theorem Directive.length_opening (d : Directive) :
    d.opening.length = d.beforeName.chars.length + d.name.chars.length
      + d.behindName.chars.length := by
  simp [Directive.opening]
  omega

/-- A value is written behind its opening quote and in front of its closing one. -/
theorem InValue.bounds {i k : Nat} {ps : List Property} (h : InValue i ps k) :
    i < k ∧ k < i + (printedProperties ps).length := by
  induction ps generalizing i with
  | nil => exact h.elim
  | cons p ps ih =>
    have hopening := p.length_opening
    rw [printedProperties_cons, List.length_append, p.length_print]
    rcases h with ⟨hlow, hhigh⟩ | hlater
    · omega
    · have := ih hlater
      rw [p.length_print] at this
      omega

/-! ### Beginnings of directives -/

/-- Every beginning of a property is a property with fewer blanks behind it, or a stub. -/
theorem Property.exists_stub (p : Property) {s : List Char} (h : s <+: p.print) :
    ∃ (qs : List Property) (last : PropertyStub), printedProperties qs ++ last.print = s ∧
      (last.isOpen = true ↔
        p.opening.length ≤ s.length ∧ s.length ≤ p.opening.length + p.value.chars.length) := by
  have hopening := p.length_opening
  -- in front of the opening quote and behind the closing one no value is open
  have hclosed : ∀ n, n < p.opening.length ∨ p.opening.length + p.value.chars.length < n →
      (false = true ↔
        p.opening.length ≤ n ∧ n ≤ p.opening.length + p.value.chars.length) := by
    intro n hn
    simp only [Bool.false_eq_true, false_iff]
    omega
  rw [Property.print] at h
  rcases prefix_of_append h with hkey | ⟨t, ht, rfl⟩
  · -- in the name, of which there may be nothing yet
    have hlength := hkey.length_le
    by_cases hs : s = []
    · exact ⟨[], .due, hs.symm, hclosed _ (by omega)⟩
    · refine ⟨[], .key ⟨s, fun x hx => p.key.letters x (hkey.subset hx)⟩ hs ⟨[], by simp⟩, ?_,
        hclosed _ (by omega)⟩
      simp [PropertyStub.print]
  rcases prefix_of_append_cons ht with hblanks | ⟨u, hu, rfl⟩
  · -- in front of the equals sign
    have hlength := hblanks.length_le
    exact ⟨[], .key p.key p.named ⟨t, fun x hx => p.beforeEquals.blank x (hblanks.subset hx)⟩, rfl,
      hclosed _ (by simp; omega)⟩
  rcases prefix_of_append_cons hu with hblanks | ⟨v, hv, rfl⟩
  · -- in front of the opening quote
    have hlength := hblanks.length_le
    exact ⟨[], .equals p.key p.named p.beforeEquals
      ⟨u, fun x hx => p.behindEquals.blank x (hblanks.subset hx)⟩, rfl, hclosed _ (by simp; omega)⟩
  rcases prefix_of_append_cons hv with hvalue | ⟨w, hw, rfl⟩
  · -- in the value
    have hlength := hvalue.length_le
    refine ⟨[], .value p.key p.named p.beforeEquals p.behindEquals
      ⟨v, fun x hx => p.value.unquoted x (hvalue.subset hx)⟩, rfl, ?_⟩
    simp only [PropertyStub.isOpen, true_iff, List.length_append, List.length_cons]
    omega
  · -- behind the closing quote the property is whole
    refine ⟨[{ p with behind := ⟨w, fun x hx => p.behind.blank x (hw.subset hx)⟩ }], .due, ?_,
      hclosed _ (by simp; omega)⟩
    simp [Property.print, PropertyStub.print]

/-- Every beginning of properties is some of them and a stub of the next. -/
theorem exists_stub_of_properties (i : Nat) {ps : List Property} {s : List Char}
    (h : s <+: printedProperties ps) :
    ∃ (qs : List Property) (last : PropertyStub), printedProperties qs ++ last.print = s ∧
      (last.isOpen = true ↔ InValue i ps (i + s.length)) := by
  induction ps generalizing i s with
  | nil =>
    obtain rfl := List.prefix_nil.mp h
    exact ⟨[], .due, rfl, by simp [PropertyStub.isOpen, InValue]⟩
  | cons p ps ih =>
    have hprint := p.length_print
    rcases prefix_of_append h with hfirst | ⟨t, ht, rfl⟩
    · -- in the first property, so in none of the values behind it
      obtain ⟨qs, last, hs, hopen⟩ := p.exists_stub hfirst
      refine ⟨qs, last, hs, hopen.trans ?_⟩
      have hlength := hfirst.length_le
      constructor
      · rintro ⟨hlow, hhigh⟩
        exact .inl ⟨by omega, by omega⟩
      · rintro (⟨hlow, hhigh⟩ | hlater)
        · exact ⟨by omega, by omega⟩
        · have := hlater.bounds
          omega
    · -- behind the first property, so not in its value
      obtain ⟨qs, last, rfl, hopen⟩ := ih (i + p.print.length) ht
      refine ⟨p :: qs, last, by simp, hopen.trans ?_⟩
      have hsum : i + (p.print ++ (printedProperties qs ++ last.print)).length =
          i + p.print.length + (printedProperties qs ++ last.print).length := by
        simp
        omega
      rw [hsum]
      constructor
      · exact .inr
      · rintro (⟨hlow, hhigh⟩ | hlater)
        · omega
        · exact hlater

/-- **Every beginning of a directive is a stub,** which is open exactly if the cut lies in a value.
-/
theorem Directive.exists_stub (d : Directive) (i : Nat) {s : List Char} (h : s <+: d.inner) :
    ∃ e : DirectiveStub, e.print = s ∧
      (e.last.isOpen = true ↔ InValue (i + d.opening.length) d.properties (i + s.length)) := by
  have hopening := d.length_opening
  -- in front of the properties no value is open
  have hclosed : ∀ {s : List Char}, s.length ≤ d.opening.length →
      (PropertyStub.due.isOpen = true ↔
        InValue (i + d.opening.length) d.properties (i + s.length)) := by
    intro s hs
    simp only [PropertyStub.isOpen, Bool.false_eq_true, false_iff]
    intro hvalue
    have := hvalue.bounds
    omega
  rcases prefix_of_append h with hbefore | ⟨t, ht, rfl⟩
  · have hlength := hbefore.length_le
    refine ⟨⟨⟨s, fun x hx => d.beforeName.blank x (hbefore.subset hx)⟩, ⟨[], by simp⟩,
      ⟨[], by simp⟩, [], .due, fun hne => absurd rfl hne⟩, ?_, hclosed (by omega)⟩
    simp [DirectiveStub.print, PropertyStub.print]
  rcases prefix_of_append ht with hname | ⟨u, hu, rfl⟩
  · have hlength := hname.length_le
    refine ⟨⟨d.beforeName, ⟨t, fun x hx => d.name.letters x (hname.subset hx)⟩,
      ⟨[], by simp⟩, [], .due, fun hne => absurd rfl hne⟩, ?_, hclosed (by simp; omega)⟩
    simp [DirectiveStub.print, PropertyStub.print]
  rcases prefix_of_append hu with hbehind | ⟨v, hv, rfl⟩
  · have hlength := hbehind.length_le
    refine ⟨⟨d.beforeName, d.name, ⟨u, fun x hx => d.behindName.blank x (hbehind.subset hx)⟩, [],
      .due, fun hne => absurd rfl hne⟩, ?_, hclosed (by simp; omega)⟩
    simp [DirectiveStub.print, PropertyStub.print]
  · obtain ⟨qs, last, rfl, hopen⟩ := exists_stub_of_properties (i + d.opening.length) hv
    have hapart : printedProperties qs ++ last.print ≠ [] →
        d.name.chars ≠ [] ∧ d.behindName.chars ≠ [] := by
      intro hne
      refine d.apart fun hnil => hne ?_
      rw [hnil] at hv
      exact List.prefix_nil.mp hv
    refine ⟨⟨d.beforeName, d.name, d.behindName, qs, last, hapart⟩, rfl, hopen.trans ?_⟩
    have hsum : i + (d.beforeName.chars ++ (d.name.chars ++ (d.behindName.chars ++
        (printedProperties qs ++ last.print)))).length =
        i + d.opening.length + (printedProperties qs ++ last.print).length := by
      simp
      omega
    rw [hsum]

/-- A value ends in front of the closing marker of its block. -/
theorem Block.InValue.lt {b : Block} {i k : Nat} (h : b.InValue i k) :
    k < i + 2 + b.inner.length := by
  cases b with
  | directive d =>
    have hlt := Grammar.InValue.bounds h
    have hopening := d.length_opening
    simp only [Block.inner, Directive.inner, List.length_cons, List.length_append]
    omega
  | _ => exact h.elim

/-! ### Beginnings of blocks -/

/-- **No block is the beginning of another one.** -/
theorem Block.length_eq_of_prefix {b b' : Block}
    (h : b'.inner ++ ['#', '>'] <+: b.inner ++ ['#', '>']) :
    b'.inner.length = b.inner.length := by
  obtain ⟨rest, hrest⟩ := h
  -- one reader cannot stop behind both
  let c := Cursor.start (String.ofList (b.inner ++ ['#', '>']))
  have hc : c.pending = b.inner ++ ['#', '>'] := by
    rw [Cursor.pending_start, String.toList_ofList]
  obtain ⟨e, hpass, -⟩ := Cursor.exists_passes_all hc
  obtain ⟨e', hpass', -⟩ := Cursor.exists_passes (hc.trans hrest.symm)
  have hread : c.readBlock {} = .read (b.item 1) e :=
    Cursor.readBlock_eq_read_iff.mpr ⟨b, rfl, hpass⟩
  have hread' : c.readBlock {} = .read (b'.item 1) e' :=
    Cursor.readBlock_eq_read_iff.mpr ⟨b', rfl, hpass'⟩
  obtain ⟨-, rfl⟩ := Reading.read.inj (hread.symm.trans hread')
  have hlength := congrArg List.length (hpass.pending_eq.symm.trans hpass'.pending_eq)
  simpa using hlength.symm

/-- The character that a block begins with behind its opening marker is the sign of a directive in
directives only. -/
theorem Block.head?_ne_of_code {b : Block} (hb : ∀ d, b ≠ directive d) {s : List Char}
    (h : s <+: b.inner ++ ['#', '>']) : s.head? ≠ some '@' := by
  intro hs
  obtain ⟨t, rfl⟩ := List.head?_eq_some_iff.mp hs
  obtain ⟨rest, hrest⟩ := h
  have hhead : (b.inner ++ ['#', '>']).head? = some '@' := by
    rw [← hrest]
    rfl
  cases b with
  | control body plain =>
    cases hbody : body.chars with
    | nil => simp [Block.inner, hbody] at hhead
    | cons x rest =>
      simp only [Block.inner, hbody, List.cons_append, List.head?_cons, Option.some.injEq] at hhead
      exact (plain x (by simp [hbody])).1 hhead
  | expression body => simp [Block.inner] at hhead
  | classFeature body => simp [Block.inner] at hhead
  | directive d => exact hb d rfl

end Grammar

/-! ### Readers of what is cut off -/

namespace Cursor

/-- A directive that is cut off is malformed inside its closing marker; elsewhere it is not
terminated, nor is the value that the cut lies in. -/
theorem kind_of_cut_directive {d : Grammar.Directive} {c e : Cursor} {line : Int}
    {fault : SyntaxFault} (h : c.pending <+: d.inner ++ ['#', '>'])
    (hlt : c.pending.length < d.inner.length + 2) (hread : c.readDirective line = .broken fault e)
    (i : Nat) :
    (fault.cause.kind = .malformedDirective ∧ c.pending.length = d.inner.length + 1) ∨
    (fault.cause.kind = .unterminatedValue ∧
      Grammar.InValue (i + d.opening.length) d.properties (i + c.pending.length)) ∨
    (fault.cause.kind = .unterminatedBlock ∧ c.pending.length ≤ d.inner.length ∧
      ¬ Grammar.InValue (i + d.opening.length) d.properties (i + c.pending.length)) := by
  rcases prefix_of_append_cons h with hinner | ⟨t, ht, hpending⟩
  · -- all that is pending is a stub, behind which the template ends
    obtain ⟨stub, hstub, hopen⟩ := d.exists_stub i hinner
    obtain ⟨e', hpass, hend⟩ := exists_passes_all hstub.symm
    have hbroken : c.readDirective line = .broken ⟨_, e'.position⟩ e' :=
      readDirective_eq_broken_iff.mpr
        ⟨stub, hpass, PropertyStub.stopsAt_of_end stub.last hend, rfl⟩
    obtain ⟨rfl, -⟩ := Reading.broken.inj (hread.symm.trans hbroken)
    simp only [hend, PropertyStub.kind_cause_none]
    by_cases hvalue : stub.last.isOpen = true
    · exact .inr (.inl ⟨if_pos hvalue, hopen.mp hvalue⟩)
    · exact .inr (.inr ⟨if_neg hvalue, hinner.length_le, mt hopen.mpr hvalue⟩)
  · -- the number sign of the closing marker is pending behind all the rest
    have hnil : t = [] := by
      rw [hpending, List.length_append, List.length_cons] at hlt
      exact List.length_eq_zero_iff.mp (by omega)
    subst hnil
    obtain ⟨e', hpass, hsign⟩ := exists_passes hpending
    have hcurrent := current_of_pending hsign
    have hstop : d.stub.last.StopsAt e' := by
      refine ⟨forall_mem_current hcurrent (by decide), fun hpair => ?_⟩
      obtain ⟨rest, hrest⟩ := onPair_iff.mp hpair
      cases hsign.symm.trans hrest
    have hbroken : c.readDirective line = .broken ⟨_, e'.position⟩ e' :=
      readDirective_eq_broken_iff.mpr ⟨d.stub, by rw [d.print_stub]; exact hpass, hstop, rfl⟩
    obtain ⟨rfl, -⟩ := Reading.broken.inj (hread.symm.trans hbroken)
    refine .inl ⟨?_, by rw [hpending]; simp⟩
    rw [hcurrent]
    rfl

/-- A block that is cut off behind its opening marker is broken. -/
theorem exists_broken_of_cut {b : Grammar.Block} {c : Cursor} (opening : Position)
    (h : c.pending <+: b.inner ++ ['#', '>']) (hlt : c.pending.length < b.inner.length + 2) :
    ∃ fault d, c.readBlock opening = .broken fault d := by
  cases hread : c.readBlock opening with
  | broken fault d => exact ⟨fault, d, rfl⟩
  | read item d =>
    -- a whole block would be the beginning of this one
    obtain ⟨b', -, hb'⟩ := readBlock_eq_read_iff.mp hread
    have hwhole : b'.inner ++ ['#', '>'] <+: c.pending := ⟨d.pending, hb'.pending_eq.symm⟩
    have hlength := Grammar.Block.length_eq_of_prefix (hwhole.trans h)
    have hle := hwhole.length_le
    simp at hle
    omega

/-- The family of the fault of a block that is cut off. -/
theorem kind_of_cut {b : Grammar.Block} {c e : Cursor} {opening : Position} {fault : SyntaxFault}
    (h : c.pending <+: b.inner ++ ['#', '>']) (hlt : c.pending.length < b.inner.length + 2)
    (hread : c.readBlock opening = .broken fault e) (i : Nat) :
    (fault.cause.kind = .malformedDirective ∧ (∃ d, b = .directive d) ∧
      c.pending.length = b.inner.length + 1) ∨
    (fault.cause.kind = .unterminatedValue ∧ b.InValue i (i + 2 + c.pending.length)) ∨
    (fault.cause.kind = .unterminatedBlock ∧ ¬ b.InValue i (i + 2 + c.pending.length) ∧
      ¬ ((∃ d, b = .directive d) ∧ c.pending.length = b.inner.length + 1)) := by
  by_cases hsign : c.current = some '@'
  · obtain ⟨d, rfl⟩ : ∃ d, b = .directive d := by
      by_contra hcode
      refine Grammar.Block.head?_ne_of_code (fun d hd => hcode ⟨d, hd⟩) h ?_
      rw [head?_pending, hsign]
    have hpending := pending_eq_cons hsign
    have hahead : c.advance.pending <+: d.inner ++ ['#', '>'] := by
      rw [hpending, Grammar.Block.inner, List.cons_append, List.cons_prefix_cons] at h
      rw [pending_advance]
      exact h.2
    have hsum : i + 2 + c.pending.length = i + 3 + c.advance.pending.length := by
      rw [hpending, pending_advance, List.length_cons]
      omega
    have hinner : (Grammar.Block.directive d).inner.length = d.inner.length + 1 := rfl
    rw [hsum, Grammar.Block.InValue, hinner]
    rw [hinner] at hlt
    rcases kind_of_cut_directive hahead (by omega) (readDirective_of_readBlock hread hsign) (i + 3)
      with ⟨hkind, hlength⟩ | ⟨hkind, hvalue⟩ | ⟨hkind, hlength, hvalue⟩
    · exact .inl ⟨hkind, ⟨d, rfl⟩, by omega⟩
    · exact .inr (.inl ⟨hkind, hvalue⟩)
    · exact .inr (.inr ⟨hkind, hvalue, fun hend => by omega⟩)
  · -- the sign is cut off with the rest, or there is none
    obtain rfl := fault_of_readBlock hread hsign
    have hcode : ∀ d, b = .directive d → c.pending = [] := by
      rintro d rfl
      rcases List.prefix_cons_iff.mp h with hnil | ⟨t, ht, -⟩
      · exact hnil
      · exact absurd (current_of_pending ht) hsign
    refine .inr (.inr ⟨rfl, fun hvalue => ?_, ?_⟩)
    · cases b with
      | directive d =>
        have := Grammar.InValue.bounds hvalue
        rw [hcode d rfl, List.length_nil] at this
        omega
      | _ => exact hvalue
    · rintro ⟨⟨d, hd⟩, hlength⟩
      rw [hcode d hd, List.length_nil] at hlength
      omega

/-! ### Readings of what is cut off -/

/-- Where a complete reading comes to an opening marker, a block opens. -/
theorem exists_opensAt_of_onPair {text : String} {es : List Grammar.Element} {d : Cursor}
    (hcomplete : ((start text).readItems none).ending = .complete) (hlaid : WellLaid es)
    (hpass : (start text).Passes (printed es) d) (hpair : d.onPair '<' '#' = true) :
    ∃ b, b.print <+: d.pending ∧ Grammar.OpensAt text.toList (printed es).length b := by
  have hreads := (reads_iff (.inr hpair)).mpr ⟨es, hlaid, rfl, hpass⟩
  rw [hreads.readItems_eq] at hcomplete
  obtain ⟨es', hlaid', hprinted, -⟩ := exists_wellLaid_of_readItems hcomplete
  have htext : printed (es ++ es') = text.toList := by
    rw [Grammar.printed_append, hprinted, ← hpass.pending_eq, pending_start]
  cases es' with
  | nil =>
    obtain ⟨rest, hrest⟩ := onPair_iff.mp hpair
    cases hprinted.trans hrest
  | cons el es' =>
    obtain ⟨e, hrest, hend⟩ := exists_passes_all hprinted.symm
    cases el with
    | text run =>
      -- a run of text would begin with an opening marker
      obtain ⟨d', hrun, hrest⟩ := passes_append.mp hrest
      have hstop := stopsAt_of_wellLaid hlaid' hrest (.inl hend)
      exact absurd hpair (hrun.not_onPair_of_run hstop)
    | block b gap =>
      refine ⟨b, ?_, es, gap, es', hlaid.append_block hlaid', htext, rfl⟩
      rw [← hprinted, Grammar.printed_cons, Grammar.Element.print, List.append_assoc]
      exact List.prefix_append _ _

/-- A template that is cut off in a block is broken. -/
theorem exists_broken_of_opensAt {text : String} {i k : Nat} {b : Grammar.Block}
    (hb : Grammar.OpensAt text.toList i b) (hlow : i + 2 ≤ k) (hhigh : k < i + b.print.length) :
    ∃ fault,
      ((start (String.ofList (text.toList.take k))).readItems none).ending = .broken fault ∧
      ((fault.cause.kind = .malformedDirective ∧ (∃ d, b = .directive d) ∧
          k + 1 = i + b.print.length) ∨
        (fault.cause.kind = .unterminatedValue ∧ b.InValue i k) ∨
        (fault.cause.kind = .unterminatedBlock ∧ ¬ b.InValue i k ∧
          ¬ ((∃ d, b = .directive d) ∧ k + 1 = i + b.print.length))) := by
  obtain ⟨front, gap, back, hlaid, hprinted, rfl⟩ := hb
  obtain ⟨m, rfl⟩ := Nat.exists_eq_add_of_le hlow
  have hprint : b.print.length = b.inner.length + 4 := by
    simp [Grammar.Block.print]
  have hcut : text.toList.take ((printed front).length + 2 + m) =
      printed front ++ '<' :: '#' :: (b.inner ++ ['#', '>']).take m := by
    have hm : m ≤ (b.inner ++ ['#', '>']).length := by
      simp
      omega
    have htext : text.toList = printed front ++
        '<' :: '#' :: ((b.inner ++ ['#', '>']) ++ (gap.chars ++ printed back)) := by
      simp [← hprinted, Grammar.Element.print, Grammar.Block.print]
    rw [htext, Nat.add_assoc, List.take_length_add_append, Nat.add_comm 2 m, List.take_succ_cons,
      List.take_succ_cons, List.take_append_of_le_length hm]
  rw [hcut]
  -- the reading goes on to the block in which the template is cut off
  let c := start (String.ofList (printed front ++ '<' :: '#' :: (b.inner ++ ['#', '>']).take m))
  have hc : c.pending = printed front ++ '<' :: '#' :: (b.inner ++ ['#', '>']).take m := by
    rw [pending_start, String.toList_ofList]
  obtain ⟨e, hpass, he⟩ := exists_passes hc
  have hpair : e.onPair '<' '#' = true := onPair_iff.mpr ⟨_, he⟩
  have hinner : (e.advanceBy 2).pending = (b.inner ++ ['#', '>']).take m :=
    (onPair_iff_passes.mp hpair).pending_of_append he
  have hlength : (e.advanceBy 2).pending.length = m := by
    rw [hinner, List.length_take]
    simp
    omega
  have hbegins : (e.advanceBy 2).pending <+: b.inner ++ ['#', '>'] := by
    rw [hinner]
    exact List.take_prefix _ _
  obtain ⟨fault, d, hbroken⟩ := exists_broken_of_cut e.position hbegins (by omega)
  have hread : e.readItem = .broken fault d := by
    rw [readItem, if_pos hpair, hbroken]
  refine ⟨fault, ?_, ?_⟩
  · rw [readItems_of_printed_broken (List.IsChain.left_of_append hlaid) hpass hpair hread]
  · have hsum : (printed front).length + 2 + m + 1 = (printed front).length + b.print.length ↔
        (e.advanceBy 2).pending.length = b.inner.length + 1 := by
      omega
    rw [hsum, ← hlength]
    exact kind_of_cut hbegins (by omega) hbroken _

/-- A template that is cut off outside of its blocks is read to its end. -/
theorem complete_of_cut {text : String} {k : Nat}
    (hcomplete : ((start text).readItems none).ending = .complete)
    (hout : ∀ i b, Grammar.OpensAt text.toList i b → ¬ (i + 2 ≤ k ∧ k < i + b.print.length)) :
    ((start (String.ofList (text.toList.take k))).readItems none).ending = .complete := by
  obtain ⟨es, e, hlaid, hpass, -, ⟨-, hending⟩ | ⟨fault, d, hbroken, -⟩⟩ :=
    exists_wellLaid (start (String.ofList (text.toList.take k)))
  · exact hending
  -- the block that the rest is broken in opens in the whole text as well, and ends behind the cut
  exfalso
  have hpair := onPair_of_broken hbroken
  have hcut : text.toList.take k = printed es ++ e.pending := by
    rw [← hpass.pending_eq, pending_start, String.toList_ofList]
  have htext : (start text).pending = printed es ++ (e.pending ++ text.toList.drop k) := by
    rw [pending_start, ← List.append_assoc, ← hcut, List.take_append_drop]
  obtain ⟨f, hpass', hf⟩ := exists_passes htext
  obtain ⟨rest, hrest⟩ := onPair_iff.mp hpair
  have hpair' : f.onPair '<' '#' = true := by
    refine onPair_iff.mpr ⟨rest ++ text.toList.drop k, ?_⟩
    rw [hf, hrest]
    rfl
  obtain ⟨b, hb, hopens⟩ := exists_opensAt_of_onPair hcomplete hlaid hpass' hpair'
  have hlength := congrArg List.length hcut
  rw [List.length_take, List.length_append] at hlength
  refine hout _ b hopens ⟨?_, ?_⟩
  · rw [hrest, List.length_cons, List.length_cons] at hlength
    omega
  · by_contra hle
    -- the whole block stands in front of the cut, so it is read
    have hwhole : b.print <+: e.pending := by
      rw [hf] at hb
      refine List.prefix_of_prefix_length_le hb (List.prefix_append _ _) ?_
      have hwithin := hb.length_le
      rw [List.length_append, List.length_drop] at hwithin
      omega
    obtain ⟨item, d', hread⟩ := (exists_readItem_iff hpair).mpr ⟨b, hwhole⟩
    cases hread.symm.trans hbroken

end Cursor

/-- **How the scan of a template that is cut off ends.**  Cut off behind the opening marker of a
block and in front of the end of its closing marker, the template is broken: a value is not
terminated if the cut lies in it, a directive is malformed if the cut leaves the number sign of its
closing marker behind, and else the block is not terminated.  Cut off anywhere else, the template is
scanned to its end. -/
theorem ending_of_cut (r : Registry) {templatePath text : String} (k : Nat)
    (h : (r.scan templatePath text).ending = .complete) :
    let cut := r.scan templatePath (String.ofList (text.toList.take k))
    (∀ i b, Grammar.OpensAt text.toList i b → i + 2 ≤ k → k < i + b.print.length →
      ∃ fault, cut.ending = .broken fault ∧
        (fault.cause.kind = .unterminatedValue ↔ b.InValue i k) ∧
        (fault.cause.kind = .malformedDirective ↔
          (∃ d, b = .directive d) ∧ k + 1 = i + b.print.length) ∧
        (fault.cause.kind = .unterminatedBlock ↔
          ¬ b.InValue i k ∧ ¬ ((∃ d, b = .directive d) ∧ k + 1 = i + b.print.length))) ∧
    ((∀ i b, Grammar.OpensAt text.toList i b → ¬ (i + 2 ≤ k ∧ k < i + b.print.length)) →
      cut.ending = .complete) := by
  intro cut
  refine ⟨fun i b hb hlow hhigh => ?_, Cursor.complete_of_cut h⟩
  obtain ⟨fault, hending, hkind⟩ := Cursor.exists_broken_of_opensAt hb hlow hhigh
  refine ⟨fault, hending, ?_⟩
  -- no value reaches into the closing marker
  have hvalue : b.InValue i k → ¬ k + 1 = i + b.print.length := by
    intro hvalue hend
    have hlt := hvalue.lt
    have hprint : b.print.length = b.inner.length + 4 := by
      simp [Grammar.Block.print]
    omega
  rcases hkind with ⟨hkind, hdirective, hend⟩ | ⟨hkind, hin⟩ | ⟨hkind, hout, hmarker⟩
  · have hout : ¬ b.InValue i k := fun hin => hvalue hin hend
    simp [hkind, hdirective, hend, hout]
  · simp [hkind, hin, hvalue hin]
  · simp only [hkind, reduceCtorEq, false_iff, true_iff]
    exact ⟨hout, hmarker, hout, hmarker⟩

-- Cut off in a value, behind what looks like a closing marker, and inside the opening marker.
theorem ending_of_cut_in_value :
    let text := "a<#@ t p=\"<#>\"#>"
    let scan := fun k => (Registry.builtIn {}).scan "a.tt" (String.ofList (text.toList.take k))
    ((Registry.builtIn {}).scan "a.tt" text).ending = .complete ∧
      (∃ b, Grammar.OpensAt text.toList 1 b ∧ 13 < 1 + b.print.length ∧ b.InValue 1 13) ∧
      (∃ fault, (scan 13).ending = .broken fault ∧ fault.cause.kind = .unterminatedValue) ∧
      (scan 2).ending = .complete := by
  intro text scan
  have hcomplete : ((Registry.builtIn {}).scan "a.tt" text).ending = .complete := by decide +kernel
  let b : Grammar.Block := .directive
    { beforeName := ⟨[' '], List.all_eq_true.mp rfl⟩
      name := ⟨['t'], List.all_eq_true.mp (by decide)⟩
      behindName := ⟨[' '], List.all_eq_true.mp rfl⟩
      properties :=
        [{ key := ⟨['p'], List.all_eq_true.mp (by decide)⟩
           named := by decide
           beforeEquals := ⟨[], by simp⟩
           behindEquals := ⟨[], by simp⟩
           value := ⟨['<', '#', '>'], by simp⟩
           behind := ⟨[], by simp⟩ }]
      apart := fun _ => ⟨by decide, by decide⟩ }
  have hopens : Grammar.OpensAt text.toList 1 b :=
    ⟨[.text ⟨['a'], by decide, by decide⟩], ⟨[], by simp⟩, [], by decide, by decide, rfl⟩
  have hvalue : b.InValue 1 13 := .inl (by decide)
  refine ⟨hcomplete, ⟨b, hopens, by decide, hvalue⟩, ?_, ?_⟩
  · obtain ⟨fault, hending, hkind, -⟩ :=
      (ending_of_cut (Registry.builtIn {}) 13 hcomplete).1 1 b hopens (by decide) (by decide)
    exact ⟨fault, hending, hkind.mpr hvalue⟩
  · refine (ending_of_cut (Registry.builtIn {}) 2 hcomplete).2 fun i b' hb' hcut => ?_
    -- no block opens on the first character
    obtain ⟨front, gap, back, -, hprinted, hfront⟩ := hb'
    have hhead := congrArg List.head? hprinted
    have hfirst : text.toList.head? = some 'a' := by decide
    rw [Grammar.printed_append, List.eq_nil_of_length_eq_zero (hfront.trans (by omega)),
      hfirst] at hhead
    simp [Grammar.Element.print, Grammar.Block.print] at hhead

/-- Cut off between the two characters of its closing marker, a directive is reported as malformed
and not as unterminated. -/
theorem malformed_of_cut_marker :
    let text := "<#@ a #>"
    let cut := (Registry.builtIn {}).scan "a.tt" (String.ofList (text.toList.take 7))
    ((Registry.builtIn {}).scan "a.tt" text).ending = .complete ∧
      ∃ b, Grammar.OpensAt text.toList 0 b ∧ 0 + 2 ≤ 7 ∧ 7 < 0 + b.print.length ∧
        ¬ b.InValue 0 7 ∧
        ∃ fault, cut.ending = .broken fault ∧ fault.cause.kind = .malformedDirective ∧
          fault.cause.kind ≠ .unterminatedBlock := by
  intro text cut
  let b : Grammar.Block := .directive
    { beforeName := ⟨[' '], List.all_eq_true.mp rfl⟩
      name := ⟨['a'], List.all_eq_true.mp (by decide)⟩
      behindName := ⟨[' '], List.all_eq_true.mp rfl⟩
      properties := []
      apart := fun h => absurd rfl h }
  refine ⟨by decide +kernel, b, ?_, by decide, by decide, fun h => h,
    ⟨.noPropertyName "a" '#', ⟨1, 7⟩⟩, by decide +kernel, rfl, by decide⟩
  exact ⟨[], ⟨[], by simp⟩, [], by decide, by decide, rfl⟩

end Stencil
