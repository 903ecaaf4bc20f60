import Stencil.Proofs.Template.Continuation
import Stencil.Proofs.Template.FaultPlace

/-!
# Templates that are joined

Scanning composes behind a block.  If a template ends in a block, what is appended to it is read as
a template of its own without its leading blanks, and does from the state of the first template on
what its items do.  Nothing else is carried over: neither where the reader is nor what it has read.

## Main definitions

* `Item.isBlock` — the item is read from a block.
* `Ending.Alike` — two readings end in the same way, in different places perhaps.

## Main results

* `Cursor.exists_readItem_broken` — whether and how a block is broken depends on what is pending.
* `Cursor.readItems_append` — what is read of two templates that are joined.
* `scan_append` — **the scan of two templates that are joined.**
-/

namespace Stencil

open Grammar (Element WellLaid printed itemsFrom)

/-- The item is read from a block and not from literal text. -/
def Item.isBlock : Item → Bool
  | .block b => b.kind ≠ .text
  | .directive _ => true

/-- Two readings end in the same way: both are complete, or the same is wrong with both, perhaps in
different places. -/
def Ending.Alike : Ending → Ending → Prop
  | .complete, .complete => True
  | .broken fault, .broken fault' => fault.cause = fault'.cause
  | .unreadable flaw, .unreadable flaw' => flaw = flaw'
  | _, _ => False

/-! ### Items on other lines -/

namespace Grammar

theorem itemsFrom_append_across (p : Position) (es es' : List Element) :
    itemsFrom p (es ++ es') = itemsFrom p es ++ itemsFrom (p.across (printed es)) es' := by
  induction es generalizing p with
  | nil => rfl
  | cons el es ih =>
    rw [List.cons_append, itemsFrom, itemsFrom, Grammar.printed_cons, Position.across_append, ih]
    rfl

theorem itemsFrom_append (p : Position) (es : List Element) :
    ∃ q, ∀ es', itemsFrom p (es ++ es') = itemsFrom p es ++ itemsFrom q es' :=
  ⟨_, itemsFrom_append_across p es⟩

/-- If a block is read last, the last element is a block. -/
theorem exists_block_of_getLast? {p : Position} {es : List Element} {item : Item}
    (h : (itemsFrom p es).getLast? = some item) (hitem : item.isBlock = true) :
    ∃ front b gap, es = front ++ [.block b gap] := by
  rcases List.eq_nil_or_concat es with rfl | ⟨front, el, rfl⟩
  · cases h
  · obtain ⟨q, hq⟩ := itemsFrom_append p front
    rw [List.concat_eq_append, hq, itemsFrom, itemsFrom, List.getLast?_concat] at h
    cases el with
    | text run =>
      obtain rfl := Option.some.inj h
      cases hitem
    | block b gap => exact ⟨front, b, gap, List.concat_eq_append⟩

/-- Behind a block other elements may follow that do not begin with a blank, whatever blanks stand
between. -/
theorem wellLaid_joined {front es : List Element} {b : Block} {gap gap' : Blanks}
    (h : WellLaid (front ++ [.block b gap])) (hes : WellLaid es)
    (hhead : ∀ x ∈ (printed es).head?, isBlank x = false) :
    WellLaid (front ++ .block b gap' :: es) := by
  refine WellLaid.append_block (List.IsChain.left_of_append h) (List.isChain_cons.mpr ⟨?_, hes⟩)
  intro el hel
  obtain ⟨es', rfl⟩ := List.head?_eq_some_iff.mp hel
  cases el with
  | block b' gap'' => trivial
  | text run =>
    intro x hx
    obtain ⟨t, ht⟩ := List.head?_eq_some_iff.mp hx
    exact hhead x (by simp [Element.print, ht])

end Grammar

namespace Registry

variable (r : Registry)

/-- The line that an element stands on changes what is reported and nothing else. -/
theorem state_applyItem_item (s : ScanState) (el : Element) (line line' : Int) :
    (r.applyItem s (el.item line)).state = (r.applyItem s (el.item line')).state := by
  cases el with
  | text run => rfl
  | block b gap =>
    cases b with
    | directive d =>
      simp only [Element.item, Grammar.Block.item, Grammar.Directive.read, applyItem,
        applyDirective]
      split <;> rfl
    | _ => rfl

/-- The place that elements stand at changes what is reported and nothing else. -/
theorem state_applyItems_itemsFrom (s : ScanState) (es : List Element) (p p' : Position) :
    (r.applyItems s (itemsFrom p es)).state = (r.applyItems s (itemsFrom p' es)).state := by
  induction es generalizing s p p' with
  | nil => rfl
  | cons el es ih =>
    simp only [itemsFrom, applyItems]
    rw [r.state_applyItem_item s el p.line p'.line]
    exact ih _ _ _

end Registry

/-! ### Readings of the same text -/

namespace Cursor

theorem current_congr {c c' : Cursor} (h : c'.pending = c.pending) : c'.current = c.current := by
  rw [← head?_pending, ← head?_pending, h]

/-- What is pending in front of a text says what is pending behind it. -/
theorem Passes.pending_congr {c c' d d' : Cursor} {s : List Char} (hpass : c.Passes s d)
    (hpass' : c'.Passes s d') (h : c'.pending = c.pending) : d'.pending = d.pending :=
  hpass'.pending_of_append (h.trans hpass.pending_eq)

/-- The cause of the fault of a directive depends on what is pending and nothing else. -/
theorem cause_of_readDirective {c c' d d' : Cursor} {line line' : Int} {fault fault' : SyntaxFault}
    (h : c'.pending = c.pending) (hbroken : c.readDirective line = .broken fault d)
    (hbroken' : c'.readDirective line' = .broken fault' d') : fault'.cause = fault.cause := by
  obtain ⟨stub, hpass, hstop, rfl⟩ := readDirective_eq_broken_iff.mp hbroken
  obtain ⟨e, hpass', hpending⟩ := exists_passes (h.trans hpass.pending_eq)
  -- the other reader gives up behind the same stub
  have hstop' : stub.last.StopsAt e := by
    refine hstop.of_current (current_congr hpending) fun hdue => ?_
    rw [hdue] at hstop
    rw [onPair_iff, hpending, ← onPair_iff]
    exact hstop.2
  have hsame : c'.readDirective line' =
      .broken ⟨stub.last.cause stub.name.text e.current, e.position⟩ e :=
    readDirective_eq_broken_iff.mpr ⟨stub, hpass', hstop', rfl⟩
  obtain ⟨rfl, -⟩ := Reading.broken.inj (hbroken'.symm.trans hsame)
  rw [current_congr hpending]

/-- **Whether and how a block is broken depends on what is pending and nothing else,** the place of
the fault apart. -/
theorem exists_readItem_broken {c c' d : Cursor} {fault : SyntaxFault}
    (h : c'.pending = c.pending) (hbroken : c.readItem = .broken fault d) :
    ∃ fault' d', c'.readItem = .broken fault' d' ∧ fault'.cause = fault.cause := by
  have hpair := onPair_of_broken hbroken
  have hpair' : c'.onPair '<' '#' = true := by
    rwa [onPair_iff, h, ← onPair_iff]
  cases hread : c'.readItem with
  | read item d' =>
    obtain ⟨b, hb⟩ := (exists_readItem_iff hpair').mp ⟨item, d', hread⟩
    rw [h] at hb
    obtain ⟨item', e, hread'⟩ := (exists_readItem_iff hpair).mpr ⟨b, hb⟩
    cases hread'.symm.trans hbroken
  | broken fault' d' =>
    refine ⟨fault', d', rfl, ?_⟩
    rw [readItem, if_pos hpair] at hbroken
    rw [readItem, if_pos hpair'] at hread
    have hinner : (c'.advanceBy 2).pending = (c.advanceBy 2).pending :=
      (onPair_iff_passes.mp hpair).pending_congr (onPair_iff_passes.mp hpair') h
    have hcurrent := current_congr hinner
    by_cases hsign : (c.advanceBy 2).current = some '@'
    · have hahead : (c'.advanceBy 2).advance.pending = (c.advanceBy 2).advance.pending := by
        rw [pending_eq_cons hsign, pending_eq_cons (hcurrent.trans hsign)] at hinner
        rw [pending_advance, pending_advance]
        exact (List.cons.inj hinner).2
      exact cause_of_readDirective hahead (readDirective_of_readBlock hbroken hsign)
        (readDirective_of_readBlock hread (hcurrent.trans hsign))
    · rw [fault_of_readBlock hbroken hsign,
        fault_of_readBlock hread fun hsign' => hsign (hcurrent.symm.trans hsign')]

/-- A reading that goes over well-laid elements to what another one ends at ends in the same way. -/
theorem readItems_alike {c c' e : Cursor} {es : List Element} (hlaid : WellLaid es)
    (h : c'.pending = printed es ++ e.pending)
    (hending : (e.current = none ∧ (c.readItems none).ending = .complete) ∨
      ∃ fault d, e.readItem = .broken fault d ∧ (c.readItems none).ending = .broken fault) :
    (c'.readItems none).items = itemsFrom c'.position es ∧
      (c'.readItems none).ending.Alike (c.readItems none).ending := by
  obtain ⟨f, hpass, hpending⟩ := exists_passes h
  rcases hending with ⟨hend, hcomplete⟩ | ⟨fault, d, hbroken, hbroken'⟩
  · rw [pending_eq_nil_iff.mpr hend, List.append_nil] at h
    rw [readItems_of_printed hlaid h, hcomplete]
    exact ⟨rfl, trivial⟩
  · obtain ⟨fault', d', hread, hcause⟩ := exists_readItem_broken hpending hbroken
    rw [readItems_of_printed_broken hlaid hpass (onPair_of_broken hread) hread, hbroken']
    exact ⟨rfl, hcause⟩

/-- A template without its leading blanks is well-laid elements that do not begin with a blank, up
to where its reading ends. -/
theorem exists_wellLaid_of_dropWhile (text : String) :
    let c := start (String.ofList (text.toList.dropWhile isBlank))
    ∃ (es : List Element) (e : Cursor),
      WellLaid es ∧ text.toList.dropWhile isBlank = printed es ++ e.pending ∧
      (∀ x ∈ (printed es).head?, isBlank x = false) ∧
      (c.readItems none).items = itemsFrom c.position es ∧
      ((e.current = none ∧ (c.readItems none).ending = .complete) ∨
        ∃ fault d, e.readItem = .broken fault d ∧ (c.readItems none).ending = .broken fault) := by
  intro c
  obtain ⟨es, e, hlaid, hpass, hitems, hending⟩ := exists_wellLaid c
  have hrest : text.toList.dropWhile isBlank = printed es ++ e.pending := by
    rw [← hpass.pending_eq, pending_start, String.toList_ofList]
  refine ⟨es, e, hlaid, hrest, fun x hx => ?_, hitems, hending⟩
  obtain ⟨t, ht⟩ := List.head?_eq_some_iff.mp hx
  have hnot := List.head?_dropWhile_not isBlank text.toList
  rw [hrest, ht, List.cons_append, List.head?_cons] at hnot
  simpa using hnot

/-- **What is read of two templates that are joined.**  Behind a block, with more blanks behind it,
the elements of the second template follow. -/
theorem readItems_append {first : String} {item : Item}
    (hcomplete : ((start first).readItems none).ending = .complete)
    (hlast : ((start first).readItems none).items.getLast? = some item)
    (hitem : item.isBlock = true) (second : String) :
    ∃ front b gap gap' es,
      ((start first).readItems none).items =
        itemsFrom (start first).position (front ++ [.block b gap]) ∧
      ((start (String.ofList (second.toList.dropWhile isBlank))).readItems none).items =
        itemsFrom (start (String.ofList (second.toList.dropWhile isBlank))).position es ∧
      ((start (first ++ second)).readItems none).items =
        itemsFrom (start (first ++ second)).position (front ++ .block b gap' :: es) ∧
      ((start (first ++ second)).readItems none).ending.Alike
        ((start (String.ofList (second.toList.dropWhile isBlank))).readItems none).ending := by
  let blanks := second.toList.takeWhile isBlank
  have hsecond : blanks ++ second.toList.dropWhile isBlank = second.toList :=
    List.takeWhile_append_dropWhile
  obtain ⟨es₁, hlaid₁, hprinted₁, hitems₁⟩ := exists_wellLaid_of_readItems hcomplete
  rw [hitems₁] at hlast
  obtain ⟨front, b, gap, rfl⟩ := Grammar.exists_block_of_getLast? hlast hitem
  obtain ⟨es, e, hlaid, hrest, hhead, hitems, hending⟩ := exists_wellLaid_of_dropWhile second
  -- the blanks behind the block of the first template and those in front of the second are one gap
  let gap' : Grammar.Blanks :=
    ⟨gap.chars ++ blanks, fun x hx => (List.mem_append.mp hx).elim (gap.blank x)
      fun hx => List.mem_takeWhile_imp hx⟩
  have hjoined : WellLaid (front ++ .block b gap' :: es) :=
    Grammar.wellLaid_joined hlaid₁ hlaid hhead
  have hwhole : (start (first ++ second)).pending =
      printed (front ++ .block b gap' :: es) ++ e.pending := by
    rw [pending_start, String.toList_append, ← pending_start first, ← hprinted₁, ← hsecond, hrest]
    simp [Element.print, gap']
  exact ⟨front, b, gap, gap', es, hitems₁, hitems, readItems_alike hjoined hwhole hending⟩

end Cursor

/-! ### Scans -/

/-- **The scan of two templates that are joined.**  If the first one is complete and ends in a
block, the whole fails exactly if the second one without its leading blanks does, with the same
cause, and gathers what the items of the second one do from the state of the first on.  This is what
the first has gathered and the second behind it; if the first one ends in the region of the class,
then the code in front of the first item that sets the mode goes to that region as well. -/
theorem scan_append (r : Registry) {templatePath first : String}
    (hcomplete : (r.scan templatePath first).ending = .complete)
    (hlast : ∃ item ∈ ((Cursor.start first).readItems none).items.getLast?,
      item.isBlock = true) (second : String) :
    let rest := String.ofList (second.toList.dropWhile isBlank)
    let items := ((Cursor.start rest).readItems none).items
    let front := r.scan templatePath first
    let back := r.scan templatePath rest
    let whole := r.scan templatePath (first ++ second)
    whole.ending.Alike back.ending ∧
      whole.state = (r.applyItems front.state items).state ∧
      (front.state.mode = .script → whole.state = front.state.followedBy back.state) ∧
      (front.state.mode = .classFeature →
        let moved := (r.applyItems { templatePath } (items.takeWhile (!·.switches))).state.script
        ∃ kept, back.state.script = moved ++ kept ∧
          whole.state = front.state.followedBy
            { back.state with
              mode := if items.any Item.switches then back.state.mode else .classFeature
              script := kept
              classFeature := moved ++ back.state.classFeature }) := by
  intro rest items front back whole
  obtain ⟨item, hitem, hblock⟩ := hlast
  obtain ⟨es₁, b, gap, gap', es, hfirst, hsecond, hwhole, hending⟩ :=
    Cursor.readItems_append hcomplete hitem hblock second
  have hitems : items = itemsFrom (Cursor.start rest).position es := hsecond
  have hstate : whole.state = (r.applyItems front.state items).state := by
    obtain ⟨q, hq⟩ := Grammar.itemsFrom_append (Cursor.start (first ++ second)).position es₁
    have hfront : front.state = (r.applyItems { templatePath }
        (itemsFrom (Cursor.start (first ++ second)).position (es₁ ++ [.block b gap]))).state := by
      rw [Registry.state_scan, hfirst]
      exact r.state_applyItems_itemsFrom _ _ _ _
    have hblocks : itemsFrom q (.block b gap' :: es) =
        itemsFrom q [.block b gap] ++ itemsFrom (q.across (Element.block b gap').print) es :=
      rfl
    rw [Registry.state_scan, hwhole, hq, hblocks, ← List.append_assoc, ← hq, r.applyItems_append,
      ← hfront, hitems]
    exact r.state_applyItems_itemsFrom _ _ _ _
  have hpath : front.state.templatePath = templatePath :=
    (Registry.derived_scanSource r templatePath { text := first.toList }).1
  have hback : back.state = (r.applyItems { templatePath } items).state :=
    Registry.state_scan r templatePath rest
  have hbehind := r.applyItems_eq_followedBy front.state items
  refine ⟨?_, hstate, fun hmode => ?_, fun hmode => ?_⟩
  · rw [Registry.ending_scan, Registry.ending_scan]
    exact hending
  · rw [hstate, hbehind, hpath, hmode, hback]
  · obtain ⟨kept, hkept, hclass⟩ := r.applyItems_classFeature templatePath items
    rw [hstate, hbehind, hpath, hmode, hclass, hback]
    exact ⟨kept, hkept, rfl⟩

-- Behind members of the class, with code in front of the control block that sets the mode.
theorem scan_append_members :
    let first := "<#@ output extension=\"c\"#><#+ f #>\n"
    let second := " t<#= e #><#@ output extension=\"d\"#><# g #>u"
    let r := Registry.builtIn {}
    let rest := String.ofList (second.toList.dropWhile isBlank)
    let items := ((Cursor.start rest).readItems none).items
    let front := r.scan "a.tt" first
    let back := r.scan "a.tt" rest
    let whole := r.scan "a.tt" (first ++ second)
    front.ending = .complete ∧
      (∃ item ∈ ((Cursor.start first).readItems none).items.getLast?, item.isBlock = true) ∧
      front.state.mode = .classFeature ∧
      whole.ending.Alike back.ending ∧
      whole.state = (r.applyItems front.state items).state ∧
      ∃ kept, back.state.script = [.literal "t", .expression "e"] ++ kept ∧
        whole.state = front.state.followedBy
          { back.state with
            mode := .script
            script := kept
            classFeature := [.literal "t", .expression "e"] ++ back.state.classFeature } := by
  intro first second r rest items front back whole
  obtain ⟨hcomplete, hmode, hread⟩ : front.ending = .complete ∧
      front.state.mode = .classFeature ∧
      .block ⟨.classFeature, " f ", 1⟩ ∈ ((Cursor.start first).readItems none).items.getLast? := by
    decide +kernel
  have hlast : ∃ item ∈ ((Cursor.start first).readItems none).items.getLast?,
      item.isBlock = true := ⟨_, hread, by decide⟩
  obtain ⟨hmoved, hback⟩ :
      (r.applyItems { templatePath := "a.tt" } (items.takeWhile (!·.switches))).state.script =
          [.literal "t", .expression "e"] ∧
        (if items.any Item.switches then back.state.mode else .classFeature) = Mode.script := by
    decide +kernel
  obtain ⟨hending, hstate, -, hclass⟩ := scan_append r hcomplete hlast second
  have hclass := hclass hmode
  rw [hmoved, hback] at hclass
  exact ⟨hcomplete, hlast, hmode, hending, hstate, hclass⟩

end Stencil
