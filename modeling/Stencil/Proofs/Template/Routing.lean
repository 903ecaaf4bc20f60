import Mathlib.Data.List.Basic
import Mathlib.Data.List.Induction
import Stencil.Template.ScanState

/-!
# Where code goes

Every piece of code becomes one fragment of one region.  Which region that is follows from the kind
of the code and from the mode, and the mode follows from the last class feature or control code in
front, however far that is.  So the regions behind any number of blocks can be told without taking
the blocks in: each region grows by the fragments that go there, in the order of the blocks.

## Main definitions

* `CodeKind.destination`, `CodeKind.fragment` — where code goes, and what becomes of it.
* `Offer`, `ScanState.afterOffers` — blocks of any kind that are offered one behind the other.
* `Offer.modeBehind`, `Offer.inRegion` — the mode that blocks lead to, and what a region grows by.

## Main results

* `ScanState.region_assemble`, `ScanState.mode_assemble` — what taking in a piece of code does.
* `ScanState.region_afterOffers`, `ScanState.mode_afterOffers` — what offering blocks does.
* `routing_of_offers` — **each block of code becomes one fragment of one region.**
-/

namespace Stencil

/-! ### Code of a kind -/

namespace CodeKind

/-- The mode that code of a kind sets; text and expressions leave the mode as it is. -/
def sets? : CodeKind → Option Mode
  | .text | .expression => none
  | .classFeature => some .classFeature
  | .control => some .script

/-- The region that code of a kind goes to, where the scan comes to it in some mode. -/
def destination (mode : Mode) : CodeKind → Mode
  | .text | .expression => mode
  | .classFeature => .classFeature
  | .control => .script

/-- The fragment that code of a kind becomes. -/
def fragment (body : String) : CodeKind → Fragment
  | .text => .literal body
  | .expression => .expression (String.ofList (trimBlanks body.toList))
  | .classFeature | .control => .raw body

end CodeKind

namespace ScanState

variable (s : ScanState) (body : String) (kind : CodeKind)

/-- Taking in code puts its fragment at the end of its region and leaves the other one alone. -/
theorem region_assemble (m : Mode) :
    (s.assemble body kind).region m =
      if kind.destination s.mode = m then s.region m ++ [kind.fragment body] else s.region m := by
  cases kind with
  | text =>
    simp only [assemble, putText, region_put, CodeKind.destination, CodeKind.fragment, eq_comm]
  | expression =>
    simp only [assemble, putExpression, region_put, CodeKind.destination, CodeKind.fragment,
      eq_comm]
  | classFeature => cases m <;> rfl
  | control => cases m <;> rfl

/-- Taking in code sets the mode if its kind sets one. -/
theorem mode_assemble : (s.assemble body kind).mode = kind.sets?.getD s.mode := by
  cases kind with
  | text =>
    cases hmode : s.mode <;> simp [assemble, putText, put, CodeKind.sets?, hmode]
  | expression =>
    cases hmode : s.mode <;> simp [assemble, putExpression, put, CodeKind.sets?, hmode]
  | classFeature => rfl
  | control => rfl

/-- Code has no part in what directives decide. -/
theorem gathered_assemble :
    (s.assemble body kind).templatePath = s.templatePath ∧
      (s.assemble body kind).usings = s.usings ∧
      (s.assemble body kind).outputPath = s.outputPath := by
  cases kind <;> cases hmode : s.mode <;>
    simp [assemble, putText, putExpression, putClassFeature, putControl, put, hmode]

end ScanState

/-! ### Blocks that are offered -/

/-- A block that is offered to the state of a scan.  It may be of any kind, but a directive is
refused. -/
structure Offer where
  /-- What it is. -/
  kind : BlockKind
  /-- What stands between the markers. -/
  body : String
  deriving DecidableEq, Repr, Inhabited

namespace Offer

/-- Whether it is code, and no directive. -/
def isCode (o : Offer) : Bool := o.kind != .directive

/-- The mode that a block sets, if it is one that sets the mode. -/
def sets? (o : Offer) : Option Mode :=
  match o.kind with
  | .directive => none
  | .code kind => kind.sets?

/-- The mode behind blocks: what the last of them that sets one has set, or else the mode in front
of them all. -/
def modeBehind (initial : Mode) (offers : List Offer) : Mode :=
  ((offers.filterMap sets?).getLast?).getD initial

/-- The fragment that a block adds to a region, if it goes there in some mode. -/
def fragmentIn? (mode m : Mode) (o : Offer) : Option Fragment :=
  match o.kind with
  | .directive => none
  | .code kind => if kind.destination mode = m then some (kind.fragment o.body) else none

/-- The fragments that blocks add to a region, where each of them is come to in the mode behind
those in front of it. -/
def inRegion (initial m : Mode) (offers : List Offer) : List Fragment :=
  offers.zipIdx.filterMap fun (o, i) => o.fragmentIn? (modeBehind initial (offers.take i)) m

@[simp] theorem modeBehind_nil (initial : Mode) : modeBehind initial [] = initial := rfl

@[simp] theorem inRegion_nil (initial m : Mode) : inRegion initial m [] = [] := rfl

theorem modeBehind_concat (initial : Mode) (front : List Offer) (o : Offer) :
    modeBehind initial (front ++ [o]) = o.sets?.getD (modeBehind initial front) := by
  rw [modeBehind, List.filterMap_append]
  cases hsets : o.sets? <;> simp [modeBehind, hsets]

/-- One more block adds at most one fragment, and does not change where the others go. -/
theorem inRegion_concat (initial m : Mode) (front : List Offer) (o : Offer) :
    inRegion initial m (front ++ [o]) =
      inRegion initial m front ++ (o.fragmentIn? (modeBehind initial front) m).toList := by
  rw [inRegion, List.zipIdx_append, List.filterMap_append]
  congr 1
  · refine List.filterMap_congr fun ⟨o', i⟩ hmem => ?_
    have hi : i < 0 + front.length := (List.mem_zipIdx hmem).2.1
    show o'.fragmentIn? (modeBehind initial ((front ++ [o]).take i)) m = _
    rw [List.take_append_of_le_length (by omega)]
  · rw [List.zipIdx_singleton, Nat.zero_add]
    cases hfragment : o.fragmentIn? (modeBehind initial front) m <;> simp [hfragment]

/-- A block of code goes to one of the two regions. -/
theorem length_fragmentIn? (mode : Mode) (o : Offer) :
    (o.fragmentIn? mode .script).toList.length + (o.fragmentIn? mode .classFeature).toList.length =
      if o.isCode then 1 else 0 := by
  obtain ⟨kind, body⟩ := o
  cases kind with
  | directive => rfl
  | code kind => cases kind <;> cases mode <;> rfl

/-- The two regions together grow by as many fragments as there are blocks of code. -/
theorem length_inRegion (initial : Mode) (offers : List Offer) :
    (inRegion initial .script offers).length + (inRegion initial .classFeature offers).length =
      offers.countP isCode := by
  induction offers using List.reverseRecOn with
  | nil => rfl
  | append_singleton front o ih =>
    have hone := length_fragmentIn? (modeBehind initial front) o
    rw [inRegion_concat, inRegion_concat, List.length_append, List.length_append,
      List.countP_append, List.countP_singleton, ← hone]
    omega

end Offer

/-! ### States behind offers -/

namespace ScanState

/-- The state behind a block that is offered; one that is refused changes nothing. -/
def offer (s : ScanState) (o : Offer) : ScanState :=
  match s.assembleBlock o.body o.kind with
  | .ok t => t
  | .error _ => s

/-- The state behind blocks that are offered one behind the other. -/
def afterOffers (s : ScanState) (offers : List Offer) : ScanState := offers.foldl offer s

@[simp] theorem afterOffers_nil (s : ScanState) : s.afterOffers [] = s := rfl

theorem afterOffers_concat (s : ScanState) (front : List Offer) (o : Offer) :
    s.afterOffers (front ++ [o]) = (s.afterOffers front).offer o := by
  rw [afterOffers, List.foldl_append]
  rfl

section Step

variable (s : ScanState) (o : Offer)

theorem region_offer (m : Mode) :
    (s.offer o).region m = s.region m ++ (o.fragmentIn? s.mode m).toList := by
  obtain ⟨kind, body⟩ := o
  cases kind with
  | directive => exact (List.append_nil _).symm
  | code kind =>
    rw [offer, assembleBlock, region_assemble, Offer.fragmentIn?]
    simp only
    split
    · rfl
    · exact (List.append_nil _).symm

theorem mode_offer : (s.offer o).mode = o.sets?.getD s.mode := by
  obtain ⟨kind, body⟩ := o
  cases kind with
  | directive => rfl
  | code kind => exact mode_assemble s body kind

theorem gathered_offer :
    (s.offer o).templatePath = s.templatePath ∧ (s.offer o).usings = s.usings ∧
      (s.offer o).outputPath = s.outputPath := by
  obtain ⟨kind, body⟩ := o
  cases kind with
  | directive => exact ⟨rfl, rfl, rfl⟩
  | code kind => exact gathered_assemble s body kind

end Step

variable (s : ScanState) (offers : List Offer)

theorem mode_afterOffers : (s.afterOffers offers).mode = Offer.modeBehind s.mode offers := by
  induction offers using List.reverseRecOn with
  | nil => rfl
  | append_singleton front o ih =>
    rw [afterOffers_concat, mode_offer, ih, Offer.modeBehind_concat]

/-- **A region grows by the fragments that go there**, in the order of the blocks. -/
theorem region_afterOffers (m : Mode) :
    (s.afterOffers offers).region m = s.region m ++ Offer.inRegion s.mode m offers := by
  induction offers using List.reverseRecOn with
  | nil => exact (List.append_nil _).symm
  | append_singleton front o ih =>
    rw [afterOffers_concat, region_offer, ih, mode_afterOffers, Offer.inRegion_concat,
      List.append_assoc]

theorem gathered_afterOffers :
    (s.afterOffers offers).templatePath = s.templatePath ∧
      (s.afterOffers offers).usings = s.usings ∧
      (s.afterOffers offers).outputPath = s.outputPath := by
  induction offers using List.reverseRecOn with
  | nil => exact ⟨rfl, rfl, rfl⟩
  | append_singleton front o ih =>
    obtain ⟨hpath, husings, houtput⟩ := gathered_offer (s.afterOffers front) o
    rw [afterOffers_concat]
    exact ⟨hpath.trans ih.1, husings.trans ih.2.1, houtput.trans ih.2.2⟩

end ScanState

/-- **Each block of code becomes one fragment of one region.**  Behind blocks that are offered to
any state, each region is what it was and the fragments behind it that go there, in the order of the
blocks; the mode is what the last block has set that sets one.  If then one more block is offered,
code adds its fragment to the region that its kind and this mode decide, and to no other; a
directive is refused, and the state stays as it is. -/
theorem routing_of_offers (s : ScanState) (offers : List Offer) :
    let t := s.afterOffers offers
    t.script = s.script ++ Offer.inRegion s.mode .script offers ∧
      t.classFeature = s.classFeature ++ Offer.inRegion s.mode .classFeature offers ∧
      t.mode = Offer.modeBehind s.mode offers ∧
      (t.templatePath = s.templatePath ∧ t.usings = s.usings ∧ t.outputPath = s.outputPath) ∧
      (Offer.inRegion s.mode .script offers).length +
          (Offer.inRegion s.mode .classFeature offers).length =
        offers.countP Offer.isCode ∧
      (∀ kind body, ∃ after, t.assembleBlock body (.code kind) = .ok after ∧
        s.afterOffers (offers ++ [⟨.code kind, body⟩]) = after ∧
        ∀ m, after.region m =
          if kind.destination (Offer.modeBehind s.mode offers) = m
          then t.region m ++ [kind.fragment body] else t.region m) ∧
      ∀ body, t.assembleBlock body .directive = .error .directive ∧
        s.afterOffers (offers ++ [⟨.directive, body⟩]) = t := by
  intro t
  refine ⟨s.region_afterOffers offers .script, s.region_afterOffers offers .classFeature,
    s.mode_afterOffers offers, s.gathered_afterOffers offers, Offer.length_inRegion s.mode offers,
    fun kind body => ⟨t.assemble body kind, rfl, ?_, fun m => ?_⟩, fun body => ⟨rfl, ?_⟩⟩
  · rw [ScanState.afterOffers_concat]
    rfl
  · rw [ScanState.region_assemble, ScanState.mode_afterOffers]
  · rw [ScanState.afterOffers_concat]
    rfl

-- The second text goes where the class feature in front of it says, a directive in between or not.
example :
    let offers : List Offer :=
      [⟨.code .text, "a"⟩, ⟨.code .classFeature, " f "⟩, ⟨.directive, "output"⟩, ⟨.code .text, "b"⟩,
        ⟨.code .control, " s "⟩, ⟨.code .expression, " e "⟩]
    Offer.inRegion .script .script offers = [.literal "a", .raw " s ", .expression "e"] ∧
      Offer.inRegion .script .classFeature offers = [.raw " f ", .literal "b"] := by
  decide +kernel

end Stencil
