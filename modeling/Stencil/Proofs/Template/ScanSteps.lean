import Stencil.Proofs.Template.ItemRuns

/-!
# A scan underway

A scan changes its state in small steps: it takes in a block, or has the properties of a directive
act one behind the other, and then moves over the blanks.  Whatever stops a scan, what it leaves is
the state behind some of these steps.

## Main definitions

* `Underway` — a state, a cursor, and the directive that is acting, if any.
* `Registry.Step` — one step of a scan.
* `Registry.Reachable` — what some number of steps lead to from the start of a text.

## Main results

* `Registry.reachable_scanSource` — the state that a scan ends with is reachable.
-/

namespace Stencil

/-- A directive that is acting. -/
structure Acting where
  /-- What its properties do. -/
  specification : Specification
  /-- Its name. -/
  directive : String
  /-- The properties that have not acted yet. -/
  properties : List (String × String)
  deriving DecidableEq, Repr, Inhabited

/-- A scan underway. -/
structure Underway where
  /-- What is gathered. -/
  state : ScanState
  /-- Where the cursor is. -/
  cursor : Cursor
  /-- The directive that is acting; none between two items. -/
  acting : Option Acting := none
  deriving DecidableEq, Repr, Inhabited

namespace Registry

/-- One step of a scan. -/
inductive Step (r : Registry) : Underway → Underway → Prop where
  /-- A block is read and taken in, and the blanks behind it are passed. -/
  | block {s : ScanState} {c d : Cursor} {b : Block} (hc : c.current.isSome = true)
      (hread : c.readItem = .read (.block b) d) :
      Step r ⟨s, c, none⟩ ⟨s.assemble b.body b.kind, d.skipBlanks, none⟩
  /-- A directive is read whose name stands for nothing. -/
  | ignored {s : ScanState} {c d : Cursor} {e : Directive} (hc : c.current.isSome = true)
      (hread : c.readItem = .read (.directive e) d) (hname : r.find? e.name = none) :
      Step r ⟨s, c, none⟩ ⟨s, d.skipBlanks, none⟩
  /-- A directive is read and begins to act. -/
  | begins {s : ScanState} {c d : Cursor} {e : Directive} {specification : Specification}
      (hc : c.current.isSome = true) (hread : c.readItem = .read (.directive e) d)
      (hname : r.find? e.name = some specification) :
      Step r ⟨s, c, none⟩ ⟨s, d, some ⟨specification, e.name, e.properties⟩⟩
  /-- A property acts. -/
  | property {s : ScanState} {c : Cursor} {specification : Specification} {directive : String}
      {p : String × String} {ps : List (String × String)} :
      Step r ⟨s, c, some ⟨specification, directive, p :: ps⟩⟩
        ⟨(r.applyProperty specification directive s p).state, c,
          some ⟨specification, directive, ps⟩⟩
  /-- All properties have acted, and the blanks behind the directive are passed. -/
  | ends {s : ScanState} {c : Cursor} {specification : Specification} {directive : String} :
      Step r ⟨s, c, some ⟨specification, directive, []⟩⟩ ⟨s, c.skipBlanks, none⟩

/-- What steps of a scan lead to from the first character of a text on. -/
inductive Reachable (r : Registry) (templatePath : String) (text : List Char) :
    Underway → Prop where
  /-- Nothing is gathered yet. -/
  | start : Reachable r templatePath text ⟨{ templatePath }, (Cursor.ofText text).advance, none⟩
  /-- One step more. -/
  | step {u v : Underway} (h : Reachable r templatePath text u) (hstep : r.Step u v) :
      Reachable r templatePath text v

variable {r : Registry} {templatePath : String} {text : List Char}

theorem reachable_applyProperties {s : ScanState} {c : Cursor} {specification : Specification}
    {directive : String} {ps : List (String × String)}
    (h : r.Reachable templatePath text ⟨s, c, some ⟨specification, directive, ps⟩⟩) :
    r.Reachable templatePath text
      ⟨(r.applyProperties specification directive s ps).state, c.skipBlanks, none⟩ := by
  induction ps generalizing s with
  | nil => exact h.step .ends
  | cons p ps ih => exact ih (h.step .property)

/-- What an item does is reached step by step. -/
theorem reachable_applyItem {s : ScanState} {c d : Cursor} {item : Item}
    (h : r.Reachable templatePath text ⟨s, c, none⟩) (hc : c.current.isSome = true)
    (hread : c.readItem = .read item d) :
    r.Reachable templatePath text ⟨(r.applyItem s item).state, d.skipBlanks, none⟩ := by
  cases item with
  | block b => exact h.step (.block hc hread)
  | directive e =>
    simp only [applyItem, applyDirective]
    split
    · next hname => exact h.step (.ignored hc hread hname)
    · next specification hname =>
      exact reachable_applyProperties (h.step (.begins hc hread hname))

theorem reachable_applyItems {s : ScanState} {c e : Cursor} {items : List Item}
    (h : r.Reachable templatePath text ⟨s, c, none⟩) (hreads : c.Reads items e) :
    r.Reachable templatePath text ⟨(r.applyItems s items).state, e, none⟩ := by
  induction hreads generalizing s with
  | nil c => exact h
  | cons hc hread _ ih => exact ih (reachable_applyItem h hc hread)

end Registry

/-- What is read of a source is a run of items, wherever the reading ends and whatever ends it. -/
theorem Cursor.reads_readItems (fault : Option DecodeFault) (c : Cursor) :
    ∃ e, c.Reads (c.readItems fault).items e := by
  fun_induction readItems fault c with
  | case1 c hc cause d hread flaw hflaw => exact ⟨c, .nil c⟩
  | case2 c hc cause d hread hflaw => exact ⟨c, .nil c⟩
  | case3 c hc item d hread flaw hflaw => exact ⟨c, .nil c⟩
  | case4 c hc item d hread hflaw others ih =>
    obtain ⟨e, he⟩ := ih
    exact ⟨e, .cons hc hread he⟩
  | case5 c hc flaw hflaw => exact ⟨c, .nil c⟩
  | case6 c hc hflaw => exact ⟨c, .nil c⟩

/-- **The state that a scan ends with is reachable,** whether it ends with the template or not. -/
theorem Registry.reachable_scanSource (r : Registry) (templatePath : String) (source : Source) :
    ∃ e, r.Reachable templatePath source.text
      ⟨(r.scanSource templatePath source).state, e, none⟩ := by
  obtain ⟨e, hreads⟩ := (Cursor.ofText source.text).advance.reads_readItems source.fault
  exact ⟨e, reachable_applyItems .start hreads⟩

end Stencil
