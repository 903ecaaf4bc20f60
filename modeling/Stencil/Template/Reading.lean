import Stencil.Template.Block
import Stencil.Template.SyntaxFault
import Stencil.Text.Verbatim

/-!
# Reading a template

A template is read one item at a time: a run of literal text up to the next block, or a block.
Every reader takes the cursor and gives back what it read with the cursor behind it, or the fault it
met with the cursor where it gave up.

## Main definitions

* `Reading` — the outcome of a reader.
* `Cursor.readText`, `Cursor.readBody`, `Cursor.readDirective`, `Cursor.readBlock` — the readers.
* `Cursor.readItem` — the next item of a template.

## Main results

* `Cursor.readProperty_lt`, `Cursor.readItem_lt` — what is read leaves less of the template pending.
-/

namespace Stencil

/-- The outcome of reading something at a cursor. -/
inductive Reading (α : Type) where
  /-- The value read, and the cursor behind it. -/
  | read (value : α) (cursor : Cursor)
  /-- The fault met, and the cursor where it was met. -/
  | broken (fault : SyntaxFault) (cursor : Cursor)
  deriving Repr

namespace Reading

variable {α β : Type}

/-- Go on behind what was read. -/
def bind (r : Reading α) (f : α → Cursor → Reading β) : Reading β :=
  match r with
  | read value cursor => f value cursor
  | broken fault cursor => broken fault cursor

/-- Turn what was read into something else. -/
def map (f : α → β) (r : Reading α) : Reading β :=
  r.bind fun value cursor => read (f value) cursor

/-- Where the cursor is after a reading, whatever its outcome. -/
def cursor : Reading α → Cursor
  | read _ cursor | broken _ cursor => cursor

@[simp] theorem bind_read (value : α) (c : Cursor) (f : α → Cursor → Reading β) :
    (read value c).bind f = f value c := rfl

@[simp] theorem bind_broken (fault : SyntaxFault) (c : Cursor) (f : α → Cursor → Reading β) :
    (broken fault c).bind f = broken fault c := rfl

theorem bind_eq_read {r : Reading α} {f : α → Cursor → Reading β} {value : β} {c : Cursor} :
    r.bind f = read value c ↔ ∃ a d, r = read a d ∧ f a d = read value c := by
  cases r with
  | read a d => exact ⟨fun h => ⟨a, d, rfl, h⟩, fun ⟨_, _, h, h'⟩ => by cases h; exact h'⟩
  | broken fault d => simp

theorem map_eq_read {r : Reading α} {f : α → β} {value : β} {c : Cursor} :
    r.map f = read value c ↔ ∃ a, r = read a c ∧ f a = value := by
  rw [map, bind_eq_read]
  constructor
  · rintro ⟨a, d, h, h'⟩
    cases h'
    exact ⟨a, h, rfl⟩
  · rintro ⟨a, h, rfl⟩
    exact ⟨a, c, h, rfl⟩

theorem bind_eq_broken {r : Reading α} {f : α → Cursor → Reading β} {fault : SyntaxFault}
    {c : Cursor} :
    r.bind f = broken fault c ↔
      r = broken fault c ∨ ∃ a d, r = read a d ∧ f a d = broken fault c := by
  cases r with
  | read a d =>
    constructor
    · exact fun h => .inr ⟨a, d, rfl, h⟩
    · rintro (h | ⟨_, _, h, h'⟩)
      · cases h
      · cases h
        exact h'
  | broken fault' d => simp

theorem map_eq_broken {r : Reading α} {f : α → β} {fault : SyntaxFault} {c : Cursor} :
    r.map f = broken fault c ↔ r = broken fault c := by
  rw [map, bind_eq_broken]
  simp

end Reading

namespace Cursor

/-- A run of letters, which may be empty. -/
def readName (c : Cursor) : String × Cursor :=
  let run := c.takeWhile isLetter
  (String.ofList run.1, run.2)

/-- Read over the character `expected`; `context` says in messages where it belongs.  A text of any
other length is never met. -/
def expect (expected context : String) (c : Cursor) : Reading Unit :=
  match c.current with
  | none => .broken ⟨.openExpectation expected context, c.position⟩ c
  | some x =>
      if String.singleton x = expected then .read () c.advance
      else .broken ⟨.unexpected expected context x, c.position⟩ c

/-- The value of a property, which stands between two quotes and holds none. -/
def readQuoted (property : String) (c : Cursor) : Reading String :=
  (c.expect "\"" ("to open the value of '" ++ property ++ "'")).bind fun _ c =>
    let run := c.takeWhile (· != '"')
    match run.2.current with
    | none => .broken ⟨.openValue property, run.2.position⟩ run.2
    | some _ => .read (String.ofList run.1) run.2.advance

/-- A property of a directive, `name = "value"`, and the blanks behind it. -/
def readProperty (directive : String) (c : Cursor) : Reading (String × String) :=
  match c.current with
  | none => .broken ⟨.openDirective directive, c.position⟩ c
  | some found =>
      let name := c.readName
      if name.1.isEmpty then .broken ⟨.noPropertyName directive found, c.position⟩ c
      else
        (name.2.skipBlanks.expect "=" ("after property '" ++ name.1 ++ "'")).bind fun _ c =>
        (c.skipBlanks.readQuoted name.1).bind fun value c =>
        .read (name.1, value) c.skipBlanks

/-! ### Reading leaves less -/

theorem expect_eq_read {expected context : String} {c d : Cursor} {u : Unit}
    (h : c.expect expected context = .read u d) :
    ∃ x, c.current = some x ∧ String.singleton x = expected ∧ d = c.advance := by
  unfold expect at h
  split at h
  · cases h
  · next x hx =>
    split at h
    · next heq => cases h; exact ⟨x, hx, heq, rfl⟩
    · cases h

theorem length_pending_readName_le (c : Cursor) :
    c.readName.2.pending.length ≤ c.pending.length := by
  simp only [readName, pending_takeWhile, List.length_drop]; omega

theorem expect_lt {expected context : String} {c d : Cursor} {u : Unit}
    (h : c.expect expected context = .read u d) : d.pending.length < c.pending.length := by
  obtain ⟨x, hc, -, rfl⟩ := expect_eq_read h
  exact length_pending_advance_lt hc

theorem readQuoted_lt {property value : String} {c d : Cursor}
    (h : c.readQuoted property = .read value d) : d.pending.length < c.pending.length := by
  obtain ⟨_, opened, h₁, h₂⟩ := Reading.bind_eq_read.1 h
  have hopen := expect_lt h₁
  simp only at h₂
  split at h₂
  · cases h₂
  · next x hx =>
    cases h₂
    have hclose := length_pending_advance_lt hx
    rw [pending_takeWhile, List.length_drop] at hclose
    omega

/-- A property that is read is behind the cursor. -/
theorem readProperty_lt {directive : String} {p : String × String} {c d : Cursor}
    (h : c.readProperty directive = .read p d) : d.pending.length < c.pending.length := by
  unfold readProperty at h
  split at h
  · cases h
  · simp only at h
    split at h
    · cases h
    · obtain ⟨_, c₁, h₁, h⟩ := Reading.bind_eq_read.1 h
      obtain ⟨_, c₂, h₂, h⟩ := Reading.bind_eq_read.1 h
      cases h
      have := length_pending_readName_le c
      have := length_pending_skipBlanks_le c.readName.2
      have := expect_lt h₁
      have := length_pending_skipBlanks_le c₁
      have := readQuoted_lt h₂
      have := length_pending_skipBlanks_le c₂
      omega

/-! ### Directives -/

/-- The properties of a directive up to and over its closing marker. -/
def readProperties (directive : String) (c : Cursor) : Reading (List (String × String)) :=
  if c.onPair '#' '>' then .read [] (c.advanceBy 2)
  else
    match _h : c.readProperty directive with
    | .broken fault d => .broken fault d
    | .read p d => (d.readProperties directive).map (p :: ·)
termination_by c.pending.length
decreasing_by exact readProperty_lt _h

/-- A directive from behind its opening marker to behind its closing one. -/
def readDirective (line : Int) (c : Cursor) : Reading Directive :=
  let name := c.skipBlanks.readName
  (name.2.skipBlanks.readProperties name.1).map fun properties => ⟨name.1, properties, line⟩

/-! ### Blocks and text -/

/-- The body of a block up to and over its closing marker.  A block that is never closed is at fault
where it was opened. -/
def readBody (opening : Position) (c : Cursor) : Reading String :=
  let run := c.takeUntilPair '#' '>'
  match run.2.current with
  | none => .broken ⟨.openBlock, opening⟩ run.2
  | some _ => .read (String.ofList run.1) (run.2.advanceBy 2)

/-- A block, from behind its opening marker.  The character that makes control code of a block is
part of its body. -/
def readBlock (opening : Position) (c : Cursor) : Reading Item :=
  match BlockKind.ofDiscriminator c.current with
  | .directive => (c.advance.readDirective opening.line).map .directive
  | .code .control =>
      (c.readBody opening).map fun body => .block ⟨.control, body, opening.line⟩
  | .code kind =>
      (c.advance.readBody opening).map fun body => .block ⟨kind, body, opening.line⟩

/-- Literal text up to the next block, escaped for a verbatim literal. -/
def readText (c : Cursor) : Block × Cursor :=
  let run := c.takeUntilPair '<' '#'
  (⟨.text, Verbatim.escape (String.ofList run.1), c.position.line⟩, run.2)

/-- The next item of a template. -/
def readItem (c : Cursor) : Reading Item :=
  if c.onPair '<' '#' then (c.advanceBy 2).readBlock c.position
  else .read (.block c.readText.1) c.readText.2

/-! ### Items leave less -/

theorem readProperties_le {directive : String} {ps : List (String × String)} {c d : Cursor}
    (h : c.readProperties directive = .read ps d) : d.pending.length ≤ c.pending.length := by
  fun_induction readProperties directive c generalizing ps with
  | case1 c hclose =>
    cases h
    obtain ⟨rest, hrest⟩ := onPair_iff.1 hclose
    rw [pending_advanceBy (by simp [hrest]), List.length_drop]
    omega
  | case2 c _ fault d' hp => cases h
  | case3 c _ p d' hp ih =>
    obtain ⟨ps', h', rfl⟩ := Reading.map_eq_read.1 h
    have := readProperty_lt hp
    have := ih h'
    omega

theorem readDirective_le {line : Int} {directive : Directive} {c d : Cursor}
    (h : c.readDirective line = .read directive d) : d.pending.length ≤ c.pending.length := by
  obtain ⟨ps, h', rfl⟩ := Reading.map_eq_read.1 h
  have := readProperties_le h'
  have := length_pending_skipBlanks_le c.skipBlanks.readName.2
  have := length_pending_readName_le c.skipBlanks
  have := length_pending_skipBlanks_le c
  omega

theorem readBody_le {opening : Position} {body : String} {c d : Cursor}
    (h : c.readBody opening = .read body d) : d.pending.length ≤ c.pending.length := by
  unfold readBody at h
  simp only at h
  split at h
  · cases h
  · next x hx =>
    cases h
    have := length_pending_advanceBy_le hx 2
    rw [pending_takeUntilPair, List.length_drop] at this
    omega

/-- A block that is read is behind the cursor. -/
theorem readBlock_le {opening : Position} {item : Item} {c d : Cursor}
    (h : c.readBlock opening = .read item d) : d.pending.length ≤ c.pending.length := by
  unfold readBlock at h
  match hc : c.current, h with
  | none, h =>
    obtain ⟨_, h', _⟩ := Reading.map_eq_read.1 h
    exact readBody_le h'
  | some x, h =>
    have := length_pending_advance_lt hc
    split at h <;> obtain ⟨_, h', _⟩ := Reading.map_eq_read.1 h
    · have := readDirective_le h'; omega
    · exact readBody_le h'
    · have := readBody_le h'; omega

/-- An item that is read is behind the cursor. -/
theorem readItem_lt {item : Item} {c d : Cursor} (hc : c.current.isSome)
    (h : c.readItem = .read item d) : d.pending.length < c.pending.length := by
  obtain ⟨x, hx⟩ := Option.isSome_iff_exists.1 hc
  have hpending : c.pending = x :: c.ahead := by simp [pending, hx]
  unfold readItem at h
  split at h
  · next hopen =>
    -- a block: its opening marker alone is two characters
    obtain ⟨rest, hrest⟩ := onPair_iff.1 hopen
    have := readBlock_le h
    rw [pending_advanceBy (by simp [hrest]), List.length_drop] at this
    rw [hrest] at this ⊢
    simp only [List.length_cons] at this ⊢
    omega
  · next hopen =>
    -- text: the cursor is on no marker, so the run is not empty
    cases h
    have hrun : (c.takeUntilPair '<' '#').1 ≠ [] := by
      intro hnil
      rw [takeUntilPair, hpending, beforePair_cons] at hnil
      split at hnil
      · next hpair =>
        refine hopen (onPair_iff.2 ?_)
        obtain ⟨rfl, hhead⟩ := hpair
        obtain ⟨rest, hrest⟩ := List.head?_eq_some_iff.1 hhead
        exact ⟨rest, by rw [hpending, hrest]⟩
      · cases hnil
    have := List.length_pos_iff.2 hrun
    rw [readText, pending_takeUntilPair, List.length_drop]
    simp only [hpending, List.length_cons]
    omega

end Cursor

end Stencil
