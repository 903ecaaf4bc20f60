import Stencil.Proofs.Template.ItemRuns
import Stencil.Proofs.Template.Moves
import Stencil.Proofs.Text.Sight

/-!
# The loops of a scan

Whatever is read in runs is read turn by turn: a run of characters one character at a time, a
directive one property at a time, a template one item at a time.  A turn leaves the loop, or the
loop goes round again from a cursor that has crossed at least one character.  So every loop comes to
an end, and a scan moves its cursor once over each character and never on behind the text.

That a turn moves on is plain for single characters.  A property moves on because it is read from a
letter on, and an item because text is read only where the cursor is on no opening marker.

## Main definitions

* `Turn`, `Loop` — what one turn of a loop comes to, and a loop.
* `Loop.Rounds`, `Loop.Progresses`, `Loop.Leads` — how a loop is run, and where it leads.
* `Loop.blanks`, `Loop.name`, `Loop.value`, `Loop.text`, `Loop.body`, `Loop.properties`,
  `Loop.items` — the loops of a scan.

## Main results

* `Loop.Progresses.le_length` — a loop that moves on ends in time.
* `Loop.leads_blanks`, …, `Loop.leads_items` — the loops lead to what the readers read.
* `one_pass_of_scan` — **a scan is one pass over the text.**
-/

namespace Stencil

/-! ### Loops -/

/-- What one turn of a loop comes to. -/
inductive Turn (σ α : Type) where
  /-- The loop goes round again with what is gathered by now. -/
  | again (gathered : σ) (cursor : Cursor)
  /-- The loop is left. -/
  | leave (outcome : Reading α)

/-- A loop that gathers something at a cursor. -/
structure Loop (σ α : Type) where
  /-- What is gathered in front of the first turn. -/
  initial : σ
  /-- One turn, by what is gathered and where the cursor is. -/
  turn : σ → Cursor → Turn σ α

namespace Loop

variable {σ α : Type}

/-- A loop is left with some outcome when it has gone round some number of times. -/
inductive Rounds (l : Loop σ α) : σ → Cursor → Nat → Reading α → Prop where
  /-- The loop is left. -/
  | leave {gathered : σ} {c : Cursor} {outcome : Reading α}
      (h : l.turn gathered c = .leave outcome) : Rounds l gathered c 0 outcome
  /-- The loop goes round again. -/
  | again {gathered more : σ} {c d : Cursor} {n : Nat} {outcome : Reading α}
      (h : l.turn gathered c = .again more d) (hrest : Rounds l more d n outcome) :
      Rounds l gathered c (n + 1) outcome

/-- A loop that goes round again has crossed at least one character. -/
def Progresses (l : Loop σ α) : Prop :=
  ∀ gathered c more d, l.turn gathered c = .again more d → ∃ x t, c.Passes (x :: t) d

/-- A loop goes round no more often than there are characters, each time it has crossed one at
least, and it is left with an outcome. -/
structure Leads (l : Loop σ α) (c : Cursor) (outcome : Reading α) : Prop where
  /-- Every turn but the last crosses a character. -/
  progresses : l.Progresses
  /-- The loop is left, and in time. -/
  ends : ∃ n ≤ c.pending.length, l.Rounds l.initial c n outcome

/-- **A loop that moves on ends in time:** it has a character for each time it goes round. -/
theorem Progresses.le_length {l : Loop σ α} (hl : l.Progresses) {gathered : σ} {c : Cursor}
    {n : Nat} {outcome : Reading α} (h : l.Rounds gathered c n outcome) : n ≤ c.pending.length := by
  induction h with
  | leave h => exact Nat.zero_le _
  | again h hrest ih =>
    obtain ⟨x, t, hpass⟩ := hl _ _ _ _ h
    rw [hpass.pending_eq, List.length_append, List.length_cons]
    omega

theorem Progresses.leads {l : Loop σ α} (hl : l.Progresses) {c : Cursor} {outcome : Reading α}
    (h : ∃ n, l.Rounds l.initial c n outcome) : l.Leads c outcome := by
  obtain ⟨n, hrounds⟩ := h
  exact ⟨hl, n, hl.le_length hrounds, hrounds⟩

/-! #### Runs of characters -/

/-- Gather characters up to one that the loop stops on, or to the end of the text. -/
def characters (stops : Cursor → Bool) (finish : List Char → Cursor → Reading α) :
    Loop (List Char) α where
  initial := []
  turn gathered c :=
    match c.current with
    | none => .leave (finish gathered c)
    | some x =>
        if stops c then .leave (finish gathered c) else .again (gathered ++ [x]) c.advance

/-- Over blanks. -/
def blanks : Loop (List Char) Unit :=
  characters (fun c => !c.current.any isBlank) fun _ c => .read () c

/-- Over the letters of a name. -/
def name : Loop (List Char) String :=
  characters (fun c => !c.current.any isLetter) fun gathered c => .read (String.ofList gathered) c

/-- Over the value of a property, from behind its opening quote to behind its closing one. -/
def value (property : String) : Loop (List Char) String :=
  characters (fun c => !c.current.any (· != '"')) fun gathered c =>
    match c.current with
    | none => .broken ⟨.openValue property, c.position⟩ c
    | some _ => .read (String.ofList gathered) c.advance

/-- Over literal text that begins on a line. -/
def text (line : Int) : Loop (List Char) Block :=
  characters (·.onPair '<' '#') fun gathered c =>
    .read ⟨.text, Verbatim.escape (String.ofList gathered), line⟩ c

/-- Over the body of a block, to behind its closing marker. -/
def body (opening : Position) : Loop (List Char) String :=
  characters (·.onPair '#' '>') fun gathered c =>
    match c.current with
    | none => .broken ⟨.openBlock, opening⟩ c
    | some _ => .read (String.ofList gathered) (c.advanceBy 2)

section Characters

variable {stops : Cursor → Bool} {finish : List Char → Cursor → Reading α}

theorem progresses_characters : (characters stops finish).Progresses := by
  intro gathered c more d h
  simp only [characters] at h
  split at h
  · cases h
  · next x hx =>
    split at h
    · cases h
    · obtain ⟨-, rfl⟩ := Turn.again.inj h
      exact ⟨x, [], hx, rfl⟩

/-- What gathers characters one by one leads to where a run leads that is known by what it does at
its first character. -/
theorem rounds_characters (run : Cursor → List Char × Cursor)
    (hstop : ∀ c, c.current = none ∨ stops c = true → run c = ([], c))
    (hgo : ∀ c x, c.current = some x → stops c = false →
      run c = (x :: (run c.advance).1, (run c.advance).2))
    (gathered : List Char) (c : Cursor) :
    ∃ n, (characters stops finish).Rounds gathered c n
      (finish (gathered ++ (run c).1) (run c).2) := by
  cases hc : c.current with
  | none =>
    refine ⟨0, .leave ?_⟩
    rw [hstop c (.inl hc), List.append_nil]
    simp only [characters, hc]
  | some x =>
    cases hstops : stops c with
    | true =>
      refine ⟨0, .leave ?_⟩
      rw [hstop c (.inr hstops), List.append_nil]
      simp only [characters, hc, hstops, if_true]
    | false =>
      obtain ⟨n, hrest⟩ := rounds_characters run hstop hgo (gathered ++ [x]) c.advance
      have hturn : (characters stops finish).turn gathered c =
          .again (gathered ++ [x]) c.advance := by
        simp only [characters, hc, hstops, Bool.false_eq_true, if_false]
      refine ⟨n + 1, .again hturn ?_⟩
      rw [hgo c x hc hstops]
      rwa [List.append_assoc] at hrest
termination_by c.pending.length
decreasing_by exact Cursor.length_pending_advance_lt hc

/-- The run of a class, gathered one by one. -/
theorem rounds_takeWhile (p : Char → Bool) (c : Cursor) :
    ∃ n, (characters (fun c => !c.current.any p) finish).Rounds [] c n
      (finish (c.takeWhile p).1 (c.takeWhile p).2) := by
  refine rounds_characters (Cursor.takeWhile p) ?_ ?_ [] c
  · intro c hc
    refine Cursor.takeWhile_eq_iff.mpr ⟨rfl, by simp, fun x hx => ?_⟩
    rcases hc with hnone | hstops
    · rw [hnone] at hx
      cases hx
    · rw [Option.mem_def.mp hx] at hstops
      simpa using hstops
  · intro c x hc hstops
    have hx : p x = true := by simpa [hc] using hstops
    rw [Cursor.takeWhile, Cursor.pending_eq_cons hc, List.takeWhile_cons_of_pos hx,
      Cursor.takeWhile, Cursor.pending_advance]
    rfl

/-- What stands before a marker, gathered one by one. -/
theorem rounds_takeUntilPair (first second : Char) (c : Cursor) :
    ∃ n, (characters (·.onPair first second) finish).Rounds [] c n
      (finish (c.takeUntilPair first second).1 (c.takeUntilPair first second).2) := by
  refine rounds_characters (Cursor.takeUntilPair first second) ?_ ?_ [] c
  · intro c hc
    have hnil : Cursor.beforePair first second c.pending = [] := by
      rcases Cursor.atMarker_iff.mp hc with hnone | ⟨t, hmarker⟩
      · rw [hnone, Cursor.beforePair_nil]
      · rw [hmarker, Cursor.beforePair_cons, if_pos ⟨rfl, rfl⟩]
    rw [Cursor.takeUntilPair, hnil]
    rfl
  · intro c x hc hstops
    have hpair : ¬ (x = first ∧ c.ahead.head? = some second) := by
      rintro ⟨rfl, hhead⟩
      simp [Cursor.onPair, Cursor.shows, Cursor.peek, hc, hhead] at hstops
    rw [Cursor.takeUntilPair, Cursor.pending_eq_cons hc, Cursor.beforePair_cons, if_neg hpair,
      Cursor.takeUntilPair, Cursor.pending_advance]
    rfl

end Characters

theorem leads_blanks (c : Cursor) : blanks.Leads c (.read () c.skipBlanks) :=
  progresses_characters.leads (rounds_takeWhile isBlank c)

theorem leads_name (c : Cursor) : name.Leads c (.read c.readName.1 c.readName.2) :=
  progresses_characters.leads (rounds_takeWhile isLetter c)

theorem leads_value {property : String} {c d : Cursor} {u : Unit}
    (hopening : c.expect "\"" ("to open the value of '" ++ property ++ "'") = .read u d) :
    (value property).Leads d (c.readQuoted property) := by
  rw [Cursor.readQuoted, hopening]
  exact progresses_characters.leads (rounds_takeWhile (· != '"') d)

theorem leads_text (c : Cursor) :
    (text c.position.line).Leads c (.read c.readText.1 c.readText.2) :=
  progresses_characters.leads (rounds_takeUntilPair '<' '#' c)

theorem leads_body (opening : Position) (c : Cursor) :
    (body opening).Leads c (c.readBody opening) :=
  progresses_characters.leads (rounds_takeUntilPair '#' '>' c)

/-! #### Properties and items -/

/-- Over the properties of a directive, to behind its closing marker. -/
def properties (directive : String) : Loop (List (String × String)) (List (String × String)) where
  initial := []
  turn gathered c :=
    if c.onPair '#' '>' then .leave (.read gathered (c.advanceBy 2))
    else
      match c.readProperty directive with
      | .broken fault d => .leave (.broken fault d)
      | .read p d => .again (gathered ++ [p]) d

/-- Over the items of a template, each with the blanks behind it. -/
def items : Loop (List Item) (List Item) where
  initial := []
  turn gathered c :=
    if c.current.isSome then
      match c.readItem with
      | .broken fault d => .leave (.broken fault d)
      | .read item d => .again (gathered ++ [item]) d.skipBlanks
    else .leave (.read gathered c)

theorem progresses_properties (directive : String) : (properties directive).Progresses := by
  intro gathered c more d h
  simp only [properties] at h
  split at h
  · cases h
  · split at h
    · cases h
    · next p d' hread =>
      obtain ⟨-, rfl⟩ := Turn.again.inj h
      have hcross := Cursor.crosses_readProperty directive c
      rw [hread] at hcross
      exact hcross.exists_passes_cons (Cursor.readProperty_lt hread)

theorem rounds_properties (directive : String) (gathered : List (String × String)) (c : Cursor) :
    ∃ n, (properties directive).Rounds gathered c n
      ((c.readProperties directive).map (gathered ++ ·)) := by
  fun_induction Cursor.readProperties directive c generalizing gathered with
  | case1 c hclosing =>
    refine ⟨0, .leave ?_⟩
    simp [properties, hclosing, Reading.map]
  | case2 c hclosing fault d hread =>
    refine ⟨0, .leave ?_⟩
    simp [properties, hclosing, hread, Reading.map]
  | case3 c hclosing p d hread ih =>
    obtain ⟨n, hrest⟩ := ih (gathered ++ [p])
    have hturn : (properties directive).turn gathered c = .again (gathered ++ [p]) d := by
      simp [properties, hclosing, hread]
    refine ⟨n + 1, .again hturn ?_⟩
    -- the property in hand is gathered in front of those that follow
    cases hproperties : d.readProperties directive <;>
      simpa [hproperties, Reading.map] using hrest

theorem leads_properties (directive : String) (c : Cursor) :
    (properties directive).Leads c (c.readProperties directive) := by
  refine (progresses_properties directive).leads ?_
  show ∃ n, (properties directive).Rounds [] c n (c.readProperties directive)
  obtain ⟨n, hrounds⟩ := rounds_properties directive [] c
  refine ⟨n, ?_⟩
  cases hproperties : c.readProperties directive <;>
    simpa [hproperties, Reading.map] using hrounds

theorem progresses_items : items.Progresses := by
  intro gathered c more d h
  simp only [items] at h
  split at h
  · next hc =>
    split at h
    · cases h
    · next item d' hread =>
      obtain ⟨-, rfl⟩ := Turn.again.inj h
      have hcross := (Cursor.crosses_of_read hread).trans (Cursor.crosses_skipBlanks d')
      have hskip := Cursor.length_pending_skipBlanks_le d'
      have hitem := Cursor.readItem_lt hc hread
      exact hcross.exists_passes_cons (Nat.lt_of_le_of_lt hskip hitem)
  · cases h

/-- Items that are read in a run are read turn by turn. -/
theorem rounds_of_reads {read : List Item} {c e : Cursor} (h : c.Reads read e)
    {gathered : List Item} {n : Nat} {outcome : Reading (List Item)}
    (hend : items.Rounds (gathered ++ read) e n outcome) :
    ∃ m, items.Rounds gathered c m outcome := by
  induction h generalizing gathered with
  | nil c => exact ⟨n, by rwa [List.append_nil] at hend⟩
  | @cons c d e item read hc hread _ ih =>
    rw [List.append_cons] at hend
    obtain ⟨m, hrounds⟩ := ih hend
    have hturn : items.turn gathered c = .again (gathered ++ [item]) d.skipBlanks := by
      simp [items, hc, hread]
    exact ⟨m + 1, .again hturn hrounds⟩

/-- The items of a text in memory are read turn by turn, up to the end of the text or a fault. -/
theorem leads_items (c : Cursor) :
    let transcript := c.readItems none
    transcript.ending = .complete ∧ items.Leads c (.read transcript.items transcript.cursor) ∨
      ∃ fault, transcript.ending = .broken fault ∧
        items.Leads c (.broken fault transcript.cursor) := by
  intro transcript
  obtain ⟨read, e, hreads, hend | ⟨fault, d, hcurrent, hbroken⟩⟩ := c.exists_reads
  · have heq : transcript = ⟨read, .complete, e⟩ := by
      rw [show transcript = _ from hreads.readItems_eq, Cursor.readItems_of_end hend]
      simp
    refine .inl ⟨by rw [heq], ?_⟩
    rw [heq]
    refine progresses_items.leads (rounds_of_reads hreads (n := 0) (.leave ?_))
    simp [items, hend]
  · have heq : transcript = ⟨read, .broken fault, d⟩ := by
      rw [show transcript = _ from hreads.readItems_eq, Cursor.readItems_of_broken hcurrent hbroken]
      simp
    refine .inr ⟨fault, by rw [heq], ?_⟩
    rw [heq]
    refine progresses_items.leads (rounds_of_reads hreads (n := 0) (.leave ?_))
    simp [items, hcurrent, hbroken]

end Loop

/-! ### Counting moves -/

namespace Cursor

/-- A template that is read to its end is behind the cursor. -/
theorem current_of_complete {c : Cursor} (h : (c.readItems none).ending = .complete) :
    (c.readItems none).cursor.current = none := by
  obtain ⟨read, e, hreads, hend | ⟨fault, d, hcurrent, hbroken⟩⟩ := c.exists_reads
  · rw [hreads.readItems_eq, readItems_of_end hend]
    exact hend
  · rw [hreads.readItems_eq, readItems_of_broken hcurrent hbroken] at h
    cases h

/-- What is shown by the moves over a text, one behind the other: its characters, and then that it
has ended. -/
theorem shown_advanceBy (s : List Char) {k : Nat} (hk : k ≤ s.length + 1) :
    ((List.range k).map fun i => ((ofText s).advanceBy (i + 1)).current) =
      (s.map some ++ [none]).take k := by
  apply List.ext_getElem?
  intro i
  rw [List.getElem?_map, List.getElem?_take]
  by_cases hi : i < k
  · rw [List.getElem?_range hi, if_pos hi, Option.map_some, current_advanceBy_ofText]
    by_cases hlt : i < s.length
    · rw [List.getElem?_append_left (by simpa using hlt), List.getElem?_map,
        List.getElem?_eq_getElem hlt]
      rfl
    · obtain rfl : i = s.length := by omega
      simp
  · rw [if_neg hi, List.getElem?_eq_none (by simpa using hi)]
    rfl

end Cursor

/-- **A scan is one pass over the text.**  From any cursor every loop of a scan leads to what its
reader reads, or to the fault that its reader meets, and each time it goes round it has crossed a
character at least.  So does the scan itself, item by item.

Its cursor is moved one character at a time, once more than there are characters if the template is
read to its end, and never more often.  The moves show the characters one by one, each of them once,
and only the last move of a complete scan shows none.  Every move but the first leaves a character,
so none is made behind the text. -/
theorem one_pass_of_scan (r : Registry) (templatePath text : String) :
    let s := text.toList
    let scan := r.scan templatePath text
    let k := scan.cursor.moves
    (∀ c : Cursor,
      Loop.blanks.Leads c (.read () c.skipBlanks) ∧
        Loop.name.Leads c (.read c.readName.1 c.readName.2) ∧
        (∀ property d,
          c.expect "\"" ("to open the value of '" ++ property ++ "'") = .read () d →
            (Loop.value property).Leads d (c.readQuoted property)) ∧
        (Loop.text c.position.line).Leads c (.read c.readText.1 c.readText.2) ∧
        (∀ opening, (Loop.body opening).Leads c (c.readBody opening)) ∧
        ∀ directive, (Loop.properties directive).Leads c (c.readProperties directive)) ∧
      (scan.ending = .complete ∧
          Loop.items.Leads (.start text)
            (.read ((Cursor.start text).readItems none).items scan.cursor) ∨
        ∃ fault, scan.ending = .broken fault ∧
          Loop.items.Leads (.start text) (.broken fault scan.cursor)) ∧
      scan.cursor = (Cursor.ofText s).advanceBy k ∧
      k ≤ s.length + 1 ∧ (scan.ending = .complete → k = s.length + 1) ∧
      ((List.range k).map fun i => ((Cursor.ofText s).advanceBy (i + 1)).current) =
        (s.map some ++ [none]).take k ∧
      ∀ i < k, i = 0 ∨ ((Cursor.ofText s).advanceBy i).current.isSome = true := by
  intro s scan k
  -- the scan has crossed some of the text, from the first character on
  obtain ⟨t, hpass⟩ := Cursor.crosses_readItems none (Cursor.start text)
  have hcursor : scan.cursor = (Cursor.ofText s).advanceBy (t.length + 1) := by
    rw [Cursor.advanceBy_succ]
    exact hpass.eq_advanceBy
  have hk : k = t.length + 1 := by
    show scan.cursor.moves = t.length + 1
    rw [hcursor, Cursor.moves_advanceBy]
    exact Nat.zero_add _
  have hsplit : s = t ++ scan.cursor.pending :=
    (Cursor.pending_start text).symm.trans hpass.pending_eq
  have hle : t.length ≤ s.length := by
    rw [hsplit, List.length_append]
    omega
  have hmoves : scan.cursor = (Cursor.ofText s).advanceBy k := by
    rw [hk]
    exact hcursor
  have hmost : k ≤ s.length + 1 := by
    rw [hk]
    exact Nat.succ_le_succ hle
  refine ⟨?_, Loop.leads_items (.start text), hmoves, hmost, ?_, Cursor.shown_advanceBy s hmost, ?_⟩
  · intro c
    exact ⟨Loop.leads_blanks c, Loop.leads_name c,
      fun property d hopening => Loop.leads_value hopening, Loop.leads_text c,
      fun opening => Loop.leads_body opening c, fun directive => Loop.leads_properties directive c⟩
  · -- a complete scan has left the last character
    intro hcomplete
    have hnil : scan.cursor.pending = [] :=
      Cursor.pending_eq_nil_iff.mpr (Cursor.current_of_complete hcomplete)
    rw [hnil, List.append_nil] at hsplit
    rw [hk, hsplit]
  · intro i hi
    cases i with
    | zero => exact .inl rfl
    | succ i =>
      have hlt : i < s.length := by omega
      right
      rw [Cursor.current_advanceBy_ofText, List.getElem?_eq_getElem hlt]
      rfl

end Stencil
