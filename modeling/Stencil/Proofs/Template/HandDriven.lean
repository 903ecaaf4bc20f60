import Mathlib.Order.Monotone.Basic
import Stencil.Proofs.Template.Moves
import Stencil.Proofs.Text.Sight
import Stencil.Transform

/-!
# Scanning by hand

A host need not have a template scanned from end to end.  It can also put a scanner in front of a
text and call its methods one by one: in any order, wherever the cursor is, and on behind a call
that failed.  No method does anything to the cursor but move it on.  So whatever is called, the
cursor shows what the text says behind some number of moves.

What a method reports is left out here: nothing that a scanner does later depends on it.

## Main definitions

* `Scanner` — a cursor in a text, and what was gathered by it.
* `Method`, `Reply` — what a scanner is asked for, and what comes of it.
* `Scanner.perform`, `Scanner.after` — the scanner behind a call, and behind calls.

## Main results

* `Scanner.reaches_perform` — a call moves the cursor on, whatever comes of it.
* `Scanner.reaches_after` — and so do calls one behind the other.
* `sight_behind_calls` — **the cursor is always on the text.**
-/

namespace Stencil

/-! ### Scanners -/

/-- A scanner in the hands of a host. -/
structure Scanner where
  /-- Where it is in the text. -/
  cursor : Cursor
  /-- What was gathered by it. -/
  state : ScanState
  deriving DecidableEq, Repr, Inhabited

/-- What a scanner is asked for.  Texts that stand for single characters may be of any length. -/
inductive Method where
  /-- To move to the next character. -/
  | advance
  /-- What the next character is. -/
  | peek
  /-- Whether no character is under the cursor. -/
  | atEnd
  /-- Whether the cursor is on a blank. -/
  | onBlank
  /-- Whether the cursor is on a letter. -/
  | onLetter
  /-- Whether the cursor shows two characters. -/
  | showsPair (first second : Option String)
  /-- To move over two characters if the cursor shows them. -/
  | takeMarker (first second : Option String)
  /-- To move over an opening marker if the cursor is on one. -/
  | takeOpening
  /-- To move over a closing marker if the cursor is on one. -/
  | takeClosing
  /-- To move over blanks. -/
  | skipBlanks
  /-- To read literal text. -/
  | readText
  /-- To read a name. -/
  | readName
  /-- To read the body of a block that was opened somewhere. -/
  | readBody (opening : Position)
  /-- To read a directive from behind its opening marker. -/
  | readDirective (line : Int)
  /-- To read a property of a directive. -/
  | readProperty (directive : String)
  /-- To read the value of a property. -/
  | readQuoted (property : String)
  /-- To read over a character. -/
  | expect (expected context : String)
  /-- To put what is under the cursor in words. -/
  | describe
  /-- To make a fault that is located at the cursor where no other place is named. -/
  | locate (kind : SyntaxKind) (text : String) (line column : Option Int)
  /-- To read a block that was opened somewhere, and to take it in. -/
  | readBlock (opening : Position)
  /-- To take in a block of any kind. -/
  | takeIn (kind : BlockKind) (body : String)
  /-- To scan on to the end of the text. -/
  | scan
  /-- To scan another text by a scanner of its own. -/
  | scanText (registry : Registry) (templatePath text : String)
  deriving DecidableEq, Repr, Inhabited

/-- What comes of a call. -/
inductive Reply where
  /-- It is done, and there is nothing to say. -/
  | nothing
  /-- Yes or no. -/
  | truth (holds : Bool)
  /-- A character, if there is one. -/
  | character (x : Option Char)
  /-- A text. -/
  | text (s : String)
  /-- A block of text. -/
  | block (block : Block)
  /-- A directive. -/
  | directive (directive : Directive)
  /-- A property. -/
  | property (name value : String)
  /-- A fault that was asked for. -/
  | located (fault : LocatedFault)
  /-- What came of a scan. -/
  | scanned (result : Except Failure ScanState)
  /-- The call failed at a fault in the form of the template. -/
  | broke (fault : LocatedFault)
  /-- The call failed because a block is not taken in. -/
  | refused (refusal : ScanState.Refusal)

/-- The cursor shows two characters that are given as texts.  A text of any other length is never
met, and no text is what the end of the text has. -/
def Cursor.showsTexts (first second : Option String) (c : Cursor) : Bool :=
  c.current.map String.singleton = first && c.peek.map String.singleton = second

namespace Scanner

/-- A scanner in front of a text. -/
def start (templatePath text : String) : Scanner where
  cursor := .ofText text.toList
  state := { templatePath }

/-- The scanner with its cursor elsewhere. -/
def place (s : Scanner) (c : Cursor) : Scanner := { s with cursor := c }

/-- What comes of a reading, and the scanner where it ends.  What is read may be gathered. -/
def reading {α : Type} (s : Scanner) (outcome : Reading α) (reply : α → Reply)
    (gather : α → ScanState) : Reply × Scanner :=
  match outcome with
  | .read a c => (reply a, ⟨c, gather a⟩)
  | .broken fault c => (.broke (fault.within s.state.templatePath), s.place c)

/-- What comes of a call, and the scanner behind it. -/
def perform (r : Registry) (s : Scanner) : Method → Reply × Scanner
  | .advance => (.truth !s.cursor.advance.atEnd, s.place s.cursor.advance)
  | .peek => (.character s.cursor.peek, s)
  | .atEnd => (.truth s.cursor.atEnd, s)
  | .onBlank => (.truth (s.cursor.current.any isBlank), s)
  | .onLetter => (.truth (s.cursor.current.any isLetter), s)
  | .showsPair first second => (.truth (s.cursor.showsTexts first second), s)
  | .takeMarker first second =>
      if s.cursor.showsTexts first second then (.truth true, s.place (s.cursor.advanceBy 2))
      else (.truth false, s)
  | .takeOpening =>
      let taken := s.cursor.takePair (some '<') (some '#')
      (.truth taken.1, s.place taken.2)
  | .takeClosing =>
      let taken := s.cursor.takePair (some '#') (some '>')
      (.truth taken.1, s.place taken.2)
  | .skipBlanks => (.nothing, s.place s.cursor.skipBlanks)
  | .readText => (.block s.cursor.readText.1, s.place s.cursor.readText.2)
  | .readName => (.text s.cursor.readName.1, s.place s.cursor.readName.2)
  | .readBody opening => s.reading (s.cursor.readBody opening) .text fun _ => s.state
  | .readDirective line => s.reading (s.cursor.readDirective line) .directive fun _ => s.state
  | .readProperty directive =>
      s.reading (s.cursor.readProperty directive) (fun p => .property p.1 p.2) fun _ => s.state
  | .readQuoted property => s.reading (s.cursor.readQuoted property) .text fun _ => s.state
  | .expect expected context =>
      s.reading (s.cursor.expect expected context) (fun _ => .nothing) fun _ => s.state
  | .describe => (.text s.cursor.describe, s)
  | .locate kind text line column =>
      let position : Position :=
        ⟨line.getD s.cursor.position.line, column.getD s.cursor.position.column⟩
      (.located ⟨kind, text, s.state.templatePath, position⟩, s)
  | .readBlock opening =>
      s.reading (s.cursor.readBlock opening) (fun _ => .nothing) fun item =>
        (r.applyItem s.state item).state
  | .takeIn kind body =>
      match s.state.assembleBlock body kind with
      | .ok state => (.nothing, { s with state })
      | .error refusal => (.refused refusal, s)
  | .scan =>
      let outcome := r.scanFrom s.state none s.cursor
      (.scanned (outcome.result s.state.templatePath), ⟨outcome.cursor, outcome.state⟩)
  | .scanText registry templatePath text =>
      (.scanned ((registry.scan templatePath text).result templatePath), s)

/-- The scanner behind calls, made one behind the other. -/
def after (r : Registry) (s : Scanner) (methods : List Method) : Scanner :=
  methods.foldl (fun s method => (s.perform r method).2) s

/-! ### Calls only move on -/

variable (r : Registry) (s : Scanner)

/-- A reading leaves the cursor where it ends, whatever comes of it. -/
theorem cursor_reading {α : Type} (outcome : Reading α) (reply : α → Reply)
    (gather : α → ScanState) : (s.reading outcome reply gather).2.cursor = outcome.cursor := by
  cases outcome <;> rfl

theorem reaches_reading {α : Type} {outcome : Reading α} (h : s.cursor.Crosses outcome.cursor)
    (reply : α → Reply) (gather : α → ScanState) :
    s.cursor.Reaches (s.reading outcome reply gather).2.cursor := by
  rw [cursor_reading]
  exact h.reaches

/-- **A call moves the cursor on,** whatever comes of it. -/
theorem reaches_perform (method : Method) : s.cursor.Reaches (s.perform r method).2.cursor := by
  cases method with
  | advance => exact s.cursor.reaches_advance
  | takeMarker first second =>
    rw [perform]
    split
    · exact s.cursor.reaches_advanceBy 2
    · exact .refl s.cursor
  | takeOpening => exact s.cursor.reaches_takePair _ _
  | takeClosing => exact s.cursor.reaches_takePair _ _
  | skipBlanks => exact s.cursor.reaches_skipBlanks
  | readText => exact s.cursor.crosses_readText.reaches
  | readName => exact s.cursor.crosses_readName.reaches
  | readBody opening => exact s.reaches_reading (s.cursor.crosses_readBody opening) _ _
  | readDirective line => exact s.reaches_reading (s.cursor.crosses_readDirective line) _ _
  | readProperty directive =>
    exact s.reaches_reading (Cursor.crosses_readProperty directive s.cursor) _ _
  | readQuoted property => exact s.reaches_reading (Cursor.crosses_readQuoted property s.cursor) _ _
  | expect expected context =>
    exact s.reaches_reading (Cursor.crosses_expect expected context s.cursor) _ _
  | readBlock opening => exact s.reaches_reading (Cursor.crosses_readBlock opening s.cursor) _ _
  | takeIn kind body =>
    rw [perform]
    split <;> exact .refl s.cursor
  | scan => exact s.cursor.reaches_advance.trans (Cursor.reaches_readItems none s.cursor.advance)
  | peek | atEnd | onBlank | onLetter | showsPair | describe | locate | scanText =>
    exact .refl s.cursor

theorem after_append (methods others : List Method) :
    s.after r (methods ++ others) = (s.after r methods).after r others :=
  List.foldl_append

/-- **Calls move the cursor on,** one behind the other. -/
theorem reaches_after (methods : List Method) : s.cursor.Reaches (s.after r methods).cursor := by
  induction methods generalizing s with
  | nil => exact .refl s.cursor
  | cons method methods ih => exact (s.reaches_perform r method).trans (ih (s.perform r method).2)

/-- A cursor is moved at least as often behind more calls. -/
theorem moves_after_take_mono (methods : List Method) :
    Monotone fun i => (s.after r (methods.take i)).cursor.moves := by
  intro i j hij
  obtain ⟨d, rfl⟩ := Nat.exists_eq_add_of_le hij
  obtain ⟨n, hn⟩ := (s.after r (methods.take i)).reaches_after r ((methods.drop i).take d)
  show (s.after r (methods.take i)).cursor.moves ≤ (s.after r (methods.take (i + d))).cursor.moves
  rw [List.take_add, after_append, hn, Cursor.moves_advanceBy]
  exact Nat.le_add_right _ n

end Scanner

/-- **The cursor is always on the text.**  Whatever is called on a scanner, and whether the calls
fail or not, there is a number of moves for each beginning of the calls that tells all that the
cursor shows behind them.  It never decreases, and it does not grow beyond what it takes to leave
the last character.  Where the cursor is then moved on, it says whether it came to a character, and
shows what the text says behind one move more; where all of the text was left, that is the same
again. -/
theorem sight_behind_calls (r : Registry) (templatePath text : String) (methods : List Method) :
    let s := text.toList
    let scanner (i : Nat) := (Scanner.start templatePath text).after r (methods.take i)
    ∃ k : Nat → Nat, k 0 = 0 ∧ Monotone k ∧
      ∀ i, k i ≤ s.length + 1 ∧ (scanner i).cursor.sight = Sight.after s (k i) ∧
        let moved := (scanner i).perform r .advance
        moved.1 = .truth (decide (k i < s.length)) ∧
          moved.2.cursor.sight = Sight.after s (min (k i + 1) (s.length + 1)) ∧
          moved.2.state = (scanner i).state ∧
          (k i = s.length + 1 → moved.2.cursor.sight = (scanner i).cursor.sight) := by
  intro s scanner
  -- a cursor that was only moved on is told by how often it was
  have hcursor (i : Nat) :
      (scanner i).cursor = (Cursor.ofText s).advanceBy (scanner i).cursor.moves := by
    obtain ⟨n, hn⟩ := (Scanner.start templatePath text).reaches_after r (methods.take i)
    have hmoves : (scanner i).cursor.moves = n := by
      rw [hn, Cursor.moves_advanceBy]
      exact Nat.zero_add n
    rw [hmoves]
    exact hn
  have hsight (i : Nat) : (scanner i).cursor.sight = Sight.after s (scanner i).cursor.moves := by
    rw [← Cursor.sight_advanceBy_ofText, ← hcursor]
  have hnext (i : Nat) :
      (scanner i).cursor.advance.sight = Sight.after s ((scanner i).cursor.moves + 1) := by
    rw [← Cursor.sight_advanceBy_ofText, Cursor.advanceBy_concat, ← hcursor]
  refine ⟨fun i => min (scanner i).cursor.moves (s.length + 1), rfl, ?_, ?_⟩
  · intro i j hij
    have hmoves : (scanner i).cursor.moves ≤ (scanner j).cursor.moves :=
      (Scanner.start templatePath text).moves_after_take_mono r methods hij
    exact Nat.le_min.mpr ⟨Nat.le_trans (Nat.min_le_left _ _) hmoves, Nat.min_le_right _ _⟩
  · intro i
    refine ⟨Nat.min_le_right _ _, by rw [hsight, Sight.after_min], ?_, ?_, rfl, ?_⟩
    · -- a character is come to if there is one at the offset
      have hcurrent : (scanner i).cursor.advance.current = s[(scanner i).cursor.moves]? :=
        (congrArg Sight.current (hnext i)).trans (Sight.current_after s _)
      have hshown : (!(scanner i).cursor.advance.atEnd) =
          decide (min (scanner i).cursor.moves (s.length + 1) < s.length) := by
        by_cases hlt : (scanner i).cursor.moves < s.length
        · have hmin : min (scanner i).cursor.moves (s.length + 1) < s.length := by omega
          rw [Cursor.atEnd, hcurrent, List.getElem?_eq_getElem hlt, decide_eq_true hmin]
          rfl
        · have hmin : ¬ min (scanner i).cursor.moves (s.length + 1) < s.length := by omega
          rw [Cursor.atEnd, hcurrent, List.getElem?_eq_none (by omega), decide_eq_false hmin]
          rfl
      exact congrArg Reply.truth hshown
    · have hmin : min (min (scanner i).cursor.moves (s.length + 1) + 1) (s.length + 1) =
          min ((scanner i).cursor.moves + 1) (s.length + 1) := by omega
      show (scanner i).cursor.advance.sight = Sight.after s _
      rw [hmin, Sight.after_min, hnext]
    · -- one move more is one more behind the text
      intro hend
      have hlt : s.length < (scanner i).cursor.moves :=
        Nat.le_trans (Nat.le_of_eq hend.symm) (Nat.min_le_left _ _)
      show (scanner i).cursor.advance.sight = (scanner i).cursor.sight
      rw [hnext, hsight, Sight.after_of_length_lt hlt, Sight.after_of_length_lt (by omega)]

-- A call that fails for want of a closing marker leaves the cursor behind the text, on the line
-- that the last character opens.
example :
    let s := (Scanner.start "" "a<#\n").after (.builtIn {})
      [.advance, .readText, .takeOpening, .readBody ⟨1, 2⟩]
    s.cursor.sight = ⟨none, none, ⟨2, 0⟩⟩ ∧ s.cursor.sight = Sight.after "a<#\n".toList 5 := by
  decide +kernel

end Stencil
