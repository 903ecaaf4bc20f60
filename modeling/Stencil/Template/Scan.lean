import Stencil.Encoding.Codec
import Stencil.Template.Reading
import Stencil.Template.Registry

/-!
# Scanning a template

A scan reads the items of a template in order, with the blanks behind each of them, and applies
their effects to its state.  It ends with the template, at a fault in its form, or where the file of
the template turns out to be no text.  Reading does not depend on the effects, so a scan is the
effects of the items that are read.

## Main definitions

* `Cursor.readItems` — the items from a cursor on, and how the reading ends.
* `Scan` — the outcome of a scan.
* `Registry.scan` — the scan of a source.
-/

namespace Stencil

/-- How the reading of a template ends. -/
inductive Ending where
  /-- With the template. -/
  | complete
  /-- At a fault in the form of the template. -/
  | broken (fault : SyntaxFault)
  /-- Where the file is no text. -/
  | unreadable (fault : DecodeFault)
  deriving DecidableEq, Repr, Inhabited

/-- What is read from a template. -/
structure Transcript where
  /-- The items, in order. -/
  items : List Item
  /-- How the reading ends. -/
  ending : Ending
  /-- Where the cursor is then. -/
  cursor : Cursor
  deriving DecidableEq, Repr, Inhabited

/-- A fault of a source comes to light as soon as the last character before it is under the cursor,
because the cursor then looks for the next one. -/
def Cursor.struck (fault : Option DecodeFault) (c : Cursor) : Option DecodeFault :=
  if c.ahead.isEmpty then fault else none

/-- Read items from the cursor on, where `fault` is that of the source. -/
def Cursor.readItems (fault : Option DecodeFault) (c : Cursor) : Transcript :=
  if _hc : c.current.isSome then
    match _h : c.readItem with
    | .broken cause d =>
        match d.struck fault with
        | some flaw => ⟨[], .unreadable flaw, d⟩
        | none => ⟨[], .broken cause, d⟩
    | .read item d =>
        match d.struck fault with
        | some flaw => ⟨[], .unreadable flaw, d⟩
        | none =>
            let others := d.skipBlanks.readItems fault
            { others with items := item :: others.items }
  else
    match c.struck fault with
    | some flaw => ⟨[], .unreadable flaw, c⟩
    | none => ⟨[], .complete, c⟩
termination_by c.pending.length
decreasing_by exact Nat.lt_of_le_of_lt (length_pending_skipBlanks_le d) (readItem_lt _hc _h)

/-- The outcome of a scan. -/
structure Scan where
  /-- What was gathered. -/
  state : ScanState
  /-- How the reading ended. -/
  ending : Ending
  /-- What was reported. -/
  events : List Event
  /-- What was handed to the host. -/
  calls : List Call
  /-- Where the cursor is. -/
  cursor : Cursor
  deriving DecidableEq, Repr, Inhabited

/-- What a scan reports when it ends. -/
def ScanState.closing (s : ScanState) : Ending → List Event
  | .complete => [.scanned s.script.length s.classFeature.length]
  | _ => []

namespace Registry

/-- Scan on from a state, after moving to the next character. -/
def scanFrom (r : Registry) (s : ScanState) (fault : Option DecodeFault) (c : Cursor) : Scan :=
  let transcript := c.advance.readItems fault
  let effect := r.applyItems s transcript.items
  { state := effect.state
    ending := transcript.ending
    events := effect.events ++ effect.state.closing transcript.ending
    calls := effect.calls
    cursor := transcript.cursor }

/-- Scan a source. -/
def scanSource (r : Registry) (templatePath : String) (source : Source) : Scan :=
  r.scanFrom { templatePath } source.fault (.ofText source.text)

/-- Scan a text. -/
def scan (r : Registry) (templatePath text : String) : Scan :=
  r.scanSource templatePath { text := text.toList }

end Registry

end Stencil
