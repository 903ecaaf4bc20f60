/-!
# UTF-8

A character is one to four bytes: a lead byte, which gives the number of bytes behind it, and
continuation bytes, which carry six bits each.  The first continuation byte has a narrower range
behind some lead bytes, so that no character has two forms and no surrogate has one.

## Main definitions

* `Utf8.encodeChar`, `Utf8.encode` — the bytes of a character, and of a text.
* `Utf8.step` — the sequence at the front of some bytes.
* `Utf8.decode` — the characters that some bytes begin with, and why there are no more of them.

## Main results

* `Utf8.step_lt` — a sequence that is read leaves fewer bytes.
-/

namespace Stencil

/-- A sequence of bytes. -/
abbrev Bytes := List UInt8

namespace Utf8

/-- The continuation byte for the lowest six bits of `n`. -/
def continuation (n : Nat) : UInt8 := UInt8.ofNat (0x80 + n % 64)

/-- The bytes of a character. -/
def encodeChar (c : Char) : Bytes :=
  let n := c.toNat
  if n < 0x80 then [UInt8.ofNat n]
  else if n < 0x800 then [UInt8.ofNat (0xC0 + n / 64), continuation n]
  else if n < 0x10000 then
    [UInt8.ofNat (0xE0 + n / 4096), continuation (n / 64), continuation n]
  else
    [UInt8.ofNat (0xF0 + n / 262144), continuation (n / 4096), continuation (n / 64),
      continuation n]

/-- The bytes of a text. -/
def encode (s : List Char) : Bytes := s.flatMap encodeChar

/-- Why bytes are no text. -/
inductive Flaw where
  /-- No sequence begins with this byte. -/
  | invalidStart
  /-- A sequence goes on with a byte that cannot stand there. -/
  | invalidContinuation
  deriving DecidableEq, Repr, Inhabited

/-- What stands at the front of some bytes. -/
inductive Step where
  /-- A whole sequence, with the bytes behind it. -/
  | char (c : Char) (rest : Bytes)
  /-- The beginning of a sequence, whose end is missing. -/
  | incomplete
  /-- The first `length` bytes belong to no sequence. -/
  | flawed (length : Nat) (flaw : Flaw)
  deriving DecidableEq, Repr, Inhabited

/-- Read `count` continuation bytes behind the `taken` bytes that have given `value` so far; the
first of them lies between `low` and `high`. -/
def follow (low high value taken : Nat) : Nat → Bytes → Step
  | 0, rest => .char (Char.ofNat value) rest
  | _ + 1, [] => .incomplete
  | count + 1, b :: rest =>
      if low ≤ b.toNat ∧ b.toNat ≤ high then
        follow 0x80 0xBF (value * 64 + (b.toNat - 0x80)) (taken + 1) count rest
      else .flawed taken .invalidContinuation

/-- The sequence that begins with a lead byte. -/
def lead (b : Nat) (rest : Bytes) : Step :=
  if b < 0x80 then follow 0 0 b 1 0 rest
  else if b < 0xC2 then .flawed 1 .invalidStart
  else if b < 0xE0 then follow 0x80 0xBF (b - 0xC0) 1 1 rest
  else if b < 0xF0 then
    follow (if b = 0xE0 then 0xA0 else 0x80) (if b = 0xED then 0x9F else 0xBF) (b - 0xE0) 1 2 rest
  else if b < 0xF5 then
    follow (if b = 0xF0 then 0x90 else 0x80) (if b = 0xF4 then 0x8F else 0xBF) (b - 0xF0) 1 3 rest
  else .flawed 1 .invalidStart

/-- The sequence at the front of some bytes. -/
def step : Bytes → Step
  | [] => .incomplete
  | b :: rest => lead b.toNat rest

theorem follow_le {low high value taken count : Nat} {bytes rest : Bytes} {c : Char}
    (h : follow low high value taken count bytes = .char c rest) :
    rest.length ≤ bytes.length := by
  fun_induction follow low high value taken count bytes with
  | case1 => cases h; exact Nat.le_refl _
  | case2 => cases h
  | case3 low high value taken count b bytes hb ih =>
    exact Nat.le_succ_of_le (ih h)
  | case4 => cases h

theorem lead_le {b : Nat} {bytes rest : Bytes} {c : Char} (h : lead b bytes = .char c rest) :
    rest.length ≤ bytes.length := by
  unfold lead at h
  split at h
  · exact follow_le h
  split at h
  · cases h
  split at h
  · exact follow_le h
  split at h
  · exact follow_le h
  split at h
  · exact follow_le h
  · cases h

/-- A sequence that is read leaves fewer bytes. -/
theorem step_lt {bytes rest : Bytes} {c : Char} (h : step bytes = .char c rest) :
    rest.length < bytes.length := by
  match bytes, h with
  | b :: bytes, h => exact Nat.lt_succ_of_le (lead_le h)

/-- What is made of some bytes: their characters up to the first sequence that is not whole, the
bytes from there on, and what is wrong with the first `length` of these, unless their end is
missing. -/
structure Decoded where
  /-- The characters. -/
  text : List Char
  /-- The bytes behind the characters. -/
  rest : Bytes
  /-- How many of these bytes belong to no sequence, and why. -/
  flaw : Option (Nat × Flaw)
  deriving DecidableEq, Repr, Inhabited

/-- The characters that some bytes begin with. -/
def decode (bytes : Bytes) : Decoded :=
  match _h : step bytes with
  | .char c rest => let others := decode rest; { others with text := c :: others.text }
  | .incomplete => ⟨[], bytes, none⟩
  | .flawed length flaw => ⟨[], bytes, some (length, flaw)⟩
termination_by bytes.length
decreasing_by exact step_lt _h

end Utf8

end Stencil
