import Mathlib.Data.List.Basic
import Stencil.Encoding.Utf8

/-!
# UTF-8 is read back

The bytes of a character are one sequence, whatever stands behind them, and no other bytes are a
sequence; no front part of them is a sequence or a flaw.  So the bytes of a text that are there
already give its first characters and the beginning of the next, from which the reading can go on.

## Main results

* `Utf8.step_encodeChar` — the sequence at the front of a character's bytes is that character.
* `Utf8.eq_encodeChar_append` — a sequence consists of the bytes of its character.
* `Utf8.step_eq_incomplete` — a sequence cut short is the beginning of one.
* `Utf8.decode_encode` — the bytes of a text are read back.
* `Utf8.decode_of_append_eq` — what is read of a text's first bytes.
* `Utf8.encode_append_rest_decode` — what is read are the characters that the bytes begin with.
-/

namespace Stencil

namespace Utf8

/-! ### Whole sequences -/

theorem toNat_ofNat_of_lt {n : Nat} (h : n < 256) : (UInt8.ofNat n).toNat = n := by
  rw [UInt8.toNat_ofNat']
  exact Nat.mod_eq_of_lt h

theorem toNat_continuation (n : Nat) : (continuation n).toNat = 0x80 + n % 64 :=
  toNat_ofNat_of_lt (by omega)

/-- A continuation byte hands its six bits on. -/
theorem follow_continuation {low high n : Nat} (hlow : low ≤ 0x80 + n % 64)
    (hhigh : 0x80 + n % 64 ≤ high) (value taken count : Nat) (rest : Bytes) :
    follow low high value taken (count + 1) (continuation n :: rest) =
      follow 0x80 0xBF (value * 64 + n % 64) (taken + 1) count rest := by
  rw [follow, toNat_continuation, if_pos ⟨hlow, hhigh⟩, Nat.add_sub_cancel_left]

/-- The continuation bytes behind the first one have the whole range. -/
theorem follow_next (n value taken count : Nat) (rest : Bytes) :
    follow 0x80 0xBF value taken (count + 1) (continuation n :: rest) =
      follow 0x80 0xBF (value * 64 + n % 64) (taken + 1) count rest :=
  follow_continuation (by omega) (by omega) value taken count rest

/-- The number of a character is no surrogate and within the range of characters. -/
theorem toNat_isValidChar (c : Char) : c.toNat.isValidChar := c.valid

/-- The sequence at the front of a character's bytes is that character. -/
theorem step_encodeChar (c : Char) (rest : Bytes) : step (encodeChar c ++ rest) = .char c rest := by
  have hvalid : c.toNat < 0xD800 ∨ 0xDFFF < c.toNat ∧ c.toNat < 0x110000 := toNat_isValidChar c
  have hchar : Char.ofNat c.toNat = c := Char.ofNat_toNat c
  generalize hn : c.toNat = n at hvalid hchar
  simp only [encodeChar, hn]
  split
  · next hone =>
    show lead (UInt8.ofNat n).toNat rest = _
    rw [toNat_ofNat_of_lt (by omega), lead, if_pos hone, follow, hchar]
  split
  · next hone htwo =>
    show lead (UInt8.ofNat (0xC0 + n / 64)).toNat (continuation n :: rest) = _
    have hvalue : n / 64 * 64 + n % 64 = n := by omega
    rw [toNat_ofNat_of_lt (by omega), lead, if_neg (by omega), if_neg (by omega),
      if_pos (by omega), Nat.add_sub_cancel_left, follow_next, follow, hvalue, hchar]
  split
  · next hone htwo hthree =>
    show lead (UInt8.ofNat (0xE0 + n / 4096)).toNat
      (continuation (n / 64) :: continuation n :: rest) = _
    have hvalue : (n / 4096 * 64 + n / 64 % 64) * 64 + n % 64 = n := by omega
    rw [toNat_ofNat_of_lt (by omega), lead, if_neg (by omega), if_neg (by omega),
      if_neg (by omega), if_pos (by omega), Nat.add_sub_cancel_left,
      follow_continuation (by split <;> omega) (by split <;> omega), follow_next, follow, hvalue,
      hchar]
  · next hone htwo hthree =>
    show lead (UInt8.ofNat (0xF0 + n / 262144)).toNat
      (continuation (n / 4096) :: continuation (n / 64) :: continuation n :: rest) = _
    have hvalue : ((n / 262144 * 64 + n / 4096 % 64) * 64 + n / 64 % 64) * 64 + n % 64 = n := by
      omega
    rw [toNat_ofNat_of_lt (by omega), lead, if_neg (by omega), if_neg (by omega),
      if_neg (by omega), if_neg (by omega), if_pos (by omega), Nat.add_sub_cancel_left,
      follow_continuation (by split <;> omega) (by split <;> omega), follow_next, follow_next,
      follow, hvalue, hchar]

/-! ### No other sequences -/

theorem eq_ofNat_of_toNat {b : UInt8} {n : Nat} (h : b.toNat = n) : b = UInt8.ofNat n := by
  rw [← h, UInt8.ofNat_toNat]

theorem eq_continuation {b : UInt8} {n : Nat} (h : b.toNat = 0x80 + n % 64) : b = continuation n :=
  eq_ofNat_of_toNat h

theorem follow_zero_eq_char {low high value taken : Nat} {bytes rest : Bytes} {c : Char}
    (h : follow low high value taken 0 bytes = .char c rest) :
    c = Char.ofNat value ∧ bytes = rest := by
  rw [follow] at h
  cases h
  exact ⟨rfl, rfl⟩

theorem follow_succ_eq_char {low high value taken count : Nat} {bytes rest : Bytes} {c : Char}
    (h : follow low high value taken (count + 1) bytes = .char c rest) :
    ∃ b behind, bytes = b :: behind ∧ low ≤ b.toNat ∧ b.toNat ≤ high ∧
      follow 0x80 0xBF (value * 64 + (b.toNat - 0x80)) (taken + 1) count behind = .char c rest := by
  cases bytes with
  | nil => cases h
  | cons b behind =>
    rw [follow] at h
    split at h
    · next hb => exact ⟨b, behind, rfl, hb.1, hb.2, h⟩
    · cases h

/-- The bytes of the character with a given number. -/
theorem encodeChar_ofNat {n : Nat} (h : n < 0xD800 ∨ 0xDFFF < n ∧ n < 0x110000) :
    encodeChar (Char.ofNat n) =
      if n < 0x80 then [UInt8.ofNat n]
      else if n < 0x800 then [UInt8.ofNat (0xC0 + n / 64), continuation n]
      else if n < 0x10000 then
        [UInt8.ofNat (0xE0 + n / 4096), continuation (n / 64), continuation n]
      else
        [UInt8.ofNat (0xF0 + n / 262144), continuation (n / 4096), continuation (n / 64),
          continuation n] := by
  have hvalid : n.isValidChar := h
  have hnumber : (Char.ofNat n).toNat = n := by
    rw [Char.ofNat, dif_pos hvalid]
    rfl
  rw [encodeChar, hnumber]

/-- A sequence consists of the bytes of its character. -/
theorem eq_encodeChar_append {bytes rest : Bytes} {c : Char} (h : step bytes = .char c rest) :
    bytes = encodeChar c ++ rest := by
  cases bytes with
  | nil => cases h
  | cons b bytes =>
    rw [step, lead] at h
    split at h
    · next hone =>
      obtain ⟨rfl, rfl⟩ := follow_zero_eq_char h
      rw [encodeChar_ofNat (by omega), if_pos hone, UInt8.ofNat_toNat]
      rfl
    split at h
    · cases h
    split at h
    · obtain ⟨b₁, bytes, rfl, hlow, hhigh, h⟩ := follow_succ_eq_char h
      obtain ⟨hc, rfl⟩ := follow_zero_eq_char h
      generalize hn : (b.toNat - 0xC0) * 64 + (b₁.toNat - 0x80) = n at hc
      have hb : b = UInt8.ofNat (0xC0 + n / 64) := eq_ofNat_of_toNat (by omega)
      have hb₁ : b₁ = continuation n := eq_continuation (by omega)
      rw [hc, encodeChar_ofNat (by omega), if_neg (by omega), if_pos (by omega), ← hb, ← hb₁]
      rfl
    split at h
    · next hthree =>
      obtain ⟨b₁, bytes, rfl, hlow, hhigh, h⟩ := follow_succ_eq_char h
      obtain ⟨b₂, bytes, rfl, hlow', hhigh', h⟩ := follow_succ_eq_char h
      obtain ⟨hc, rfl⟩ := follow_zero_eq_char h
      -- the second byte rules out surrogates and numbers that shorter sequences have
      have hlow : 0x80 ≤ b₁.toNat ∧ (b.toNat = 0xE0 → 0xA0 ≤ b₁.toNat) := by
        split at hlow <;> omega
      have hhigh : b₁.toNat ≤ 0xBF ∧ (b.toNat = 0xED → b₁.toNat ≤ 0x9F) := by
        split at hhigh <;> omega
      generalize hn :
        ((b.toNat - 0xE0) * 64 + (b₁.toNat - 0x80)) * 64 + (b₂.toNat - 0x80) = n at hc
      have hb : b = UInt8.ofNat (0xE0 + n / 4096) := eq_ofNat_of_toNat (by omega)
      have hb₁ : b₁ = continuation (n / 64) := eq_continuation (by omega)
      have hb₂ : b₂ = continuation n := eq_continuation (by omega)
      rw [hc, encodeChar_ofNat (by omega), if_neg (by omega), if_neg (by omega), if_pos (by omega),
        ← hb, ← hb₁, ← hb₂]
      rfl
    split at h
    · next hfour =>
      obtain ⟨b₁, bytes, rfl, hlow, hhigh, h⟩ := follow_succ_eq_char h
      obtain ⟨b₂, bytes, rfl, hlow', hhigh', h⟩ := follow_succ_eq_char h
      obtain ⟨b₃, bytes, rfl, hlow'', hhigh'', h⟩ := follow_succ_eq_char h
      obtain ⟨hc, rfl⟩ := follow_zero_eq_char h
      -- the second byte rules out numbers that shorter sequences have, and those of no character
      have hlow : 0x80 ≤ b₁.toNat ∧ (b.toNat = 0xF0 → 0x90 ≤ b₁.toNat) := by
        split at hlow <;> omega
      have hhigh : b₁.toNat ≤ 0xBF ∧ (b.toNat = 0xF4 → b₁.toNat ≤ 0x8F) := by
        split at hhigh <;> omega
      generalize hn : (((b.toNat - 0xF0) * 64 + (b₁.toNat - 0x80)) * 64 + (b₂.toNat - 0x80)) * 64 +
        (b₃.toNat - 0x80) = n at hc
      have hb : b = UInt8.ofNat (0xF0 + n / 262144) := eq_ofNat_of_toNat (by omega)
      have hb₁ : b₁ = continuation (n / 4096) := eq_continuation (by omega)
      have hb₂ : b₂ = continuation (n / 64) := eq_continuation (by omega)
      have hb₃ : b₃ = continuation n := eq_continuation (by omega)
      rw [hc, encodeChar_ofNat (by omega), if_neg (by omega), if_neg (by omega),
        if_neg (by omega), ← hb, ← hb₁, ← hb₂, ← hb₃]
      rfl
    · cases h

/-! ### Sequences cut short -/

theorem follow_eq_incomplete {low high value taken count : Nat} {bytes behind rest : Bytes}
    {c : Char} (h : follow low high value taken count (bytes ++ behind) = .char c rest)
    (hrest : rest.length < behind.length) :
    follow low high value taken count bytes = .incomplete := by
  fun_induction follow low high value taken count bytes with
  | case1 low high value taken bytes =>
    rw [follow] at h
    cases h
    rw [List.length_append] at hrest
    omega
  | case2 => rfl
  | case3 low high value taken count b bytes hb ih =>
    rw [List.cons_append, follow, if_pos hb] at h
    exact ih h
  | case4 low high value taken count b bytes hb =>
    rw [List.cons_append, follow, if_neg hb] at h
    cases h

/-- No sequence begins with a byte, or the byte says how the sequence goes on. -/
theorem step_cons_cases (b : UInt8) :
    (∀ rest, step (b :: rest) = .flawed 1 .invalidStart) ∨
    ∃ low high value count, ∀ rest, step (b :: rest) = follow low high value 1 count rest := by
  simp only [step, lead]
  split
  · exact .inr ⟨_, _, _, _, fun _ => rfl⟩
  split
  · exact .inl fun _ => rfl
  split
  · exact .inr ⟨_, _, _, _, fun _ => rfl⟩
  split
  · exact .inr ⟨_, _, _, _, fun _ => rfl⟩
  split
  · exact .inr ⟨_, _, _, _, fun _ => rfl⟩
  · exact .inl fun _ => rfl

/-- A sequence cut short is the beginning of one, and nothing else. -/
theorem step_eq_incomplete {bytes behind rest : Bytes} {c : Char}
    (h : step (bytes ++ behind) = .char c rest) (hrest : rest.length < behind.length) :
    step bytes = .incomplete := by
  cases bytes with
  | nil => rfl
  | cons b bytes =>
    rw [List.cons_append] at h
    rcases step_cons_cases b with hstart | ⟨low, high, value, count, hlead⟩
    · rw [hstart] at h
      cases h
    · rw [hlead] at h ⊢
      exact follow_eq_incomplete h hrest

/-! ### Texts -/

@[simp] theorem encode_nil : encode [] = [] := rfl

@[simp] theorem encode_cons (c : Char) (s : List Char) :
    encode (c :: s) = encodeChar c ++ encode s := rfl

@[simp] theorem encode_append (s t : List Char) : encode (s ++ t) = encode s ++ encode t :=
  List.flatMap_append

theorem decode_of_char {bytes rest : Bytes} {c : Char} (h : step bytes = .char c rest) :
    decode bytes = ⟨c :: (decode rest).text, (decode rest).rest, (decode rest).flaw⟩ := by
  rw [decode]
  split
  · next c' rest' h' =>
    rw [h] at h'
    cases h'
    rfl
  · next h' =>
    rw [h] at h'
    cases h'
  · next h' =>
    rw [h] at h'
    cases h'

theorem decode_of_incomplete {bytes : Bytes} (h : step bytes = .incomplete) :
    decode bytes = ⟨[], bytes, none⟩ := by
  rw [decode]
  split
  · next h' =>
    rw [h] at h'
    cases h'
  · rfl
  · next h' =>
    rw [h] at h'
    cases h'

/-- The bytes of a text are read back. -/
theorem decode_encode (s : List Char) : decode (encode s) = ⟨s, [], none⟩ := by
  induction s with
  | nil => exact decode_of_incomplete rfl
  | cons c s ih => rw [encode_cons, decode_of_char (step_encodeChar c _), ih]

/-- What is read of a text's first bytes: some of its characters, and the bytes behind them that
are there of the others. -/
theorem decode_of_append_eq {bytes behind : Bytes} {s : List Char}
    (h : bytes ++ behind = encode s) :
    ∃ read ahead kept, s = read ++ ahead ∧ decode bytes = ⟨read, kept, none⟩ ∧
      kept ++ behind = encode ahead := by
  induction s generalizing bytes with
  | nil =>
    obtain ⟨rfl, rfl⟩ := List.append_eq_nil_iff.1 h
    exact ⟨[], [], [], rfl, decode_of_incomplete rfl, rfl⟩
  | cons c s ih =>
    rw [encode_cons, List.append_eq_append_iff] at h
    rcases h with ⟨cut, hchar, hbehind⟩ | ⟨more, hbytes, hmore⟩
    · cases cut with
      | nil =>
        rw [List.append_nil] at hchar
        refine ⟨[c], s, [], rfl, ?_, hbehind⟩
        have hstep := step_encodeChar c []
        rw [List.append_nil, hchar] at hstep
        rw [decode_of_char hstep, decode_of_incomplete rfl]
      | cons b cut =>
        -- the bytes end inside the character
        have hstep := step_encodeChar c []
        rw [List.append_nil, hchar] at hstep
        refine ⟨[], c :: s, bytes, rfl,
          decode_of_incomplete (step_eq_incomplete hstep (by simp)), ?_⟩
        rw [hbehind, ← List.append_assoc, ← hchar, encode_cons]
    · obtain ⟨read, ahead, kept, rfl, hdecode, hkept⟩ := ih hmore.symm
      refine ⟨c :: read, ahead, kept, rfl, ?_, hkept⟩
      rw [hbytes, decode_of_char (step_encodeChar c more), hdecode]

/-- The characters that are read are those that the bytes begin with. -/
theorem encode_append_rest_decode (bytes : Bytes) :
    encode (decode bytes).text ++ (decode bytes).rest = bytes := by
  fun_induction decode bytes with
  | case1 bytes c rest h others ih =>
    rw [encode_cons, List.append_assoc, ih, ← eq_encodeChar_append h]
  | case2 bytes h => rfl
  | case3 bytes length flaw h => rfl

end Utf8

end Stencil
