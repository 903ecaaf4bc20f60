import Mathlib.Data.List.Infix
import Mathlib.Data.List.TakeWhile
import Stencil.Encoding.Codec
import Stencil.Proofs.Encoding.Utf8

/-!
# Files are read in chunks

A file is cut into chunks without regard to what its bytes stand for: a cut may go through a
character, through the byte-order mark, or between a carriage return and the line feed behind it.
None of this shows in the characters that are read, and a flaw is met exactly if the bytes of the
whole file are no text.

## Main definitions

* `StandardEncoding.Spells` — the text that bytes are, in a standard encoding.
* `StandardEncoding.Owes` — the text that is still to come, out of what is carried to a chunk and
  the bytes from there on.
* `Encoding.Spells` — the text that bytes are, in any encoding.

## Main results

* `StandardEncoding.decodeBytes_of_owes`, `StandardEncoding.owes_of_decodeBytes` — a chunk gives the
  first characters of what is owed, and the others are owed behind it.
* `StandardEncoding.decodeChunks_of_owes`, `StandardEncoding.owes_of_decodeChunks` — so chunks give
  the whole of it.
* `Encoding.decode_eq_iff` — **a file is read without a flaw exactly as the text that it is**.
-/

namespace Stencil

/-- The carriage return that is held back between two chunks. -/
def Carry.heldText (carry : Carry) : List Char := if carry.held then ['\r'] else []

namespace StandardEncoding

open Encoding (mark)

/-! ### Texts in an encoding -/

/-- Too few bytes for a byte-order mark, and all of them its own. -/
def IsCutMark (bytes : Bytes) : Prop := bytes.length < 3 ∧ bytes <+: mark

instance (bytes : Bytes) : Decidable (IsCutMark bytes) := inferInstanceAs (Decidable (_ ∧ _))

/-- The characters with the numbers that bytes are. -/
def narrow (bytes : Bytes) : List Char := bytes.map fun b => Char.ofNat b.toNat

theorem narrow_append (bytes behind : Bytes) :
    narrow (bytes ++ behind) = narrow bytes ++ narrow behind :=
  List.map_append

/-- The text that bytes are.  Where a byte-order mark may stand in front, a text cannot begin with
the character that the mark stands for unless there is one, and a mark cut short counts as an empty
text. -/
def Spells (bytes : Bytes) (s : List Char) : StandardEncoding → Prop
  | utf8 => bytes = Utf8.encode s
  | utf8Marked =>
      bytes = mark ++ Utf8.encode s ∨ (bytes = Utf8.encode s ∧ s.head? ≠ some '\uFEFF') ∨
        IsCutMark bytes ∧ s = []
  | latin1 => s = narrow bytes
  | ascii => (∀ b ∈ bytes, b < 0x80) ∧ s = narrow bytes

/-- The text that is still to come. -/
def Owes (carry : Carry) (bytes : Bytes) (s : List Char) : StandardEncoding → Prop
  | utf8 => carry.kept ++ bytes = Utf8.encode s
  | utf8Marked =>
      if carry.fresh then utf8Marked.Spells (carry.kept ++ bytes) s
      else carry.kept ++ bytes = Utf8.encode s
  | latin1 => latin1.Spells (carry.kept ++ bytes) s
  | ascii => ascii.Spells (carry.kept ++ bytes) s

theorem owes_held {encoding : StandardEncoding} {carry : Carry} {held : Bool} {bytes : Bytes}
    {s : List Char} :
    encoding.Owes { carry with held } bytes s ↔ encoding.Owes carry bytes s := by
  cases encoding <;> rfl

/-! ### Chunks of UTF-8 -/

theorem decodeUtf8_encode (encoding : StandardEncoding) (final : Bool) (s : List Char) :
    decodeUtf8 encoding final (Utf8.encode s) = .ok (s, []) := by
  rw [decodeUtf8, Utf8.decode_encode]

/-- The first bytes of a text give some of its characters, and those behind them are kept. -/
theorem decodeUtf8_of_append_eq (encoding : StandardEncoding) {bytes behind : Bytes} {s : List Char}
    (h : bytes ++ behind = Utf8.encode s) :
    ∃ read ahead kept, s = read ++ ahead ∧
      decodeUtf8 encoding false bytes = .ok (read, kept) ∧ kept ++ behind = Utf8.encode ahead := by
  obtain ⟨read, ahead, kept, hs, hdecode, hkept⟩ := Utf8.decode_of_append_eq h
  refine ⟨read, ahead, kept, hs, ?_, hkept⟩
  rw [decodeUtf8, hdecode]
  cases kept with
  | nil => rfl
  | cons b kept => rfl

/-- Bytes are those of the characters they give and those that are kept; at the end of a file none
is kept. -/
theorem encode_append_of_decodeUtf8 {encoding : StandardEncoding} {final : Bool}
    {bytes kept : Bytes} {read : List Char}
    (h : decodeUtf8 encoding final bytes = .ok (read, kept)) :
    Utf8.encode read ++ kept = bytes ∧ (final = true → kept = []) := by
  have hbytes := Utf8.encode_append_rest_decode bytes
  unfold decodeUtf8 at h
  simp only at h
  split at h
  · split at h
    · next hcut =>
      cases h
      refine ⟨hbytes, fun hfinal => ?_⟩
      rw [hfinal] at hcut
      cases hcut
    · cases h
  · next hrest =>
    split at h
    · cases h
    · next hfinal =>
      cases h
      exact ⟨hbytes, fun hfinal' => absurd hfinal' hfinal⟩
  · next hrest =>
    cases h
    rw [hrest] at hbytes
    exact ⟨hbytes, fun _ => rfl⟩

/-! ### The byte-order mark -/

/-- Some bytes without the mark in front of them. -/
def unmarked (bytes : Bytes) : Bytes := if mark.isPrefixOf bytes then bytes.drop 3 else bytes

theorem unmarked_mark_append (bytes : Bytes) : unmarked (mark ++ bytes) = bytes := by
  rw [unmarked, if_pos (List.isPrefixOf_iff_prefix.2 (List.prefix_append _ _))]
  rfl

theorem unmarked_eq_self {bytes : Bytes} (h : ¬mark <+: bytes) : unmarked bytes = bytes := by
  rw [unmarked, if_neg (mt List.isPrefixOf_iff_prefix.1 h)]

/-- The bytes of a text begin with the mark exactly if the text begins with the character that the
mark stands for. -/
theorem mark_prefix_encode_iff {s : List Char} :
    mark <+: Utf8.encode s ↔ s.head? = some '\uFEFF' := by
  constructor
  · rintro ⟨behind, hbehind⟩
    have hmark : Utf8.step (mark ++ behind) = .char '\uFEFF' behind :=
      Utf8.step_encodeChar '\uFEFF' behind
    cases s with
    | nil => cases hbehind
    | cons c s =>
      rw [hbehind, Utf8.encode_cons, Utf8.step_encodeChar] at hmark
      cases hmark
      rfl
  · intro h
    obtain ⟨s, rfl⟩ := List.head?_eq_some_iff.1 h
    exact List.prefix_append _ _

theorem IsCutMark.of_append {bytes behind : Bytes} (h : IsCutMark (bytes ++ behind)) :
    IsCutMark bytes := by
  have hlength := h.1
  rw [List.length_append] at hlength
  exact ⟨by omega, (List.prefix_append _ _).trans h.2⟩

/-- No text consists of the front part of a mark, except for the empty one. -/
theorem eq_nil_of_isCutMark {s : List Char} (h : IsCutMark (Utf8.encode s)) : s = [] := by
  obtain ⟨hlength, behind, hbehind⟩ := h
  cases s with
  | nil => rfl
  | cons c s =>
    -- what there is of the mark is no sequence yet, but a character would be one
    have hmark : Utf8.step (Utf8.encode (c :: s) ++ behind) = .char '\uFEFF' [] := by
      rw [hbehind]
      exact Utf8.step_encodeChar '\uFEFF' []
    have hmissing : ([] : Bytes).length < behind.length := by
      have hthree := congrArg List.length hbehind
      rw [List.length_append] at hthree
      change _ = 3 at hthree
      rw [List.length_nil]
      omega
    have hcut := Utf8.step_eq_incomplete hmark hmissing
    rw [Utf8.encode_cons, Utf8.step_encodeChar] at hcut
    cases hcut

/-- What stands in front in marked bytes holds the mark, or it is cut out of the mark. -/
theorem mark_prefix_of_append_eq {bytes behind more : Bytes} (h : bytes ++ behind = mark ++ more)
    (hcut : ¬IsCutMark bytes) : mark <+: bytes := by
  rcases Nat.lt_or_ge bytes.length 3 with hlength | hlength
  · refine absurd ⟨hlength, ?_⟩ hcut
    exact List.prefix_of_prefix_length_le ⟨behind, h⟩ (List.prefix_append _ _)
      (Nat.le_of_lt hlength)
  · exact List.prefix_of_prefix_length_le (List.prefix_append _ _) ⟨behind, h⟩ hlength

/-- Behind more than the front part of a mark, bytes are those of a text once the mark is left
out. -/
theorem spells_append_iff {bytes behind : Bytes} {s : List Char} (hcut : ¬IsCutMark bytes) :
    utf8Marked.Spells (bytes ++ behind) s ↔ unmarked bytes ++ behind = Utf8.encode s := by
  by_cases hmark : mark <+: bytes
  · obtain ⟨more, rfl⟩ := hmark
    rw [unmarked_mark_append]
    constructor
    · rintro (h | ⟨h, hhead⟩ | ⟨h, -⟩)
      · rw [List.append_assoc] at h
        exact List.append_cancel_left h
      · refine absurd (mark_prefix_encode_iff.1 ?_) hhead
        rw [← h, List.append_assoc]
        exact List.prefix_append _ _
      · exact absurd h.of_append hcut
    · intro h
      left
      rw [List.append_assoc, h]
  · rw [unmarked_eq_self hmark]
    constructor
    · rintro (h | ⟨h, -⟩ | ⟨h, -⟩)
      · exact absurd (mark_prefix_of_append_eq h hcut) hmark
      · exact h
      · exact absurd h.of_append hcut
    · intro h
      refine .inr (.inl ⟨h, fun hhead => hmark ?_⟩)
      obtain ⟨more, hmore⟩ := mark_prefix_encode_iff.2 hhead
      exact mark_prefix_of_append_eq (h.trans hmore.symm) hcut

theorem spells_iff_of_isCutMark {bytes : Bytes} {s : List Char} (hcut : IsCutMark bytes) :
    utf8Marked.Spells bytes s ↔ s = [] := by
  constructor
  · rintro (h | ⟨h, -⟩ | ⟨-, h⟩)
    · -- a front part of the mark does not hold the mark
      have hlength := hcut.1
      rw [h, List.length_append] at hlength
      change 3 + _ < 3 at hlength
      omega
    · rw [h] at hcut
      exact eq_nil_of_isCutMark hcut
    · exact h
  · exact fun h => .inr (.inr ⟨hcut, h⟩)

/-! ### From chunk to chunk -/

theorem exists_kept_of_map {encoding : StandardEncoding} {final : Bool} {carry next : Carry}
    {bytes : Bytes} {read : List Char}
    (h : ((decodeUtf8 encoding final bytes).map fun (text, kept) =>
      (text, { carry with kept, fresh := false })) = .ok (read, next)) :
    ∃ kept, decodeUtf8 encoding final bytes = .ok (read, kept) ∧
      next = { carry with kept, fresh := false } := by
  cases hdecode : decodeUtf8 encoding final bytes with
  | error fault =>
    rw [hdecode] at h
    cases h
  | ok result =>
    rw [hdecode] at h
    cases h
    exact ⟨_, rfl, rfl⟩

theorem decodeBytes_utf8 (final : Bool) (carry : Carry) (chunk : Bytes) :
    utf8.decodeBytes final carry chunk =
      (decodeUtf8 utf8 final (carry.kept ++ chunk)).map fun (text, kept) =>
        (text, { carry with kept, fresh := false }) :=
  rfl

theorem decodeBytes_fresh {carry : Carry} (hfresh : carry.fresh = true) (final : Bool)
    (chunk : Bytes) :
    utf8Marked.decodeBytes final carry chunk =
      if IsCutMark (carry.kept ++ chunk) then .ok ([], { carry with kept := carry.kept ++ chunk })
      else (decodeUtf8 utf8Marked final (unmarked (carry.kept ++ chunk))).map fun (text, kept) =>
        (text, { carry with kept, fresh := false }) := by
  simp only [decodeBytes, hfresh, Bool.not_true, Bool.false_eq_true, if_false, unmarked, IsCutMark,
    Bool.and_eq_true, decide_eq_true_eq, List.isPrefixOf_iff_prefix]
  split
  · rfl
  split <;> rfl

theorem decodeBytes_stale {carry : Carry} (hfresh : ¬carry.fresh = true) (final : Bool)
    (chunk : Bytes) :
    utf8Marked.decodeBytes final carry chunk =
      (decodeUtf8 utf8Marked final (carry.kept ++ chunk)).map fun (text, kept) =>
        (text, { carry with kept, fresh := false }) := by
  simp only [decodeBytes, hfresh, Bool.not_false, if_true]

theorem decodeBytes_ascii (final : Bool) (carry : Carry) (chunk : Bytes) :
    (∀ b ∈ carry.kept ++ chunk, b < 0x80) ∧
        ascii.decodeBytes final carry chunk =
          .ok (narrow (carry.kept ++ chunk), { carry with kept := [] }) ∨
      (¬∀ b ∈ carry.kept ++ chunk, b < 0x80) ∧
        ∃ fault, ascii.decodeBytes final carry chunk = .error fault := by
  simp only [decodeBytes]
  split
  · next hnil =>
    left
    rw [List.dropWhile_eq_nil_iff] at hnil
    exact ⟨fun b hb => by simpa using hnil b hb, rfl⟩
  · next first rest hcons =>
    right
    refine ⟨fun hall => ?_, _, rfl⟩
    rw [List.dropWhile_eq_nil_iff.2 fun b hb => by simpa using hall b hb] at hcons
    cases hcons

/-- A chunk gives the first characters of what is owed, and the others are owed behind it. -/
theorem decodeBytes_of_owes {encoding : StandardEncoding} {carry : Carry} {chunk behind : Bytes}
    {s : List Char} (h : encoding.Owes carry (chunk ++ behind) s) :
    ∃ read ahead next, encoding.decodeBytes false carry chunk = .ok (read, next) ∧
      s = read ++ ahead ∧ encoding.Owes next behind ahead := by
  cases encoding with
  | utf8 =>
    simp only [Owes, ← List.append_assoc] at h
    obtain ⟨read, ahead, kept, hs, hdecode, hkept⟩ := decodeUtf8_of_append_eq utf8 h
    rw [decodeBytes_utf8, hdecode]
    exact ⟨read, ahead, _, rfl, hs, hkept⟩
  | utf8Marked =>
    simp only [Owes, ← List.append_assoc] at h
    split at h
    · next hfresh =>
      rw [decodeBytes_fresh hfresh]
      by_cases hcut : IsCutMark (carry.kept ++ chunk)
      · rw [if_pos hcut]
        refine ⟨[], s, _, rfl, rfl, ?_⟩
        simp only [Owes, hfresh, if_true]
        exact h
      · rw [if_neg hcut]
        obtain ⟨read, ahead, kept, hs, hdecode, hkept⟩ :=
          decodeUtf8_of_append_eq utf8Marked ((spells_append_iff hcut).1 h)
        rw [hdecode]
        exact ⟨read, ahead, _, rfl, hs, hkept⟩
    · next hfresh =>
      obtain ⟨read, ahead, kept, hs, hdecode, hkept⟩ := decodeUtf8_of_append_eq utf8Marked h
      rw [decodeBytes_stale hfresh, hdecode]
      exact ⟨read, ahead, _, rfl, hs, hkept⟩
  | latin1 =>
    simp only [Owes, Spells, ← List.append_assoc] at h
    refine ⟨narrow (carry.kept ++ chunk), narrow behind, _, rfl, ?_, rfl⟩
    rw [h, narrow_append]
  | ascii =>
    simp only [Owes, Spells, ← List.append_assoc] at h
    obtain ⟨hall, hs⟩ := h
    rcases decodeBytes_ascii false carry chunk with ⟨-, hchunk⟩ | ⟨hbeyond, -⟩
    · refine ⟨_, narrow behind, _, hchunk, ?_, ?_, rfl⟩
      · rw [hs, narrow_append]
      · exact fun b hb => hall b (List.mem_append_right _ hb)
    · exact absurd (fun b hb => hall b (List.mem_append_left _ hb)) hbeyond

/-- What a chunk gives, and what is owed behind it, was owed in front of it. -/
theorem owes_of_decodeBytes {encoding : StandardEncoding} {carry next : Carry}
    {chunk behind : Bytes} {read ahead : List Char}
    (h : encoding.decodeBytes false carry chunk = .ok (read, next))
    (hahead : encoding.Owes next behind ahead) :
    encoding.Owes carry (chunk ++ behind) (read ++ ahead) := by
  -- bytes of which nothing is left out
  have hutf8 : ∀ {bytes kept : Bytes}, decodeUtf8 encoding false bytes = .ok (read, kept) →
      kept ++ behind = Utf8.encode ahead → bytes ++ behind = Utf8.encode (read ++ ahead) := by
    intro bytes kept hdecode hkept
    rw [← (encode_append_of_decodeUtf8 hdecode).1, List.append_assoc, hkept, Utf8.encode_append]
  cases encoding with
  | utf8 =>
    rw [decodeBytes_utf8] at h
    obtain ⟨kept, hdecode, rfl⟩ := exists_kept_of_map h
    simp only [Owes, ← List.append_assoc]
    exact hutf8 hdecode hahead
  | utf8Marked =>
    simp only [Owes, ← List.append_assoc]
    split
    · next hfresh =>
      rw [decodeBytes_fresh hfresh] at h
      split at h
      · cases h
        simp only [Owes, hfresh, if_true] at hahead
        exact hahead
      · next hcut =>
        obtain ⟨kept, hdecode, rfl⟩ := exists_kept_of_map h
        exact (spells_append_iff hcut).2 (hutf8 hdecode hahead)
    · next hfresh =>
      rw [decodeBytes_stale hfresh] at h
      obtain ⟨kept, hdecode, rfl⟩ := exists_kept_of_map h
      exact hutf8 hdecode hahead
  | latin1 =>
    cases h
    obtain rfl : ahead = narrow behind := hahead
    simp only [Owes, Spells, ← List.append_assoc]
    rw [narrow_append (carry.kept ++ chunk)]
    rfl
  | ascii =>
    rcases decodeBytes_ascii false carry chunk with ⟨hall, hchunk⟩ | ⟨-, fault, hchunk⟩
    · rw [hchunk] at h
      cases h
      obtain ⟨hbehind, rfl⟩ : (∀ b ∈ behind, b < 0x80) ∧ ahead = narrow behind := hahead
      simp only [Owes, Spells, ← List.append_assoc]
      constructor
      · exact fun b hb => (List.mem_append.1 hb).elim (hall b) (hbehind b)
      · rw [narrow_append (carry.kept ++ chunk)]
    · rw [hchunk] at h
      cases h

/-- A chunk that is decoded gives one text. -/
theorem exists_decoded_iff {read s : List Char} {carry : Carry} :
    (∃ next, (.ok (read, carry) : Except FlawedBytes (List Char × Carry)) = .ok (s, next)) ↔
      s = read := by
  constructor
  · rintro ⟨next, h⟩
    cases h
    rfl
  · rintro rfl
    exact ⟨carry, rfl⟩

/-- At the end of a file UTF-8 is decoded if it is that of a text. -/
theorem exists_decodeUtf8_iff {encoding : StandardEncoding} {carry : Carry} {bytes : Bytes}
    {s : List Char} :
    (∃ next, ((decodeUtf8 encoding true bytes).map fun (text, kept) =>
      (text, { carry with kept, fresh := false })) = .ok (s, next)) ↔ bytes = Utf8.encode s := by
  constructor
  · rintro ⟨next, h⟩
    obtain ⟨kept, hdecode, -⟩ := exists_kept_of_map h
    obtain ⟨hbytes, hkept⟩ := encode_append_of_decodeUtf8 hdecode
    rw [← hbytes, hkept rfl, List.append_nil]
  · rintro rfl
    rw [decodeUtf8_encode]
    exact ⟨_, rfl⟩

/-- At the end of a file all that is owed is there. -/
theorem decodeBytes_final_iff {encoding : StandardEncoding} {carry : Carry} {s : List Char} :
    (∃ next, encoding.decodeBytes true carry [] = .ok (s, next)) ↔ encoding.Owes carry [] s := by
  cases encoding with
  | utf8 =>
    simp only [decodeBytes_utf8, Owes, List.append_nil]
    exact exists_decodeUtf8_iff
  | utf8Marked =>
    simp only [Owes, List.append_nil]
    split
    · next hfresh =>
      simp only [decodeBytes_fresh hfresh, List.append_nil]
      split
      · next hcut =>
        rw [spells_iff_of_isCutMark hcut]
        exact exists_decoded_iff
      · next hcut =>
        have hspells : utf8Marked.Spells (_ ++ []) s ↔ _ := spells_append_iff hcut
        rw [List.append_nil, List.append_nil] at hspells
        rw [hspells]
        exact exists_decodeUtf8_iff
    · next hfresh =>
      simp only [decodeBytes_stale hfresh, List.append_nil]
      exact exists_decodeUtf8_iff
  | latin1 =>
    simp only [decodeBytes, Owes, Spells]
    exact exists_decoded_iff
  | ascii =>
    simp only [Owes, Spells]
    rcases decodeBytes_ascii true carry [] with ⟨hall, hchunk⟩ | ⟨hbeyond, fault, hchunk⟩
    · rw [hchunk, exists_decoded_iff, and_iff_right hall]
    · rw [hchunk]
      constructor
      · rintro ⟨next, h⟩
        cases h
      · rintro ⟨hall, -⟩
        exact absurd hall hbeyond

/-! ### Carriage returns -/

/-- Bytes are decoded without regard to the carriage return that is held back. -/
theorem held_of_decodeBytes {encoding : StandardEncoding} {final : Bool} {carry next : Carry}
    {chunk : Bytes} {read : List Char}
    (h : encoding.decodeBytes final carry chunk = .ok (read, next)) : next.held = carry.held := by
  -- every way through ends in the carry with other bytes kept
  have hutf8 : ∀ bytes, ((decodeUtf8 encoding final bytes).map fun (text, kept) =>
      (text, { carry with kept, fresh := false })) = .ok (read, next) → next.held = carry.held := by
    intro bytes h
    obtain ⟨kept, -, rfl⟩ := exists_kept_of_map h
    rfl
  cases encoding with
  | utf8 => exact hutf8 _ h
  | utf8Marked =>
    simp only [decodeBytes] at h
    split at h
    · exact hutf8 _ h
    split at h
    · cases h
      rfl
    split at h
    · exact hutf8 _ h
    · exact hutf8 _ h
  | latin1 =>
    cases h
    rfl
  | ascii =>
    simp only [decodeBytes] at h
    split at h
    · cases h
      rfl
    · cases h

/-- What is decoded stands behind the carriage return that is held back. -/
theorem heldText_append {encoding : StandardEncoding} {final : Bool} {carry next : Carry}
    {chunk : Bytes} {read : List Char}
    (h : encoding.decodeBytes final carry chunk = .ok (read, next)) :
    (if next.held then '\r' :: read else read) = carry.heldText ++ read := by
  rw [held_of_decodeBytes h, Carry.heldText]
  split <;> rfl

/-- A carriage return is only moved from the end of a chunk to the front of the next. -/
theorem decodeChunk_of_decodeBytes {encoding : StandardEncoding} {carry next : Carry}
    {chunk : Bytes}
    {read : List Char} (h : encoding.decodeBytes false carry chunk = .ok (read, next)) :
    ∃ text held, encoding.decodeChunk false carry chunk = .ok (text, { next with held }) ∧
      text ++ Carry.heldText { next with held } = carry.heldText ++ read := by
  simp only [decodeChunk, h, Except.map, heldText_append h, Bool.not_false, Bool.true_and,
    decide_eq_true_eq]
  split
  · next hlast => exact ⟨_, true, rfl, List.dropLast_append_getLast? _ hlast⟩
  · exact ⟨_, false, rfl, List.append_nil _⟩

theorem decodeChunk_final_of_decodeBytes {encoding : StandardEncoding} {carry next : Carry}
    {chunk : Bytes} {read : List Char}
    (h : encoding.decodeBytes true carry chunk = .ok (read, next)) :
    encoding.decodeChunk true carry chunk =
      .ok (carry.heldText ++ read, { next with held := false }) := by
  simp only [decodeChunk, h, Except.map, heldText_append h, Bool.not_true, Bool.false_and,
    Bool.false_eq_true, if_false]

theorem decodeBytes_of_decodeChunk {encoding : StandardEncoding} {final : Bool} {carry next : Carry}
    {chunk : Bytes} {text : List Char}
    (h : encoding.decodeChunk final carry chunk = .ok (text, next)) :
    ∃ read next, encoding.decodeBytes final carry chunk = .ok (read, next) := by
  cases hbytes : encoding.decodeBytes final carry chunk with
  | error fault =>
    rw [decodeChunk, hbytes] at h
    cases h
  | ok result => exact ⟨result.1, result.2, rfl⟩

/-! ### Files -/

/-- Chunks give all that is owed, however they are cut. -/
theorem decodeChunks_of_owes {encoding : StandardEncoding} {carry : Carry} {chunks : List Bytes}
    {s : List Char} (h : encoding.Owes carry chunks.flatten s) :
    encoding.decodeChunks carry chunks = { text := carry.heldText ++ s } := by
  induction chunks generalizing carry s with
  | nil =>
    obtain ⟨next, hbytes⟩ := decodeBytes_final_iff.2 h
    rw [decodeChunks, decodeChunk_final_of_decodeBytes hbytes]
  | cons chunk chunks ih =>
    rw [List.flatten_cons] at h
    obtain ⟨read, ahead, next, hbytes, rfl, howes⟩ := decodeBytes_of_owes h
    obtain ⟨text, held, hchunk, htext⟩ := decodeChunk_of_decodeBytes hbytes
    -- what is held back has no part in what is owed
    have howes' : encoding.Owes { next with held } chunks.flatten ahead := owes_held.2 howes
    have hothers := ih howes'
    simp only [decodeChunks, hchunk, hothers, ← List.append_assoc, htext]

/-- What chunks give without a flaw was owed. -/
theorem owes_of_decodeChunks {encoding : StandardEncoding} {carry : Carry} {chunks : List Bytes}
    (h : (encoding.decodeChunks carry chunks).fault = none) :
    ∃ s, encoding.Owes carry chunks.flatten s := by
  induction chunks generalizing carry with
  | nil =>
    rw [decodeChunks] at h
    split at h
    · cases h
    · next text next hchunk =>
      obtain ⟨read, next, hbytes⟩ := decodeBytes_of_decodeChunk hchunk
      exact ⟨read, decodeBytes_final_iff.1 ⟨next, hbytes⟩⟩
  | cons chunk chunks ih =>
    rw [decodeChunks] at h
    split at h
    · cases h
    · next text next hchunk =>
      obtain ⟨ahead, hahead⟩ := ih h
      obtain ⟨read, next', hbytes⟩ := decodeBytes_of_decodeChunk hchunk
      obtain ⟨text', held, hchunk', -⟩ := decodeChunk_of_decodeBytes hbytes
      rw [hchunk] at hchunk'
      cases hchunk'
      exact ⟨read ++ ahead, owes_of_decodeBytes hbytes (owes_held.1 hahead)⟩

theorem flatten_chunksOf (size : Nat) (bytes : Bytes) : (chunksOf size bytes).flatten = bytes := by
  fun_induction chunksOf size bytes with
  | case1 => rfl
  | case2 b rest ih => rw [List.flatten_cons, ih, List.take_append_drop]

theorem decode_of_spells {encoding : StandardEncoding} {bytes : Bytes} {s : List Char}
    (h : encoding.Spells bytes s) : encoding.decode bytes = { text := s } := by
  have howes : encoding.Owes {} (chunksOf (chunkSize - 1) bytes).flatten s := by
    rw [flatten_chunksOf]
    cases encoding <;> exact h
  exact decodeChunks_of_owes howes

/-- **A file is read without a flaw exactly as the text that it is**, wherever its chunks end. -/
theorem decode_eq_iff {encoding : StandardEncoding} {bytes : Bytes} {s : List Char} :
    encoding.decode bytes = { text := s } ↔ encoding.Spells bytes s := by
  refine ⟨fun h => ?_, decode_of_spells⟩
  have hfault : (encoding.decode bytes).fault = none := by rw [h]
  obtain ⟨s', howes⟩ := owes_of_decodeChunks hfault
  rw [flatten_chunksOf] at howes
  have hspells : encoding.Spells bytes s' := by cases encoding <;> exact howes
  rw [decode_of_spells hspells] at h
  cases h
  exact hspells

/-- A standard encoding finds the bytes that are no text. -/
theorem isLocated_of_decodeChunks {encoding : StandardEncoding} {carry : Carry}
    {chunks : List Bytes} {fault : DecodeFault}
    (h : (encoding.decodeChunks carry chunks).fault = some fault) : fault.isLocated = true := by
  induction chunks generalizing carry with
  | nil =>
    rw [decodeChunks] at h
    split at h
    · cases h
      rfl
    · cases h
  | cons chunk chunks ih =>
    rw [decodeChunks] at h
    split at h
    · cases h
      rfl
    · exact ih h

end StandardEncoding

/-! ### All encodings -/

namespace Encoding

/-- The text that bytes are.  In a standard encoding that is up to the bytes; what a codec of the
host takes for a text is up to the codec. -/
def Spells (bytes : Bytes) (s : List Char) : Encoding → Prop
  | standard encoding => encoding.Spells bytes s
  | further codec => codec.decode bytes = { text := s }

variable {encoding : Encoding} {bytes : Bytes}

/-- **A file is read without a flaw exactly as the text that it is.** -/
theorem decode_eq_iff {s : List Char} :
    encoding.decode bytes = { text := s } ↔ encoding.Spells bytes s := by
  cases encoding with
  | standard encoding => exact StandardEncoding.decode_eq_iff
  | further codec => exact Iff.rfl

/-- A flaw is met in a file exactly if the file is no text. -/
theorem fault_eq_none_iff :
    (encoding.decode bytes).fault = none ↔ ∃ s, encoding.Spells bytes s := by
  constructor
  · intro h
    refine ⟨(encoding.decode bytes).text, decode_eq_iff.1 ?_⟩
    rw [← h]
  · rintro ⟨s, h⟩
    rw [decode_eq_iff.2 h]

end Encoding

end Stencil
