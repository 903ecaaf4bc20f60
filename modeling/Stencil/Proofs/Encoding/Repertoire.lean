import Mathlib.Data.List.TakeWhile
import Stencil.Encoding.Codec

/-!
# What encodings have bytes for

UTF-8 has bytes for every character, the narrow encodings only for the first few of them.  A text is
encoded if the encoding has all of its characters.  If not, the fault tells the first of those that
are missing, where it stands, and how many more are missing right behind it.

## Main definitions

* `StandardEncoding.Has` — a standard encoding has bytes for a character.
* `StandardEncoding.Misses` — what the first run of characters is that a standard encoding has not.
* `Encoding.Fits`, `Encoding.Misses` — what any encoding has bytes for, and what it lacks.

## Main results

* `Encoding.exists_encode_eq_ok_iff` — which texts are encoded.
* `Encoding.encode_eq_error_iff` — which fault is met in the others.
-/

namespace Stencil

namespace StandardEncoding

/-- How many characters an encoding has; nothing if it has all of them. -/
def limit? : StandardEncoding → Option Nat
  | utf8 | utf8Marked => none
  | latin1 => some 256
  | ascii => some 128

/-- The encoding has bytes for a character. -/
def Has (encoding : StandardEncoding) (c : Char) : Prop := ∀ n ∈ encoding.limit?, c.toNat < n

instance (encoding : StandardEncoding) (c : Char) : Decidable (encoding.Has c) :=
  match h : encoding.limit? with
  | none => isTrue fun n hn => by rw [h] at hn; cases hn
  | some limit => decidable_of_iff (c.toNat < limit) (by simp [Has, h])

/-- A fault is that of the first run of characters in a text that an encoding has not. -/
def Misses (encoding : StandardEncoding) (s : List Char) (fault : MissingRun) : Prop :=
  ∃ front first more back limit, s = front ++ (first :: (more ++ back)) ∧
    encoding.limit? = some limit ∧ (∀ c ∈ front, encoding.Has c) ∧
    (∀ c ∈ first :: more, ¬encoding.Has c) ∧ (∀ c ∈ back.head?, encoding.Has c) ∧
    fault = ⟨encoding, first, front.length, more.length + 1, limit⟩

variable {encoding : StandardEncoding} {limit : Nat} {s : List Char} {fault : MissingRun}

theorem has_iff_of_limit (h : encoding.limit? = some limit) {c : Char} :
    encoding.Has c ↔ c.toNat < limit := by
  simp [Has, h]

theorem has_of_limit_none (h : encoding.limit? = none) (c : Char) : encoding.Has c := by
  simp [Has, h]

/-- An encoding that has all characters meets no fault. -/
theorem exists_encode_of_limit_none (h : encoding.limit? = none) (s : List Char) :
    ∃ bytes, encoding.encode s = .ok bytes := by
  cases encoding with
  | utf8 => exact ⟨_, rfl⟩
  | utf8Marked => exact ⟨_, rfl⟩
  | latin1 => cases h
  | ascii => cases h

/-- The other encodings are narrow. -/
theorem encode_of_limit (h : encoding.limit? = some limit) (s : List Char) :
    encoding.encode s = encodeNarrow encoding limit s := by
  cases encoding with
  | utf8 => cases h
  | utf8Marked => cases h
  | latin1 => obtain rfl := Option.some.inj h; rfl
  | ascii => obtain rfl := Option.some.inj h; rfl

/-- What `encodeNarrow` does with a text whose first missing character is known. -/
theorem encodeNarrow_of_first {front rest : List Char} {first : Char}
    (hfront : ∀ c ∈ front, c.toNat < limit) (hfirst : ¬first.toNat < limit) :
    encodeNarrow encoding limit (front ++ first :: rest) =
      .error ⟨encoding, first, front.length,
        ((first :: rest).takeWhile (limit ≤ ·.toNat)).length, limit⟩ := by
  have hdrop : (front ++ first :: rest).dropWhile (·.toNat < limit) = first :: rest := by
    rw [List.dropWhile_append_of_pos (by simpa using hfront),
      List.dropWhile_cons_of_neg (by simpa using hfirst)]
  have htake : (front ++ first :: rest).takeWhile (·.toNat < limit) = front := by
    rw [List.takeWhile_append_of_pos (by simpa using hfront),
      List.takeWhile_cons_of_neg (by simpa using hfirst), List.append_nil]
  simp only [encodeNarrow, hdrop, htake]

/-- A fault is met in a text if its first run of missing characters is that of the fault. -/
theorem encode_of_misses (h : encoding.Misses s fault) : encoding.encode s = .error fault := by
  obtain ⟨front, first, more, back, limit, rfl, hlimit, hfront, hrun, hback, rfl⟩ := h
  simp only [has_iff_of_limit hlimit, List.forall_mem_cons, Nat.not_lt] at hfront hrun hback
  have hlength : (first :: (more ++ back)).takeWhile (limit ≤ ·.toNat) = first :: more := by
    rw [← List.cons_append, List.takeWhile_append_of_pos (by simpa using hrun)]
    cases back with
    | nil => simp
    | cons c back =>
      have := hback c rfl
      rw [List.takeWhile_cons_of_neg (by simpa using this), List.append_nil]
  rw [encode_of_limit hlimit, encodeNarrow_of_first hfront (Nat.not_lt.mpr hrun.1), hlength]
  rfl

/-- A run that ends in front of the end of a text is the first one of a longer text as well. -/
theorem Misses.append (h : encoding.Misses s fault) (hend : fault.start + fault.length < s.length)
    (rest : List Char) : encoding.Misses (s ++ rest) fault := by
  obtain ⟨front, first, more, back, limit, rfl, hlimit, hfront, hrun, hback, rfl⟩ := h
  refine ⟨front, first, more, back ++ rest, limit, by simp, hlimit, hfront, hrun, ?_, rfl⟩
  cases back with
  | nil =>
    simp only [List.length_append, List.length_cons, List.length_nil] at hend
    omega
  | cons c back => exact hback

/-- Some first run is missing in a text that does not fit. -/
theorem exists_misses (h : ¬∀ c ∈ s, encoding.Has c) : ∃ fault, encoding.Misses s fault := by
  have hlimit : ∃ limit, encoding.limit? = some limit := by
    cases hlimit : encoding.limit? with
    | none => exact absurd (fun c _ => has_of_limit_none hlimit c) h
    | some limit => exact ⟨limit, rfl⟩
  obtain ⟨limit, hlimit⟩ := hlimit
  -- cut in front of the first missing character, and behind the last one of its run
  cases hrest : s.dropWhile (decide <| encoding.Has ·) with
  | nil => exact absurd (by simpa using List.dropWhile_eq_nil_iff.mp hrest) h
  | cons first rest =>
    refine ⟨_, s.takeWhile (decide <| encoding.Has ·), first,
      rest.takeWhile (decide <| ¬encoding.Has ·), rest.dropWhile (decide <| ¬encoding.Has ·), limit,
      ?_, hlimit, fun c hc => ?_, fun c hc => ?_, fun c hc => ?_, rfl⟩
    · rw [List.takeWhile_append_dropWhile, ← hrest, List.takeWhile_append_dropWhile]
    · simpa using List.mem_takeWhile_imp hc
    · rcases List.mem_cons.mp hc with rfl | hc
      · have := List.head?_dropWhile_not (decide <| encoding.Has ·) s
        rw [hrest] at this
        simpa using this
      · simpa using List.mem_takeWhile_imp hc
    · have := List.head?_dropWhile_not (decide <| ¬encoding.Has ·) rest
      rw [Option.mem_def.mp hc] at this
      simpa using this

/-- **A text is encoded if the encoding has all of its characters,** and only then. -/
theorem exists_encode_eq_ok_iff :
    (∃ bytes, encoding.encode s = .ok bytes) ↔ ∀ c ∈ s, encoding.Has c := by
  constructor
  · rintro ⟨bytes, hbytes⟩
    by_contra hmissing
    obtain ⟨fault, hfault⟩ := exists_misses hmissing
    rw [encode_of_misses hfault] at hbytes
    cases hbytes
  · intro hhas
    cases hlimit : encoding.limit? with
    | none => exact exists_encode_of_limit_none hlimit s
    | some limit =>
      simp only [has_iff_of_limit hlimit] at hhas
      have hnil : s.dropWhile (·.toNat < limit) = [] := by simpa using hhas
      refine ⟨s.map fun c => UInt8.ofNat c.toNat, ?_⟩
      simp only [encode_of_limit hlimit, encodeNarrow, hnil]

/-- **The fault that is met tells the first run of missing characters.** -/
theorem encode_eq_error_iff : encoding.encode s = .error fault ↔ encoding.Misses s fault := by
  refine ⟨fun h => ?_, encode_of_misses⟩
  have hmissing : ¬∀ c ∈ s, encoding.Has c := by
    rw [← exists_encode_eq_ok_iff, h]
    rintro ⟨bytes, ⟨⟩⟩
  obtain ⟨fault', hfault'⟩ := exists_misses hmissing
  rw [encode_of_misses hfault'] at h
  cases h
  exact hfault'

end StandardEncoding

namespace Encoding

/-- A text that an encoding has bytes for.  A standard encoding has them for all of its characters;
a codec of the host decides for itself. -/
def Fits (s : List Char) : Encoding → Prop
  | standard encoding => ∀ c ∈ s, encoding.Has c
  | further codec => ∃ bytes, codec.encode s = .ok bytes

/-- A fault is what an encoding says of a text that it has no bytes for. -/
def Misses (s : List Char) (fault : EncodeFault) : Encoding → Prop
  | standard encoding => ∃ run, encoding.Misses s run ∧ fault = .missing run
  | further codec => codec.encode s = .error fault

variable {encoding : Encoding} {s : List Char}

/-- **A text is encoded if it fits the encoding,** and only then. -/
theorem exists_encode_eq_ok_iff : (∃ bytes, encoding.encode s = .ok bytes) ↔ encoding.Fits s := by
  cases encoding with
  | standard encoding =>
    refine Iff.trans ?_ StandardEncoding.exists_encode_eq_ok_iff
    rw [encode]
    cases encoding.encode s with
    | ok bytes => exact ⟨fun _ => ⟨bytes, rfl⟩, fun _ => ⟨bytes, rfl⟩⟩
    | error run =>
      constructor
      · rintro ⟨bytes, h⟩
        cases h
      · rintro ⟨bytes, h⟩
        cases h
  | further codec => exact Iff.rfl

/-- **The fault that is met is what the encoding says of the text.** -/
theorem encode_eq_error_iff {fault : EncodeFault} :
    encoding.encode s = .error fault ↔ encoding.Misses s fault := by
  cases encoding with
  | standard encoding =>
    simp only [Misses, ← StandardEncoding.encode_eq_error_iff]
    rw [encode]
    cases encoding.encode s with
    | ok bytes =>
      constructor
      · intro h
        cases h
      · rintro ⟨run, h, -⟩
        cases h
    | error run =>
      constructor
      · intro h
        cases h
        exact ⟨run, rfl, rfl⟩
      · rintro ⟨run', h, rfl⟩
        cases h
        rfl
  | further codec => exact Iff.rfl

/-- A text that does not fit has a fault. -/
theorem exists_misses (h : ¬encoding.Fits s) : ∃ fault, encoding.Misses s fault := by
  simp only [← encode_eq_error_iff]
  cases hencode : encoding.encode s with
  | ok bytes => exact absurd (exists_encode_eq_ok_iff.mp ⟨bytes, hencode⟩) h
  | error fault => exact ⟨fault, rfl⟩

end Encoding

end Stencil
