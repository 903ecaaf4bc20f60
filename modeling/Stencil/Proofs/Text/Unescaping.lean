import Mathlib.Tactic.TFAE
import Stencil.Proofs.Text.QuoteRuns

/-!
# Undoing the doubling of quotes

Escaping and reading back both replace every occurrence of a pattern, from the left and without
overlaps: a quote by two quotes, and two quotes by one.  Reading back therefore pairs the quotes of
a text run by run, and a run of odd length keeps its last quote.  So it undoes escaping, and
escaping undoes it again just where no run has a quote left over.

## Main definitions

* `replaceAll` — every occurrence of a pattern replaced, from the left and without overlaps.

## Main results

* `Verbatim.escapeChars_eq_replaceAll`, `Verbatim.unescapeChars_eq_replaceAll` — both are such
  replacements.
* `Verbatim.unescapeChars_run` — what becomes of a maximal run of quotes.
* `Verbatim.exists_escapeChars_of_evenQuotes` — which texts are escaped ones.
* `Verbatim.inverse_on_even_runs` — **escaping and reading back are inverse on even runs, and only
  there.**
-/

namespace Stencil

/-! ### Replacements -/

/-- A text with every occurrence of the pattern `first :: others` replaced by `new`.  The pattern is
looked for from the left, and behind an occurrence the search goes on behind all of it. -/
def replaceAll (first : Char) (others new : List Char) : List Char → List Char
  | [] => []
  | c :: s =>
      if first :: others <+: c :: s then
        new ++ replaceAll first others new (s.drop others.length)
      else c :: replaceAll first others new s
termination_by s => s.length

theorem replaceAll_of_begins {first c : Char} {others new s : List Char}
    (h : first :: others <+: c :: s) :
    replaceAll first others new (c :: s) =
      new ++ replaceAll first others new (s.drop others.length) := by
  rw [replaceAll, if_pos h]

theorem replaceAll_of_apart {first c : Char} {others new s : List Char}
    (h : ¬ first :: others <+: c :: s) :
    replaceAll first others new (c :: s) = c :: replaceAll first others new s := by
  rw [replaceAll, if_neg h]

namespace Verbatim

/-- Escaping replaces every quote by two. -/
theorem escapeChars_eq_replaceAll (s : List Char) :
    escapeChars s = replaceAll '"' [] ['"', '"'] s := by
  induction s with
  | nil => rw [replaceAll, escapeChars_nil]
  | cons c s ih =>
    rw [escapeChars_cons, ih]
    by_cases hc : c = '"'
    · have hhere : ['"'] <+: c :: s := ⟨s, by rw [hc]; rfl⟩
      rw [if_pos hc, replaceAll_of_begins hhere]
      rfl
    · rw [if_neg hc, replaceAll_of_apart fun h => hc (List.cons_prefix_cons.mp h).1.symm]
      rfl

/-- Reading back replaces two adjacent quotes by one. -/
theorem unescapeChars_eq_replaceAll : ∀ s : List Char,
    unescapeChars s = replaceAll '"' ['"'] ['"'] s
  | [] => by rw [replaceAll, unescapeChars_nil]
  | [c] => by
    have hsingle : ¬ ['"', '"'] <+: [c] := by
      intro h
      exact absurd h.length_le (Nat.lt_irrefl 1)
    rw [replaceAll_of_apart hsingle, replaceAll, unescapeChars_cons (by simp)]
    rfl
  | c :: d :: s => by
    by_cases hpair : c = '"' ∧ d = '"'
    · obtain ⟨rfl, rfl⟩ := hpair
      have hhere : ['"', '"'] <+: '"' :: '"' :: s := ⟨s, rfl⟩
      rw [replaceAll_of_begins hhere, unescapeChars_pair, unescapeChars_eq_replaceAll s]
      rfl
    · have hnone : ¬ ['"', '"'] <+: c :: d :: s := by
        intro h
        obtain ⟨hc, h⟩ := List.cons_prefix_cons.mp h
        exact hpair ⟨hc.symm, (List.cons_prefix_cons.mp h).1.symm⟩
      have hc : c = '"' → (d :: s).head? ≠ some '"' := by
        intro hc hd
        exact hpair ⟨hc, Option.some.inj hd⟩
      rw [replaceAll_of_apart hnone, unescapeChars_cons hc,
        unescapeChars_eq_replaceAll (d :: s)]

/-! ### Reading back run by run -/

/-- Reading back undoes escaping. -/
theorem unescapeChars_escapeChars (s : List Char) : unescapeChars (escapeChars s) = s := by
  induction s with
  | nil => rfl
  | cons c s ih =>
    rw [escapeChars_cons]
    by_cases hc : c = '"'
    · rw [if_pos hc, hc]
      show unescapeChars ('"' :: '"' :: escapeChars s) = '"' :: s
      rw [unescapeChars_pair, ih]
    · rw [if_neg hc, List.singleton_append, unescapeChars_cons fun h => absurd h hc, ih]

/-- No pair of quotes reaches over the end of a text that does not end with a quote. -/
theorem unescapeChars_append : ∀ {front : List Char} (back : List Char),
    front.getLast? ≠ some '"' →
      unescapeChars (front ++ back) = unescapeChars front ++ unescapeChars back
  | [], back, _ => rfl
  | [c], back, h => by
    have hc : c ≠ '"' := fun hc => h (by rw [hc]; rfl)
    rw [List.singleton_append, unescapeChars_cons fun heq => absurd heq hc,
      unescapeChars_cons fun heq => absurd heq hc]
    rfl
  | c :: d :: front, back, h => by
    rw [List.getLast?_cons_cons] at h
    by_cases hpair : c = '"' ∧ d = '"'
    · obtain ⟨rfl, rfl⟩ := hpair
      have hfront : front.getLast? ≠ some '"' := by
        intro hlast
        rw [List.getLast?_cons, hlast] at h
        exact h rfl
      show unescapeChars ('"' :: '"' :: (front ++ back)) = _
      rw [unescapeChars_pair, unescapeChars_pair, unescapeChars_append back hfront]
      rfl
    · have hnone : ∀ t, c = '"' → (d :: t).head? ≠ some '"' := by
        intro t hc hd
        exact hpair ⟨hc, Option.some.inj hd⟩
      show unescapeChars (c :: d :: (front ++ back)) = _
      rw [unescapeChars_cons (hnone _), unescapeChars_cons (hnone _), ← List.cons_append,
        unescapeChars_append back h]
      rfl

/-- The quotes that a text begins with are paired from the left, and one that is left over stays. -/
theorem unescapeChars_replicate_append {back : List Char} (hback : back.head? ≠ some '"') :
    ∀ n, unescapeChars (List.replicate n '"' ++ back) =
      List.replicate ((n + 1) / 2) '"' ++ unescapeChars back
  | 0 => rfl
  | 1 => unescapeChars_cons fun _ => hback
  | n + 2 => by
    show unescapeChars ('"' :: '"' :: (List.replicate n '"' ++ back)) = _
    have hhalf : (n + 2 + 1) / 2 = (n + 1) / 2 + 1 := by omega
    rw [unescapeChars_pair, unescapeChars_replicate_append hback n, hhalf, List.replicate_succ]
    rfl

/-- **A maximal run of quotes is read back as half of it,** rounded up, whatever stands around it.
-/
theorem unescapeChars_run {front back : List Char} (n : Nat) (hfront : front.getLast? ≠ some '"')
    (hback : back.head? ≠ some '"') :
    unescapeChars (front ++ (List.replicate n '"' ++ back)) =
      unescapeChars front ++ (List.replicate ((n + 1) / 2) '"' ++ unescapeChars back) := by
  rw [unescapeChars_append _ hfront, unescapeChars_replicate_append hback]

/-! ### Which texts are escaped -/

theorem EvenQuotes.of_pair {s : List Char} (h : EvenQuotes ('"' :: '"' :: s)) : EvenQuotes s := by
  intro front n back hs hfront hback
  cases front with
  | nil =>
    -- the run that the text begins with is longer by the pair
    have heven : Even (n + 2) := h [] (n + 2) back (by rw [hs]; rfl) (by simp) hback
    exact (Nat.even_add.mp heven).mpr (by decide)
  | cons x front =>
    refine h ('"' :: '"' :: x :: front) n back (by rw [hs]; rfl) ?_ hback
    rwa [List.getLast?_cons_cons, List.getLast?_cons_cons]

theorem EvenQuotes.of_cons {c : Char} {s : List Char} (hc : c ≠ '"') (h : EvenQuotes (c :: s)) :
    EvenQuotes s := by
  intro front n back hs hfront hback
  refine h (c :: front) n back (by rw [hs]; rfl) ?_ hback
  cases front with
  | nil => exact fun hlast => hc (Option.some.inj hlast)
  | cons x front => rwa [List.getLast?_cons_cons]

/-- The quote that a text with even runs begins with has another one behind it. -/
theorem EvenQuotes.head?_of_quote {s : List Char} (h : EvenQuotes ('"' :: s)) :
    s.head? = some '"' := by
  by_contra hne
  exact absurd (h [] 1 s rfl (by simp) hne) (by decide)

/-- **A text with even runs of quotes is an escaped one.** -/
theorem exists_escapeChars_of_evenQuotes : ∀ {s : List Char}, EvenQuotes s →
    ∃ t, s = escapeChars t
  | [], _ => ⟨[], rfl⟩
  | c :: s, h => by
    by_cases hc : c = '"'
    · subst hc
      obtain ⟨s, rfl⟩ := List.head?_eq_some_iff.mp h.head?_of_quote
      obtain ⟨t, rfl⟩ := exists_escapeChars_of_evenQuotes h.of_pair
      exact ⟨'"' :: t, rfl⟩
    · obtain ⟨t, rfl⟩ := exists_escapeChars_of_evenQuotes (h.of_cons hc)
      exact ⟨c :: t, by rw [escapeChars_cons, if_neg hc]; rfl⟩

theorem unescape_escape (s : String) : unescape (escape s) = s := by
  rw [unescape, toList_escape, unescapeChars_escapeChars, String.ofList_toList]

/-- **Escaping and reading back are inverse on even runs, and only there.**  Both replace all
occurrences of a pattern from the left.  Reading back undoes escaping.  A text is an escaped one
exactly if all its maximal runs of quotes have even lengths, and exactly if escaping brings it back
after it was read.  Any maximal run of quotes is read back on its own: one of `n` quotes as half of
them, rounded up, so that one of `2 * m + 1` quotes leaves `m + 1`. -/
theorem inverse_on_even_runs :
    (∀ s : String, unescape (escape s) = s) ∧
      (∀ e : String,
        [∃ s, e = escape s, EvenQuotes e.toList, escape (unescape e) = e].TFAE) ∧
      (∀ s : String, (escape s).toList = replaceAll '"' [] ['"', '"'] s.toList ∧
        (unescape s).toList = replaceAll '"' ['"'] ['"'] s.toList) ∧
      (∀ (front back : List Char) (n : Nat), front.getLast? ≠ some '"' → back.head? ≠ some '"' →
        unescapeChars (front ++ (List.replicate n '"' ++ back)) =
          unescapeChars front ++ (List.replicate ((n + 1) / 2) '"' ++ unescapeChars back)) ∧
      ∀ (front back : List Char) (m : Nat), front.getLast? ≠ some '"' → back.head? ≠ some '"' →
        unescapeChars (front ++ (List.replicate (2 * m + 1) '"' ++ back)) =
          unescapeChars front ++ (List.replicate (m + 1) '"' ++ unescapeChars back) := by
  refine ⟨unescape_escape, ?_, ?_, ?_, ?_⟩
  · intro e
    tfae_have 1 → 2 := by
      rintro ⟨s, rfl⟩
      rw [toList_escape]
      exact evenQuotes_escapeChars s.toList
    tfae_have 2 → 3 := by
      intro heven
      obtain ⟨t, ht⟩ := exists_escapeChars_of_evenQuotes heven
      rw [escape, toList_unescape, ht, unescapeChars_escapeChars, ← ht, String.ofList_toList]
    tfae_have 3 → 1 := fun hback => ⟨unescape e, hback.symm⟩
    tfae_finish
  · intro s
    rw [toList_escape, toList_unescape]
    exact ⟨escapeChars_eq_replaceAll s.toList, unescapeChars_eq_replaceAll s.toList⟩
  · intro front back n hfront hback
    exact unescapeChars_run n hfront hback
  · intro front back m hfront hback
    have hhalf : (2 * m + 1 + 1) / 2 = m + 1 := by omega
    rw [unescapeChars_run _ hfront hback, hhalf]

-- Of a run of three quotes two are a pair, so escaping it again makes four.
example : unescape "a\"\"\"b" = "a\"\"b" ∧ escape (unescape "a\"\"\"b") ≠ "a\"\"\"b" := by
  decide +kernel

end Verbatim

end Stencil
