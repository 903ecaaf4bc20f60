import Mathlib.Algebra.Group.Nat.Even
import Mathlib.Data.List.Infix
import Stencil.Text.Verbatim

/-!
# Runs of quotes in verbatim literals

Doubling every quote makes the length of every maximal run of quotes even.  It touches nothing but
quotes, so it makes no marker of blocks that was not there, and a text begins with the same
character before and after.

## Main definitions

* `Verbatim.EvenQuotes` — every maximal run of quotes has an even length.

## Main results

* `Verbatim.evenQuotes_escapeChars` — so it is in every escaped text.
* `Verbatim.infix_of_infix_escapeChars` — escaping makes no opening marker.
-/

namespace Stencil

namespace Verbatim

/-- Every maximal run of quotes has an even length. -/
def EvenQuotes (s : List Char) : Prop :=
  ∀ front n back, s = front ++ (List.replicate n '"' ++ back) →
    front.getLast? ≠ some '"' → back.head? ≠ some '"' → Even n

theorem evenQuotes_nil : EvenQuotes [] := by
  intro front n back h _ _
  obtain ⟨hrun, -⟩ := List.append_eq_nil_iff.mp (List.append_eq_nil_iff.mp h.symm).2
  obtain rfl : n = 0 := by simpa using hrun
  exact Even.zero

/-- A pair of quotes in front adds to the first run, or makes one of its own. -/
theorem EvenQuotes.pair {s : List Char} (hs : EvenQuotes s) : EvenQuotes ('"' :: '"' :: s) := by
  intro front n back h hfront hback
  match front with
  | [] =>
    -- the run begins with the pair, and its rest begins the text
    match n with
    | 0 => exact Even.zero
    | 1 =>
      obtain rfl : '"' :: s = back := (List.cons.inj h).2
      exact absurd rfl hback
    | n + 2 =>
      have hrest : s = [] ++ (List.replicate n '"' ++ back) := (List.cons.inj (List.cons.inj h).2).2
      exact (hs [] n back hrest (by simp) hback).add (by decide)
  | [x] =>
    obtain rfl : '"' = x := (List.cons.inj h).1
    exact absurd rfl hfront
  | x :: y :: front =>
    simp only [List.cons_append, List.cons.injEq] at h
    obtain ⟨-, rfl, hrest⟩ := h
    refine hs front n back hrest (fun hlast => hfront ?_) hback
    rw [List.getLast?_cons_cons, List.getLast?_cons, hlast]
    rfl

/-- A character that is no quote adds to no run. -/
theorem EvenQuotes.cons {c : Char} {s : List Char} (hc : c ≠ '"') (hs : EvenQuotes s) :
    EvenQuotes (c :: s) := by
  intro front n back h hfront hback
  match front with
  | [] =>
    match n with
    | 0 => exact Even.zero
    | n + 1 => exact absurd (List.cons.inj h).1 hc
  | x :: front =>
    refine hs front n back (List.cons.inj h).2 (fun hlast => hfront ?_) hback
    rw [List.getLast?_cons, hlast]
    rfl

/-- **Escaping makes every run of quotes even.** -/
theorem evenQuotes_escapeChars (s : List Char) : EvenQuotes (escapeChars s) := by
  induction s with
  | nil => exact evenQuotes_nil
  | cons c s ih =>
    rw [escapeChars_cons]
    by_cases hc : c = '"'
    · rw [if_pos hc]
      exact ih.pair
    · rw [if_neg hc]
      exact ih.cons hc

@[simp] theorem head?_escapeChars (s : List Char) : (escapeChars s).head? = s.head? := by
  cases s with
  | nil => rfl
  | cons c s =>
    rw [escapeChars_cons]
    by_cases hc : c = '"'
    · rw [if_pos hc, hc]
      rfl
    · rw [if_neg hc]
      rfl

theorem escapeChars_eq_nil_iff {s : List Char} : escapeChars s = [] ↔ s = [] := by
  rw [← List.head?_eq_none_iff, head?_escapeChars, List.head?_eq_none_iff]

/-- **Escaping makes no opening marker:** where one stands in the escaped text, it stood before. -/
theorem infix_of_infix_escapeChars {s : List Char} (h : ['<', '#'] <:+: escapeChars s) :
    ['<', '#'] <:+: s := by
  induction s with
  | nil => exact h
  | cons c s ih =>
    rw [escapeChars_cons] at h
    by_cases hc : c = '"'
    · -- neither of the two quotes begins a marker
      have hlater : ['<', '#'] <:+: escapeChars s := by
        simpa [if_pos hc, List.infix_cons_iff] using h
      exact (ih hlater).trans (List.suffix_cons c s).isInfix
    · rw [if_neg hc, List.singleton_append, List.infix_cons_iff] at h
      rcases h with hhere | hlater
      · obtain ⟨rfl, hsecond⟩ := List.cons_prefix_cons.mp hhere
        obtain ⟨rest, hrest⟩ := hsecond
        have hhead : s.head? = some '#' := by
          rw [← head?_escapeChars, ← hrest]
          rfl
        obtain ⟨t, rfl⟩ := List.head?_eq_some_iff.mp hhead
        exact ⟨[], t, rfl⟩
      · exact (ih hlater).trans (List.suffix_cons c s).isInfix

end Verbatim

end Stencil
