/-!
# Lists of entries by key

An entry is found under its key by `List.lookup`, which takes the first one.  Entries are replaced
by leaving out those under a key and putting a new one in front.

## Main definitions

* `without` — the entries under other keys.

## Main results

* `mem_of_lookup` — what is found is one of the entries.
* `lookup_without` — leaving out a key changes what is found under that key only.
* `without_eq_self` — leaving out a key that is not there changes nothing.
-/

namespace Stencil

variable {α β : Type} [BEq α]

/-- The entries under other keys. -/
def without (key : α) (entries : List (α × β)) : List (α × β) :=
  entries.filter fun e => e.1 != key

variable [LawfulBEq α]

/-- What is found under a key is one of the entries. -/
theorem mem_of_lookup {key : α} {value : β} {entries : List (α × β)}
    (h : entries.lookup key = some value) : (key, value) ∈ entries := by
  obtain ⟨front, back, rfl, -⟩ := List.lookup_eq_some_iff.mp h
  exact List.mem_append_right front List.mem_cons_self

theorem without_cons_self (key : α) (value : β) (entries : List (α × β)) :
    without key ((key, value) :: entries) = without key entries := by
  simp [without]

theorem without_cons_of_ne {key other : α} (h : other ≠ key) (value : β)
    (entries : List (α × β)) :
    without key ((other, value) :: entries) = (other, value) :: without key entries := by
  simp [without, h]

/-- Leaving out a key changes what is found under that key only. -/
theorem lookup_without [DecidableEq α] (key other : α) (entries : List (α × β)) :
    (without key entries).lookup other = if other = key then none else entries.lookup other := by
  induction entries with
  | nil => simp [without]
  | cons entry rest ih =>
    obtain ⟨k, v⟩ := entry
    by_cases hk : k = key
    · subst hk
      rw [without_cons_self, ih, List.lookup_cons]
      by_cases ho : other = k
      · simp [ho]
      · rw [beq_false_of_ne ho]
    · rw [without_cons_of_ne hk, List.lookup_cons, List.lookup_cons, ih]
      by_cases ho : other = key
      · subst ho
        rw [beq_false_of_ne (Ne.symm hk)]
      · simp [ho]

/-- Leaving out a key that is not there changes nothing. -/
theorem without_eq_self {key : α} {entries : List (α × β)} (h : entries.lookup key = none) :
    without key entries = entries := by
  rw [List.lookup_eq_none_iff] at h
  refine List.filter_eq_self.2 fun e he => ?_
  have := h e he
  rw [bne_iff_ne]
  rintro rfl
  simp at this

end Stencil
