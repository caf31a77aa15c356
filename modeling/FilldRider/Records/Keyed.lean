import Mathlib.Data.Finset.Insert
import Mathlib.Data.Finset.Filter
import Mathlib.Data.Set.Function

/-!
# Sets of entries with a key

A set compares whole entries, so it may hold two of one key. Replacing by key leaves
the new entry the only one of its key, and the entries of other keys alone.
-/

set_option autoImplicit false

namespace FilldRider.Records

variable {α Key : Type} [DecidableEq α] [DecidableEq Key] {key : α → Key} {entries : Finset α}
  {entry other : α}

def KeysUnique (key : α → Key) (entries : Finset α) : Prop := Set.InjOn key entries

/-- Remove the entries with the key of a new one, and add it. -/
def replace (key : α → Key) (entry : α) (entries : Finset α) : Finset α :=
  insert entry (entries.filter fun other => key other ≠ key entry)

theorem mem_replace :
    other ∈ replace key entry entries ↔
      other = entry ∨ other ∈ entries ∧ key other ≠ key entry := by
  rw [replace, Finset.mem_insert, Finset.mem_filter]

omit [DecidableEq α] [DecidableEq Key] in
theorem KeysUnique.eq_of_mem (unique : KeysUnique key entries) (first : entry ∈ entries)
    (second : other ∈ entries) (same : key entry = key other) : entry = other :=
  unique first second same

/-- Afterwards the new entry is the only one of its key. -/
theorem filter_replace (key : α → Key) (entry : α) (entries : Finset α) :
    (replace key entry entries).filter (fun other => key other = key entry) = {entry} := by
  ext other
  rw [Finset.mem_filter, mem_replace, Finset.mem_singleton]
  constructor
  · rintro ⟨rfl | ⟨_, different⟩, same⟩
    · rfl
    · exact absurd same different
  · rintro rfl
    exact ⟨.inl rfl, rfl⟩

/-- The entries of other keys are left alone. -/
theorem filter_ne_replace (key : α → Key) (entry : α) (entries : Finset α) :
    (replace key entry entries).filter (fun other => key other ≠ key entry) =
      entries.filter fun other => key other ≠ key entry := by
  ext other
  rw [Finset.mem_filter, mem_replace, Finset.mem_filter]
  constructor
  · rintro ⟨rfl | ⟨member, _⟩, different⟩
    · exact absurd rfl different
    · exact ⟨member, different⟩
  · rintro ⟨member, different⟩
    exact ⟨.inr ⟨member, different⟩, different⟩

end FilldRider.Records
