import Mathlib.Data.List.Basic

/-!
# The newest value

A party that measures values and only ever tells the newest one. What it has told by
then are measured values, in the order in which they were measured.
-/

set_option autoImplicit false

namespace FilldRider.Runs

variable {Value : Type}

/-- What was measured and what was told, by a party that tells its newest value. -/
inductive Repeats : List Value → List Value → Prop where
  | nil : Repeats [] []
  | measure {measured told : List Value} (value : Value) :
      Repeats measured told → Repeats (measured ++ [value]) told
  | tell {measured told : List Value} {value : Value} :
      Repeats (measured ++ [value]) told → Repeats (measured ++ [value]) (told ++ [value])

variable {measured told more : List Value} {value : Value}

theorem Repeats.newest (repeats : Repeats measured told)
    (newest : measured.getLast? = some value) : Repeats measured (told ++ [value]) := by
  obtain ⟨earlier, rfl⟩ := List.getLast?_eq_some_iff.mp newest
  exact repeats.tell

/-- What was told first does not depend on what is told later. -/
theorem Repeats.of_append (repeats : Repeats measured (told ++ more)) : Repeats measured told := by
  generalize all : told ++ more = spoken at repeats
  induction repeats generalizing more with
  | nil =>
      obtain ⟨rfl, _⟩ := List.append_eq_nil_iff.mp all
      exact .nil
  | measure value _ ih => exact (ih all).measure value
  | @tell measured told' value repeats ih =>
      rcases List.eq_nil_or_concat more with rfl | ⟨others, last, rfl⟩
      · rw [List.append_nil] at all
        rw [all]
        exact repeats.tell
      · rw [List.concat_eq_append, ← List.append_assoc] at all
        exact ih (List.append_inj_left' all rfl)

/-- The told values belong to moments of measuring that never go back. -/
theorem Repeats.moments (repeats : Repeats measured told) :
    ∃ moments : List Nat, moments.Pairwise (· ≤ ·) ∧
      moments.map (fun moment => measured[moment]?) = told.map some := by
  have inside : ∃ moments : List Nat, moments.Pairwise (· ≤ ·) ∧
      (∀ moment ∈ moments, moment < measured.length) ∧
      moments.map (fun moment => measured[moment]?) = told.map some := by
    induction repeats with
    | nil => exact ⟨[], .nil, by simp, rfl⟩
    | @measure measured told value _ ih =>
        obtain ⟨moments, ordered, before, same⟩ := ih
        refine ⟨moments, ordered, ?_, ?_⟩
        · intro moment member
          rw [List.length_append]
          exact Nat.lt_add_right _ (before moment member)
        · rw [← same]
          apply List.map_congr_left
          intro moment member
          exact List.getElem?_append_left (before moment member)
    | @tell measured told value _ ih =>
        obtain ⟨moments, ordered, before, same⟩ := ih
        refine ⟨moments ++ [measured.length], ?_, ?_, ?_⟩
        · rw [List.pairwise_append]
          refine ⟨ordered, List.pairwise_singleton _ _, ?_⟩
          intro moment member last here
          rw [List.mem_singleton.mp here]
          have bound := before moment member
          rw [List.length_append, List.length_singleton] at bound
          omega
        · intro moment member
          rcases List.mem_append.mp member with old | new
          · exact before moment old
          · rw [List.mem_singleton.mp new, List.length_append, List.length_singleton]
            exact Nat.lt_succ_self _
        · rw [List.map_append, List.map_append, same]
          simp
  obtain ⟨moments, ordered, _, same⟩ := inside
  exact ⟨moments, ordered, same⟩

end FilldRider.Runs
