import Mathlib.Data.Set.Finite.Lattice
import Mathlib.Order.Interval.Set.Nat

/-!
# Unbounded retries

An action that is started again whenever it fails, with one outcome of its surroundings
for each attempt. A failed attempt leaves the state as it was.
-/

set_option autoImplicit false

namespace FilldRider.Runs

variable {State Outcome Error : Type}

/-- The state in which the attempt of this number starts, if it does. -/
def retried (attempt : State → Outcome → Except Error State) (state : State)
    (outcomes : ℕ → Outcome) : ℕ → Option State
  | 0 => some state
  | number + 1 =>
      match retried attempt state outcomes number with
      | none => none
      | some reached =>
          match attempt reached (outcomes number) with
          | .error _ => some reached
          | .ok _ => none

/-- The numbers of the attempts that are started. -/
def attempts (attempt : State → Outcome → Except Error State) (state : State)
    (outcomes : ℕ → Outcome) : Set ℕ :=
  {number | (retried attempt state outcomes number).isSome}

variable {attempt : State → Outcome → Except Error State} {state : State} {outcomes : ℕ → Outcome}

def Fails (attempt : State → Outcome → Except Error State) (state : State) (outcome : Outcome) :
    Prop :=
  ∃ thrown, attempt state outcome = .error thrown

theorem not_fails_iff {outcome : Outcome} :
    ¬ Fails attempt state outcome ↔ ∃ next, attempt state outcome = .ok next := by
  cases result : attempt state outcome with
  | error thrown => simp [Fails, result]
  | ok next => simp [Fails, result]

/-- An attempt starts, in the state of the first one, when all before it have failed. -/
theorem retried_eq_some_iff {number : ℕ} {reached : State} :
    retried attempt state outcomes number = some reached ↔
      reached = state ∧ ∀ earlier < number, Fails attempt state (outcomes earlier) := by
  induction number generalizing reached with
  | zero =>
      simp only [retried, Option.some.injEq, Nat.not_lt_zero, false_implies, implies_true,
        and_true]
      exact eq_comm
  | succ number ih =>
      rw [Nat.forall_lt_succ_right]
      cases started : retried attempt state outcomes number with
      | none =>
          simp only [retried, started, reduceCtorEq, false_iff]
          intro failed
          rw [ih.mpr ⟨rfl, failed.2.1⟩] at started
          cases started
      | some earlier =>
          obtain ⟨rfl, all⟩ := ih.mp started
          cases result : attempt earlier (outcomes number) with
          | error thrown =>
              simp only [retried, started, result, Option.some.injEq]
              exact ⟨fun same => ⟨same.symm, all, thrown, result⟩, fun failed => failed.1.symm⟩
          | ok next =>
              simp only [retried, started, result, reduceCtorEq, false_iff]
              intro failed
              exact not_fails_iff.mpr ⟨next, result⟩ failed.2.2

theorem mem_attempts_iff {number : ℕ} :
    number ∈ attempts attempt state outcomes ↔
      ∀ earlier < number, Fails attempt state (outcomes earlier) := by
  show (retried attempt state outcomes number).isSome ↔ _
  simp only [Option.isSome_iff_exists, retried_eq_some_iff, exists_eq_left]

/-- The retries end exactly if some outcome lets an attempt succeed. -/
theorem finite_attempts_iff :
    (attempts attempt state outcomes).Finite ↔
      ∃ number next, attempt state (outcomes number) = .ok next := by
  constructor
  · intro finite
    by_contra never
    have all : attempts attempt state outcomes = Set.univ := by
      rw [Set.eq_univ_iff_forall]
      intro number
      rw [mem_attempts_iff]
      intro earlier _
      by_contra ends
      exact never ⟨earlier, not_fails_iff.mp ends⟩
    rw [all] at finite
    exact Set.infinite_univ finite
  · intro succeeds
    obtain ⟨number, ends⟩ := succeeds
    apply (Set.finite_Iic number).subset
    intro later started
    rw [mem_attempts_iff] at started
    by_contra beyond
    exact not_fails_iff.mpr ends (started number (not_le.mp beyond))

end FilldRider.Runs
