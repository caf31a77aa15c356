import Mathlib.Algebra.Order.Monoid.Canonical.Defs
import Mathlib.Algebra.Order.Ring.Nat

/-!
# Nearly additive amounts

An amount computed with roundings is not additive. It is nearly so when splitting the
argument never raises the total and lowers it by no more than a fixed defect; the
roundings of a computation compose to such a defect.
-/

set_option autoImplicit false

namespace FilldRider.Numbers

structure NearlyAdditive {M : Type} [Add M] (f : M → ℕ) (defect : ℕ) : Prop where
  superadditive : ∀ first second, f first + f second ≤ f (first + second)
  bounded : ∀ first second, f (first + second) ≤ f first + f second + defect

namespace NearlyAdditive

section Rules

variable {M : Type} [Add M] {f : M → ℕ} {defect : ℕ}

theorem of_additive (additive : ∀ first second, f (first + second) = f first + f second) :
    NearlyAdditive f 0 :=
  ⟨fun first second => (additive first second).ge,
    fun first second => (additive first second).le⟩

theorem const_mul (nearly : NearlyAdditive f defect) (factor : ℕ) :
    NearlyAdditive (fun amount => factor * f amount) (factor * defect) where
  superadditive first second := by
    rw [← Nat.mul_add]
    exact Nat.mul_le_mul_left factor (nearly.superadditive first second)
  bounded first second := by
    rw [← Nat.mul_add, ← Nat.mul_add]
    exact Nat.mul_le_mul_left factor (nearly.bounded first second)

/-- Rounding a quotient down adds less than one for each of the two parts. -/
theorem div (nearly : NearlyAdditive f defect) {divisor : ℕ} (positive : 0 < divisor) :
    NearlyAdditive (fun amount => f amount / divisor)
      ((defect + 2 * (divisor - 1)) / divisor) where
  superadditive first second := by
    exact Nat.div_add_div_le_add_div.trans
      (Nat.div_le_div_right (nearly.superadditive first second))
  bounded first second := by
    have bound := nearly.bounded first second
    have firstPart := Nat.div_add_mod (f first) divisor
    have secondPart := Nat.div_add_mod (f second) divisor
    have firstRest := Nat.mod_lt (f first) positive
    have secondRest := Nat.mod_lt (f second) positive
    have collected : f (first + second) ≤
        defect + 2 * (divisor - 1) + divisor * (f first / divisor + f second / divisor) := by
      rw [Nat.mul_add]
      omega
    calc
      f (first + second) / divisor
          ≤ (defect + 2 * (divisor - 1) + divisor * (f first / divisor + f second / divisor)) /
              divisor := Nat.div_le_div_right collected
      _ = f first / divisor + f second / divisor + (defect + 2 * (divisor - 1)) / divisor := by
          rw [Nat.add_mul_div_left _ _ positive, Nat.add_comm]

end Rules

theorem monotone {M : Type} [AddCommMonoid M] [Preorder M] [CanonicallyOrderedAdd M]
    {f : M → ℕ} {defect : ℕ} (nearly : NearlyAdditive f defect) : Monotone f := by
  intro smaller larger le
  obtain ⟨rest, rfl⟩ := exists_add_of_le le
  exact (Nat.le_add_right ..).trans (nearly.superadditive smaller rest)

end NearlyAdditive

end FilldRider.Numbers
