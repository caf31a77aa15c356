import FilldRider.Models.Fares
import FilldRider.Numbers.NearlyAdditive
import Mathlib.Algebra.Order.Monoid.Prod

/-!
# The fare schedule

`calculateFares` in whole numbers: one quotient for the base, doubled or halved by the
class. The schedule is nearly additive, and it is not the one the app explains to users.
-/

set_option autoImplicit false

namespace FilldRider

open Numbers

/-- Directions of a leg that have a time and a length. -/
structure LegDetails extends DirectionDetails where
  duration : ℕ
  distance : ℕ
  timed : durationValue = some (duration : Int)
  measured : distanceValue = some (distance : Int)

def baseFare (leg : ℕ × ℕ) : ℕ := (50 * leg.1 + 3 * leg.2) / 15000

/-- What the class of the rider makes of the base. -/
def classFare (rideType : String) (base : ℕ) : ℕ :=
  if rideType = "Rev-x" then 2 * base
  else if rideType = "Rev-standard" then base / 2
  else base

theorem truncate_natCast_div (numerator denominator : ℕ) :
    truncate ((numerator : ℚ) / denominator) = (numerator / denominator : ℕ) := by
  have nonnegative : (0 : ℚ) ≤ numerator / denominator := by positivity
  rw [truncate, if_pos nonnegative]
  exact Rat.floor_natCast_div_natCast numerator denominator

theorem truncate_totalFareAmount (duration distance : ℕ) :
    truncate (totalFareAmount duration distance) = (baseFare (duration, distance) : ℕ) := by
  have quotient := truncate_natCast_div (50 * duration + 3 * distance) 15000
  rw [totalFareAmount_eq, baseFare, ← quotient]
  push_cast
  rfl

theorem calculateFares_leg (rideType : String) (leg : LegDetails) :
    calculateFares rideType leg.toDirectionDetails =
      some ((classFare rideType (baseFare (leg.duration, leg.distance)) : ℕ) : Int) := by
  have base := truncate_totalFareAmount leg.duration leg.distance
  have doubled : truncate (((baseFare (leg.duration, leg.distance) : ℕ) : ℚ) * 2) =
      (2 * baseFare (leg.duration, leg.distance) : ℕ) := by
    have cast := truncate_intCast (2 * baseFare (leg.duration, leg.distance) : ℕ)
    push_cast at cast ⊢
    rwa [mul_comm]
  have halved := truncate_natCast_div (baseFare (leg.duration, leg.distance)) 2
  simp only [calculateFares, leg.timed, leg.measured, classFare, base, Int.cast_natCast, doubled]
  push_cast at halved ⊢
  rw [halved]
  split
  · rfl
  · split
    · next executive =>
      rw [if_neg (by rw [executive]; decide)]
    · split <;> rfl

/-- The fare of a leg, which `calculateFares` always finds. -/
def LegDetails.fare (rideType : String) (leg : LegDetails) : Int :=
  (calculateFares rideType leg.toDirectionDetails).get (by rw [calculateFares_leg]; rfl)

theorem LegDetails.fare_eq (rideType : String) (leg : LegDetails) :
    leg.fare rideType = (classFare rideType (baseFare (leg.duration, leg.distance)) : ℕ) := by
  simp only [fare, calculateFares_leg, Option.get_some]

/-! ## Several legs -/

theorem baseFare_nearlyAdditive : NearlyAdditive baseFare 1 := by
  have linear : NearlyAdditive (fun leg : ℕ × ℕ => 50 * leg.1 + 3 * leg.2) 0 := by
    apply NearlyAdditive.of_additive
    intro first second
    simp only [Prod.fst_add, Prod.snd_add]
    ring
  have positive : 0 < 15000 := by norm_num
  exact linear.div positive

theorem classFare_nearlyAdditive (rideType : String) :
    NearlyAdditive (fun leg => classFare rideType (baseFare leg))
      (if rideType = "Rev-x" then 2 else 1) := by
  unfold classFare
  split
  · exact baseFare_nearlyAdditive.const_mul 2
  · split
    · exact baseFare_nearlyAdditive.div Nat.zero_lt_two
    · exact baseFare_nearlyAdditive

/-- Fares are monotone, ordered by class, and splitting a trip never pays. -/
theorem LegDetails.fare_laws (rideType : String) :
    (∀ leg : LegDetails, 0 ≤ leg.fare rideType) ∧
    (∀ shorter longer : LegDetails, shorter.duration ≤ longer.duration →
      shorter.distance ≤ longer.distance → shorter.fare rideType ≤ longer.fare rideType) ∧
    (∀ first second whole : LegDetails, whole.duration = first.duration + second.duration →
      whole.distance = first.distance + second.distance →
      first.fare rideType + second.fare rideType ≤ whole.fare rideType ∧
        whole.fare rideType ≤ first.fare rideType + second.fare rideType +
          if rideType = "Rev-x" then 2 else 1) ∧
    ∀ leg : LegDetails, 2 * leg.fare "Rev-standard" ≤ leg.fare "Rev-Executive" ∧
      leg.fare "Rev-Executive" ≤ 2 * leg.fare "Rev-standard" + 1 ∧
      leg.fare "Rev-x" = 2 * leg.fare "Rev-Executive" := by
  have nearly := classFare_nearlyAdditive rideType
  refine ⟨?_, ?_, ?_, ?_⟩
  · intro leg
    rw [fare_eq]
    exact Int.natCast_nonneg _
  · intro shorter longer quicker nearer
    rw [fare_eq, fare_eq, Int.ofNat_le]
    exact nearly.monotone (Prod.mk_le_mk.mpr ⟨quicker, nearer⟩)
  · intro first second whole times lengths
    have lower := nearly.superadditive (first.duration, first.distance)
      (second.duration, second.distance)
    have upper := nearly.bounded (first.duration, first.distance)
      (second.duration, second.distance)
    rw [Prod.mk_add_mk, ← times, ← lengths] at lower upper
    rw [fare_eq, fare_eq, fare_eq]
    exact ⟨by exact_mod_cast lower, by exact_mod_cast upper⟩
  · intro leg
    simp only [fare_eq, classFare, reduceIte, String.reduceEq]
    omega

def sampleLeg (duration distance : ℕ) : LegDetails :=
  { durationValue := some duration, distanceValue := some distance,
    duration, distance, timed := rfl, measured := rfl }

theorem fare_laws_sampleLeg :
    (sampleLeg 300 5000).fare "Rev-x" ≤ (sampleLeg 1500 12000).fare "Rev-x" ∧
      (sampleLeg 300 5000).fare "Rev-x" + (sampleLeg 1200 7000).fare "Rev-x" ≤
        (sampleLeg 1500 12000).fare "Rev-x" := by
  obtain ⟨_, monotone, splits, _⟩ := LegDetails.fare_laws "Rev-x"
  exact ⟨monotone _ _ (by decide) (by decide), (splits _ _ _ rfl rfl).1⟩

/-! ## The published schedule -/

/-- The explanation of `showCalculationDialog`: a flat fee below 500 metres, otherwise
a rate per metre, and a rate per minute. -/
def publishedFare (duration distance : ℕ) : ℚ :=
  (if distance < 500 then (5 : ℚ) else 11 / 1000 * distance) + duration / 60 * (20 / 100)

theorem truncate_publishedFare (duration distance : ℕ) :
    truncate (publishedFare duration distance) =
      ((if distance < 500 then 5 + duration / 300
        else (50 * duration + 165 * distance) / 15000 : ℕ) : Int) := by
  unfold publishedFare
  by_cases near : distance < 500
  · rw [if_pos near, if_pos near]
    have quotient := truncate_natCast_div (1500 + duration) 300
    have same : (1500 + duration) / 300 = 5 + duration / 300 := by omega
    rw [← same, ← quotient]
    congr 1
    push_cast
    ring
  · rw [if_neg near, if_neg near]
    have quotient := truncate_natCast_div (50 * duration + 165 * distance) 15000
    rw [← quotient]
    congr 1
    push_cast
    ring

/-- The schedule of the code stays below the published one for every trip. -/
theorem baseFare_lt_publishedFare (duration distance : ℕ) :
    (baseFare (duration, distance) : Int) < truncate (publishedFare duration distance) := by
  rw [truncate_publishedFare, baseFare, Int.ofNat_lt]
  split <;> dsimp only <;> omega

/-- No trip of the default class is charged as published. -/
theorem calculateFares_ne_publishedFare (leg : LegDetails) {rideType : String}
    (default : rideType ∉ ["Rev-x", "Rev-Executive", "Rev-standard"]) :
    calculateFares rideType leg.toDirectionDetails ≠
      some (truncate (publishedFare leg.duration leg.distance)) := by
  have below := baseFare_lt_publishedFare leg.duration leg.distance
  simp only [List.mem_cons, List.not_mem_nil, or_false, not_or] at default
  rw [calculateFares_leg, classFare, if_neg default.1, if_neg default.2.2]
  intro same
  rw [Option.some.injEq] at same
  omega

theorem calculateFares_ne_publishedFare_sampleLeg :
    calculateFares "" (sampleLeg 600 1000).toDirectionDetails ≠
      some (truncate (publishedFare 600 1000)) :=
  calculateFares_ne_publishedFare (sampleLeg 600 1000) (by decide)

/-- A kilometre in ten minutes costs 2 instead of 13. -/
theorem not_calculateFares_eq_publishedFare :
    ¬ ∀ (rideType : String) (leg : LegDetails),
      rideType ∉ ["Rev-x", "Rev-Executive", "Rev-standard"] →
      calculateFares rideType leg.toDirectionDetails =
        some (truncate (publishedFare leg.duration leg.distance)) := by
  intro charged
  have same := charged "" (sampleLeg 600 1000) (by decide)
  have base : calculateFares "" (sampleLeg 600 1000).toDirectionDetails = some 2 := by
    decide +kernel
  have published : truncate (publishedFare 600 1000) = 13 := truncate_publishedFare 600 1000
  rw [base, Option.some.injEq] at same
  exact absurd (same.trans published) (by decide)

end FilldRider
