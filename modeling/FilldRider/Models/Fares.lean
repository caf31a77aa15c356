import FilldRider.Models.Ride
import Mathlib.Data.Rat.Floor
import Mathlib.Tactic.Linarith
import Mathlib.Tactic.NormNum
import Mathlib.Tactic.FieldSimp

/-!
# Fares and amounts

Amounts are exact rationals. `calculateFares` throws on missing values, which is
`none` here; stored amounts are decimal texts.
-/

set_option autoImplicit false

namespace FilldRider

/-- `double.truncate`: drop the fraction. -/
def truncate (value : ℚ) : Int := if 0 ≤ value then ⌊value⌋ else ⌈value⌉

def totalFareAmount (durationValue distanceValue : Int) : ℚ :=
  (durationValue / 60 : ℚ) * (20 / 100) + (distanceValue / 1000 : ℚ) * (20 / 100)

/-- `AssistantMethod.calculateFares`, with the global `rideType` as an argument. -/
def calculateFares (rideType : String) (directionDetails : DirectionDetails) : Option Int :=
  match directionDetails.durationValue, directionDetails.distanceValue with
  | some durationValue, some distanceValue =>
      let total := totalFareAmount durationValue distanceValue
      if rideType = "Rev-x" then some (truncate ((truncate total : ℚ) * 2))
      else if rideType = "Rev-Executive" then some (truncate total)
      else if rideType = "Rev-standard" then some (truncate ((truncate total : ℚ) / 2))
      else some (truncate total)
  | _, _ => none

/-- Directions of a leg so short that the truncated fare is nothing: less than one
cedi, or less than two where `Rev-standard` halves it. -/
def BelowMinimum (rideType : String) (directionDetails : DirectionDetails) : Prop :=
  ∃ duration distance : Nat, directionDetails.durationValue = some (duration : Int) ∧
    directionDetails.distanceValue = some (distance : Int) ∧
    50 * duration + 3 * distance < if rideType = "Rev-standard" then 30000 else 15000

theorem totalFareAmount_eq (durationValue distanceValue : Int) :
    totalFareAmount durationValue distanceValue =
      (50 * durationValue + 3 * distanceValue : Int) / 15000 := by
  unfold totalFareAmount
  push_cast
  ring

theorem truncate_intCast (value : Int) : truncate (value : ℚ) = value := by
  unfold truncate
  split <;> simp

theorem truncate_eq_zero {value : ℚ} (nonnegative : 0 ≤ value) (small : value < 1) :
    truncate value = 0 := by
  rw [truncate, if_pos nonnegative, Int.floor_eq_zero_iff]
  exact ⟨nonnegative, small⟩

theorem totalFareAmount_nonneg (duration distance : Nat) :
    0 ≤ totalFareAmount duration distance := by
  unfold totalFareAmount
  positivity

theorem calculateFares_of_belowMinimum {rideType : String} {directionDetails : DirectionDetails}
    (short : BelowMinimum rideType directionDetails) :
    calculateFares rideType directionDetails = some 0 := by
  obtain ⟨duration, distance, durationEq, distanceEq, bound⟩ := short
  have nonnegative := totalFareAmount_nonneg duration distance
  have closed := totalFareAmount_eq (duration : Int) (distance : Int)
  by_cases standard : rideType = "Rev-standard"
  · rw [if_pos standard] at bound
    have small : totalFareAmount duration distance < 2 := by
      rw [closed, div_lt_iff₀ (by norm_num)]
      exact_mod_cast bound
    have base : truncate (totalFareAmount duration distance) ≤ 1 := by
      rw [truncate, if_pos nonnegative]
      exact Int.lt_add_one_iff.mp (Int.floor_lt.mpr (by exact_mod_cast small))
    have start : 0 ≤ truncate (totalFareAmount duration distance) := by
      rw [truncate, if_pos nonnegative]
      exact Int.floor_nonneg.mpr nonnegative
    have halved : truncate ((truncate (totalFareAmount duration distance) : ℚ) / 2) = 0 := by
      apply truncate_eq_zero
      · have lower : (0 : ℚ) ≤ truncate (totalFareAmount duration distance) := by
          exact_mod_cast start
        linarith
      · have upper : (truncate (totalFareAmount duration distance) : ℚ) ≤ 1 := by
          exact_mod_cast base
        linarith
    subst standard
    simp [calculateFares, durationEq, distanceEq, halved]
  · rw [if_neg standard] at bound
    have small : totalFareAmount duration distance < 1 := by
      rw [closed, div_lt_iff₀ (by norm_num)]
      exact_mod_cast bound
    have base := truncate_eq_zero nonnegative small
    have doubled : truncate ((0 : ℚ) * 2) = 0 := by
      simpa using truncate_intCast 0
    simp only [calculateFares, durationEq, distanceEq, base, standard, if_false, Int.cast_zero,
      doubled, ite_self]

/-! ## Amounts as texts -/

/-- Unicode white space and the byte order mark. -/
def isWhiteSpace (char : Char) : Bool :=
  let code := char.toNat
  (9 ≤ code && code ≤ 13) || code = 0x20 || code = 0x85 || code = 0xA0 || code = 0x1680 ||
    (0x2000 ≤ code && code ≤ 0x200A) || code = 0x2028 || code = 0x2029 || code = 0x202F ||
    code = 0x205F || code = 0x3000 || code = 0xFEFF

def trim (text : String) : String :=
  String.ofList
    ((text.toList.dropWhile isWhiteSpace).reverse.dropWhile isWhiteSpace).reverse

def digitsValue (digits : List Char) : Nat :=
  digits.foldl (fun value digit => 10 * value + (digit.toNat - '0'.toNat)) 0

def parseExponent : List Char → Option Int
  | [] => some 0
  | mark :: rest =>
      if mark = 'e' ∨ mark = 'E' then
        let (negative, digits) := match rest with
          | '-' :: digits => (true, digits)
          | '+' :: digits => (false, digits)
          | digits => (false, digits)
        if digits = [] ∨ ¬ digits.all Char.isDigit then none
        else some (if negative then -(digitsValue digits : Int) else digitsValue digits)
      else none

def parseMantissa (source : List Char) : Option ℚ :=
  let (whole, rest) := source.span Char.isDigit
  let (fraction, rest) := match rest with
    | '.' :: after => after.span Char.isDigit
    | after => ([], after)
  if whole = [] ∧ fraction = [] then none
  else (parseExponent rest).map fun exponent =>
    (digitsValue (whole ++ fraction) : ℚ) / 10 ^ fraction.length * (10 : ℚ) ^ exponent

/-- A Dart double, the finite ones as exact values. -/
inductive Double where
  | finite (value : ℚ)
  | infinity (negative : Bool)
  | nan
  deriving DecidableEq

/-- An int plus a double. -/
def Double.addInt : Int → Double → Double
  | amount, .finite value => .finite (amount + value)
  | _, other => other

/-- A double literal after its sign. -/
def parseUnsigned (negative : Bool) (source : List Char) : Option Double :=
  if source = "Infinity".toList then some (.infinity negative)
  else if source = "NaN".toList then some .nan
  else (parseMantissa source).map fun value => .finite (if negative then -value else value)

/-- `double.parse`; `none` where it throws. -/
def doubleParse (source : String) : Option Double :=
  match (trim source).toList with
  | '-' :: rest => parseUnsigned true rest
  | '+' :: rest => parseUnsigned false rest
  | rest => parseUnsigned false rest

/-- `toStringAsFixed(2)`, rounding halves away from zero. -/
def toStringAsFixed2 : Double → String
  | .finite value =>
      let hundredths := (⌊|value| * 100 + 1 / 2⌋).toNat
      (if value < 0 then "-" else "") ++ toString (hundredths / 100) ++ "." ++
        toString (hundredths % 100 / 10) ++ toString (hundredths % 10)
  | .infinity negative => if negative then "-Infinity" else "Infinity"
  | .nan => "NaN"

/-- The amount a stored earnings text stands for; 0 when it stands for none. -/
def amount (earnings : Option String) : ℚ :=
  match earnings.bind doubleParse with
  | some (.finite value) => value
  | _ => 0

theorem doubleParse_databaseEvent (event : DatabaseEvent) :
    doubleParse event.toString = none := by
  show doubleParse "Instance of 'DatabaseEvent'" = none
  decide

end FilldRider
