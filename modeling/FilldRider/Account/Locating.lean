import FilldRider.Models.Ride
import FilldRider.Runs.Retry

/-!
# The location lookup of the sign-in page

`_getCurrentLocation` calls itself in the block that catches every error, also the one
of a `setState` after the widget is disposed. Nothing bounds the attempts.
-/

set_option autoImplicit false

namespace FilldRider

open Runs

structure Placemark where
  name : Option String := none
  locality : Option String := none
  administrativeArea : Option String := none

def Placemark.fullAddress (placemark : Placemark) : String :=
  placemark.name.getD "" ++ ", " ++ placemark.locality.getD "" ++ ", " ++
    placemark.administrativeArea.getD ""

/-- What one attempt meets: the replies, `none` for an error such as a denied
permission, and whether its `setState` finds the widget mounted. -/
structure Lookup where
  position : Option LatLng
  placemarks : Option (List Placemark)
  mounted : Bool

inductive LookupError where
  | position
  | placemarks
  | disposed

/-- One attempt; an error is caught and starts the next. -/
def locationAttempt {Page : Type} (assign : LatLng → String → Page → Page) (page : Page)
    (lookup : Lookup) : Except LookupError Page :=
  match lookup.position with
  | none => .error .position
  | some position =>
      match lookup.placemarks with
      | none => .error .placemarks
      | some [] => .ok page
      | some (placemark :: _) =>
          if lookup.mounted then .ok (assign position placemark.fullAddress page)
          else .error .disposed

structure AuthPageState where
  currentPosition : Option LatLng := none
  locationController : String := ""

def AuthPageState.getCurrentLocation : AuthPageState → Lookup → Except LookupError AuthPageState :=
  locationAttempt fun position fullAddress page =>
    { page with currentPosition := some position, locationController := fullAddress }

structure SignUpFormState where
  currentPosition : Option LatLng := none

/-- The assignments of this `setState` are commented out. -/
def SignUpFormState.getCurrentLocation :
    SignUpFormState → Lookup → Except LookupError SignUpFormState :=
  locationAttempt fun _ _ page => page

/-- The replies to all attempts a call could make, and the attempt whose `setState` is
the first to find the widget disposed, if any is. -/
structure Surroundings where
  position : ℕ → Option LatLng
  placemarks : ℕ → Option (List Placemark)
  disposed : Option ℕ := none

namespace Surroundings

def mounted (surroundings : Surroundings) (attempt : ℕ) : Bool :=
  surroundings.disposed.all fun disposed => attempt < disposed

def lookup (surroundings : Surroundings) (attempt : ℕ) : Lookup where
  position := surroundings.position attempt
  placemarks := surroundings.placemarks attempt
  mounted := surroundings.mounted attempt

/-- Some attempt would be answered without an error, and with no address to show or a
widget to show it in. -/
def Answers (surroundings : Surroundings) : Prop :=
  ∃ attempt position placemarks, surroundings.position attempt = some position ∧
    surroundings.placemarks attempt = some placemarks ∧
    (placemarks = [] ∨ surroundings.mounted attempt = true)

end Surroundings

theorem locationAttempt_eq_ok {Page : Type} {assign : LatLng → String → Page → Page} {page : Page}
    {lookup : Lookup} :
    (∃ next, locationAttempt assign page lookup = .ok next) ↔
      ∃ position placemarks, lookup.position = some position ∧
        lookup.placemarks = some placemarks ∧ (placemarks = [] ∨ lookup.mounted = true) := by
  cases located : lookup.position with
  | none => simp [locationAttempt, located]
  | some position =>
      cases found : lookup.placemarks with
      | none => simp [locationAttempt, located, found]
      | some placemarks =>
          cases placemarks with
          | nil => simp [locationAttempt, located, found]
          | cons placemark rest =>
              cases shown : lookup.mounted <;> simp [locationAttempt, located, found, shown]

theorem finite_locationAttempts_iff {Page : Type} (assign : LatLng → String → Page → Page)
    (page : Page) (surroundings : Surroundings) :
    (attempts (locationAttempt assign) page surroundings.lookup).Finite ↔
      surroundings.Answers := by
  rw [finite_attempts_iff]
  simp only [locationAttempt_eq_ok]
  rfl

/-- On both pages the lookup ends exactly if its surroundings come to answer it. -/
theorem finite_getCurrentLocation_iff (page : AuthPageState) (form : SignUpFormState)
    (surroundings : Surroundings) :
    ((attempts AuthPageState.getCurrentLocation page surroundings.lookup).Finite ↔
        surroundings.Answers) ∧
      ((attempts SignUpFormState.getCurrentLocation form surroundings.lookup).Finite ↔
        surroundings.Answers) :=
  ⟨finite_locationAttempts_iff _ page surroundings,
    finite_locationAttempts_iff _ form surroundings⟩

/-- The rider never grants the permission. -/
def permissionDenied : Surroundings where
  position _ := none
  placemarks _ := none

/-- The page is left before the first address is found. -/
def leftEarly : Surroundings where
  position _ := some ⟨5, 1⟩
  placemarks _ := some [{ name := some "Circle" }]
  disposed := some 0

theorem not_finite_getCurrentLocation :
    (¬ ∀ (page : AuthPageState) (surroundings : Surroundings),
      (attempts AuthPageState.getCurrentLocation page surroundings.lookup).Finite) ∧
    ¬ ∀ (form : SignUpFormState) (surroundings : Surroundings),
      (attempts SignUpFormState.getCurrentLocation form surroundings.lookup).Finite := by
  constructor
  · intro finite
    obtain ⟨attempt, next, ends⟩ := finite_attempts_iff.mp (finite {} permissionDenied)
    cases ends
  · intro finite
    obtain ⟨attempt, next, ends⟩ := finite_attempts_iff.mp (finite {} leftEarly)
    cases ends

end FilldRider
