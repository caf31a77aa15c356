import FilldRider.App.Moves
import FilldRider.Models.FareLaws

/-!
# The rider's class

Every home tab that is built reads `car_details/type` and assigns the process-wide
`rideType`, which the fare of a trip is computed with. It assigns the text of the
event, so whatever is stored, trips are charged as for the default class.
-/

set_option autoImplicit false

namespace FilldRider

open Runs

structure ClassedApp where
  app : App
  /-- Calls of `getRideType` that wait for the record, by whether their tab is mounted. -/
  reads : List Bool := []

inductive ClassEvent where
  | app (event : AppEvent)
  | homeBuilt
  | homeGone (read : Nat)
  | rideTypeRead (read : Nat)

inductive ClassAction where
  | rideTypeRead
  | write (write : DbWrite)
  deriving DecidableEq

/-- The callback of `getRideType`; once the tab is gone `setState` throws before its own. -/
def getRideType (mounted : Bool) (value : DatabaseEvent) : Option String :=
  if mounted then some value.toString else none

namespace ClassedApp

def run (classed : ClassedApp) (reads : List Bool) (event : AppEvent) :
    Option (ClassedApp × List ClassAction) :=
  (classed.app.step event).map fun result => (⟨result.1, reads⟩, result.2.map .write)

/-- Only `getRideType` assigns the class. -/
def step (stored : String) (classed : ClassedApp) :
    ClassEvent → Option (ClassedApp × List ClassAction)
  | .app (.rideType _) => none
  | .app event => classed.run classed.reads event
  | .homeBuilt => some ({ classed with reads := classed.reads ++ [true] }, [])
  | .homeGone read => some ({ classed with reads := classed.reads.set read false }, [])
  | .rideTypeRead read =>
      match classed.reads[read]? with
      | none => none
      | some mounted =>
          let answered := { classed with reads := classed.reads.eraseIdx read }
          match getRideType mounted ⟨some stored⟩ with
          | none => some (answered, [.rideTypeRead])
          | some rideType =>
              some ({ answered with app := { classed.app with rideType := rideType } },
                [.rideTypeRead])

def component (stored : String) : Component ClassedApp ClassEvent ClassAction := step stored

/-- The class as it was declared, or the text of an event. -/
def Unread (classed : ClassedApp) : Prop :=
  ∃ event : DatabaseEvent, classed.app.rideType ∈ ["", event.toString]

end ClassedApp

variable {stored : String} {classed next : ClassedApp} {event : ClassEvent}
  {emitted : List ClassAction}

theorem App.step_rideType {before after : App} {event : AppEvent} {writes : List DbWrite}
    (other : ∀ rideType, event ≠ .rideType rideType)
    (stepped : before.step event = some (after, writes)) : after.rideType = before.rideType := by
  cases App.step_moves stepped with
  | rideType => exact absurd rfl (other _)
  | home | accept | slotRead | taken | refused | built | screen | saved | profile => rfl

/-- Apart from `getRideType` no step touches the class. -/
theorem ClassedApp.unread_of_step (unread : classed.Unread)
    (stepped : classed.step stored event = some (next, emitted)) : next.Unread := by
  cases event with
  | app event =>
      have other : ∀ rideType, event ≠ .rideType rideType := by
        rintro rideType rfl
        cases stepped
      have ran : classed.run classed.reads event = some (next, emitted) := by
        cases event <;> first | exact absurd rfl (other _) | exact stepped
      obtain ⟨⟨after, writes⟩, moved, same⟩ := Option.map_eq_some_iff.mp ran
      cases same
      rw [Unread, App.step_rideType other moved]
      exact unread
  | homeBuilt =>
      cases stepped
      exact unread
  | homeGone read =>
      cases stepped
      exact unread
  | rideTypeRead read =>
      simp only [step] at stepped
      split at stepped
      · cases stepped
      · next mounted found =>
        cases mounted
        · cases stepped
          exact unread
        · cases stepped
          exact ⟨⟨some stored⟩, by simp⟩

/-! ## The class in the fare -/

theorem classFare_of_unread (unread : classed.Unread) (base : ℕ) :
    classFare classed.app.rideType base = base := by
  obtain ⟨event, declared⟩ := unread
  simp only [List.mem_cons, List.not_mem_nil, or_false] at declared
  rcases declared with same | same <;> rw [same] <;> rfl

theorem classFare_eq_self (rideType : String) (base : ℕ) :
    classFare rideType base = base ↔ rideType ∉ ["Rev-x", "Rev-standard"] ∨ base = 0 := by
  unfold classFare
  split
  · next double =>
    subst double
    simp only [List.mem_cons, true_or, not_true, false_or]
    omega
  · next notDouble =>
    split
    · next halved =>
      subst halved
      simp only [List.mem_cons, true_or, or_true, not_true, false_or]
      omega
    · next notHalved => simp [notDouble, notHalved]

/-- The reply with which a copy of the handler computes the fare of a ride. -/
def endsTrip (ride copy : Nat) (leg : LegDetails) : ClassEvent :=
  .app (.screen ride (.reply copy (.directions (some leg.toDirectionDetails))))

/-- A mounted ride screen has a copy that waits for the directions of the trip. -/
def ClassedApp.Awaits (classed : ClassedApp) (ride copy : Nat) : Prop :=
  ∃ screen label, classed.app.screens[ride]? = some screen ∧ screen.mounted = true ∧
    screen.taps[copy]? = some ⟨label, .endDirections⟩

/-- Once a read of the class has completed, a fare is the one of the stored class. -/
def ChargesStored (stored : String) (history : List ClassAction) (classed : ClassedApp)
    (event : ClassEvent) : Prop :=
  .rideTypeRead ∈ history → ∀ ride copy leg, event = endsTrip ride copy leg →
    ∀ result ∈ classed.step stored event, ∀ rideRequestId fareAmount,
      .write (.request rideRequestId (.fares fareAmount)) ∈ result.2 →
      calculateFares stored leg.toDirectionDetails = some fareAmount

/-- The class makes no difference to the trips that end: it is charged the base, or
the base is nothing. -/
def ChargedTheBase (stored : String) (history : List ClassAction) (classed : ClassedApp)
    (event : ClassEvent) : Prop :=
  .rideTypeRead ∈ history → ∀ ride copy leg, event = endsTrip ride copy leg →
    classed.Awaits ride copy →
    stored ∉ ["Rev-x", "Rev-standard"] ∨ baseFare (leg.duration, leg.distance) = 0

theorem ClassedApp.fares_of_step {ride copy : Nat} {leg : LegDetails} {rideRequestId : String}
    {fareAmount : Int}
    (stepped : classed.step stored (endsTrip ride copy leg) = some (next, emitted))
    (written : .write (.request rideRequestId (.fares fareAmount)) ∈ emitted) :
    classed.Awaits ride copy ∧
      calculateFares classed.app.rideType leg.toDirectionDetails = some fareAmount := by
  obtain ⟨⟨after, writes⟩, moved, same⟩ := Option.map_eq_some_iff.mp stepped
  cases same
  simp only [List.mem_map, ClassAction.write.injEq, exists_eq_right] at written
  cases (App.step_moves moved).requestOrigin written with
  | screen shown _ issued =>
      cases issued with
      | fares waiting mounted fare => exact ⟨⟨_, _, shown, mounted, waiting⟩, fare⟩

theorem ClassedApp.step_of_awaits {ride copy : Nat} (awaits : classed.Awaits ride copy)
    (leg : LegDetails) :
    ∃ result ∈ classed.step stored (endsTrip ride copy leg), ∃ rideRequestId,
      .write (.request rideRequestId (.fares (leg.fare classed.app.rideType))) ∈ result.2 := by
  obtain ⟨screen, label, shown, mounted, waiting⟩ := awaits
  have fare : calculateFares classed.app.rideType leg.toDirectionDetails =
      some (leg.fare classed.app.rideType) := by
    rw [calculateFares_leg, LegDetails.fare_eq]
  simp only [step, endsTrip, run, App.step, shown, App.agrees, NewRequestScreen.step, waiting,
    NewRequestScreen.resume, mounted, NewRequestScreen.finishTrip, Option.bind_some, fare,
    if_true, Option.map_some, Option.mem_def, Option.some.injEq, exists_eq_left']
  exact ⟨screen.clientDetails.rideRequestId, by simp [requestWrites]⟩

theorem chargesStored_iff_step (unread : classed.Unread) (history : List ClassAction) :
    ChargesStored stored history classed event ↔ ChargedTheBase stored history classed event := by
  constructor
  · intro charges read ride copy leg same awaits
    subst same
    obtain ⟨result, stepped, rideRequestId, written⟩ := ClassedApp.step_of_awaits awaits leg
    have charged := charges read ride copy leg rfl result stepped rideRequestId _ written
    rw [calculateFares_leg, LegDetails.fare_eq, classFare_of_unread unread, Option.some.injEq,
      Int.ofNat_inj, classFare_eq_self] at charged
    exact charged
  · intro base read ride copy leg same result stepped rideRequestId fareAmount written
    subst same
    obtain ⟨awaits, fare⟩ := ClassedApp.fares_of_step stepped written
    rw [← fare, calculateFares_leg, calculateFares_leg, classFare_of_unread unread]
    rw [(classFare_eq_self _ _).mpr (base read ride copy leg rfl awaits)]

/-- A rider's fares follow the stored class exactly in runs where it makes no difference. -/
theorem chargesStored_iff (stored uid : String) (events : List ClassEvent) :
    Meets (ClassedApp.component stored) (ChargesStored stored) [] { app := { uid := uid } }
        events ↔
      Meets (ClassedApp.component stored) (ChargedTheBase stored) [] { app := { uid := uid } }
        events := by
  apply meets_iff_meets ClassedApp.Unread
  · intro classed event next emitted unread stepped
    exact ClassedApp.unread_of_step unread stepped
  · intro history classed event unread
    exact chargesStored_iff_step unread history
  · exact ⟨⟨none⟩, by simp⟩

/-- A rider's ride from going online to the end of the trip. -/
def sampleAppRide : List AppEvent :=
  [.home .tap, .home (.statusRead none), .home (.located ⟨5, 1⟩),
    .accept .notification sampleDetails, .slotRead 0 (some (.text "request-1")), .slotReply 0 true,
    .built 0] ++
    (rideToEndTrip ++ (endTripTap sampleDirections).dropLast).map (AppEvent.screen 0)

def sampleClassRide : List ClassEvent :=
  [.homeBuilt, .rideTypeRead 0] ++ sampleAppRide.map ClassEvent.app

/-- A trip of a `Rev-x` rider is charged 7 instead of 14. -/
theorem not_chargesStored_sampleClassRide :
    ¬ ∀ (stored uid : String) (events : List ClassEvent),
      Meets (ClassedApp.component stored) (ChargesStored stored) [] { app := { uid := uid } }
        events := by
  intro charges
  have ends : (exec (ClassedApp.component "Rev-x") { app := { uid := "rider" } }
      sampleClassRide).map (fun result =>
        (decide (ClassAction.rideTypeRead ∈ result.2),
          (result.1.step "Rev-x" (endsTrip 0 0 (sampleLeg 1500 12000))).map fun last =>
            decide (ClassAction.write (.request "request-1" (.fares 7)) ∈ last.2))) =
        some (true, some true) := by
    decide +kernel
  obtain ⟨⟨classed, history⟩, run, shown⟩ := Option.map_eq_some_iff.mp ends
  obtain ⟨read, charged⟩ := Prod.mk.inj shown
  obtain ⟨result, stepped, written⟩ := Option.map_eq_some_iff.mp charged
  have meets := charges "Rev-x" "rider" (sampleClassRide ++ [endsTrip 0 0 (sampleLeg 1500 12000)])
  have fare := meets.of_append run (of_decide_eq_true read) 0 0 _ rfl result stepped "request-1" 7
    (of_decide_eq_true written)
  rw [calculateFares_leg] at fare
  exact absurd fare (by decide)

end FilldRider
