import FilldRider.NewRequestScreen.Basic

/-!
# Map, positions and directions

What a step does to the part of the screen the stage button leaves alone: the map,
the position stream and the requests for the time shown.
-/

set_option autoImplicit false

namespace FilldRider

open Runs

/-- The events of the stage button and of the cancellation listener. -/
def ScreenEvent.OfButton : ScreenEvent → Prop
  | .tap | .reply .. | .statusValue _ => True
  | _ => False

/-- A run of the ride screen so far, every event with its actions. -/
abbrev ScreenTrace := List ((String × ScreenEvent) × List ScreenAction)

namespace ScreenTrace

/-- An event of a kind occurred. -/
def Seen (trace : ScreenTrace) (kind : ScreenEvent → Bool) : Prop :=
  ∃ entry ∈ trace, kind entry.1.2 = true

instance (trace : ScreenTrace) (kind : ScreenEvent → Bool) : Decidable (trace.Seen kind) :=
  inferInstanceAs (Decidable (∃ entry ∈ trace, kind entry.1.2 = true))

variable {trace : ScreenTrace} {kind : ScreenEvent → Bool}

theorem not_seen_nil : ¬ Seen [] kind := by
  rintro ⟨entry, member, _⟩
  cases member

theorem seen_append {event : String × ScreenEvent} {actions : List ScreenAction} :
    Seen (trace ++ [(event, actions)]) kind ↔ trace.Seen kind ∨ kind event.2 = true := by
  simp [Seen, or_and_right, exists_or]

theorem Seen.later {entries : ScreenTrace} (seen : trace.Seen kind) :
    Seen (trace ++ entries) kind := by
  obtain ⟨entry, member, ofKind⟩ := seen
  exact ⟨entry, List.mem_append_left _ member, ofKind⟩

end ScreenTrace

namespace NewRequestScreen

variable {RequestId : Type}

/-- The fields that the handler of the stage button never assigns. -/
structure SameBackground (before after : NewRequestScreen RequestId) : Prop where
  details : after.clientDetails = before.clientDetails
  mounted : after.mounted = before.mounted
  controller : after.newRideGoogleMapController = before.newRideGoogleMapController
  icon : after.animatingMarkerIcon = before.animatingMarkerIcon
  position : after.myPosition = before.myPosition
  guard : after.isRequestingDirection = before.isRequestingDirection
  map : after.mapDirections = before.mapDirections
  live : after.liveLocation = before.liveLocation
  pending : after.rideDetails = before.rideDetails

/-- Whether a reply for the time shown clears `isRequestingDirection`: the null
result, or details with a text that `setState` can show. -/
def Releases (screen : NewRequestScreen RequestId) : Reply → Prop
  | .directions none => True
  | .directions (some details) => details.durationText.isSome = true ∧ screen.mounted = true
  | _ => False

instance (screen : NewRequestScreen RequestId) : ∀ reply : Reply, Decidable (screen.Releases reply)
  | .directions none => isTrue trivial
  | .directions (some details) =>
      inferInstanceAs (Decidable (details.durationText.isSome = true ∧ screen.mounted = true))
  | .value _ | .done | .error => isFalse id

/-- Where `updateRideDetails` asks the way to. -/
def destination (screen : NewRequestScreen RequestId) : LatLng :=
  if screen.status = .accepted then screen.clientDetails.pickup
  else screen.clientDetails.dropoff

/-- One move of the screen, by what it does to map, positions and directions. -/
inductive BackgroundMove (before : NewRequestScreen RequestId) :
    ScreenEvent → NewRequestScreen RequestId → List ScreenAction → Prop where
  | button {event : ScreenEvent} {after : NewRequestScreen RequestId}
      {actions : List ScreenAction} (ofButton : event.OfButton)
      (same : before.SameBackground after) :
      BackgroundMove before event after actions
  | request {position : LatLng}
      (ready : before.mounted = true ∧ before.animatingMarkerIcon = true)
      (free : before.isRequestingDirection = false) :
      BackgroundMove before (.position position)
        { before with
          myPosition := some position
          isRequestingDirection := true
          rideDetails := before.rideDetails + 1 }
        [.directions position before.destination, .write (.driverLocation (some position))]
  | skip {position : LatLng}
      (ready : before.mounted = true ∧ before.animatingMarkerIcon = true)
      (taken : before.isRequestingDirection = true) :
      BackgroundMove before (.position position) { before with myPosition := some position }
        [.write (.driverLocation (some position))]
  | lost {position : LatLng}
      (unready : ¬ (before.mounted = true ∧ before.animatingMarkerIcon = true)) :
      BackgroundMove before (.position position) { before with myPosition := some position } []
  | draw {current : LatLng} (mounted : before.mounted = true)
      (first : before.newRideGoogleMapController = false) :
      BackgroundMove before (.mapCreated (some current))
        { before with newRideGoogleMapController := true, mapDirections := true }
        (getPlaceDirection current before.clientDetails.pickup)
  | create {currentPosition : Option LatLng}
      (undrawn : currentPosition = none ∨ before.mounted = false)
      (first : before.newRideGoogleMapController = false) :
      BackgroundMove before (.mapCreated currentPosition)
        { before with newRideGoogleMapController := true } []
  | recreate {currentPosition : Option LatLng}
      (again : before.newRideGoogleMapController = true) :
      BackgroundMove before (.mapCreated currentPosition) before []
  | drawn {details : Option DirectionDetails} (waiting : before.mapDirections = true)
      (mounted : before.mounted = true) :
      BackgroundMove before (.mapReply (.directions details))
        { before with mapDirections := false, liveLocation := before.drawsRoute details } [.pop]
  | undrawn {reply : Reply} (waiting : before.mapDirections = true)
      (failed : reply = .error ∨ before.mounted = false) :
      BackgroundMove before (.mapReply reply) { before with mapDirections := false } []
  | release {reply : Reply} {durationRide : String} (pending : 0 < before.rideDetails)
      (releases : before.Releases reply) :
      BackgroundMove before (.rideDetailsReply reply)
        { before with
          rideDetails := before.rideDetails - 1
          durationRide := durationRide
          isRequestingDirection := false } []
  | stick {reply : Reply} (pending : 0 < before.rideDetails)
      (sticks : ¬ before.Releases reply) :
      BackgroundMove before (.rideDetailsReply reply)
        { before with rideDetails := before.rideDetails - 1 } []
  | loadIcon :
      BackgroundMove before .iconLoaded { before with animatingMarkerIcon := true } []
  | unmount : BackgroundMove before .unmount { before with mounted := false } []

variable {rideType : String} {before after : NewRequestScreen RequestId}

theorem enterBranch_background (screen : NewRequestScreen RequestId) (label : ButtonLabel) :
    screen.SameBackground (screen.enterBranch label).1 := by
  unfold enterBranch
  split <;> constructor <;> rfl

theorem endTheTrip_background (screen : NewRequestScreen RequestId) :
    screen.SameBackground screen.endTheTrip.1 := by
  unfold endTheTrip
  split <;> constructor <;> rfl

theorem finishTrip_background (rideType : String) (screen : NewRequestScreen RequestId)
    (details : Option DirectionDetails) :
    screen.SameBackground (screen.finishTrip rideType details).1 := by
  unfold finishTrip
  split <;> constructor <;> rfl

theorem resume_background {label : ButtonLabel} {point : TapPoint} {reply : Reply}
    {onward : Option TapPoint} {actions : List ScreenAction}
    (resumes : before.resume rideType label point reply = some (after, onward, actions)) :
    before.SameBackground after := by
  unfold resume at resumes
  split at resumes
  case h_5 =>
    have entered := enterBranch_background before label
    rwa [Option.some.inj resumes] at entered
  case h_15 =>
    split at resumes
    · have ended := endTheTrip_background { before with btnTitle := .endTrip }
      rw [Option.some.inj resumes] at ended
      exact ⟨ended.details, ended.mounted, ended.controller, ended.icon, ended.position,
        ended.guard, ended.map, ended.live, ended.pending⟩
    · cases resumes
      constructor <;> rfl
  case h_16 details =>
    split at resumes
    · have finished := finishTrip_background rideType before details
      rwa [Option.some.inj resumes] at finished
    · cases resumes
      constructor <;> rfl
  all_goals
    repeat' split at resumes
    all_goals
      cases resumes
      try (constructor <;> rfl)

private theorem onPosition_background (screen : NewRequestScreen RequestId)
    (position : LatLng) :
    BackgroundMove screen (.position position) (screen.onPosition position).1
      (screen.onPosition position).2 := by
  by_cases ready : screen.mounted = true ∧ screen.animatingMarkerIcon = true
  · rcases Bool.eq_false_or_eq_true screen.isRequestingDirection with taken | free
    · have moved : screen.onPosition position = ({ screen with myPosition := some position },
          [.write (.driverLocation (some position))]) := by
        simp [onPosition, updateRideDetails, ready, taken]
      rw [moved]
      exact .skip ready taken
    · have moved : screen.onPosition position = ({ screen with
          myPosition := some position
          isRequestingDirection := true
          rideDetails := screen.rideDetails + 1 },
          [.directions position screen.destination,
            .write (.driverLocation (some position))]) := by
        simp [onPosition, updateRideDetails, ready, free, destination]
      rw [moved]
      exact .request ready free
  · have moved : screen.onPosition position =
        ({ screen with myPosition := some position }, []) := by
      have unready : (screen.animatingMarkerIcon && screen.mounted) = false := by
        rw [Bool.eq_false_iff, ne_eq, Bool.and_eq_true, and_comm]
        exact ready
      simp [onPosition, unready]
    rw [moved]
    exact .lost ready

private theorem onMapCreated_background (screen : NewRequestScreen RequestId)
    (currentPosition : Option LatLng) :
    BackgroundMove screen (.mapCreated currentPosition)
      (screen.onMapCreated currentPosition).1 (screen.onMapCreated currentPosition).2 := by
  rcases Bool.eq_false_or_eq_true screen.newRideGoogleMapController with again | first
  · simp only [onMapCreated, again, if_true]
    exact .recreate again
  · cases currentPosition with
    | none =>
        simp only [onMapCreated, first, Bool.false_eq_true, if_false]
        exact .create (.inl rfl) first
    | some current =>
        rcases Bool.eq_false_or_eq_true screen.mounted with mounted | gone
        · have created : screen.onMapCreated (some current) = ({ screen with
              newRideGoogleMapController := true
              mapDirections := true },
              getPlaceDirection current screen.clientDetails.pickup) := by
            simp [onMapCreated, first, mounted]
          rw [created]
          exact .draw mounted first
        · have created : screen.onMapCreated (some current) =
              ({ screen with newRideGoogleMapController := true }, []) := by
            simp [onMapCreated, first, gone]
          rw [created]
          exact .create (.inr gone) first

private theorem finishMapCreated_background {reply : Reply} {actions : List ScreenAction}
    (waiting : before.mapDirections = true)
    (finishes : before.finishMapCreated reply = some (after, actions)) :
    BackgroundMove before (.mapReply reply) after actions := by
  cases reply with
  | value _ => cases finishes
  | done => cases finishes
  | error =>
      cases finishes
      exact .undrawn waiting (.inl rfl)
  | directions details =>
      simp only [finishMapCreated] at finishes
      split at finishes
      · next mounted =>
        cases finishes
        exact .drawn waiting mounted
      · next unmounted =>
        cases finishes
        exact .undrawn waiting (.inr (by simpa using unmounted))

private theorem finishRideDetails_background {reply : Reply} (pending : 0 < before.rideDetails)
    (finishes : before.finishRideDetails reply = some after) :
    BackgroundMove before (.rideDetailsReply reply) after [] := by
  cases reply with
  | value _ => cases finishes
  | done => cases finishes
  | error =>
      cases finishes
      exact .stick pending id
  | directions details =>
      cases details with
      | none =>
          cases finishes
          exact .release pending trivial
      | some details =>
          simp only [finishRideDetails] at finishes
          split at finishes
          · next text shown mounted =>
            cases finishes
            exact .release pending ⟨by rw [shown]; rfl, mounted⟩
          · next unshown =>
            cases finishes
            refine .stick pending ?_
            intro releases
            obtain ⟨text, shown⟩ := Option.isSome_iff_exists.mp releases.1
            exact unshown text shown releases.2

theorem step_background {event : ScreenEvent} {actions : List ScreenAction}
    (stepped : before.step rideType event = some (after, actions)) :
    BackgroundMove before event after actions := by
  cases event with
  | tap =>
      simp only [step] at stepped
      split at stepped <;> cases stepped
      exact .button trivial (by constructor <;> rfl)
  | reply copy reply =>
      simp only [step] at stepped
      split at stepped
      · cases stepped
      · split at stepped
        · cases stepped
        · next resumed onward emitted resumes =>
          cases stepped
          have same := resume_background resumes
          exact .button trivial
            ⟨same.details, same.mounted, same.controller, same.icon, same.position, same.guard,
              same.map, same.live, same.pending⟩
  | position position =>
      simp only [step] at stepped
      split at stepped
      · have moved := onPosition_background before position
        rwa [Option.some.inj stepped] at moved
      · cases stepped
  | mapCreated currentPosition =>
      have created := onMapCreated_background before currentPosition
      rwa [Option.some.inj stepped] at created
  | mapReply reply =>
      simp only [step] at stepped
      split at stepped
      · next waiting => exact finishMapCreated_background waiting stepped
      · cases stepped
  | rideDetailsReply reply =>
      simp only [step] at stepped
      split at stepped
      · next pending =>
        obtain ⟨finished, finishes, same⟩ := Option.map_eq_some_iff.mp stepped
        cases same
        exact finishRideDetails_background pending finishes
      · cases stepped
  | iconLoaded =>
      cases stepped
      exact .loadIcon
  | statusValue value =>
      simp only [step] at stepped
      repeat' split at stepped
      all_goals
        cases stepped
        try exact .button trivial (by constructor <;> rfl)
  | unmount =>
      cases stepped
      exact .unmount

end NewRequestScreen

end FilldRider
