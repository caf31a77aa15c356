import FilldRider.NewRequestScreen.Background
import FilldRider.NewRequestScreen.Moves

/-!
# What the end of a ride unwraps

`endTheTrip` needs the position, the listener of the stream the icon. Both are set by
events the stages do not wait for.
-/

set_option autoImplicit false

namespace FilldRider

open Runs

variable {RequestId : Type}

def ScreenEvent.isPosition : ScreenEvent → Bool
  | .position _ => true
  | _ => false

def ScreenEvent.isIconLoaded : ScreenEvent → Bool
  | .iconLoaded => true
  | _ => false

namespace NewRequestScreen

/-- The force-unwrap of `endTheTrip` cannot fail. -/
def CanEnd (screen : NewRequestScreen RequestId) : Prop :=
  screen.status = .completed → screen.myPosition ≠ none

/-- The listener finds the icon. -/
def IconReady (screen : NewRequestScreen RequestId) (event : String × ScreenEvent) : Prop :=
  event.2.isPosition = true → screen.animatingMarkerIcon = true

/-- This reply takes the ride to 'completed'. -/
def completes (screen : NewRequestScreen RequestId) : ScreenEvent → Bool
  | .reply copy (.value (some _)) =>
      decide (screen.status = .arrivedAtGasStation) &&
        decide (screen.taps[copy]?.map (·.point) = some .clientToken)
  | _ => false

/-- The icon is loaded before the first position, and a position comes before the
ride is completed. -/
def ComesFirst (trace : ScreenTrace) (screen : NewRequestScreen RequestId)
    (event : String × ScreenEvent) : Prop :=
  (event.2.isPosition = true → trace.Seen ScreenEvent.isIconLoaded) ∧
    (screen.completes event.2 = true → trace.Seen ScreenEvent.isPosition)

instance (trace : ScreenTrace) (screen : NewRequestScreen RequestId)
    (event : String × ScreenEvent) : Decidable (ComesFirst trace screen event) :=
  inferInstanceAs (Decidable (_ ∧ _))

/-- Icon and position are there since their events, which come before 'completed'. -/
structure PositionLaw (trace : ScreenTrace) (screen : NewRequestScreen RequestId) : Prop where
  icon : screen.animatingMarkerIcon = true ↔ trace.Seen ScreenEvent.isIconLoaded
  position : screen.myPosition ≠ none ↔ trace.Seen ScreenEvent.isPosition
  completed : screen.status = .completed → trace.Seen ScreenEvent.isPosition

variable {trace : ScreenTrace} {rideType : String} {screen next : NewRequestScreen RequestId}
  {event : ScreenEvent} {actions : List ScreenAction}

theorem PositionLaw.initial (details : ClientDetails RequestId) :
    PositionLaw [] { clientDetails := details } := by
  refine ⟨?_, ?_, ?_⟩
  · simp [ScreenTrace.not_seen_nil]
  · simp [ScreenTrace.not_seen_nil]
  · intro completed
    cases completed

theorem step_icon (stepped : screen.step rideType event = some (next, actions)) :
    next.animatingMarkerIcon = true ↔
      screen.animatingMarkerIcon = true ∨ event.isIconLoaded = true := by
  cases step_background stepped with
  | button ofButton same =>
      rw [same.icon]
      cases event <;> first | (simp [ScreenEvent.isIconLoaded]; done) | cases ofButton
  | loadIcon => simp [ScreenEvent.isIconLoaded]
  | request | skip | lost | draw | create | recreate | drawn | undrawn | release | stick
  | unmount => simp [ScreenEvent.isIconLoaded]

theorem step_position (stepped : screen.step rideType event = some (next, actions)) :
    next.myPosition ≠ none ↔ screen.myPosition ≠ none ∨ event.isPosition = true := by
  cases step_background stepped with
  | button ofButton same =>
      rw [same.position]
      cases event <;> first | (simp [ScreenEvent.isPosition]; done) | cases ofButton
  | request | skip | lost => simp [ScreenEvent.isPosition]
  | draw | create | recreate | drawn | undrawn | release | stick | loadIcon | unmount =>
      simp [ScreenEvent.isPosition]

private theorem completes_of_advance {copy : Nat} {token : String} {label : ButtonLabel}
    {point : TapPoint} (waiting : screen.taps[copy]? = some ⟨label, .clientToken⟩)
    (advance : screen.status.advance = some (.completed, point)) :
    screen.completes (.reply copy (.value (some token))) = true := by
  have gasStation : screen.status = .arrivedAtGasStation := by
    cases stage : screen.status <;> rw [stage] at advance <;> first | rfl | cases advance
  simp [completes, gasStation, waiting]

private theorem completed_of_completes (completes : screen.completes event = true)
    (stepped : screen.step rideType event = some (next, actions)) :
    next.status = .completed := by
  unfold NewRequestScreen.completes at completes
  split at completes
  · simp only [Bool.and_eq_true, decide_eq_true_eq] at completes
    obtain ⟨stage, waiting⟩ := completes
    obtain ⟨⟨label, point⟩, present, here⟩ := Option.map_eq_some_iff.mp waiting
    subst here
    simp only [step, present, resume, enterBranch, stage] at stepped
    cases stepped
    rfl
  · cases completes

/-- Only the read of a token completes a ride. -/
theorem step_completed (stepped : screen.step rideType event = some (next, actions)) :
    next.status = .completed ↔ screen.status = .completed ∨ screen.completes event = true := by
  constructor
  · intro completed
    cases step_moves stepped with
    | advance waiting onward title taps =>
        rw [completed] at onward
        exact .inr (completes_of_advance waiting onward)
    | tap mounted status | endTrip waiting stage status | relabel waiting shown status
    | proceed waiting onward status | endTheTrip waiting onward status
    | finish mounted waiting fare status | locate listening status | background status =>
        exact .inl (status ▸ completed)
  · intro either
    rcases either with completed | completes
    · cases step_moves stepped with
      | advance waiting onward title taps =>
          rw [completed] at onward
          cases onward
      | tap mounted status | endTrip waiting stage status | relabel waiting shown status
      | proceed waiting onward status | endTheTrip waiting onward status
      | finish mounted waiting fare status | locate listening status | background status =>
          exact status.trans completed
    · exact completed_of_completes completes stepped

/-! ## The law -/

private theorem PositionLaw.step (law : PositionLaw trace screen)
    (first : ComesFirst trace screen (rideType, event))
    (stepped : screen.step rideType event = some (next, actions)) :
    PositionLaw (trace ++ [((rideType, event), actions)]) next := by
  refine ⟨?_, ?_, ?_⟩
  · rw [step_icon stepped, law.icon, ScreenTrace.seen_append]
  · rw [step_position stepped, law.position, ScreenTrace.seen_append]
  · rw [step_completed stepped]
    intro either
    rcases either with completed | completes
    · exact (law.completed completed).later
    · exact (first.2 completes).later

private theorem comesFirst_of_canEnd (law : PositionLaw trace screen)
    (stepped : screen.step rideType event = some (next, actions)) (canEnd : next.CanEnd)
    (ready : screen.IconReady (rideType, event)) : ComesFirst trace screen (rideType, event) := by
  refine ⟨fun isPosition => law.icon.mp (ready isPosition), ?_⟩
  intro completes
  have known := canEnd ((step_completed stepped).mpr (.inr completes))
  rcases (step_position stepped).mp known with before | isPosition
  · exact law.position.mp before
  · cases event with
    | position position => cases completes
    | _ => cases isPosition

/-- The unwraps of a run of the screen cannot fail precisely when the icon is loaded
before the first position, and some position comes before 'completed'. -/
theorem canEnd_iff_comesFirst (details : ClientDetails RequestId)
    {events : List (String × ScreenEvent)}
    (run : exec component { clientDetails := details } events = some (screen, actions)) :
    Always (traced component) (fun _ screen => screen.CanEnd) []
          { clientDetails := details } events ∧
        Meets (traced component) (fun _ => IconReady) [] { clientDetails := details } events ↔
      Meets (traced component) ComesFirst [] { clientDetails := details } events := by
  obtain ⟨trace, traces, _⟩ := exec_traced run
  have all : ∀ event ∈ events, True := fun _ _ => trivial
  apply always_meets_iff_meets PositionLaw (fun _ screen => screen.CanEnd)
    _ _ _ _ (PositionLaw.initial details) all traces
  · intro trace screen law completed
    exact law.position.mpr (law.completed completed)
  · intro trace screen event next entries law _ first traced
    obtain ⟨actions, stepped, rfl⟩ := traced_eq_some.mp traced
    exact law.step first stepped
  · intro trace screen event next entries law _ first _ isPosition
    exact law.icon.mpr (first.1 isPosition)
  · intro trace screen event next entries law _ traced canEnd ready
    obtain ⟨actions, stepped, rfl⟩ := traced_eq_some.mp traced
    exact comesFirst_of_canEnd law stepped canEnd ready

end NewRequestScreen

theorem canEnd_sampleRide :
    ∃ screen actions,
      exec NewRequestScreen.component { clientDetails := sampleDetails }
        (asRideType "Rev-x" rideToEndTrip) = some (screen, actions) ∧
      screen.status = .completed ∧
      Always (traced NewRequestScreen.component) (fun _ screen => screen.CanEnd) []
        { clientDetails := sampleDetails } (asRideType "Rev-x" rideToEndTrip) ∧
      Meets (traced NewRequestScreen.component) (fun _ => NewRequestScreen.IconReady) []
        { clientDetails := sampleDetails } (asRideType "Rev-x" rideToEndTrip) := by
  have ends : (exec NewRequestScreen.component { clientDetails := sampleDetails }
      (asRideType "Rev-x" rideToEndTrip)).map
        (fun result => decide (result.1.status = .completed)) = some true := by
    decide +kernel
  obtain ⟨⟨screen, actions⟩, run, completed⟩ := Option.map_eq_some_iff.mp ends
  have meets : Meets (traced NewRequestScreen.component) NewRequestScreen.ComesFirst []
      { clientDetails := sampleDetails } (asRideType "Rev-x" rideToEndTrip) := by
    decide +kernel
  exact ⟨screen, actions, run, of_decide_eq_true completed,
    (NewRequestScreen.canEnd_iff_comesFirst sampleDetails run).mpr meets⟩

/-- The four taps of a ride whose directions to the pickup were not found. -/
def rideWithoutRoute : List ScreenEvent :=
  [.mapCreated (some ⟨5, 1⟩), .mapReply (.directions none), .iconLoaded,
    .tap, .reply 0 (.value (some "client")), .reply 0 (.value (some "token")), .reply 0 .done,
    .reply 0 (.directions (some sampleDirections)), .reply 0 .done,
    .tap, .reply 0 (.value (some "client")), .reply 0 (.value (some "token")), .reply 0 .done,
    .tap, .reply 0 (.value (some "client")), .reply 0 (.value (some "token")), .reply 0 .done,
    .reply 0 .done,
    .tap, .reply 0 (.value (some "client")), .reply 0 (.value (some "token"))]

theorem not_canEnd_without_route :
    ¬ ∀ (details : ClientDetails String) (events : List (String × ScreenEvent))
        (screen : NewRequestScreen String) (actions : List ScreenAction),
      exec NewRequestScreen.component { clientDetails := details } events =
        some (screen, actions) →
      Always (traced NewRequestScreen.component) (fun _ screen => screen.CanEnd) []
          { clientDetails := details } events ∧
        Meets (traced NewRequestScreen.component) (fun _ => NewRequestScreen.IconReady) []
          { clientDetails := details } events := by
  intro canEnd
  have ends : (exec NewRequestScreen.component { clientDetails := sampleDetails }
      (asRideType "Rev-x" rideWithoutRoute)).map
        (fun result => (result.1.status, result.1.myPosition)) = some (.completed, none) := by
    decide +kernel
  obtain ⟨⟨screen, actions⟩, run, reached⟩ := Option.map_eq_some_iff.mp ends
  simp only [Prod.mk.injEq] at reached
  obtain ⟨trace, traces, _⟩ := exec_traced run
  exact (canEnd _ _ screen actions run).1.last traces reached.1 reached.2

end FilldRider
