import FilldRider.NewRequestScreen.Background
import FilldRider.Assistants.Directions

/-!
# The guard of the time shown

`updateRideDetails` locks itself with `isRequestingDirection` while it waits for
directions. No exit but the two ends of its `if` releases the lock.
-/

set_option autoImplicit false

namespace FilldRider

open Runs

variable {RequestId : Type}

def ScreenEvent.answersRideDetails : ScreenEvent → Bool
  | .rideDetailsReply _ => true
  | _ => false

/-- Some request for the time shown has ended. -/
abbrev ScreenTrace.Answered (trace : ScreenTrace) : Prop :=
  trace.Seen ScreenEvent.answersRideDetails

namespace NewRequestScreen

/-- At most one request is pending, and the flag tells whether one is. -/
structure GuardExact (screen : NewRequestScreen RequestId) : Prop where
  single : screen.rideDetails ≤ 1
  flag : screen.isRequestingDirection = true ↔ screen.rideDetails = 1

/-- Once a request has ended, a position that finds none pending starts one. -/
def StartsNext (trace : ScreenTrace) (screen : NewRequestScreen RequestId)
    (event : String × ScreenEvent) : Prop :=
  match event.2 with
  | .position position =>
      trace.Answered → screen.rideDetails = 0 →
        ∀ result ∈ component screen event, .directions position screen.destination ∈ result.2
  | _ => True

/-- Every request ends with the null result, or with details that have a text while
the screen is mounted; no position comes after the screen is gone. -/
def RequestsEnd (trace : ScreenTrace) (screen : NewRequestScreen RequestId)
    (event : String × ScreenEvent) : Prop :=
  match event.2 with
  | .rideDetailsReply reply => screen.Releases reply
  | .position _ => trace.Answered → screen.rideDetails = 0 → screen.mounted = true
  | _ => True

instance (trace : ScreenTrace) (screen : NewRequestScreen RequestId) :
    ∀ event : String × ScreenEvent, Decidable (RequestsEnd trace screen event)
  | (_, .rideDetailsReply reply) => inferInstanceAs (Decidable (screen.Releases reply))
  | (_, .position _) =>
      inferInstanceAs
        (Decidable (trace.Answered → screen.rideDetails = 0 → screen.mounted = true))
  | (_, .tap) | (_, .reply ..) | (_, .mapCreated _) | (_, .mapReply _) | (_, .iconLoaded)
  | (_, .statusValue _) | (_, .unmount) => isTrue trivial

/-- A request needs the icon, and the icon stays. -/
structure GuardLaw (trace : ScreenTrace) (screen : NewRequestScreen RequestId) : Prop where
  exact : screen.GuardExact
  icon : 0 < screen.rideDetails ∨ trace.Answered → screen.animatingMarkerIcon = true

variable {trace : ScreenTrace} {screen next : NewRequestScreen RequestId}
  {event : String × ScreenEvent} {actions : List ScreenAction}

theorem GuardLaw.initial (details : ClientDetails RequestId) :
    GuardLaw [] { clientDetails := details } := by
  refine ⟨⟨Nat.zero_le 1, by simp⟩, ?_⟩
  intro started
  rcases started with pending | answered
  · cases pending
  · exact (ScreenTrace.not_seen_nil answered).elim

private theorem GuardLaw.same (law : GuardLaw trace screen)
    (pending : next.rideDetails = screen.rideDetails)
    (flag : next.isRequestingDirection = screen.isRequestingDirection)
    (icon : screen.animatingMarkerIcon = true → next.animatingMarkerIcon = true)
    (quiet : event.2.answersRideDetails = false) :
    GuardLaw (trace ++ [(event, actions)]) next := by
  refine ⟨⟨?_, ?_⟩, ?_⟩
  · rw [pending]
    exact law.exact.single
  · rw [pending, flag]
    exact law.exact.flag
  · rw [pending, ScreenTrace.Answered, ScreenTrace.seen_append, quiet]
    intro started
    apply icon
    apply law.icon
    simpa using started

private theorem GuardLaw.step (law : GuardLaw trace screen)
    (ends : RequestsEnd trace screen event)
    (stepped : component screen event = some (next, actions)) :
    GuardLaw (trace ++ [(event, actions)]) next := by
  obtain ⟨rideType, event⟩ := event
  cases step_background stepped with
  | button ofButton same =>
      apply law.same same.pending same.guard (fun icon => same.icon.trans icon)
      cases event <;> first | rfl | cases ofButton
  | request ready free =>
      have single := law.exact.single
      have idle : screen.rideDetails ≠ 1 := by
        rw [ne_eq, ← law.exact.flag, free]
        exact Bool.false_ne_true
      have one : screen.rideDetails + 1 = 1 := by omega
      exact ⟨⟨one.le, fun _ => one, fun _ => rfl⟩, fun _ => ready.2⟩
  | release pending releases =>
      have single := law.exact.single
      have ended : screen.rideDetails - 1 ≠ 1 := by omega
      refine ⟨⟨(Nat.sub_le ..).trans single, ?_⟩, fun _ => law.icon (.inl pending)⟩
      simp [ended]
  | stick pending sticks => exact (sticks ends).elim
  | loadIcon => exact law.same rfl rfl (fun _ => rfl) rfl
  | skip | lost | draw | create | recreate | drawn | undrawn | unmount =>
      exact law.same rfl rfl id rfl

private theorem startsNext_of_requestsEnd (law : GuardLaw trace screen)
    (ends : RequestsEnd trace screen event)
    (stepped : component screen event = some (next, actions)) :
    StartsNext trace screen event := by
  obtain ⟨rideType, event⟩ := event
  cases event with
  | position position =>
      intro answered idle result reached
      rw [stepped] at reached
      cases reached
      have shown : screen.mounted = true := ends answered idle
      have icon := law.icon (.inr answered)
      have free : screen.isRequestingDirection ≠ true := by
        rw [ne_eq, law.exact.flag, idle]
        exact Nat.zero_ne_one
      cases step_background stepped with
      | button ofButton same => cases ofButton
      | request ready free => exact List.mem_cons_self ..
      | skip ready taken => exact (free taken).elim
      | lost unready => exact (unready ⟨shown, icon⟩).elim
  | tap | reply | mapCreated | mapReply | rideDetailsReply | iconLoaded | statusValue | unmount =>
      trivial

private theorem requestsEnd_of_exact (law : GuardLaw trace screen)
    (stepped : component screen event = some (next, actions)) (exact : next.GuardExact)
    (starts : StartsNext trace screen event) : RequestsEnd trace screen event := by
  obtain ⟨rideType, event⟩ := event
  cases event with
  | rideDetailsReply reply =>
      cases step_background stepped with
      | button ofButton same => cases ofButton
      | release pending releases => exact releases
      | stick pending sticks =>
          have one : screen.rideDetails = 1 := by
            have single := law.exact.single
            omega
          have taken := law.exact.flag.mpr one
          have still : screen.rideDetails - 1 = 1 := exact.flag.mp taken
          omega
  | position position =>
      intro answered idle
      cases step_background stepped with
      | button ofButton same => cases ofButton
      | request ready free => exact ready.1
      | skip ready taken => exact ready.1
      | lost unready =>
          have started := starts answered idle _ stepped
          cases started
  | tap | reply | mapCreated | mapReply | iconLoaded | statusValue | unmount => trivial

/-- In every run of the screen the flag is an exact lock, released by every end of a
request, precisely when the requests end in time. -/
theorem guardExact_iff_requestsEnd (details : ClientDetails RequestId)
    {events : List (String × ScreenEvent)}
    (run : exec component { clientDetails := details } events = some (screen, actions)) :
    Always (traced component) (fun _ screen => screen.GuardExact) []
          { clientDetails := details } events ∧
        Meets (traced component) StartsNext [] { clientDetails := details } events ↔
      Meets (traced component) RequestsEnd [] { clientDetails := details } events := by
  obtain ⟨trace, traces, _⟩ := exec_traced run
  have all : ∀ event ∈ events, True := fun _ _ => trivial
  apply always_meets_iff_meets GuardLaw (fun _ screen => screen.GuardExact)
    _ _ _ _ (GuardLaw.initial details) all traces
  · intro trace screen law
    exact law.exact
  · intro trace screen event next entries law _ ends traced
    obtain ⟨actions, stepped, rfl⟩ := traced_eq_some.mp traced
    exact law.step ends stepped
  · intro trace screen event next entries law _ ends traced
    obtain ⟨actions, stepped, rfl⟩ := traced_eq_some.mp traced
    exact startsNext_of_requestsEnd law ends stepped
  · intro trace screen event next entries law _ traced exact starts
    obtain ⟨actions, stepped, rfl⟩ := traced_eq_some.mp traced
    exact requestsEnd_of_exact law stepped exact starts

end NewRequestScreen

def rideToFirstRequest : List ScreenEvent :=
  [.mapCreated (some ⟨5, 1⟩), .mapReply (.directions (some sampleDirections)), .iconLoaded,
    .position ⟨5, 1⟩]

theorem guardExact_sampleRide :
    ∃ screen actions,
      exec NewRequestScreen.component { clientDetails := sampleDetails }
        (asRideType "Rev-x" (rideToEndTrip ++ [.position ⟨5, 2⟩])) = some (screen, actions) ∧
      screen.rideDetails = 1 ∧
      Always (traced NewRequestScreen.component) (fun _ screen => screen.GuardExact) []
        { clientDetails := sampleDetails }
        (asRideType "Rev-x" (rideToEndTrip ++ [.position ⟨5, 2⟩])) ∧
      Meets (traced NewRequestScreen.component) NewRequestScreen.StartsNext []
        { clientDetails := sampleDetails }
        (asRideType "Rev-x" (rideToEndTrip ++ [.position ⟨5, 2⟩])) := by
  have ends : (exec NewRequestScreen.component { clientDetails := sampleDetails }
      (asRideType "Rev-x" (rideToEndTrip ++ [.position ⟨5, 2⟩]))).map
        (fun result => decide (result.1.rideDetails = 1)) = some true := by
    decide +kernel
  obtain ⟨⟨screen, actions⟩, run, pending⟩ := Option.map_eq_some_iff.mp ends
  have meets : Meets (traced NewRequestScreen.component) NewRequestScreen.RequestsEnd []
      { clientDetails := sampleDetails }
      (asRideType "Rev-x" (rideToEndTrip ++ [.position ⟨5, 2⟩])) := by
    decide +kernel
  exact ⟨screen, actions, run, of_decide_eq_true pending,
    (NewRequestScreen.guardExact_iff_requestsEnd sampleDetails run).mpr meets⟩

/-- A network error leaves the flag set with nothing pending. -/
theorem not_guardExact_of_networkError :
    ¬ ∀ (details : ClientDetails String) (events : List (String × ScreenEvent))
        (screen : NewRequestScreen String) (actions : List ScreenAction),
      exec NewRequestScreen.component { clientDetails := details } events =
        some (screen, actions) →
      Always (traced NewRequestScreen.component) (fun _ screen => screen.GuardExact) []
          { clientDetails := details } events ∧
        Meets (traced NewRequestScreen.component) NewRequestScreen.StartsNext []
          { clientDetails := details } events := by
  intro exact
  have ends : (exec NewRequestScreen.component { clientDetails := sampleDetails }
      (asRideType "Rev-x" (rideToFirstRequest ++ [.rideDetailsReply .error]))).map
        (fun result => (result.1.isRequestingDirection, result.1.rideDetails)) =
          some (true, 0) := by
    decide +kernel
  obtain ⟨⟨screen, actions⟩, run, reached⟩ := Option.map_eq_some_iff.mp ends
  simp only [Prod.mk.injEq] at reached
  obtain ⟨trace, traces, _⟩ := exec_traced run
  have last := (exact _ _ screen actions run).1.last traces
  have pending := last.flag.mp reached.1
  rw [reached.2] at pending
  cases pending

/-! ## Outcomes of the call -/

/-- How the future of a directions request completes. -/
def directionsReply : Except Documents.Thrown (Option DirectionDetails) → Reply
  | .ok details => .directions details
  | .error _ => .error

variable {screen : NewRequestScreen RequestId} {jsonDecode : String → Option Documents.Json}
  {outcome : HttpOutcome}

/-- On a mounted screen a readable outcome releases the flag. -/
theorem releases_of_readable (mounted : screen.mounted = true)
    (readable : outcome.Readable jsonDecode) :
    screen.Releases (directionsReply (obtainPlaceDirectionDetails jsonDecode outcome)) := by
  rw [obtainPlaceDirectionDetails_of_readable readable]
  cases told : (outcome.document? jsonDecode).bind firstLeg? with
  | none => trivial
  | some details =>
      obtain ⟨res, _, leg⟩ := Option.bind_eq_some_iff.mp told
      have complete := (readDirections_complete_iff.mpr leg).2
      exact ⟨complete.2.2.2.1, mounted⟩

end FilldRider
