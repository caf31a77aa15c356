import FilldRider.App.Moves
import FilldRider.NewRequestScreen.Background
import FilldRider.Runs.Newest

/-!
# The positions others see

The index and the requests get positions from the home tab's lookups and stream, from the
acceptance of a ride and from the ride screens. All of them store the fix that reached the
app last, whichever of them it came from. The fixes the home tab only centres its map on
reach neither the global position nor the database.
-/

set_option autoImplicit false

namespace FilldRider

open Runs

/-- The fix an event brings. -/
def AppEvent.fix? : AppEvent → Option LatLng
  | .home (.located fix) | .home (.position _ fix) | .screen _ (.position fix) => some fix
  | _ => none

/-- The position a write stores, in the index or below a request. -/
def DbWrite.location? : DbWrite → Option LatLng
  | .rider (.setLocation fix) => some fix
  | .request _ (.driverLocation fix) => fix
  | _ => none

abbrev fixes (events : List AppEvent) : List LatLng := events.filterMap AppEvent.fix?

abbrev locations (writes : List DbWrite) : List LatLng := writes.filterMap DbWrite.location?

/-- A ride screen stores a position only when it gets one. -/
theorem locations_screen {rideType rideRequestId : String} {screen next : NewRequestScreen String}
    {event : ScreenEvent} {actions : List ScreenAction}
    (stepped : screen.step rideType event = some (next, actions)) :
    locations (requestWrites rideRequestId actions) = [] ∨
      ∃ fix, event = .position fix ∧ locations (requestWrites rideRequestId actions) = [fix] := by
  cases event with
  | position fix =>
      cases NewRequestScreen.step_background stepped with
      | button ofButton => cases ofButton
      | request => exact .inr ⟨fix, rfl, rfl⟩
      | skip => exact .inr ⟨fix, rfl, rfl⟩
      | lost => exact .inl rfl
  | _ =>
      left
      rw [locations, List.filterMap_eq_nil_iff]
      intro write member
      cases write with
      | rider write => exact (rider_not_mem_requestWrites member).elim
      | request id write =>
          obtain ⟨_, issued⟩ := mem_requestWrites.mp member
          cases (NewRequestScreen.step_moves stepped).screenWrite issued <;> rfl

/-- The global position is the fix that came last, and only it is ever stored. -/
structure PositionLaw (past : List AppEvent) (history : List DbWrite) (app : App) : Prop where
  repeats : Repeats (fixes past) (locations history)
  newest : app.home.currentPosition = (fixes past).getLast?

namespace PositionLaw

variable {past : List AppEvent} {history writes : List DbWrite} {before after : App}
  {event : AppEvent}

/-- No fix comes, and no position is stored. -/
private theorem still (law : PositionLaw past history before) (unfixed : event.fix? = none)
    (unwritten : locations writes = [])
    (kept : after.home.currentPosition = before.home.currentPosition) :
    PositionLaw (past ++ [event]) (history ++ writes) after := by
  have same : fixes (past ++ [event]) = fixes past := by simp [fixes, unfixed]
  constructor
  · rw [same, locations, List.filterMap_append]
    have none : writes.filterMap DbWrite.location? = [] := unwritten
    rw [none, List.append_nil]
    exact law.repeats
  · rw [same, kept]
    exact law.newest

/-- A fix comes, and may be stored. -/
private theorem fixed (law : PositionLaw past history before) {fix : LatLng}
    (measured : event.fix? = some fix) (told : locations writes = [] ∨ locations writes = [fix])
    (kept : after.home.currentPosition = some fix) :
    PositionLaw (past ++ [event]) (history ++ writes) after := by
  have more : fixes (past ++ [event]) = fixes past ++ [fix] := by simp [fixes, measured]
  constructor
  · rw [more, locations, List.filterMap_append]
    have once := law.repeats.measure fix
    rcases told with none | some
    · have same : writes.filterMap DbWrite.location? = [] := none
      rw [same, List.append_nil]
      exact once
    · have same : writes.filterMap DbWrite.location? = [fix] := some
      rw [same]
      exact once.tell
  · rw [more, kept]
    simp

private theorem home_step (law : PositionLaw past history before) {event : HomeEvent}
    {home : Home} {issued : List RiderWrite}
    (stepped : before.home.step event = some (home, issued)) :
    PositionLaw (past ++ [.home event]) (history ++ issued.map .rider)
      { before with home := home } := by
  cases event with
  | tap =>
      cases stepped
      exact law.still rfl rfl rfl
  | statusRead data =>
      simp only [Home.step, Option.ite_none_right_eq_some, Option.some.injEq] at stepped
      obtain ⟨_, handled⟩ := stepped
      unfold Home.handleStatus at handled
      split at handled
      · cases handled
        exact law.still rfl rfl rfl
      · split at handled <;> cases handled
        · exact law.still rfl rfl rfl
        · exact law.still rfl rfl rfl
  | located fix =>
      simp only [Home.step, Option.ite_none_right_eq_some, Option.some.injEq] at stepped
      obtain ⟨_, finished⟩ := stepped
      cases finished
      exact law.fixed rfl (.inr rfl) rfl
  | lookupFailed =>
      simp only [Home.step, Option.ite_none_right_eq_some, Option.some.injEq] at stepped
      obtain ⟨_, failed⟩ := stepped
      cases failed
      exact law.still rfl rfl rfl
  | position stream fix =>
      simp only [Home.step, Option.ite_none_right_eq_some, Option.some.injEq] at stepped
      obtain ⟨_, moved⟩ := stepped
      cases moved
      refine law.fixed rfl ?_ rfl
      split
      · exact .inr rfl
      · exact .inl rfl

private theorem built_step (law : PositionLaw past history before) (opening : Nat)
    (details : ClientDetails String)
    (kept : after.home.currentPosition = before.home.currentPosition) :
    PositionLaw (past ++ [.built opening]) (history ++ before.acceptWrites details) after := by
  have same : fixes (past ++ [.built opening]) = fixes past := by simp [fixes, AppEvent.fix?]
  have told : locations (before.acceptWrites details) = before.home.currentPosition.toList := by
    rw [App.acceptWrites]
    cases before.home.currentPosition <;> rfl
  have split : locations (history ++ before.acceptWrites details) =
      locations history ++ before.home.currentPosition.toList := by
    rw [← told]
    exact List.filterMap_append ..
  constructor
  · rw [same, split]
    cases known : before.home.currentPosition with
    | none =>
        rw [Option.toList_none, List.append_nil]
        exact law.repeats
    | some fix => exact law.repeats.newest (law.newest.symm.trans known)
  · rw [same, kept]
    exact law.newest

theorem step (law : PositionLaw past history before)
    (stepped : before.step event = some (after, writes)) :
    PositionLaw (past ++ [event]) (history ++ writes) after := by
  cases App.step_moves stepped with
  | @home event home issued moves =>
      cases reacts : before.home.step event with
      | none => simp [App.step, reacts] at stepped
      | some result =>
          simp only [App.step, reacts, Option.some.injEq, Prod.mk.injEq] at stepped
          obtain ⟨same, written⟩ := stepped
          rw [← same, ← written]
          exact law.home_step reacts
  | accept | slotRead reading | refused answered other | saved | profile | rideType =>
      exact law.still rfl rfl rfl
  | taken answered own => exact law.still rfl rfl rfl
  | built pushed => exact law.built_step _ _ rfl
  | @screen ride event screen next actions shown turns =>
      have written : locations (requestWrites screen.clientDetails.rideRequestId actions) = [] ∨ _ :=
        locations_screen turns
      rcases written with unwritten | ⟨fix, rfl, written⟩
      · cases event with
        | position fix => exact law.fixed rfl (.inl unwritten) rfl
        | _ => exact law.still rfl unwritten rfl
      · exact law.fixed rfl (.inr written) rfl

end PositionLaw

/-- In every run of all apps, every position a rider's app issues was the fix that had
reached that app last; so those stored, in the index or below any request, come in the
order in which the fixes reached it. -/
theorem World.locations_of_run {Rider : Type} [DecidableEq Rider] {uid : Rider → String}
    {store : Database Rider} {events : List (WorldEvent Rider)} {world : World Rider}
    {stored : List (WorldWrite Rider)}
    (run : exec World.step (World.start uid store) events = some (world, stored))
    (rider : Rider) :
    Repeats (fixes (actsOf rider events))
        (locations (storedBy rider stored ++ world.outbox rider)) ∧
      ∃ moments : List Nat, moments.Pairwise (· ≤ ·) ∧
        moments.map (fun moment => (fixes (actsOf rider events))[moment]?) =
          (locations (storedBy rider stored)).map some := by
  obtain ⟨emitted, own, queue⟩ := Shared.exec_client rider run
  have all : ∀ event ∈ actsOf rider events, True := fun _ _ => trivial
  have law : PositionLaw (actsOf rider events) emitted (world.client rider) :=
    exec_trace_invariant PositionLaw (fun law _ stepped => law.step stepped) [] []
      ⟨.nil, rfl⟩ all own
  rw [World.start, List.nil_append] at queue
  have repeats := law.repeats
  rw [queue] at repeats
  refine ⟨repeats, ?_⟩
  rw [locations, List.filterMap_append] at repeats
  exact repeats.of_append.moments

theorem locations_sampleRide :
    ∃ world stored,
      exec World.step (World.start (fun _ => "rider") sampleWorld.store)
        (sampleOffer ++ sampleAccept ++ sampleRide sampleDirections) = some (world, stored) ∧
      Repeats (fixes (actsOf () (sampleOffer ++ sampleAccept ++ sampleRide sampleDirections)))
        (locations (storedBy () stored ++ world.outbox ())) ∧
      ∃ moments : List Nat, moments.Pairwise (· ≤ ·) ∧
        moments.map (fun moment => (fixes (actsOf ()
            (sampleOffer ++ sampleAccept ++ sampleRide sampleDirections)))[moment]?) =
          (locations (storedBy () stored)).map some := by
  have runs : (exec World.step (World.start (fun _ => "rider") sampleWorld.store)
      (sampleOffer ++ sampleAccept ++ sampleRide sampleDirections)).isSome := by
    decide +kernel
  obtain ⟨⟨world, stored⟩, run⟩ := Option.isSome_iff_exists.mp runs
  exact ⟨world, stored, run, World.locations_of_run run ()⟩

end FilldRider
