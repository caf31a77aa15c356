import FilldRider.App.Moves
import FilldRider.Runs.Members

/-!
# The rides of an app

Whatever the home tab, the other rides and the other riders do meanwhile, a ride screen
runs as it would alone, and what it writes to its request is issued in this order. So what
holds of one screen holds of every screen of every app.
-/

set_option autoImplicit false

namespace FilldRider

open Runs

/-- The write of a screen to its request. -/
def NewRequestScreen.tells (screen : NewRequestScreen String) : ScreenAction → Option DbWrite
  | .write write => some (.request screen.clientDetails.rideRequestId write)
  | _ => none

/-- A screen as it is pushed, and the writes of its `initState`. -/
def NewRequestScreen.Opens (uid : String) (screen : NewRequestScreen String)
    (opening : List DbWrite) : Prop :=
  screen = { clientDetails := screen.clientDetails } ∧
    ∃ riderInfo currentPosition, opening =
      requestWrites screen.clientDetails.rideRequestId
        (initState uid riderInfo currentPosition)

theorem requestWrites_eq (screen : NewRequestScreen String) (actions : List ScreenAction) :
    requestWrites screen.clientDetails.rideRequestId actions = actions.filterMap screen.tells := rfl

theorem NewRequestScreen.clientDetails_of_run {screen last : NewRequestScreen String}
    {events : List (String × ScreenEvent)} {actions : List ScreenAction}
    (run : exec NewRequestScreen.component screen events = some (last, actions)) :
    last.clientDetails = screen.clientDetails := by
  apply exec_invariant_state (fun reached => reached.clientDetails = screen.clientDetails) _ rfl run
  intro state event next emitted same stepped
  exact (NewRequestScreen.step_moves stepped).keeps.details.trans same

theorem requestWrites_append (rideRequestId : String) (before after : List ScreenAction) :
    requestWrites rideRequestId (before ++ after) =
      requestWrites rideRequestId before ++ requestWrites rideRequestId after :=
  List.filterMap_append ..

/-- Each screen ran alone, and its writes are among those of the app, in order. -/
structure RidesLaw (uid : String) (history : List DbWrite) (app : App) : Prop where
  own : app.uid = uid
  rides : Accounted NewRequestScreen.component (NewRequestScreen.Opens uid)
    NewRequestScreen.tells history app.screens

namespace RidesLaw

variable {uid : String} {history writes : List DbWrite} {before after : App} {event : AppEvent}

theorem initial (uid : String) : RidesLaw uid [] { uid := uid } where
  own := rfl
  rides := .nil _

private theorem still (law : RidesLaw uid history before) (writes : List DbWrite)
    (own : after.uid = before.uid) (kept : after.screens = before.screens) :
    RidesLaw uid (history ++ writes) after where
  own := own.trans law.own
  rides := by
    rw [kept]
    exact law.rides.later writes

theorem step (law : RidesLaw uid history before)
    (stepped : before.step event = some (after, writes)) :
    RidesLaw uid (history ++ writes) after := by
  cases App.step_moves stepped with
  | @built opening clientDetails pushed =>
      constructor
      · exact law.own
      · have opens : NewRequestScreen.Opens uid { clientDetails := clientDetails }
            (requestWrites clientDetails.rideRequestId
              (NewRequestScreen.initState uid before.riderInfo before.home.currentPosition)) :=
          ⟨rfl, before.riderInfo, before.home.currentPosition, rfl⟩
        apply law.rides.join opens
        rw [App.acceptWrites, law.own]
        exact List.sublist_append_left ..
  | @screen ride event screen next actions shown turns =>
      have details := (NewRequestScreen.step_moves turns).keeps.details
      have reacts : NewRequestScreen.component screen (before.rideType, event) =
          some (next, actions) := turns
      constructor
      · exact law.own
      · refine law.rides.react shown reacts ?_ (requestWrites_eq screen actions).symm
        funext action
        cases action <;> simp [NewRequestScreen.tells, details]
  | home | accept | slotRead | taken | refused | saved | profile | rideType =>
      exact law.still _ rfl rfl

theorem of_run {events : List AppEvent} {app : App}
    (run : exec App.component { uid := uid } events = some (app, writes)) :
    RidesLaw uid writes app := by
  apply exec_invariant (RidesLaw uid) _ (initial uid) run
  intro history before event after emitted law stepped
  exact law.step stepped

end RidesLaw

/-- In every run of all apps, each ride screen of a rider got where it is in a run of its
own, and the writes of that run are stored and queued in the order it issued them. -/
theorem World.rides_of_run {Rider : Type} [DecidableEq Rider] {uid : Rider → String}
    {store : Database Rider} {events : List (WorldEvent Rider)} {world : World Rider}
    {stored : List (WorldWrite Rider)}
    (run : exec World.step (World.start uid store) events = some (world, stored))
    (rider : Rider) {screen : NewRequestScreen String}
    (shown : screen ∈ (world.client rider).screens) :
    ∃ riderInfo currentPosition ownEvents actions,
      exec NewRequestScreen.component { clientDetails := screen.clientDetails } ownEvents =
        some (screen, actions) ∧
      (requestWrites screen.clientDetails.rideRequestId
        (NewRequestScreen.initState (uid rider) riderInfo currentPosition ++ actions)).Sublist
          (storedBy rider stored ++ world.outbox rider) := by
  obtain ⟨emitted, own, queue⟩ := Shared.exec_client rider run
  obtain ⟨first, opening, ownEvents, actions, ⟨pushed, riderInfo, currentPosition, rfl⟩, ran, told⟩ :=
    (RidesLaw.of_run own).rides screen shown
  rw [World.start, List.nil_append] at queue
  have details := NewRequestScreen.clientDetails_of_run ran
  refine ⟨riderInfo, currentPosition, ownEvents, actions, ?_, ?_⟩
  · rw [details, ← pushed]
    exact ran
  · rw [← queue, requestWrites_append]
    rw [← details] at told
    exact told

theorem rides_sampleRide :
    ∃ (world : World Unit) (stored : List (WorldWrite Unit)) (screen : NewRequestScreen String),
      screen ∈ (world.client ()).screens ∧
      ∃ riderInfo currentPosition ownEvents actions,
        exec NewRequestScreen.component { clientDetails := screen.clientDetails } ownEvents =
          some (screen, actions) ∧
        (requestWrites screen.clientDetails.rideRequestId
          (NewRequestScreen.initState "rider" riderInfo currentPosition ++ actions)).Sublist
            (storedBy () stored ++ world.outbox ()) := by
  have runs : (exec World.step (World.start (fun _ => "rider") sampleWorld.store)
      (sampleOffer ++ sampleAccept ++ sampleRide sampleDirections)).map (fun result =>
        (result.1.client ()).screens.length) = some 1 := by
    decide +kernel
  obtain ⟨⟨world, stored⟩, run, one⟩ := Option.map_eq_some_iff.mp runs
  obtain ⟨screen, rest, screens⟩ := List.exists_cons_of_length_eq_add_one one
  have shown : screen ∈ (world.client ()).screens := screens ▸ List.mem_cons_self ..
  exact ⟨world, stored, screen, shown, World.rides_of_run run () shown⟩

end FilldRider
