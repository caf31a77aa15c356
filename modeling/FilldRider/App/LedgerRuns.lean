import FilldRider.App.Ledger
import FilldRider.App.Service

/-!
# The runs of the ledger

Every run of the ledger is told by some run of an app, so the ledger allows precisely
what an app can do. A turn of a ride is played by its screen alone: new taps write the
stages, and the copies that may end the ride wait until the ledger ends it or gives it up.
-/

set_option autoImplicit false

namespace FilldRider

open Runs

def sampleStanding : Standing := ⟨none, "client", "token"⟩

namespace NewRequestScreen

variable {screen next : NewRequestScreen String} {actions : List ScreenAction}

/-- An open screen that knows the position. The copies that may end the trip have written
that the ride is completed, and wait. -/
structure Ready (screen : NewRequestScreen String) : Prop where
  mounted : screen.mounted = true
  located : screen.myPosition ≠ none
  waiting : ∀ tap ∈ screen.taps, tap.point.EndsTrip = true → tap.point = .endWrite

/-- The screen can go on to be that ride, telling so much. -/
def Plays (screen : NewRequestScreen String) (ride : Ride) (entries : List LedgerEntry) :
    Prop :=
  ∃ taps last actions, Leads (sampleStanding.around "") screen taps last actions ∧
    last.Ready ∧ last.ride = ride ∧
    actions.filterMap (ScreenAction.told? screen.clientDetails.rideRequestId) = entries

/-- A new tap writes the stage and waits. -/
private theorem plays_branch (ready : screen.Ready) {stage : Stage} (point : TapPoint)
    (enters : ∀ reading : NewRequestScreen String, reading.status = screen.status →
      reading.enterBranch screen.btnTitle = ({ reading with status := stage }, some point,
        [.entered screen.btnTitle screen.status, .write (.status stage)]))
    (waits : point.EndsTrip = true → point = .endWrite) :
    screen.Plays { screen.ride with
        stage := stage
        ending := screen.ride.ending + [point].countP TapPoint.EndsTrip }
      [.stage screen.ride.rideRequestId stage] := by
  have leads := leads_branch (sampleStanding.around "") ready.mounted (enters _ rfl)
  refine ⟨1, _, _, leads, ⟨ready.mounted, ready.located, ?_⟩, ?_, rfl⟩
  · intro tap member
    rcases List.mem_append.mp member with old | new
    · exact ready.waiting tap old
    · cases List.mem_singleton.mp new
      exact waits
  · simp [ride, ending]

private theorem plays_advanced (ready : screen.Ready) {stage : Stage}
    (follows : screen.status.next? = some stage) :
    screen.Plays { screen.ride with stage := stage }
      [.stage screen.ride.rideRequestId stage] := by
  obtain ⟨point, advances⟩ : ∃ point, screen.status.advance = some (stage, point) := by
    cases status : screen.status <;> rw [status] at follows <;> cases follows <;> exact ⟨_, rfl⟩
  have early := Stage.advance_endsTrip advances
  have plays := plays_branch ready point
    (fun reading same => same ▸ enterBranch_advance (same.symm ▸ advances))
    (fun ends => absurd ends (by simp [early]))
  rw [List.countP_singleton, early] at plays
  exact plays

private theorem plays_completedAgain (ready : screen.Ready)
    (completed : screen.status = .completed) :
    screen.Plays { screen.ride with ending := screen.ride.ending + 1 }
      [.stage screen.ride.rideRequestId .completed] := by
  have enters (reading : NewRequestScreen String) (same : reading.status = screen.status) :
      reading.enterBranch screen.btnTitle =
        ({ reading with status := .completed }, some .endWrite,
          [.entered screen.btnTitle screen.status, .write (.status .completed)]) := by
    rw [enterBranch_completed (same.trans completed), completed]
    cases reading
    cases same.trans completed
    rfl
  have plays := plays_branch ready .endWrite enters (fun _ => rfl)
  rw [← completed] at plays ⊢
  exact plays

/-- A copy that may end the trip goes on until it has asked for the way. -/
private theorem leads_endDirections (ready : screen.Ready) (open_ : 0 < screen.ending) :
    ∃ copy label position, screen.taps[copy]? = some ⟨label, .endWrite⟩ ∧
      Leads (sampleStanding.around "") screen 0
        { screen with
          btnTitle := .endTrip
          taps := screen.taps.set copy ⟨label, .endDirections⟩ }
        [.endTheTrip, .showDialog (.progress false),
          .directions screen.clientDetails.pickup position] := by
  obtain ⟨point, member, ends⟩ := List.countP_pos_iff.mp open_
  obtain ⟨⟨label, _⟩, pending, rfl⟩ := List.mem_map.mp member
  cases ready.waiting _ pending ends
  obtain ⟨copy, inside, here⟩ := List.mem_iff_getElem.mp pending
  obtain ⟨position, known⟩ := Option.ne_none_iff_exists'.mp ready.located
  have waiting : screen.taps[copy]? = some ⟨label, .endWrite⟩ :=
    List.getElem?_eq_some_iff.mpr ⟨inside, here⟩
  have written : Leads (sampleStanding.around "") screen 0
      { screen with taps := screen.taps.set copy ⟨label, .endNotification⟩ } [] :=
    leads_copy .done waiting trivial trivial rfl
  have notified : Leads (sampleStanding.around "")
      { screen with taps := screen.taps.set copy ⟨label, .endNotification⟩ } 0 _ _ :=
    leads_copy .done (List.getElem?_set_self inside) trivial trivial
      (resume_endNotification ready.mounted known)
  simp only [advanceTap, List.set_set] at notified
  exact ⟨copy, label, position, waiting, written.trans notified⟩

/-- What is left once that copy is done. -/
private theorem Ready.done (ready : screen.Ready) {copy : Nat} {label : ButtonLabel}
    (waiting : screen.taps[copy]? = some ⟨label, .endWrite⟩)
    (mounted : next.mounted = screen.mounted) (position : next.myPosition = screen.myPosition)
    (taps : next.taps = screen.taps.eraseIdx copy)
    (details : next.clientDetails = screen.clientDetails)
    (status : next.status = screen.status) :
    next.Ready ∧ next.ride = { screen.ride with ending := screen.ride.ending - 1 } := by
  have count : ((advanceTap screen.taps copy label none).map Tap.point).countP
      TapPoint.EndsTrip + 1 = screen.ending := ending_advanceTap waiting
  have fewer : next.ending = screen.ending - 1 := by
    rw [ending, taps]
    exact Nat.eq_sub_of_add_eq count
  refine ⟨⟨mounted.trans ready.mounted, position ▸ ready.located, ?_⟩, ?_⟩
  · intro tap member
    rw [taps] at member
    exact ready.waiting tap (List.mem_of_mem_eraseIdx member)
  · rw [ride, fewer, details, status]
    rfl

private theorem plays_lapsed (ready : screen.Ready) (open_ : 0 < screen.ending) :
    screen.Plays { screen.ride with ending := screen.ride.ending - 1 } [] := by
  obtain ⟨copy, label, position, waiting, leads⟩ := leads_endDirections ready open_
  obtain ⟨inside, _⟩ := List.getElem?_eq_some_iff.mp waiting
  have answered : Leads (sampleStanding.around "") { screen with
      btnTitle := .endTrip
      taps := screen.taps.set copy ⟨label, .endDirections⟩ } 0 _ _ :=
    -- Directions without values throw before anything is written.
    leads_copy (.directions (some {})) (List.getElem?_set_self inside)
      (by simp [Reply.Succeeds]) trivial (if_pos ready.mounted)
  simp only [advanceTap, List.eraseIdx_set_eq] at answered
  refine ⟨_, _, _, leads.trans answered, and_assoc.mp ⟨?_, rfl⟩⟩
  exact ready.done waiting rfl rfl rfl rfl rfl

private theorem plays_ended (ready : screen.Ready) (open_ : 0 < screen.ending)
    (fareAmount : Int) :
    screen.Plays { screen.ride with ending := screen.ride.ending - 1 }
      [.fare screen.ride.rideRequestId fareAmount, .stage screen.ride.rideRequestId .ended] := by
  obtain ⟨copy, label, position, waiting, leads⟩ := leads_endDirections ready open_
  obtain ⟨inside, _⟩ := List.getElem?_eq_some_iff.mp waiting
  have fare : calculateFares ""
      { durationValue := some (300 * fareAmount), distanceValue := some 0 } =
        some fareAmount := by
    have total : totalFareAmount (300 * fareAmount) 0 = (fareAmount : ℚ) := by
      rw [totalFareAmount]
      push_cast
      ring
    simp [calculateFares, total, truncate_intCast]
  have answered : Leads (sampleStanding.around "") { screen with
      btnTitle := .endTrip
      taps := screen.taps.set copy ⟨label, .endDirections⟩ } 0 _ _ :=
    leads_copy (.directions (some _)) (List.getElem?_set_self inside)
      (by simp [Reply.Succeeds]) trivial (resume_endDirections ready.mounted fare)
  simp only [advanceTap, List.eraseIdx_set_eq] at answered
  refine ⟨_, _, _, leads.trans answered, and_assoc.mp ⟨?_, rfl⟩⟩
  exact ready.done waiting rfl rfl rfl rfl rfl

/-- A screen that was just opened gets to know the position. -/
theorem plays_opened (details : ClientDetails String) :
    ({ clientDetails := details } : NewRequestScreen String).Plays
      ⟨details.rideRequestId, .accepted, 0⟩ [] := by
  have created : step "" { clientDetails := details } (.mapCreated (some ⟨0, 0⟩)) =
      some ({ clientDetails := details
              newRideGoogleMapController := true
              mapDirections := true }, _) := rfl
  have drawn : step "" { clientDetails := details
                         newRideGoogleMapController := true
                         mapDirections := true }
      (.mapReply (.directions (some sampleDirections))) =
        some ({ clientDetails := details
                newRideGoogleMapController := true
                liveLocation := true }, _) := rfl
  have moved : step "" { clientDetails := details
                         newRideGoogleMapController := true
                         liveLocation := true } (.position ⟨0, 0⟩) =
      some ({ clientDetails := details
              newRideGoogleMapController := true
              liveLocation := true
              myPosition := some ⟨0, 0⟩ }, _) := rfl
  have creating : Leads (sampleStanding.around "") { clientDetails := details } 0 _ _ :=
    leads_event created trivial rfl (by simp) trivial
  have drawing := creating.trans
    (leads_event drawn (by simp [ScreenEvent.Succeeds, Reply.Succeeds]) trivial (by simp) trivial)
  have leads := drawing.trans (leads_event moved trivial rfl (by simp) trivial)
  exact ⟨_, _, _, leads, ⟨rfl, by simp, by simp⟩, rfl, rfl⟩

/-- Every turn of its ride a ready screen can play. -/
theorem plays_turn (ready : screen.Ready) {turn : RideTurn} {ride : Ride}
    {entries : List LedgerEntry} (turns : screen.ride.step turn = some (ride, entries)) :
    screen.Plays ride entries := by
  cases turn with
  | advanced =>
      simp only [Ride.step] at turns
      split at turns
      · cases turns
      · next follows =>
        cases turns
        exact plays_advanced ready follows
  | completedAgain =>
      obtain ⟨completed, kept⟩ := Option.ite_none_right_eq_some.mp turns
      cases kept
      exact plays_completedAgain ready completed
  | lapsed =>
      obtain ⟨open_, kept⟩ := Option.ite_none_right_eq_some.mp turns
      cases kept
      exact plays_lapsed ready open_
  | ended fareAmount =>
      obtain ⟨open_, kept⟩ := Option.ite_none_right_eq_some.mp turns
      cases kept
      exact plays_ended ready open_ fareAmount

end NewRequestScreen

/-! ## The app -/

namespace App

variable {app : App}

/-- Ready screens, and a rider who stays in place. -/
structure Ready (app : App) : Prop where
  screens : ∀ screen ∈ app.screens, screen.Ready
  here : app.home.currentPosition = some ⟨0, 0⟩
  rideType : app.rideType = ""

/-- The app can go on to that ledger, telling so much. -/
def Plays (app : App) (rides : List Ride) (entries : List LedgerEntry) : Prop :=
  ∃ rideRequestId taps last writes, app.Leads sampleStanding rideRequestId taps last writes ∧
    last.Ready ∧ ListsRides last rides ∧ Booked writes entries

private theorem plays_opened (ready : app.Ready) (details : ClientDetails String) :
    app.Plays
      (app.screens.map NewRequestScreen.ride ++ [⟨details.rideRequestId, .accepted, 0⟩])
      [.stage details.rideRequestId .accepted] := by
  obtain ⟨opened, issued, opening, screens, position, same⟩ :=
    leads_opened sampleStanding app details
  obtain ⟨taps, screen, actions, leads, still, ride, nothing⟩ :=
    NewRequestScreen.plays_opened details
  have shown : opened.screens[app.screens.length]? = some { clientDetails := details } := by
    rw [screens]
    exact List.getElem?_concat_length
  have known := position.trans ready.here
  have own := same.trans ready.rideType
  have onward := leads_screen shown known own leads
  have listed : opened.screens.set app.screens.length screen = app.screens ++ [screen] := by
    rw [screens, List.set_append_right _ _ (Nat.le_refl _), Nat.sub_self]
    rfl
  refine ⟨_, _, _, _, opening.trans onward, ⟨?_, known, own⟩, ?_, ?_⟩
  · intro other member
    dsimp only at member
    rw [listed] at member
    rcases List.mem_append.mp member with old | new
    · exact ready.screens other old
    · cases List.mem_singleton.mp new
      exact still
  · rw [ListsRides, listed, List.map_append, ← ride]
    rfl
  · have silent := booked_requestWrites details.rideRequestId actions
    rw [nothing] at silent
    exact echoing_booked.append
      (echoing_booked.append (booked_rider issued) (booked_acceptWrites app details)) silent

/-- Every turn of its ledger a ready app can play. -/
theorem plays_turn (ready : app.Ready) {turn : LedgerTurn} {rides : List Ride}
    {entries : List LedgerEntry}
    (stepped : Ledger.step (app.screens.map NewRequestScreen.ride) turn = some (rides, entries)) :
    app.Plays rides entries := by
  cases turn with
  | opened rideRequestId =>
      cases stepped
      exact plays_opened ready { sampleDetails with rideRequestId := rideRequestId }
  | ride index turn =>
      simp only [Ledger.step, List.getElem?_map] at stepped
      cases shown : app.screens[index]? with
      | none => simp [shown] at stepped
      | some screen =>
          cases turns : screen.ride.step turn with
          | none => simp [shown, turns] at stepped
          | some result =>
              obtain ⟨ride, told⟩ := result
              simp only [shown, turns, Option.map_some, Option.some.injEq, Prod.mk.injEq]
                at stepped
              obtain ⟨rfl, rfl⟩ := stepped
              obtain ⟨taps, next, actions, leads, still, rfl, rfl⟩ :=
                NewRequestScreen.plays_turn
                  (ready.screens screen (List.mem_of_getElem? shown)) turns
              refine ⟨_, _, _, _, leads_screen shown ready.here ready.rideType leads,
                ⟨?_, ready.here, ready.rideType⟩, List.map_set.symm, booked_requestWrites _ _⟩
              intro other member
              rcases List.mem_or_eq_of_mem_set member with old | rfl
              · exact ready.screens other old
              · exact still

/-- A rider who goes online knows the position. -/
private theorem ready_online (uid : String) :
    ∃ events app writes, exec component { uid := uid } events = some (app, writes) ∧
      app.Ready ∧ ListsRides app [] ∧ Booked writes [] := by
  have located : exec Home.component ({ uid := uid } : App).home
      [.tap, .statusRead none, .located ⟨0, 0⟩] = some (_, _) := rfl
  exact ⟨_, _, _, exec_home located, ⟨by simp, rfl, rfl⟩, rfl, booked_rider _⟩

/-- The app that is ready with the rides of the ledger. -/
private def Performs (rides : List Ride) (app : App) : Prop :=
  app.Ready ∧ ListsRides app rides

private theorem mirrored_turn {rides after : List Ride} {turn : LedgerTurn}
    {entries : List LedgerEntry} (performs : Performs rides app)
    (stepped : Ledger.step rides turn = some (after, entries)) :
    Mirrored component Performs (fun entries writes => Booked writes entries) app after
      entries := by
  obtain ⟨ready, rfl⟩ := performs
  obtain ⟨rideRequestId, taps, last, writes, ⟨events, run, _, _⟩, still, lists, booked⟩ :=
    plays_turn ready stepped
  exact ⟨events, last, writes, run, ⟨still, lists⟩, booked⟩

end App

end FilldRider
