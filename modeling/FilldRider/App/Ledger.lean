import FilldRider.App.Moves
import FilldRider.NewRequestScreen.StageProgress
import FilldRider.Runs.Members
import FilldRider.Runs.Simulation

/-!
# The ledger of rides

What the rides of an app are for, without screens, taps, replies and dialogs: a ride that
is opened goes through its stages one by one, and may be ended with a fare once it is
completed. Every run of an app is a run of its ledger that tells the same stages and fares
in the same order, so what holds of all ledgers holds of the stages and fares of all apps.
-/

set_option autoImplicit false

namespace FilldRider

open Runs

structure Ride where
  rideRequestId : String
  stage : Stage
  /-- How often it may still be ended. -/
  ending : Nat
  deriving DecidableEq

/-- What becomes known of a request. -/
inductive LedgerEntry where
  | stage (rideRequestId : String) (stage : Stage)
  | fare (rideRequestId : String) (fareAmount : Int)
  deriving DecidableEq

inductive RideTurn where
  | advanced
  | completedAgain
  | lapsed
  | ended (fareAmount : Int)
  deriving DecidableEq

inductive LedgerTurn where
  | opened (rideRequestId : String)
  | ride (index : Nat) (turn : RideTurn)
  deriving DecidableEq

/-- The stage after this one, as long as the ride goes on. -/
def Stage.next? : Stage → Option Stage
  | .accepted => some .arrived
  | .arrived => some .returning
  | .returning => some .arrivedAtGasStation
  | .arrivedAtGasStation => some .completed
  | .completed | .ended => none

/-- Telling that a completed ride is completed gives one more chance to end it, which is
taken or lapses. -/
def Ride.step (ride : Ride) : RideTurn → Option (Ride × List LedgerEntry)
  | .advanced =>
      match ride.stage.next? with
      | none => none
      | some next => some ({ ride with stage := next }, [.stage ride.rideRequestId next])
  | .completedAgain =>
      if ride.stage = .completed then
        some ({ ride with ending := ride.ending + 1 }, [.stage ride.rideRequestId .completed])
      else none
  | .lapsed =>
      if 0 < ride.ending then some ({ ride with ending := ride.ending - 1 }, []) else none
  | .ended fareAmount =>
      if 0 < ride.ending then
        some ({ ride with ending := ride.ending - 1 },
          [.fare ride.rideRequestId fareAmount, .stage ride.rideRequestId .ended])
      else none

/-- Rides are opened and never closed. -/
def Ledger.step : Component (List Ride) LedgerTurn LedgerEntry
  | rides, .opened rideRequestId =>
      some (rides ++ [⟨rideRequestId, .accepted, 0⟩], [.stage rideRequestId .accepted])
  | rides, .ride index turn =>
      match rides[index]? with
      | none => none
      | some ride =>
          match ride.step turn with
          | none => none
          | some (next, entries) => some (rides.set index next, entries)

theorem Ledger.step_ride {rides : List Ride} {index : Nat} {ride next : Ride} {turn : RideTurn}
    {entries : List LedgerEntry} (found : rides[index]? = some ride)
    (turns : ride.step turn = some (next, entries)) :
    Ledger.step rides (.ride index turn) = some (rides.set index next, entries) := by
  simp only [Ledger.step, found, turns]

/-! ## What every ledger keeps -/

/-- The stages told of a request. -/
def stagesTold (rideRequestId : String) (entries : List LedgerEntry) : List Stage :=
  entries.filterMap fun
    | .stage id stage => if id = rideRequestId then some stage else none
    | .fare _ _ => none

theorem stagesTold_append (rideRequestId : String) (before after : List LedgerEntry) :
    stagesTold rideRequestId (before ++ after) =
      stagesTold rideRequestId before ++ stagesTold rideRequestId after :=
  List.filterMap_append ..

theorem stagesTold_stage (rideRequestId : String) (stage : Stage) :
    stagesTold rideRequestId [.stage rideRequestId stage] = [stage] := by
  simp [stagesTold]

/-- A ride is ended, and its fare told, after all five stages. -/
def LedgerEntry.Needs : LedgerEntry → List LedgerEntry → Prop
  | .stage rideRequestId .ended, before | .fare rideRequestId _, before =>
      Stage.completed.upTo.Sublist (stagesTold rideRequestId before)
  | .stage _ _, _ => True

theorem LedgerEntry.needs_stage {stage : Stage} (unended : stage ≠ .ended)
    (rideRequestId : String) (before : List LedgerEntry) :
    (LedgerEntry.stage rideRequestId stage).Needs before := by
  cases stage with
  | ended => exact absurd rfl unended
  | _ => trivial

theorem Stage.upTo_next {stage next : Stage} (follows : stage.next? = some next) :
    next.upTo = stage.upTo ++ [next] := by
  cases stage <;> cases follows <;> rfl

theorem Stage.next_of_advance {stage next : Stage} {point : TapPoint}
    (advances : stage.advance = some (next, point)) : stage.next? = some next := by
  cases stage <;> cases advances <;> rfl

theorem Stage.next_spec {stage next : Stage} (follows : stage.next? = some next) :
    stage ≠ .completed ∧ next ≠ .ended := by
  cases stage <;> cases follows <;> simp

/-- All stages of the ride up to its own were told, in order, and only a completed ride
may be ended. -/
structure RideLaw (history : List LedgerEntry) (ride : Ride) : Prop where
  reached : ride.stage.upTo.Sublist (stagesTold ride.rideRequestId history)
  ending : 0 < ride.ending → ride.stage = .completed

namespace RideLaw

variable {history entries : List LedgerEntry} {ride next : Ride} {turn : RideTurn}

/-- What was told stays told. -/
theorem later (law : RideLaw history ride) (entries : List LedgerEntry) :
    RideLaw (history ++ entries) ride where
  reached := by
    rw [stagesTold_append]
    exact law.reached.trans (List.sublist_append_left ..)
  ending := law.ending

theorem step (law : RideLaw history ride) (turns : ride.step turn = some (next, entries)) :
    RideLaw (history ++ entries) next := by
  cases turn with
  | advanced =>
      simp only [Ride.step] at turns
      split at turns
      · cases turns
      · next follows =>
        cases turns
        constructor
        · rw [Stage.upTo_next follows, stagesTold_append, stagesTold_stage]
          exact law.reached.append_right _
        · intro open_
          exact absurd (law.ending open_) (Stage.next_spec follows).1
  | completedAgain =>
      obtain ⟨completed, kept⟩ := Option.ite_none_right_eq_some.mp turns
      cases kept
      exact ⟨(law.later _).reached, fun _ => completed⟩
  | lapsed | ended fareAmount =>
      obtain ⟨open_, kept⟩ := Option.ite_none_right_eq_some.mp turns
      cases kept
      exact ⟨(law.later _).reached, fun _ => law.ending open_⟩

theorem preceded (law : RideLaw history ride) (old : Preceded LedgerEntry.Needs history)
    (turns : ride.step turn = some (next, entries)) :
    Preceded LedgerEntry.Needs (history ++ entries) := by
  cases turn with
  | advanced =>
      simp only [Ride.step] at turns
      split at turns
      · cases turns
      · next follows =>
        cases turns
        exact old.concat (LedgerEntry.needs_stage (Stage.next_spec follows).2 _ _)
  | completedAgain =>
      obtain ⟨_, kept⟩ := Option.ite_none_right_eq_some.mp turns
      cases kept
      exact old.concat (LedgerEntry.needs_stage (by simp) _ _)
  | lapsed =>
      obtain ⟨_, kept⟩ := Option.ite_none_right_eq_some.mp turns
      cases kept
      rw [List.append_nil]
      exact old
  | ended fareAmount =>
      obtain ⟨open_, kept⟩ := Option.ite_none_right_eq_some.mp turns
      cases kept
      have all := law.reached
      rw [law.ending open_] at all
      have charged : Preceded LedgerEntry.Needs
          (history ++ [.fare ride.rideRequestId fareAmount]) := old.concat all
      rw [← List.singleton_append, ← List.append_assoc]
      apply charged.concat
      show Stage.completed.upTo.Sublist (stagesTold ride.rideRequestId (history ++ _))
      rw [stagesTold_append]
      exact all.trans (List.sublist_append_left ..)

end RideLaw

structure LedgerLaw (history : List LedgerEntry) (rides : List Ride) : Prop where
  rides : ∀ ride ∈ rides, RideLaw history ride
  ends : Preceded LedgerEntry.Needs history

namespace LedgerLaw

variable {history entries : List LedgerEntry} {before after : List Ride} {turn : LedgerTurn}

theorem step (law : LedgerLaw history before)
    (stepped : Ledger.step before turn = some (after, entries)) :
    LedgerLaw (history ++ entries) after := by
  cases turn with
  | opened rideRequestId =>
      cases stepped
      refine ⟨?_, law.ends.concat trivial⟩
      intro ride member
      rcases List.mem_append.mp member with old | new
      · exact (law.rides ride old).later _
      · cases List.mem_singleton.mp new
        refine ⟨?_, fun impossible => absurd impossible (Nat.lt_irrefl 0)⟩
        rw [stagesTold_append, stagesTold_stage]
        exact List.sublist_append_right ..
  | ride index turn =>
      simp only [Ledger.step] at stepped
      split at stepped
      · cases stepped
      · next ride found =>
        have own := law.rides ride (List.mem_of_getElem? found)
        split at stepped
        · cases stepped
        · next next told turns =>
          cases stepped
          refine ⟨?_, own.preceded law.ends turns⟩
          intro other member
          rcases List.mem_or_eq_of_mem_set member with old | rfl
          · exact (law.rides other old).later _
          · exact own.step turns

theorem of_run {turns : List LedgerTurn} {rides : List Ride}
    (run : exec Ledger.step [] turns = some (rides, entries)) : LedgerLaw entries rides := by
  have start : LedgerLaw [] [] := ⟨by simp, .nil _⟩
  apply exec_invariant LedgerLaw _ start run
  intro history before turn after entries law stepped
  exact law.step stepped

end LedgerLaw

/-! ## The ride of a screen -/

def DbWrite.told? : DbWrite → Option LedgerEntry
  | .request rideRequestId (.status stage) => some (.stage rideRequestId stage)
  | .request rideRequestId (.fares fareAmount) => some (.fare rideRequestId fareAmount)
  | _ => none

def ScreenAction.told? (rideRequestId : String) : ScreenAction → Option LedgerEntry
  | .write issued => (DbWrite.request rideRequestId issued).told?
  | _ => none

/-- How many copies of the handler may still end the trip. -/
def NewRequestScreen.ending (screen : NewRequestScreen String) : Nat :=
  (screen.taps.map Tap.point).countP TapPoint.EndsTrip

def NewRequestScreen.ride (screen : NewRequestScreen String) : Ride :=
  ⟨screen.clientDetails.rideRequestId, screen.status, screen.ending⟩

theorem ending_advanceTap {taps : List Tap} {copy : Nat} {tap : Tap} {label : ButtonLabel}
    {onward : Option TapPoint} (waiting : taps[copy]? = some tap) :
    ((NewRequestScreen.advanceTap taps copy label onward).map Tap.point).countP
          TapPoint.EndsTrip + [tap.point].countP TapPoint.EndsTrip =
      (taps.map Tap.point).countP TapPoint.EndsTrip +
        onward.toList.countP TapPoint.EndsTrip := by
  have after : (onward.toList ++ (taps.eraseIdx copy).map Tap.point).countP TapPoint.EndsTrip =
      ((NewRequestScreen.advanceTap taps copy label onward).map Tap.point).countP
        TapPoint.EndsTrip :=
    (points_advanceTap waiting).countP_eq _
  have before := (points_waiting waiting).countP_eq TapPoint.EndsTrip
  rw [List.countP_append] at after
  rw [← List.singleton_append, List.countP_append] at before
  omega

theorem TapPoint.follows_countP {point next : TapPoint} (follows : point.follows = some next) :
    [next].countP TapPoint.EndsTrip = [point].countP TapPoint.EndsTrip := by
  cases point <;> cases follows <;> rfl

theorem TapPoint.relabels_countP {point : TapPoint} {label : ButtonLabel}
    {next : Option TapPoint} (shown : point.relabels = some (label, next)) :
    next.toList.countP TapPoint.EndsTrip = [point].countP TapPoint.EndsTrip := by
  cases point <;> cases shown <;> rfl

theorem told_of_quiet (rideRequestId : String) {actions : List ScreenAction}
    (quiet : ∀ action ∈ actions, action.Quiet) :
    actions.filterMap (ScreenAction.told? rideRequestId) = [] := by
  rw [List.filterMap_eq_nil_iff]
  intro action member
  have silent := quiet action member
  cases action <;> first | rfl | exact silent.elim

/-- The ride stays and nothing is told, or it takes a turn. -/
def Ride.Turns (ride next : Ride) (entries : List LedgerEntry) : Prop :=
  next = ride ∧ entries = [] ∨ ∃ turn, ride.step turn = some (next, entries)

/-- What a step of a screen makes of its ride, and tells. -/
theorem NewRequestScreen.ride_turns {rideType : String} {screen next : NewRequestScreen String}
    {event : ScreenEvent} {actions : List ScreenAction}
    (stepped : screen.step rideType event = some (next, actions)) :
    screen.ride.Turns next.ride
      (actions.filterMap (ScreenAction.told? screen.clientDetails.rideRequestId)) := by
  have moves := step_moves stepped
  have request := moves.keeps.details
  have counted {copy : Nat} {tap : Tap} {label : ButtonLabel} {onward : Option TapPoint}
      (waiting : screen.taps[copy]? = some tap)
      (taps : next.taps = advanceTap screen.taps copy label onward) :
      next.ending + [tap.point].countP TapPoint.EndsTrip =
        screen.ending + onward.toList.countP TapPoint.EndsTrip := by
    rw [ending, taps]
    exact ending_advanceTap waiting
  have unmoved (status : next.status = screen.status) (ending : next.ending = screen.ending)
      (nothing : actions.filterMap (ScreenAction.told? screen.clientDetails.rideRequestId) = []) :
      screen.ride.Turns next.ride
        (actions.filterMap (ScreenAction.told? screen.clientDetails.rideRequestId)) :=
    .inl ⟨by simp only [ride, request, status, ending], nothing⟩
  -- A copy that does not go on takes its chance to end the ride with it.
  have left {copy : Nat} {tap : Tap} {label : ButtonLabel}
      (waiting : screen.taps[copy]? = some tap)
      (taps : next.taps = advanceTap screen.taps copy label none)
      (status : next.status = screen.status)
      (nothing : actions.filterMap (ScreenAction.told? screen.clientDetails.rideRequestId) = []) :
      screen.ride.Turns next.ride
        (actions.filterMap (ScreenAction.told? screen.clientDetails.rideRequestId)) := by
    have count := counted waiting taps
    cases ends : tap.point.EndsTrip with
    | false =>
        simp [ends] at count
        exact unmoved status count nothing
    | true =>
        simp [ends] at count
        refine .inr ⟨.lapsed, ?_⟩
        simp [Ride.step, ride, request, status, nothing, ← count]
  cases moves with
  | tap mounted status title taps =>
      exact unmoved status (by simp [ending, taps, TapPoint.EndsTrip]) rfl
  | relabel waiting relabels status taps quiet =>
      have count := counted waiting taps
      rw [TapPoint.relabels_countP relabels, Nat.add_right_cancel_iff] at count
      exact unmoved status count (told_of_quiet _ quiet)
  | @proceed _ copy reply label point onward _ waiting follows status title taps quiet =>
      cases onward with
      | none => exact left waiting taps status (told_of_quiet _ quiet)
      | some onward =>
          have count := counted waiting taps
          rw [Option.toList_some,
            TapPoint.follows_countP (follows.resolve_left (by simp)).symm,
            Nat.add_right_cancel_iff] at count
          exact unmoved status count (told_of_quiet _ quiet)
  | endTheTrip waiting onward status title taps quiet =>
      have nothing := told_of_quiet screen.clientDetails.rideRequestId quiet
      rcases onward with rfl | rfl
      · exact left waiting taps status nothing
      · exact unmoved status (Nat.add_right_cancel (counted waiting taps)) nothing
  | background status title taps quiet =>
      exact unmoved status (by rw [ending, taps, ending]) (told_of_quiet _ quiet)
  | locate listening status title taps quiet =>
      refine unmoved status (by rw [ending, taps, ending]) ?_
      rw [List.filterMap_append, told_of_quiet _ quiet]
      rfl
  | @advance _ copy token label point waiting onward title taps =>
      have moved : next.taps = advanceTap screen.taps copy label (some point) := taps
      have count : next.ending = screen.ending + [point].countP TapPoint.EndsTrip :=
        counted waiting moved
      rw [List.countP_singleton, Stage.advance_endsTrip onward] at count
      refine .inr ⟨.advanced, ?_⟩
      simp only [Ride.step, ride, Stage.next_of_advance onward, request, count]
      rfl
  | @endTrip _ copy token label waiting completed status title taps =>
      have moved : next.taps = advanceTap screen.taps copy label (some .endWrite) := taps
      have count : next.ending = screen.ending + 1 := counted waiting moved
      refine .inr ⟨.completedAgain, ?_⟩
      simp only [Ride.step, ride, completed, request, status, count, if_true]
      rfl
  | @finish _ copy label details fareAmount dialog mounted waiting fare status title taps =>
      have done : next.taps = advanceTap screen.taps copy label none := taps
      have count : next.ending + 1 = screen.ending := counted waiting done
      refine .inr ⟨.ended fareAmount, ?_⟩
      simp only [Ride.step, ride, request, status, ← count, Nat.zero_lt_succ, if_true,
        Nat.add_sub_cancel]
      rfl

/-! ## The rides of an app -/

/-- The ledger lists the rides of the screens. -/
def ListsRides (app : App) (rides : List Ride) : Prop :=
  rides = app.screens.map NewRequestScreen.ride

/-- The stages and the fares among some writes. -/
def Booked (writes : List DbWrite) (entries : List LedgerEntry) : Prop :=
  writes.filterMap DbWrite.told? = entries

theorem echoing_booked : Echoing Booked where
  nil := rfl
  append := by
    intro early late told telling first second
    rw [Booked, List.filterMap_append, first, second]

theorem booked_requestWrites (rideRequestId : String) (actions : List ScreenAction) :
    Booked (requestWrites rideRequestId actions)
      (actions.filterMap (ScreenAction.told? rideRequestId)) := by
  rw [Booked, requestWrites, List.filterMap_filterMap]
  congr 1
  funext action
  cases action <;> rfl

theorem booked_acceptWrites (app : App) (details : ClientDetails String) :
    Booked (app.acceptWrites details) [.stage details.rideRequestId .accepted] := by
  rw [App.acceptWrites]
  exact echoing_booked.append (booked_requestWrites _ _) rfl

theorem booked_rider (writes : List RiderWrite) : Booked (writes.map .rider) [] := by
  rw [Booked, List.filterMap_map, List.filterMap_eq_nil_iff]
  exact fun _ _ => rfl

theorem mirrored_step {before after : App} {rides : List Ride} {event : AppEvent}
    {writes : List DbWrite} (lists : ListsRides before rides)
    (stepped : before.step event = some (after, writes)) :
    Mirrored Ledger.step ListsRides Booked rides after writes := by
  subst lists
  cases App.step_moves stepped with
  | home moves => exact ⟨[], _, [], rfl, rfl, booked_rider _⟩
  | accept | slotRead | refused | saved | profile | rideType | taken =>
      exact ⟨[], _, [], rfl, rfl, rfl⟩
  | @built opening clientDetails pushed =>
      have opened : Ledger.step (before.screens.map NewRequestScreen.ride)
          (.opened clientDetails.rideRequestId) =
            some (before.screens.map NewRequestScreen.ride ++
                [⟨clientDetails.rideRequestId, .accepted, 0⟩],
              [.stage clientDetails.rideRequestId .accepted]) := rfl
      refine mirrored_of_step opened ?_ (booked_acceptWrites before clientDetails)
      rw [ListsRides, List.map_append]
      rfl
  | @screen ride event screen next actions shown turns =>
      have found : (before.screens.map NewRequestScreen.ride)[ride]? = some screen.ride := by
        rw [List.getElem?_map, shown]
        rfl
      rcases NewRequestScreen.ride_turns turns with ⟨same, nothing⟩ | ⟨turn, taken⟩
      · have kept : before.screens.map NewRequestScreen.ride =
            (before.screens.set ride next).map NewRequestScreen.ride :=
          (map_set_same NewRequestScreen.ride shown same).symm
        have silent := booked_requestWrites screen.clientDetails.rideRequestId actions
        rw [nothing] at silent
        exact ⟨[], _, [], rfl, kept, silent⟩
      · have stepping := Ledger.step_ride found taken
        rw [← List.map_set] at stepping
        exact mirrored_of_step stepping rfl (booked_requestWrites _ _)

/-- The stages and fares of an app are those of a ledger of its rides. -/
theorem App.ledger_of_run {uid : String} {events : List AppEvent} {app : App}
    {writes : List DbWrite} (run : exec App.component { uid := uid } events = some (app, writes)) :
    ∃ turns, exec Ledger.step [] turns =
      some (app.screens.map NewRequestScreen.ride, writes.filterMap DbWrite.told?) := by
  have empty : ListsRides ({ uid := uid } : App) [] := rfl
  obtain ⟨turns, rides, entries, kept, lists, booked⟩ :=
    mirrored_of_run echoing_booked mirrored_step empty run
  refine ⟨turns, ?_⟩
  rw [kept, lists, ← booked]

/-- Before an app issues that a request is ended, or its fare, it has issued all five
stages of that request, each after the one before. -/
theorem App.stages_before_end {uid : String} {events : List AppEvent} {app : App}
    {writes before after : List DbWrite} {rideRequestId : String} {write : RequestWrite}
    (run : exec App.component { uid := uid } events = some (app, writes))
    (split : writes = before ++ .request rideRequestId write :: after)
    (ends : write.endsRide = true) :
    Stage.completed.upTo.Sublist
      (stagesTold rideRequestId (before.filterMap DbWrite.told?)) := by
  obtain ⟨turns, kept⟩ := App.ledger_of_run run
  obtain ⟨entry, books, needs⟩ : ∃ entry,
      (DbWrite.request rideRequestId write).told? = some entry ∧
      ∀ told, entry.Needs told → Stage.completed.upTo.Sublist (stagesTold rideRequestId told) := by
    cases write with
    | status stage =>
        cases stage with
        | ended => exact ⟨_, rfl, fun _ needed => needed⟩
        | _ => cases ends
    | fares fareAmount => exact ⟨_, rfl, fun _ needed => needed⟩
    | _ => cases ends
  have order : writes.filterMap DbWrite.told? =
      before.filterMap DbWrite.told? ++ entry :: after.filterMap DbWrite.told? := by
    rw [split, List.filterMap_append, List.filterMap_cons_some books]
  exact needs _ ((LedgerLaw.of_run kept).ends _ _ _ order)

theorem stages_sampleAppRide :
    ∃ before after : List DbWrite,
      (exec App.component { uid := "rider" }
        (actsOf () (sampleOffer ++ sampleAccept ++ sampleRide sampleDirections))).map Prod.snd =
          some (before ++ .request "request-1" (.status .ended) :: after) ∧
      Stage.completed.upTo.Sublist
        (stagesTold "request-1" (before.filterMap DbWrite.told?)) := by
  have runs : (exec App.component { uid := "rider" }
      (actsOf () (sampleOffer ++ sampleAccept ++ sampleRide sampleDirections))).map
        (fun result => decide (.request "request-1" (.status .ended) ∈ result.2)) =
          some true := by
    decide +kernel
  obtain ⟨⟨app, writes⟩, run, ended⟩ := Option.map_eq_some_iff.mp runs
  obtain ⟨before, after, split⟩ := List.append_of_mem (of_decide_eq_true ended)
  exact ⟨before, after, by rw [run, Option.map_some, ← split],
    App.stages_before_end run split rfl⟩

end FilldRider
