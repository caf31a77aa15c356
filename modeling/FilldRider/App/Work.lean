import FilldRider.App.Moves
import FilldRider.NewRequestScreen.Background
import FilldRider.Runs.Work

/-!
# What an app still awaits

Replies, returned reads and screens being built are the app's own doings. Every tap, fix
and dialog pays for a fixed number of them and of the writes they make, so that none is
left some time after the last of them. The ticks of `initTimer` and the requests of
`fetchFacts` and `sendSms`, which nothing awaits and which store nothing, are not counted.
-/

set_option autoImplicit false

namespace FilldRider

open Runs

/-! ## The ride screen -/

/-- What a copy at this await still has to do, with what it still writes and saves. -/
def TapPoint.work : TapPoint → Nat
  | .clientId => 9
  | .clientToken => 8
  | .arrivedWrite => 3
  | .arrivedDirections => 2
  | .arrivedNotification => 1
  | .returningWrite => 1
  | .gasStationWrite => 2
  | .gasStationNotification => 1
  | .completedWrite => 2
  | .completedDirections => 1
  | .endWrite => 6
  | .endNotification => 5
  | .endDirections => 4

/-- A write, and a call of `saveEarnings` with its read. -/
def ScreenAction.work : ScreenAction → Nat
  | .write _ | .saveEarnings _ => 1
  | _ => 0

def ScreenEvent.inner : ScreenEvent → Bool
  | .reply .. | .mapReply _ | .rideDetailsReply _ => true
  | _ => false

def ScreenEvent.price : ScreenEvent → Nat
  | .tap => 9
  | .position _ => 2
  | .mapCreated _ => 1
  | _ => 0

namespace NewRequestScreen

variable {RequestId : Type} {rideType : String} {screen next : NewRequestScreen RequestId}
  {actions : List ScreenAction}

def left (screen : NewRequestScreen RequestId) : Nat :=
  cost (fun tap => tap.point.work) screen.taps + screen.mapDirections.toNat + screen.rideDetails

private theorem finishTrip_work (screen : NewRequestScreen RequestId) (rideType : String)
    (details : Option DirectionDetails) :
    (screen.finishTrip rideType details).2.1 = none ∧
      cost ScreenAction.work (screen.finishTrip rideType details).2.2 ≤ 3 := by
  unfold finishTrip
  split
  · exact ⟨rfl, Nat.zero_le 3⟩
  · exact ⟨rfl, Nat.le_refl 3⟩

theorem resume_work {label : ButtonLabel} {point : TapPoint} {reply : Reply}
    {onward : Option TapPoint}
    (resumes : screen.resume rideType label point reply = some (next, onward, actions)) :
    cost TapPoint.work onward.toList + cost ScreenAction.work actions + 1 ≤ point.work := by
  cases reply with
  | error =>
      simp only [resume, Option.some.injEq, Prod.mk.injEq] at resumes
      obtain ⟨rfl, rfl, rfl⟩ := resumes
      cases point <;> decide
  | value value =>
      cases point <;> cases value <;>
        simp only [resume, Option.some.injEq, Prod.mk.injEq, reduceCtorEq] at resumes
      case clientToken.some token =>
        revert resumes
        unfold enterBranch
        split <;> rintro ⟨⟩ <;> simp [TapPoint.work, ScreenAction.work]
      all_goals
        obtain ⟨rfl, rfl, rfl⟩ := resumes
        decide
  | done =>
      cases mounted : screen.mounted <;> cases point <;>
        simp only [resume, mounted, if_true, if_false, Bool.false_eq_true, Option.some.injEq,
          Prod.mk.injEq, reduceCtorEq] at resumes
      case true.endNotification =>
        revert resumes
        unfold endTheTrip
        split <;> rintro ⟨⟩ <;> simp [TapPoint.work, ScreenAction.work]
      all_goals
        obtain ⟨rfl, rfl, rfl⟩ := resumes
        simp [TapPoint.work, ScreenAction.work, getPlaceDirection, getPlaceDirection2]
  | directions details =>
      cases mounted : screen.mounted <;> cases drawn : screen.drawsRoute details <;>
        cases point <;>
        simp only [resume, mounted, drawn, if_true, if_false, Bool.false_eq_true,
          Option.some.injEq, Prod.mk.injEq, reduceCtorEq] at resumes
      case true.true.endDirections | true.false.endDirections =>
        have finished := screen.finishTrip_work rideType details
        rw [resumes] at finished
        obtain ⟨rfl, few⟩ := finished
        dsimp only at few
        rw [Option.toList_none, cost_nil, TapPoint.work]
        omega
      all_goals
        obtain ⟨rfl, rfl, rfl⟩ := resumes
        simp [TapPoint.work, ScreenAction.work]

theorem taps_work {taps : List Tap} {copy : Nat} {label : ButtonLabel} {point : TapPoint}
    (waiting : taps[copy]? = some ⟨label, point⟩) (onward : Option TapPoint) :
    cost (fun tap => tap.point.work) (advanceTap taps copy label onward) + point.work =
      cost (fun tap => tap.point.work) taps + cost TapPoint.work onward.toList := by
  cases onward with
  | none => exact cost_eraseIdx (fun tap : Tap => tap.point.work) waiting
  | some next => exact cost_set (fun tap : Tap => tap.point.work) waiting ⟨label, next⟩

theorem step_work {event : ScreenEvent}
    (stepped : screen.step rideType event = some (next, actions)) :
    next.left + cost ScreenAction.work actions + event.inner.toNat ≤
      screen.left + event.price := by
  cases event with
  | tap =>
      simp only [step] at stepped
      split at stepped
      · cases stepped
        simp only [left, ScreenEvent.inner, ScreenEvent.price, cost_append, cost_cons, cost_nil,
          TapPoint.work, Bool.toNat_false]
        omega
      · cases stepped
  | reply copy reply =>
      simp only [step] at stepped
      split at stepped
      · cases stepped
      · next tap waiting =>
        split at stepped
        · cases stepped
        · next resumed onward emitted resumes =>
          cases stepped
          have done := resume_work resumes
          have copies := taps_work waiting onward
          have same := (resume_background resumes)
          simp only [left, same.map, same.pending, ScreenEvent.inner, ScreenEvent.price,
            Bool.toNat_true]
          omega
  | position fix =>
      cases step_background stepped with
      | button ofButton => cases ofButton
      | request | skip | lost =>
          simp only [left, ScreenEvent.inner, ScreenEvent.price, cost_cons, cost_nil,
            ScreenAction.work, Bool.toNat_false]
          omega
  | mapCreated currentPosition =>
      cases step_background stepped with
      | button ofButton => cases ofButton
      | draw | create | recreate =>
          simp only [left, ScreenEvent.inner, ScreenEvent.price, cost_cons, cost_nil,
            ScreenAction.work, getPlaceDirection, Bool.toNat_true, Bool.toNat_false]
          omega
  | mapReply reply =>
      cases step_background stepped with
      | button ofButton => cases ofButton
      | drawn waiting | undrawn waiting =>
          simp only [left, ScreenEvent.inner, ScreenEvent.price, cost_cons, cost_nil,
            ScreenAction.work, waiting, Bool.toNat_true, Bool.toNat_false]
          omega
  | rideDetailsReply reply =>
      cases step_background stepped with
      | button ofButton => cases ofButton
      | release pending | stick pending =>
          simp only [left, ScreenEvent.inner, ScreenEvent.price, cost_nil, Bool.toNat_true]
          omega
  | iconLoaded | unmount =>
      cases stepped
      simp [left, ScreenEvent.inner, ScreenEvent.price]
  | statusValue value =>
      simp only [step] at stepped
      split at stepped
      · split at stepped <;> cases stepped <;>
          simp [ScreenEvent.inner, ScreenEvent.price, ScreenAction.work]
      · cases stepped

/-- While anything is left to do, a reply may come. -/
theorem reply_of_left (rideType : String) (busy : 0 < screen.left) :
    ∃ event, event.inner = true ∧ (screen.step rideType event).isSome = true := by
  by_cases copies : 0 < cost (fun tap => tap.point.work) screen.taps
  · obtain ⟨copy, ⟨label, point⟩, waiting, _⟩ := exists_of_cost_pos copies
    refine ⟨.reply copy .error, rfl, ?_⟩
    simp [step, waiting, resume]
  · by_cases drawing : screen.mapDirections = true
    · exact ⟨.mapReply .error, rfl, by simp [step, drawing, finishMapCreated]⟩
    · have asking : 0 < screen.rideDetails := by
        rw [left, Bool.eq_false_of_not_eq_true drawing, Bool.toNat_false] at busy
        omega
      exact ⟨.rideDetailsReply .error, rfl, by simp [step, asking, finishRideDetails]⟩

end NewRequestScreen

/-! ## The app -/

def HomeEvent.inner : HomeEvent → Bool
  | .statusRead _ | .located _ | .lookupFailed => true
  | .tap | .position .. => false

def AcceptCall.work (call : AcceptCall) : Nat :=
  match call.answer with
  | none => 13
  | some _ => 12

def AppEvent.inner : AppEvent → Bool
  | .home event => event.inner
  | .slotRead .. | .slotReply .. | .built _ | .earningsRead .. => true
  | .screen _ event => event.inner
  | .accept .. | .profile _ | .rideType _ => false

def AppEvent.price : AppEvent → Nat
  | .home .tap => 5
  | .home (.position ..) => 1
  | .accept .. => 13
  | .screen _ event => event.price
  | _ => 0

theorem AppEvent.free_of_inner (event : AppEvent) (own : event.inner = true) :
    event.price = 0 := by
  cases event with
  | home event => cases event <;> first | rfl | cases own
  | screen ride event => cases event <;> first | rfl | cases own
  | accept | profile | rideType => cases own
  | slotRead | slotReply | built | earningsRead => rfl

theorem Home.step_work {home next : Home} {event : HomeEvent} {writes : List RiderWrite}
    (stepped : home.step event = some (next, writes)) :
    5 * next.statusReads + 4 * next.lookups + writes.length + event.inner.toNat ≤
      5 * home.statusReads + 4 * home.lookups + (AppEvent.home event).price := by
  cases event with
  | tap =>
      cases stepped
      simp only [HomeEvent.inner, AppEvent.price, List.length_nil, Bool.toNat_false]
      omega
  | statusRead data =>
      simp only [step, Option.ite_none_right_eq_some, Option.some.injEq] at stepped
      obtain ⟨pending, handled⟩ := stepped
      simp only [HomeEvent.inner, AppEvent.price, Bool.toNat_true]
      unfold handleStatus at handled
      split at handled
      · cases handled
        simp only [updateDriverStatus, List.length_nil]
        omega
      · split at handled
        · cases handled
          simp only [updateDriverStatus, getLocationLiveUpdates, makeRiderOnlineNow,
            List.length_nil]
          omega
        · cases handled
          simp only [updateDriverStatus, makeRiderOfflineNow, List.length_cons, List.length_nil]
          omega
  | located fix =>
      simp only [step, Option.ite_none_right_eq_some, Option.some.injEq] at stepped
      obtain ⟨pending, finished⟩ := stepped
      cases finished
      simp only [HomeEvent.inner, AppEvent.price, List.length_cons, List.length_nil,
        Bool.toNat_true]
      omega
  | lookupFailed =>
      simp only [step, Option.ite_none_right_eq_some, Option.some.injEq] at stepped
      obtain ⟨pending, failed⟩ := stepped
      cases failed
      simp only [HomeEvent.inner, AppEvent.price, List.length_nil, Bool.toNat_true]
      omega
  | position stream fix =>
      simp only [step, Option.ite_none_right_eq_some, Option.some.injEq] at stepped
      obtain ⟨_, moved⟩ := stepped
      cases moved
      simp only [HomeEvent.inner, AppEvent.price, Bool.toNat_false]
      split <;> simp

theorem length_actions (rideRequestId : String) (actions : List ScreenAction) :
    (requestWrites rideRequestId actions).length + (savesOf actions).length =
      cost ScreenAction.work actions := by
  induction actions with
  | nil => rfl
  | cons action rest ih =>
      rw [cost_cons, ← ih]
      cases action <;> simp only [requestWrites, savesOf, List.filterMap_cons, List.length_cons,
        ScreenAction.work] <;> omega

namespace App

variable {app next last : App} {event : AppEvent} {writes : List DbWrite}

/-- All that is awaited, with the writes it still makes. -/
def left (app : App) : Nat :=
  5 * app.home.statusReads + 4 * app.home.lookups + cost AcceptCall.work app.accepts +
    9 * app.openings.length + cost NewRequestScreen.left app.screens + app.saves.length

theorem length_acceptWrites (app : App) (details : ClientDetails String) :
    (app.acceptWrites details).length = 8 := by
  simp [acceptWrites, NewRequestScreen.initState, acceptRideRequest, requestWrites]

theorem step_work (stepped : app.step event = some (next, writes)) :
    next.left + writes.length + event.inner.toNat ≤ app.left + event.price := by
  cases event with
  | home event =>
      cases reacts : app.home.step event with
      | none => simp [step, reacts] at stepped
      | some result =>
          obtain ⟨home, issued⟩ := result
          simp only [step, reacts, Option.some.injEq, Prod.mk.injEq] at stepped
          obtain ⟨rfl, rfl⟩ := stepped
          have done := Home.step_work reacts
          simp only [left, AppEvent.inner, List.length_map]
          omega
  | earningsRead save event =>
      simp only [step] at stepped
      split at stepped
      · cases stepped
      · next fareAmount present =>
        simp only [saveEarnings_some, List.map_nil, Option.some.injEq, Prod.mk.injEq] at stepped
        obtain ⟨rfl, rfl⟩ := stepped
        have fewer := List.length_eraseIdx_of_lt (List.getElem?_eq_some_iff.mp present).1
        have one := (List.getElem?_eq_some_iff.mp present).1
        simp only [left, AppEvent.inner, AppEvent.price, List.length_nil, Bool.toNat_true, fewer]
        omega
  | accept dialog details =>
      cases stepped
      simp only [left, AppEvent.inner, AppEvent.price, List.length_nil, Bool.toNat_false,
        cost_append, cost_cons, cost_nil, AcceptCall.work]
      omega
  | profile riderInfo | rideType rideType =>
      cases stepped
      simp only [left, AppEvent.inner, AppEvent.price, List.length_nil, Bool.toNat_false]
      omega
  | slotRead call value =>
      cases step_moves stepped with
      | @slotRead _ dialog details _ reading =>
          have replaced := cost_set AcceptCall.work reading ⟨dialog, details, some value⟩
          simp only [AcceptCall.work] at replaced
          simp only [left, AppEvent.inner, AppEvent.price, List.length_nil, Bool.toNat_true]
          omega
  | slotReply call mounted =>
      cases step_moves stepped with
      | taken answered own | refused answered other =>
          have removed := cost_eraseIdx AcceptCall.work answered
          simp only [AcceptCall.work] at removed
          simp only [left, AppEvent.inner, AppEvent.price, List.length_append, List.length_cons,
            List.length_nil, Bool.toNat_true, Home.disableHomeTabLiveLocationUpdates,
            Home.changeSubscription]
          omega
  | built opening =>
      cases step_moves stepped with
      | @built _ details pushed =>
          have inside := (List.getElem?_eq_some_iff.mp pushed).1
          have fewer := List.length_eraseIdx_of_lt inside
          have fresh : NewRequestScreen.left
              ({ clientDetails := details } : NewRequestScreen String) = 0 := rfl
          simp only [left, AppEvent.inner, AppEvent.price, length_acceptWrites, fewer, cost_append,
            cost_cons, cost_nil, fresh, Bool.toNat_true]
          omega
  | screen ride event =>
      cases step_moves stepped with
      | @screen _ _ shownScreen after actions shown turns =>
          have done := NewRequestScreen.step_work turns
          have replaced := cost_set NewRequestScreen.left shown after
          have counted := length_actions shownScreen.clientDetails.rideRequestId actions
          simp only [left, AppEvent.inner, AppEvent.price, List.length_append]
          omega

theorem works : Works component AppEvent.inner AppEvent.price left := step_work

/-- While anything is awaited, a call may complete. -/
theorem inner_of_left (busy : 0 < app.left) :
    ∃ event, event.inner = true ∧ (app.step event).isSome = true := by
  by_cases reads : 0 < app.home.statusReads
  · exact ⟨.home (.statusRead none), rfl, by simp [step, Home.step, reads]⟩
  by_cases lookups : 0 < app.home.lookups
  · exact ⟨.home .lookupFailed, rfl, by simp [step, Home.step, lookups]⟩
  by_cases accepts : 0 < cost AcceptCall.work app.accepts
  · obtain ⟨call, ⟨dialog, details, answer⟩, waiting, _⟩ := exists_of_cost_pos accepts
    cases answer with
    | none => exact ⟨.slotRead call none, rfl, by simp [step, waiting]⟩
    | some value => exact ⟨.slotReply call true, rfl, by simp [step, waiting]⟩
  by_cases openings : 0 < app.openings.length
  · exact ⟨.built 0, rfl, by simp [step, List.getElem?_eq_getElem openings]⟩
  by_cases screens : 0 < cost NewRequestScreen.left app.screens
  · obtain ⟨ride, screen, shown, works⟩ := exists_of_cost_pos screens
    obtain ⟨event, own, stepped⟩ := NewRequestScreen.reply_of_left app.rideType works
    obtain ⟨⟨after, actions⟩, turns⟩ := Option.isSome_iff_exists.mp stepped
    refine ⟨.screen ride event, own, ?_⟩
    have agreed : app.agrees event = true := by cases event <;> first | rfl | cases own
    simp [step, shown, agreed, turns]
  · have saves : 0 < app.saves.length := by
      rw [left] at busy
      omega
    exact ⟨.earningsRead 0 ⟨none⟩, rfl, by simp [step, List.getElem?_eq_getElem saves]⟩

/-- Nothing is awaited. -/
structure Idle (app : App) : Prop where
  home : app.home.Settled
  accepts : app.accepts = []
  openings : app.openings = []
  screens : ∀ screen ∈ app.screens,
    screen.taps = [] ∧ screen.mapDirections = false ∧ screen.rideDetails = 0
  saves : app.saves = []

theorem left_eq_zero_iff (app : App) : app.left = 0 ↔ app.Idle := by
  constructor
  · intro none
    simp only [left, Nat.add_eq_zero_iff, Nat.mul_eq_zero, cost_eq_zero_iff,
      List.length_eq_zero_iff, OfNat.ofNat_ne_zero, false_or, NewRequestScreen.left,
      Bool.toNat_eq_zero] at none
    obtain ⟨⟨⟨⟨⟨reads, lookups⟩, accepts⟩, openings⟩, screens⟩, saves⟩ := none
    refine ⟨⟨reads, lookups⟩, ?_, openings, ?_, saves⟩
    · rw [List.eq_nil_iff_forall_not_mem]
      intro call member
      have free := accepts call member
      unfold AcceptCall.work at free
      split at free <;> cases free
    · intro screen member
      obtain ⟨⟨taps, drawing⟩, asking⟩ := screens screen member
      refine ⟨?_, drawing, asking⟩
      rw [List.eq_nil_iff_forall_not_mem]
      intro tap waiting
      have free := taps tap waiting
      cases point : tap.point <;> rw [point] at free <;> cases free
  · intro idle
    obtain ⟨⟨reads, lookups⟩, accepts, openings, screens, saves⟩ := idle
    have shown : cost NewRequestScreen.left app.screens = 0 := by
      rw [cost_eq_zero_iff]
      intro screen member
      obtain ⟨taps, drawing, asking⟩ := screens screen member
      simp [NewRequestScreen.left, taps, drawing, asking]
    simp [left, reads, lookups, accepts, openings, saves, shown]

/-- Left to itself, an app completes what it awaits with so many calls and writes and no
more, and no call can complete any more precisely when none is awaited. -/
theorem awaits_end (app : App) :
    (∀ events last writes, exec component app events = some (last, writes) →
      (∀ event ∈ events, event.inner = true) → events.length + writes.length ≤ app.left) ∧
    (app.Idle ↔ ∀ event, event.inner = true → app.step event = none) := by
  refine ⟨?_, ?_, ?_⟩
  · intro events last writes run alone
    exact works.inner_run AppEvent.free_of_inner run alone
  · intro idle event own
    have rests := (left_eq_zero_iff app).mpr idle
    cases stepped : app.step event with
    | none => rfl
    | some result =>
        have done := step_work stepped
        rw [rests, AppEvent.free_of_inner event own, own, Bool.toNat_true] at done
        omega
  · intro still
    rw [← left_eq_zero_iff]
    by_contra busy
    obtain ⟨event, own, stepped⟩ := inner_of_left (Nat.pos_of_ne_zero busy)
    rw [still event own] at stepped
    cases stepped

end App

/-- In every run of all apps, what a rider's app stored, handled and still has to do is
paid for by the rider's taps, fixes and dialogs. -/
theorem World.work_of_run {Rider : Type} [DecidableEq Rider] {uid : Rider → String}
    {store : Database Rider} {events : List (WorldEvent Rider)} {world : World Rider}
    {stored : List (WorldWrite Rider)}
    (run : exec World.step (World.start uid store) events = some (world, stored))
    (rider : Rider) :
    (storedBy rider stored).length + (world.outbox rider).length + (world.client rider).left +
        (actsOf rider events).countP AppEvent.inner ≤
      cost AppEvent.price (actsOf rider events) := by
  obtain ⟨emitted, own, queue⟩ := Shared.exec_client rider run
  have done := App.works.run own
  have idle : App.left ((World.start uid store).client rider) = 0 := rfl
  have issued := congrArg List.length queue
  rw [World.start, List.nil_append, List.length_append] at issued
  rw [idle, issued] at done
  omega

theorem work_sampleOffer :
    ∃ world stored,
      exec World.step (World.start (fun _ => "rider") sampleWorld.store)
        (sampleOffer ++ sampleAccept) = some (world, stored) ∧
      (storedBy () stored).length + (world.outbox ()).length + (world.client ()).left +
          (actsOf () (sampleOffer ++ sampleAccept)).countP AppEvent.inner ≤ 18 := by
  have runs : (exec World.step (World.start (fun _ => "rider") sampleWorld.store)
      (sampleOffer ++ sampleAccept)).isSome := by
    decide +kernel
  obtain ⟨⟨world, stored⟩, run⟩ := Option.isSome_iff_exists.mp runs
  refine ⟨world, stored, run, ?_⟩
  have paid : cost AppEvent.price (actsOf () (sampleOffer ++ sampleAccept)) = 18 := by
    decide +kernel
  exact paid ▸ World.work_of_run run ()

end FilldRider
