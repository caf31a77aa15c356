import FilldRider.NewRequestScreen.Basic
import FilldRider.Notification.Dialog

/-!
# Taps on Accept

One dialog on the navigator. Every tap on Accept starts a read of the slot, and every
read that completes pops whatever route is on top before it looks at the value. The
dialog's context stays mounted until its closing animation ends.
-/

set_option autoImplicit false

namespace FilldRider

open Runs

inductive Route where
  | page
  | dialog
  | newRequestScreen (index : Nat)
  deriving DecidableEq

/-- The routes, the top one first, and what the taps in the dialog left pending. -/
structure AcceptDialog where
  clientDetails : ClientDetails String
  routes : List Route
  mounted : Bool := true
  reads : Nat := 0
  pushed : Nat := 0
  /-- Ride screens pushed and not built yet. -/
  openings : List Nat := []

/-- What a read returns is open: the dispatcher and the writes of "accepted" decide. -/
inductive AcceptEvent where
  | tap
  | slotReply (value : Option SlotValue)
  | readFailed
  | unmounted
  | built (screen : Nat)
  | discarded (screen : Nat)

inductive RouteAction where
  | removed (route : Route)
  | setAccepted
  | pushNewRequestScreen
  | acceptRideRequest
  deriving DecidableEq

namespace AcceptDialog

/-- One call of a handler; `none` when it throws. -/
def perform (dialog : AcceptDialog) : DialogAction → Option (AcceptDialog × List RouteAction)
  | .pop =>
      match dialog.mounted, dialog.routes with
      | true, route :: below => some ({ dialog with routes := below }, [.removed route])
      | _, _ => none
  | .displayToast _ | .disableHomeTabLiveLocationUpdates => some (dialog, [])
  | .setAccepted _ _ => some (dialog, [.setAccepted])
  | .pushNewRequestScreen _ =>
      some ({ dialog with
        routes := .newRequestScreen dialog.pushed :: dialog.routes
        pushed := dialog.pushed + 1
        openings := dialog.openings ++ [dialog.pushed] }, [.pushNewRequestScreen])

/-- A handler's calls up to the first that throws. -/
def performAll : AcceptDialog → List DialogAction → AcceptDialog × List RouteAction
  | dialog, [] => (dialog, [])
  | dialog, action :: rest =>
      match dialog.perform action with
      | none => (dialog, [])
      | some (next, actions) =>
          let (last, later) := performAll next rest
          (last, actions ++ later)

/-- A dialog that is covered or closing takes no taps. A ride screen that is popped
early may never be built. -/
def step (dialog : AcceptDialog) : AcceptEvent → Option (AcceptDialog × List RouteAction)
  | .tap =>
      if dialog.routes.head? = some .dialog then
        some ({ dialog with reads := dialog.reads + 1 }, [])
      else none
  | .slotReply value =>
      if 0 < dialog.reads then
        some (performAll { dialog with reads := dialog.reads - 1 }
          (NotificationDialog.checkAvailabilityOfRide dialog.clientDetails value))
      else none
  | .readFailed =>
      if 0 < dialog.reads then some ({ dialog with reads := dialog.reads - 1 }, []) else none
  | .unmounted =>
      if .dialog ∈ dialog.routes then none else some ({ dialog with mounted := false }, [])
  | .built screen =>
      if screen ∈ dialog.openings then
        some ({ dialog with openings := dialog.openings.erase screen }, [.acceptRideRequest])
      else none
  | .discarded screen =>
      if screen ∈ dialog.openings ∧ .newRequestScreen screen ∉ dialog.routes then
        some ({ dialog with openings := dialog.openings.erase screen }, [])
      else none

def component : Component AcceptDialog AcceptEvent RouteAction := step

/-- The dialog over this many pages. -/
def shown (clientDetails : ClientDetails String) (pages : Nat) : AcceptDialog :=
  { clientDetails := clientDetails, routes := .dialog :: List.replicate pages .page }

structure Settled (dialog : AcceptDialog) : Prop where
  completed : dialog.reads = 0
  built : dialog.openings = []

end AcceptDialog

def RouteAction.removed? : RouteAction → Option Route
  | .removed route => some route
  | _ => none

def removedRoutes (actions : List RouteAction) : List Route :=
  actions.filterMap RouteAction.removed?

structure AcceptedOnce (actions : List RouteAction) : Prop where
  pushed : actions.count .pushNewRequestScreen = 1
  accepted : actions.count .acceptRideRequest = 1
  removed : removedRoutes actions = [.dialog]

/-- What the reads returned that completed while the dialog's context was mounted. -/
def repliesWhileMounted : List AcceptEvent → List (Option SlotValue)
  | [] => []
  | .slotReply value :: rest => value :: repliesWhileMounted rest
  | .unmounted :: _ => []
  | .tap :: rest | .readFailed :: rest | .built _ :: rest | .discarded _ :: rest =>
      repliesWhileMounted rest

/-- One read completes in time, and it returned the dialog's request. -/
def OneOffer (clientDetails : ClientDetails String) (replies : List (Option SlotValue)) : Prop :=
  ∃ value, replies = [value] ∧ theRideId value = clientDetails.rideRequestId

theorem repliesWhileMounted_append {past : List AcceptEvent} (after : List AcceptEvent)
    (mounted : .unmounted ∉ past) :
    repliesWhileMounted (past ++ after) =
      repliesWhileMounted past ++ repliesWhileMounted after := by
  induction past with
  | nil => rfl
  | cons event rest ih =>
      have later := ih fun member => mounted (List.mem_cons_of_mem _ member)
      cases event with
      | unmounted => exact (mounted (List.mem_cons_self ..)).elim
      | slotReply value => exact congrArg (value :: ·) later
      | _ => exact later

theorem repliesWhileMounted_of_unmounted {past : List AcceptEvent} (after : List AcceptEvent)
    (unmounted : .unmounted ∈ past) :
    repliesWhileMounted (past ++ after) = repliesWhileMounted past := by
  induction past with
  | nil => cases unmounted
  | cons event rest ih =>
      cases event with
      | unmounted => rfl
      | slotReply value =>
          have later := ih ((List.mem_cons.mp unmounted).resolve_left (by simp))
          exact congrArg (value :: ·) later
      | _ => exact ih ((List.mem_cons.mp unmounted).resolve_left (by simp))

@[simp] theorem removedRoutes_append (before after : List RouteAction) :
    removedRoutes (before ++ after) = removedRoutes before ++ removedRoutes after :=
  List.filterMap_append ..

theorem AcceptDialog.performAll_keeps (dialog : AcceptDialog) (actions : List DialogAction) :
    (dialog.performAll actions).1.clientDetails = dialog.clientDetails ∧
      (dialog.performAll actions).1.mounted = dialog.mounted := by
  induction actions generalizing dialog with
  | nil => exact ⟨rfl, rfl⟩
  | cons action rest ih =>
      simp only [performAll]
      split
      · exact ⟨rfl, rfl⟩
      · next next emitted performed =>
        have kept : next.clientDetails = dialog.clientDetails ∧
            next.mounted = dialog.mounted := by
          cases action with
          | pop =>
              simp only [perform] at performed
              split at performed <;> cases performed
              exact ⟨rfl, rfl⟩
          | _ =>
              cases performed
              exact ⟨rfl, rfl⟩
        exact ⟨(ih next).1.trans kept.1, (ih next).2.trans kept.2⟩

section Reply

variable {dialog : AcceptDialog} (value : Option SlotValue)

theorem AcceptDialog.reply_of_thrown (thrown : dialog.mounted = false ∨ dialog.routes = []) :
    dialog.performAll (checkAvailability dialog.clientDetails value) = (dialog, []) := by
  have throws : dialog.perform .pop = none := by
    rcases thrown with unmounted | empty
    · simp only [perform, unmounted]
    · cases mounted : dialog.mounted <;> simp only [perform, mounted, empty]
  simp [checkAvailability, performAll, throws]

theorem AcceptDialog.reply_of_offered {route : Route} {below : List Route}
    (mounted : dialog.mounted = true) (routes : dialog.routes = route :: below)
    (offered : theRideId value = dialog.clientDetails.rideRequestId) :
    dialog.performAll (checkAvailability dialog.clientDetails value) =
      ({ dialog with
        routes := .newRequestScreen dialog.pushed :: below
        pushed := dialog.pushed + 1
        openings := dialog.openings ++ [dialog.pushed] },
        [.removed route, .setAccepted, .pushNewRequestScreen]) := by
  unfold checkAvailability
  rw [if_pos offered]
  split <;> simp [performAll, perform, mounted, routes]

theorem AcceptDialog.reply_of_other {route : Route} {below : List Route}
    (mounted : dialog.mounted = true) (routes : dialog.routes = route :: below)
    (other : theRideId value ≠ dialog.clientDetails.rideRequestId) :
    dialog.performAll (checkAvailability dialog.clientDetails value) =
      ({ dialog with routes := below }, [.removed route]) := by
  unfold checkAvailability
  rw [if_neg other]
  split <;> split <;> (try split) <;> simp [performAll, perform, mounted, routes]

end Reply

/-- Where the dialog is, by what its reads returned in time. Two replies spoil it for
good, unless the first left no route at all. -/
inductive AcceptStage (clientDetails : ClientDetails String) (pages : Nat)
    (history : List RouteAction) (dialog : AcceptDialog) : List (Option SlotValue) → Prop where
  | fresh (routes : dialog.routes = .dialog :: List.replicate pages .page)
      (unpushed : dialog.pushed = 0) (unopened : dialog.openings = [])
      (unchanged : history = []) : AcceptStage clientDetails pages history dialog []
  | taken {value : Option SlotValue} (offered : theRideId value = clientDetails.rideRequestId)
      (routes : dialog.routes = .newRequestScreen 0 :: List.replicate pages .page)
      (removed : removedRoutes history = [.dialog])
      (pushed : history.count .pushNewRequestScreen = 1)
      (built : dialog.openings = [0] ∧ history.count .acceptRideRequest = 0 ∨
        dialog.openings = [] ∧ history.count .acceptRideRequest = 1) :
      AcceptStage clientDetails pages history dialog [value]
  | refused {value : Option SlotValue} (other : theRideId value ≠ clientDetails.rideRequestId)
      (routes : dialog.routes = List.replicate pages .page)
      (unopened : dialog.openings = [])
      (removed : removedRoutes history = [.dialog])
      (unpushed : history.count .pushNewRequestScreen = 0) :
      AcceptStage clientDetails pages history dialog [value]
  | spoiled {first second : Option SlotValue} {rest : List (Option SlotValue)}
      (spoiled : 2 ≤ (removedRoutes history).length ∨
        dialog.routes = [] ∧ history.count .pushNewRequestScreen = 0) :
      AcceptStage clientDetails pages history dialog (first :: second :: rest)

structure AcceptLaw (clientDetails : ClientDetails String) (pages : Nat)
    (past : List AcceptEvent) (history : List RouteAction) (dialog : AcceptDialog) : Prop where
  details : dialog.clientDetails = clientDetails
  mounted : dialog.mounted = true ↔ .unmounted ∉ past
  stage : AcceptStage clientDetails pages history dialog (repliesWhileMounted past)

theorem AcceptLaw.initial (clientDetails : ClientDetails String) (pages : Nat) :
    AcceptLaw clientDetails pages [] [] (.shown clientDetails pages) where
  details := rfl
  mounted := by simp [AcceptDialog.shown]
  stage := .fresh rfl rfl rfl rfl

section Steps

variable {clientDetails : ClientDetails String} {pages : Nat} {past : List AcceptEvent}
  {history actions : List RouteAction} {before after : AcceptDialog}
  {replies : List (Option SlotValue)}

theorem AcceptDialog.reply_removes {value : Option SlotValue} {route : Route}
    {below : List Route} (mounted : before.mounted = true)
    (routes : before.routes = route :: below)
    (handled : before.performAll (checkAvailability before.clientDetails value) =
      (after, actions)) : removedRoutes actions = [route] := by
  by_cases offered : theRideId value = before.clientDetails.rideRequestId
  · rw [before.reply_of_offered value mounted routes offered] at handled
    cases handled
    rfl
  · rw [before.reply_of_other value mounted routes offered] at handled
    cases handled
    rfl

/-- A read that completes in time. -/
theorem AcceptStage.reply {value : Option SlotValue}
    (stage : AcceptStage clientDetails pages history before replies)
    (details : before.clientDetails = clientDetails) (mounted : before.mounted = true)
    (handled : before.performAll (checkAvailability before.clientDetails value) =
      (after, actions)) :
    AcceptStage clientDetails pages (history ++ actions) after (replies ++ [value]) := by
  cases stage with
  | fresh routes unpushed unopened unchanged =>
      subst history
      by_cases offered : theRideId value = before.clientDetails.rideRequestId
      · rw [before.reply_of_offered value mounted routes offered] at handled
        cases handled
        exact .taken (details ▸ offered) (by simp [unpushed]) rfl rfl
          (.inl ⟨by simp [unopened, unpushed], rfl⟩)
      · rw [before.reply_of_other value mounted routes offered] at handled
        cases handled
        exact .refused (details ▸ offered) rfl unopened rfl rfl
  | taken offered routes removed pushed built =>
      apply AcceptStage.spoiled
      rw [removedRoutes_append, removed, before.reply_removes mounted routes handled]
      exact .inl le_rfl
  | refused other routes unopened removed unpushed =>
      apply AcceptStage.spoiled
      cases pages with
      | zero =>
          rw [before.reply_of_thrown value (.inr routes)] at handled
          cases handled
          rw [List.append_nil]
          exact .inr ⟨routes, unpushed⟩
      | succ pages =>
          rw [removedRoutes_append, removed, before.reply_removes mounted routes handled]
          exact .inl le_rfl
  | spoiled spoiled =>
      apply AcceptStage.spoiled
      rcases spoiled with removed | ⟨routes, unpushed⟩
      · rw [removedRoutes_append, List.length_append]
        exact .inl (Nat.le_add_right_of_le removed)
      · rw [before.reply_of_thrown value (.inr routes)] at handled
        cases handled
        rw [List.append_nil]
        exact .inr ⟨routes, unpushed⟩

theorem AcceptStage.built {screen : Nat}
    (stage : AcceptStage clientDetails pages history before replies)
    (waiting : screen ∈ before.openings) :
    AcceptStage clientDetails pages (history ++ [.acceptRideRequest])
      { before with openings := before.openings.erase screen } replies := by
  have silent : removedRoutes (history ++ [.acceptRideRequest]) = removedRoutes history := by
    rw [removedRoutes_append]
    exact List.append_nil _
  have pushes : (history ++ [RouteAction.acceptRideRequest]).count .pushNewRequestScreen =
      history.count .pushNewRequestScreen := by
    simp [List.count_append]
  cases stage with
  | fresh routes unpushed unopened unchanged =>
      rw [unopened] at waiting
      cases waiting
  | taken offered routes removed pushed built =>
      rcases built with ⟨opening, unaccepted⟩ | ⟨unopened, _⟩
      · rw [opening, List.mem_singleton] at waiting
        subst waiting
        refine .taken offered routes (silent.trans removed) (pushes.trans pushed) (.inr ?_)
        simp [opening, List.count_append, unaccepted]
      · rw [unopened] at waiting
        cases waiting
  | refused other routes unopened removed unpushed =>
      rw [unopened] at waiting
      cases waiting
  | spoiled spoiled =>
      apply AcceptStage.spoiled
      rw [silent, pushes]
      exact spoiled

theorem AcceptStage.discarded {screen : Nat}
    (stage : AcceptStage clientDetails pages history before replies)
    (waiting : screen ∈ before.openings)
    (popped : .newRequestScreen screen ∉ before.routes) :
    AcceptStage clientDetails pages history
      { before with openings := before.openings.erase screen } replies := by
  cases stage with
  | fresh routes unpushed unopened unchanged =>
      rw [unopened] at waiting
      cases waiting
  | taken offered routes removed pushed built =>
      rcases built with ⟨opening, unaccepted⟩ | ⟨unopened, _⟩
      · rw [opening, List.mem_singleton] at waiting
        subst waiting
        rw [routes] at popped
        exact (popped (List.mem_cons_self ..)).elim
      · rw [unopened] at waiting
        cases waiting
  | refused other routes unopened removed unpushed =>
      rw [unopened] at waiting
      cases waiting
  | spoiled spoiled => exact .spoiled spoiled

theorem AcceptStage.of_same {other : AcceptDialog}
    (stage : AcceptStage clientDetails pages history before replies)
    (routes : other.routes = before.routes) (pushed : other.pushed = before.pushed)
    (openings : other.openings = before.openings) :
    AcceptStage clientDetails pages history other replies := by
  cases stage with
  | fresh shown unpushed unopened unchanged =>
      exact .fresh (routes.trans shown) (pushed.trans unpushed) (openings.trans unopened) unchanged
  | taken offered shown removed once built =>
      rw [← openings] at built
      exact .taken offered (routes.trans shown) removed once built
  | refused different shown unopened removed unpushed =>
      exact .refused different (routes.trans shown) (openings.trans unopened) removed unpushed
  | spoiled spoiled =>
      rw [← routes] at spoiled
      exact .spoiled spoiled

/-- Events that are neither a reply nor the unmounting change nothing that was seen. -/
theorem AcceptLaw.silent {event : AcceptEvent}
    (law : AcceptLaw clientDetails pages past history before) (other : event ≠ .unmounted)
    (silent : repliesWhileMounted [event] = []) :
    repliesWhileMounted (past ++ [event]) = repliesWhileMounted past ∧
      (before.mounted = true ↔ .unmounted ∉ past ++ [event]) := by
  constructor
  · by_cases mounted : .unmounted ∈ past
    · exact repliesWhileMounted_of_unmounted _ mounted
    · rw [repliesWhileMounted_append _ mounted, silent, List.append_nil]
  · rw [law.mounted, List.mem_append, List.mem_singleton, not_or]
    exact (and_iff_left other.symm).symm

/-- A read that completes. -/
theorem AcceptLaw.slotReply_step {value : Option SlotValue}
    (law : AcceptLaw clientDetails pages past history before)
    (stepped : before.step (.slotReply value) = some (after, actions)) :
    AcceptLaw clientDetails pages (past ++ [.slotReply value]) (history ++ actions) after := by
  simp only [AcceptDialog.step] at stepped
  split at stepped
  · have handled := Option.some.inj stepped
    obtain ⟨details, mounted⟩ := AcceptDialog.performAll_keeps
      { before with reads := before.reads - 1 }
      (checkAvailability before.clientDetails value)
    have waiting : AcceptStage clientDetails pages history
        { before with reads := before.reads - 1 } (repliesWhileMounted past) :=
      law.stage.of_same rfl rfl rfl
    simp only [NotificationDialog.checkAvailabilityOfRide] at handled
    rw [handled] at details mounted
    have shown : after.mounted = true ↔ .unmounted ∉ past ++ [.slotReply value] := by
      rw [mounted, law.mounted]
      simp
    refine ⟨details.trans law.details, shown, ?_⟩
    cases here : before.mounted with
    | true =>
        have replies := repliesWhileMounted_append [.slotReply value] (law.mounted.mp here)
        rw [replies]
        exact waiting.reply law.details here handled
    | false =>
        have gone : .unmounted ∈ past := by
          by_contra absent
          rw [law.mounted.mpr absent] at here
          cases here
        have thrown := @AcceptDialog.reply_of_thrown
          { before with reads := before.reads - 1 } value (.inl here)
        cases thrown.symm.trans handled
        rw [repliesWhileMounted_of_unmounted _ gone, List.append_nil]
        exact waiting
  · cases stepped

theorem AcceptLaw.step {event : AcceptEvent}
    (law : AcceptLaw clientDetails pages past history before)
    (stepped : before.step event = some (after, actions)) :
    AcceptLaw clientDetails pages (past ++ [event]) (history ++ actions) after := by
  cases event with
  | tap =>
      simp only [AcceptDialog.step] at stepped
      split at stepped <;> cases stepped
      obtain ⟨same, mounted⟩ := law.silent (by simp : AcceptEvent.tap ≠ .unmounted) rfl
      refine ⟨law.details, mounted, ?_⟩
      rw [same, List.append_nil]
      exact law.stage.of_same rfl rfl rfl
  | readFailed =>
      simp only [AcceptDialog.step] at stepped
      split at stepped <;> cases stepped
      obtain ⟨same, mounted⟩ := law.silent (by simp : AcceptEvent.readFailed ≠ .unmounted) rfl
      refine ⟨law.details, mounted, ?_⟩
      rw [same, List.append_nil]
      exact law.stage.of_same rfl rfl rfl
  | unmounted =>
      simp only [AcceptDialog.step] at stepped
      split at stepped <;> cases stepped
      have same : repliesWhileMounted (past ++ [.unmounted]) = repliesWhileMounted past := by
        by_cases gone : .unmounted ∈ past
        · exact repliesWhileMounted_of_unmounted _ gone
        · rw [repliesWhileMounted_append _ gone]
          exact List.append_nil _
      refine ⟨law.details, by simp, ?_⟩
      rw [same, List.append_nil]
      exact law.stage.of_same rfl rfl rfl
  | built screen =>
      simp only [AcceptDialog.step] at stepped
      split at stepped <;> cases stepped
      next waiting =>
      obtain ⟨same, mounted⟩ :=
        law.silent (by simp : AcceptEvent.built screen ≠ .unmounted) rfl
      refine ⟨law.details, mounted, ?_⟩
      rw [same]
      exact law.stage.built waiting
  | discarded screen =>
      simp only [AcceptDialog.step] at stepped
      split at stepped <;> cases stepped
      next waiting =>
      obtain ⟨same, mounted⟩ :=
        law.silent (by simp : AcceptEvent.discarded screen ≠ .unmounted) rfl
      refine ⟨law.details, mounted, ?_⟩
      rw [same, List.append_nil]
      exact law.stage.discarded waiting.1 waiting.2
  | slotReply value => exact law.slotReply_step stepped

end Steps

/-- Once all reads of the dialog have completed and every ride screen is built or gone,
the offer was taken exactly once exactly if one read completed while the dialog's
context was mounted, with the dialog's request as its value. -/
theorem acceptedOnce_iff_oneOffer (clientDetails : ClientDetails String) (pages : Nat)
    {dialog : AcceptDialog} {events : List AcceptEvent} {actions : List RouteAction}
    (run : exec AcceptDialog.component (.shown clientDetails pages) events =
      some (dialog, actions)) (settled : dialog.Settled) :
    AcceptedOnce actions ↔ OneOffer clientDetails (repliesWhileMounted events) := by
  have law : AcceptLaw clientDetails pages ([] ++ events) ([] ++ actions) dialog := by
    apply exec_trace_invariant (AcceptLaw clientDetails pages) _ [] []
      (AcceptLaw.initial clientDetails pages) (fun _ _ => trivial) run
    intro past history before event after emitted held _ stepped
    exact held.step stepped
  have stage := law.stage
  simp only [List.nil_append] at stage
  generalize repliesWhileMounted events = replies at stage
  cases stage with
  | fresh routes unpushed unopened unchanged =>
      subst actions
      constructor
      · intro once
        cases once.pushed
      · intro offer
        obtain ⟨value, same, _⟩ := offer
        cases same
  | taken offered routes removed pushed built =>
      constructor
      · intro _
        exact ⟨_, rfl, offered⟩
      · intro _
        rcases built with ⟨opening, _⟩ | ⟨_, accepted⟩
        · rw [settled.built] at opening
          cases opening
        · exact ⟨pushed, accepted, removed⟩
  | refused other routes unopened removed unpushed =>
      constructor
      · intro once
        have pushed := once.pushed
        rw [unpushed] at pushed
        cases pushed
      · intro offer
        obtain ⟨value, same, offered⟩ := offer
        cases same
        exact (other offered).elim
  | spoiled spoiled =>
      constructor
      · intro once
        rcases spoiled with removed | ⟨_, unpushed⟩
        · rw [once.removed] at removed
          cases removed with
          | step impossible => cases impossible
        · have pushed := once.pushed
          rw [unpushed] at pushed
          cases pushed
      · intro offer
        obtain ⟨value, same, _⟩ := offer
        cases same

theorem acceptedOnce_of_late_second_reply :
    ∃ dialog actions,
      exec AcceptDialog.component (.shown sampleDetails 1)
        [.tap, .tap, .slotReply (some (.text "request-1")), .built 0, .unmounted,
          .slotReply (some (.text "request-1"))] = some (dialog, actions) ∧
      AcceptedOnce actions := by
  have ends : ((exec AcceptDialog.component (.shown sampleDetails 1)
      [.tap, .tap, .slotReply (some (.text "request-1")), .built 0, .unmounted,
        .slotReply (some (.text "request-1"))]).map fun result =>
          (result.1.reads, result.1.openings)) = some (0, []) := by
    decide +kernel
  obtain ⟨⟨dialog, actions⟩, run, reached⟩ := Option.map_eq_some_iff.mp ends
  simp only [Prod.mk.injEq] at reached
  refine ⟨dialog, actions, run, ?_⟩
  apply (acceptedOnce_iff_oneOffer sampleDetails 1 run ⟨reached.1, reached.2⟩).mpr
  exact ⟨_, rfl, by decide⟩

theorem not_acceptedOnce_of_second_reply :
    ¬ ∀ (clientDetails : ClientDetails String) (pages : Nat) (dialog : AcceptDialog)
        (events : List AcceptEvent) (actions : List RouteAction),
      exec AcceptDialog.component (.shown clientDetails pages) events = some (dialog, actions) →
      (repliesWhileMounted events).head? = some (some (.text clientDetails.rideRequestId)) →
      dialog.Settled → AcceptedOnce actions := by
  intro always
  have ends : ((exec AcceptDialog.component (.shown sampleDetails 1)
      [.tap, .tap, .slotReply (some (.text "request-1")), .built 0,
        .slotReply (some (.text "accepted"))]).map fun result =>
          (result.1.reads, result.1.openings, removedRoutes result.2)) =
        some (0, [], [.dialog, .newRequestScreen 0]) := by
    decide +kernel
  obtain ⟨⟨dialog, actions⟩, run, reached⟩ := Option.map_eq_some_iff.mp ends
  simp only [Prod.mk.injEq] at reached
  obtain ⟨completed, built, removed⟩ := reached
  have once := always sampleDetails 1 dialog _ actions run rfl ⟨completed, built⟩
  have only := once.removed
  rw [removed] at only
  cases only

end FilldRider
