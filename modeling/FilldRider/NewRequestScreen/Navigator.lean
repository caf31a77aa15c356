import FilldRider.NewRequestScreen.Background
import FilldRider.NewRequestScreen.Moves
import FilldRider.Records.Aligned

/-!
# The navigator of a ride

The routes above the home page while a ride is shown. A pop removes whatever is on top;
each one is written down next to the dialog it is meant for. The dialogs of the route
can be dismissed by a tap beside them, and the back button of the system removes whatever
is on top, also a dialog that locks the screen, and the ride screen itself.
-/

set_option autoImplicit false

namespace FilldRider

open Runs

/-- Who shows a progress dialog: `onMapCreated`, or a tap on the stage button. -/
inductive Owner where
  | map
  | copy (id : Nat)
  deriving DecidableEq, Repr

inductive RideRoute where
  | home
  | newRequestScreen
  | progress (barrierDismissible : Bool) (owner : Owner)
  | collectFare
  deriving DecidableEq, Repr

def RideRoute.isProgress : RideRoute → Bool
  | .progress .. => true
  | .home | .newRequestScreen | .collectFare => false

/-- The user dismisses a route by a tap beside it or by the back button. -/
inductive RouteChange where
  | pushed (route : RideRoute)
  | popped (meant removed : Option RideRoute)
  | dismissed (route : RideRoute)
  deriving DecidableEq, Repr

def RouteChange.removed? : RouteChange → Option RideRoute
  | .pushed _ => none
  | .popped _ removed => removed
  | .dismissed route => some route

def RouteChange.Matched : RouteChange → Prop
  | .popped meant removed => removed = meant
  | .pushed _ | .dismissed _ => True

instance : ∀ change : RouteChange, Decidable change.Matched
  | .popped meant removed => inferInstanceAs (Decidable (removed = meant))
  | .pushed _ | .dismissed _ => isTrue trivial

/-- The dialogs that a copy waiting here is to remove, the top one first. -/
def TapPoint.dialogs (owner : Owner) : TapPoint → List RideRoute
  | .arrivedDirections => [.progress true owner, .progress false owner]
  | .completedDirections => [.progress true owner]
  | .endDirections => [.progress false owner]
  | _ => []

variable {RequestId : Type}

/-- The screen with the routes, the top one first. Taps get their numbers in order;
`copies` are those of the pending copies of the handler. -/
structure RideNavigator (RequestId : Type) where
  screen : NewRequestScreen RequestId
  routes : List RideRoute := [.newRequestScreen, .home]
  copies : List Nat := []
  tapped : Nat := 0
  deriving DecidableEq

inductive NavigatorEvent where
  | screen (rideType : String) (event : ScreenEvent)
  | dismiss
  | back
  | done
  deriving DecidableEq

namespace RideNavigator

/-- The calls of a step on the navigator, with what its pops are meant for. -/
def perform (owner : Owner) :
    List ScreenAction → List RideRoute → List RideRoute → List RideRoute × List RouteChange
  | [], _, routes => (routes, [])
  | .showDialog (.progress barrierDismissible) :: rest, meant, routes =>
      let route := RideRoute.progress barrierDismissible owner
      let (last, changes) := perform owner rest meant (route :: routes)
      (last, .pushed route :: changes)
  | .showDialog (.collectFare ..) :: rest, meant, routes =>
      let (last, changes) := perform owner rest meant (.collectFare :: routes)
      (last, .pushed .collectFare :: changes)
  | .pop :: rest, meant, routes =>
      let (last, changes) := perform owner rest meant.tail routes.tail
      (last, .popped meant.head? routes.head? :: changes)
  | .entered .. :: rest, meant, routes | .write _ :: rest, meant, routes
  | .showSnackBar _ :: rest, meant, routes | .directions .. :: rest, meant, routes
  | .endTheTrip :: rest, meant, routes | .saveEarnings _ :: rest, meant, routes =>
      perform owner rest meant routes

def owner (navigator : RideNavigator RequestId) : ScreenEvent → Owner
  | .reply copy _ => .copy (navigator.copies[copy]?.getD navigator.tapped)
  | _ => .map

/-- The dialogs of the call that an event answers. -/
def dialogs (navigator : RideNavigator RequestId) : ScreenEvent → List RideRoute
  | .reply copy reply =>
      (navigator.screen.taps[copy]?.map fun tap =>
        tap.point.dialogs (navigator.owner (.reply copy reply))).getD []
  | .mapReply _ => [.progress true .map]
  | _ => []

/-- What the pops of a step are meant for: dialogs, or the screen when the ride is
cancelled. -/
def meant (navigator : RideNavigator RequestId) : ScreenEvent → List RideRoute
  | .statusValue _ => [.newRequestScreen]
  | event => navigator.dialogs event

/-- A covered button takes no taps, and a screen is disposed of when its route is gone. -/
def admits (navigator : RideNavigator RequestId) : ScreenEvent → Bool
  | .tap => decide (navigator.routes.head? = some .newRequestScreen)
  | .unmount => decide (.newRequestScreen ∉ navigator.routes)
  | _ => true

def advanceCopies (navigator : RideNavigator RequestId) (after : NewRequestScreen RequestId) :
    ScreenEvent → List Nat
  | .tap => navigator.copies ++ [navigator.tapped]
  | .reply copy _ =>
      if after.taps.length < navigator.screen.taps.length then navigator.copies.eraseIdx copy
      else navigator.copies
  | _ => navigator.copies

def advanceTapped (navigator : RideNavigator RequestId) : ScreenEvent → Nat
  | .tap => navigator.tapped + 1
  | _ => navigator.tapped

/-- Back on the home page leaves the app. `Done` of the fare dialog pops twice. -/
def step (navigator : RideNavigator RequestId) :
    NavigatorEvent → Option (RideNavigator RequestId × List RouteChange)
  | .screen rideType event =>
      if navigator.admits event then
        match navigator.screen.step rideType event with
        | none => none
        | some (screen, actions) =>
            let (routes, changes) :=
              perform (navigator.owner event) actions (navigator.meant event) navigator.routes
            some ({
              screen
              routes
              copies := navigator.advanceCopies screen event
              tapped := navigator.advanceTapped event }, changes)
      else none
  | .dismiss =>
      match navigator.routes with
      | .progress true owner :: below =>
          some ({ navigator with routes := below }, [.dismissed (.progress true owner)])
      | _ => none
  | .back =>
      match navigator.routes with
      | [] | .home :: _ => none
      | route :: below => some ({ navigator with routes := below }, [.dismissed route])
  | .done =>
      match navigator.routes with
      | .collectFare :: below =>
          some ({ navigator with routes := below.tail },
            [.popped (some .collectFare) (some .collectFare),
              .popped (some .newRequestScreen) below.head?])
      | _ => none

def component : Component (RideNavigator RequestId) NavigatorEvent RouteChange := step

/-- The copy of a number waits here. -/
def Pending (copies : List Nat) (taps : List Tap) (id : Nat) (point : TapPoint) : Prop :=
  ∃ label, Records.At copies taps id (Tap.mk label point)

/-- A call waits whose end removes this dialog. -/
def Waits (navigator : RideNavigator RequestId) (route : RideRoute) : Prop :=
  (∃ id point, Pending navigator.copies navigator.screen.taps id point ∧
      route ∈ point.dialogs (.copy id)) ∨
    route = .progress true .map ∧ navigator.screen.mapDirections = true

end RideNavigator

def NavigatorEvent.leaves : NavigatorEvent → Bool
  | .done | .screen _ (.statusValue (some .cancelled)) => true
  | _ => false

namespace RideNavigator

/-- Every pop removed what it was meant for, every progress dialog still has a call
that removes it, and the ride screen was removed by `Done` or a cancellation only. -/
structure Balanced (trace : List (NavigatorEvent × List RouteChange))
    (navigator : RideNavigator RequestId) : Prop where
  matched : ∀ entry ∈ trace, ∀ change ∈ entry.2, change.Matched
  owned : ∀ route ∈ navigator.routes, route.isProgress = true → navigator.Waits route
  leaves : ∀ entry ∈ trace, ∀ change ∈ entry.2, change.removed? = some .newRequestScreen →
    entry.1.leaves = true

/-- How many dialogs a copy removes when it gets this reply. -/
def tapPops (screen : NewRequestScreen RequestId) : TapPoint → Reply → Nat
  | .arrivedDirections, .directions details =>
      if screen.mounted then if screen.drawsRoute details then 2 else 1 else 0
  | .completedDirections, .directions _ | .endDirections, .directions _ =>
      if screen.mounted then 1 else 0
  | _, _ => 0

def pops (navigator : RideNavigator RequestId) : ScreenEvent → Nat
  | .reply copy reply =>
      (navigator.screen.taps[copy]?.map fun tap =>
        tapPops navigator.screen tap.point reply).getD 0
  | .mapReply (.directions _) => if navigator.screen.mounted then 1 else 0
  | _ => 0

/-- The reply after which `endTheTrip` shows its dialog and throws for want of a position. -/
def tapLoses (screen : NewRequestScreen RequestId) : TapPoint → Reply → Bool
  | .endNotification, .done => screen.mounted && screen.myPosition.isNone
  | _, _ => false

def loses (navigator : RideNavigator RequestId) : ScreenEvent → Bool
  | .reply copy reply =>
      (navigator.screen.taps[copy]?.map fun tap =>
        tapLoses navigator.screen tap.point reply).getD false
  | _ => false

/-- An answer finds on top the dialogs it removes and leaves none of its call behind;
the trip ends with a known position; the back button is not used on the ride screen; and
`Done` finds the ride screen below. -/
def InOrder (_ : List (NavigatorEvent × List RouteChange))
    (navigator : RideNavigator RequestId) : NavigatorEvent → Prop
  | .screen _ event =>
      navigator.routes.take (navigator.pops event) =
          (navigator.dialogs event).take (navigator.pops event) ∧
        (∀ route ∈ navigator.dialogs event, route ∉ navigator.routes.drop (navigator.pops event)) ∧
        navigator.loses event = false
  | .dismiss => True
  | .back => navigator.routes.head? ≠ some .newRequestScreen
  | .done => navigator.routes.tail.head? = some .newRequestScreen

instance (trace : List (NavigatorEvent × List RouteChange))
    (navigator : RideNavigator RequestId) :
    ∀ event : NavigatorEvent, Decidable (InOrder trace navigator event)
  | .screen _ _ => inferInstanceAs (Decidable (_ = _ ∧ (∀ route ∈ _, route ∉ _) ∧ _ = _))
  | .dismiss => isTrue trivial
  | .back => inferInstanceAs (Decidable (_ ≠ _))
  | .done => inferInstanceAs (Decidable (_ = _))

/-! ## What a reply does to the routes -/

def onward (owner : Owner) : Option TapPoint → List RideRoute
  | none => []
  | some point => point.dialogs owner

/-- The routes after a copy is resumed: some dialogs removed, those of its next await
shown, or the one that `endTheTrip` shows before it throws. -/
structure Performs (screen : NewRequestScreen RequestId) (point : TapPoint) (reply : Reply)
    (next : Option TapPoint) (owner : Owner) (routes : List RideRoute)
    (result : List RideRoute × List RouteChange) : Prop where
  changed : ∃ fresh, result.1 = fresh ++ routes.drop (tapPops screen point reply) ∧
    (tapLoses screen point reply = false →
      fresh.filter RideRoute.isProgress = onward owner next) ∧
    (tapLoses screen point reply = true → fresh = [.progress false owner] ∧ next = none)
  ends : point.dialogs owner = [] ∨ onward owner next = []
  matched : (∀ change ∈ result.2, change.Matched) ↔
    routes.take (tapPops screen point reply) =
      (point.dialogs owner).take (tapPops screen point reply)
  meant : ∀ meant removed, .popped meant removed ∈ result.2 →
    ∃ route ∈ point.dialogs owner, meant = some route
  undismissed : ∀ route, .dismissed route ∉ result.2

variable {rideType : String} {screen resumed : NewRequestScreen RequestId} {label : ButtonLabel}
  {point : TapPoint} {reply : Reply} {next : Option TapPoint} {actions : List ScreenAction}

theorem take_one_eq {routes : List RideRoute} {route : RideRoute} :
    routes.take 1 = [route] ↔ routes.head? = some route := by
  cases routes <;> simp

theorem take_two_eq {routes : List RideRoute} {first second : RideRoute} :
    routes.take 2 = [first, second] ↔
      routes.head? = some first ∧ routes.tail.head? = some second := by
  match routes with
  | [] | [_] | _ :: _ :: _ => simp

/-- No dialog and no pop. -/
def Silent : ScreenAction → Bool
  | .showDialog _ | .pop => false
  | .entered .. | .write _ | .showSnackBar _ | .directions .. | .endTheTrip
  | .saveEarnings _ => true

theorem perform_silent {owner : Owner} {meant routes : List RideRoute}
    (silent : ∀ action ∈ actions, Silent action = true) :
    perform owner actions meant routes = (routes, []) := by
  induction actions with
  | nil => rfl
  | cons action rest ih =>
      have first := silent action (List.mem_cons_self ..)
      have others := ih fun action member => silent action (List.mem_cons_of_mem _ member)
      cases action with
      | showDialog _ | pop => cases first
      | entered | write | showSnackBar | directions | endTheTrip | saveEarnings =>
          rw [perform, others]

theorem Performs.of_silent {owner : Owner} {routes : List RideRoute}
    (silent : ∀ action ∈ actions, Silent action = true)
    (keeps : tapPops screen point reply = 0) (known : tapLoses screen point reply = false)
    (leads : onward owner next = []) :
    Performs screen point reply next owner routes
      (perform owner actions (point.dialogs owner) routes) := by
  rw [perform_silent silent]
  refine ⟨⟨[], ?_, fun _ => leads.symm, ?_⟩, .inr leads, ?_, ?_, ?_⟩
  · rw [keeps]
    rfl
  · simp [known]
  · simp [keeps]
  · simp
  · simp

theorem Performs.of_pop {owner : Owner} {routes others : List RideRoute}
    {route : RideRoute} (fresh pushed : List RideRoute) (one : tapPops screen point reply = 1)
    (known : tapLoses screen point reply = false)
    (dialogs : point.dialogs owner = route :: others)
    (quiet : fresh.filter RideRoute.isProgress = []) (leads : onward owner next = []) :
    Performs screen point reply next owner routes
      (fresh ++ routes.tail, .popped (some route) routes.head? :: pushed.map .pushed) := by
  refine ⟨⟨fresh, ?_, fun _ => quiet.trans leads.symm, ?_⟩, .inr leads, ?_, ?_, ?_⟩
  · rw [one, List.drop_one]
  · simp [known]
  · rw [one, dialogs, List.take_succ_cons, List.take_zero, take_one_eq]
    simp [RouteChange.Matched]
  · intro meant removed member
    have same : RouteChange.popped meant removed = .popped (some route) routes.head? :=
      (List.mem_cons.mp member).resolve_right (by simp)
    cases same
    exact ⟨route, by simp [dialogs], rfl⟩
  · simp

theorem Performs.of_push {owner : Owner} {routes : List RideRoute}
    (fresh pushed : List RideRoute) (keeps : tapPops screen point reply = 0)
    (begins : point.dialogs owner = [])
    (leads : tapLoses screen point reply = false →
      fresh.filter RideRoute.isProgress = onward owner next)
    (lost : tapLoses screen point reply = true → fresh = [.progress false owner] ∧ next = none) :
    Performs screen point reply next owner routes
      (fresh ++ routes, pushed.map .pushed) := by
  refine ⟨⟨fresh, ?_, leads, lost⟩, .inl begins, ?_, ?_, ?_⟩
  · rw [keeps, List.drop_zero]
  · simp [keeps, RouteChange.Matched]
  · simp
  · simp

private theorem performs_two {owner : Owner} {routes : List RideRoute}
    (two : tapPops screen .arrivedDirections reply = 2) (leads : onward owner next = []) :
    Performs screen .arrivedDirections reply next owner routes
      (perform owner [.pop, .pop] (TapPoint.arrivedDirections.dialogs owner) routes) := by
  refine ⟨⟨[], ?_, fun _ => leads.symm, ?_⟩, .inr leads, ?_, ?_, ?_⟩
  · rw [two]
    match routes with
    | [] | [_] | _ :: _ :: _ => rfl
  · simp [tapLoses]
  · rw [two]
    simp only [TapPoint.dialogs, List.take_succ_cons, List.take_zero, take_two_eq]
    simp [perform, RouteChange.Matched]
  · intro meant removed member
    simp only [perform, TapPoint.dialogs, List.mem_cons, List.not_mem_nil, or_false,
      RouteChange.popped.injEq] at member
    rcases member with ⟨rfl, _⟩ | ⟨rfl, _⟩
    · exact ⟨_, List.mem_cons_self .., rfl⟩
    · exact ⟨_, List.mem_cons_of_mem _ (List.mem_cons_self ..), rfl⟩
  · simp [perform]

private theorem enterBranch_performs (owner : Owner) (routes : List RideRoute)
    (resumes : screen.enterBranch label = (resumed, next, actions)) :
    Performs screen .clientToken reply next owner routes
      (perform owner actions (TapPoint.clientToken.dialogs owner) routes) := by
  unfold NewRequestScreen.enterBranch at resumes
  split at resumes <;>
    · cases resumes
      exact .of_silent (by simp [Silent]) (by simp [tapPops]) (by simp [tapLoses]) rfl

private theorem endTheTrip_performs (owner : Owner) (routes : List RideRoute)
    (mounted : screen.mounted = true)
    (resumes : NewRequestScreen.endTheTrip { screen with btnTitle := .endTrip } =
      (resumed, next, actions)) :
    Performs screen .endNotification .done next owner routes
      (perform owner actions (TapPoint.endNotification.dialogs owner) routes) := by
  unfold NewRequestScreen.endTheTrip at resumes
  split at resumes
  · next unknown =>
    cases resumes
    have lost : tapLoses screen .endNotification .done = true := by
      simpa [tapLoses, mounted] using unknown
    exact .of_push [.progress false owner] [.progress false owner] rfl rfl (by simp [lost])
      (fun _ => ⟨rfl, rfl⟩)
  · next position known =>
    cases resumes
    have kept : screen.myPosition = some position := known
    exact .of_push [.progress false owner] [.progress false owner] rfl rfl (fun _ => rfl)
      (by simp [tapLoses, kept])

private theorem finishTrip_performs (owner : Owner) (routes : List RideRoute)
    {details : Option DirectionDetails} (mounted : screen.mounted = true)
    (resumes : screen.finishTrip rideType details = (resumed, next, actions)) :
    Performs screen .endDirections (.directions details) next owner routes
      (perform owner actions (TapPoint.endDirections.dialogs owner) routes) := by
  have one : tapPops screen .endDirections (.directions details) = 1 := by
    simp [tapPops, mounted]
  unfold NewRequestScreen.finishTrip at resumes
  split at resumes
  · cases resumes
    exact .of_pop [] [] one rfl rfl rfl rfl
  · cases resumes
    exact .of_pop [.collectFare] [.collectFare] one rfl rfl rfl rfl

theorem resume_performs (owner : Owner) (routes : List RideRoute)
    (resumes : screen.resume rideType label point reply = some (resumed, next, actions)) :
    Performs screen point reply next owner routes
      (perform owner actions (point.dialogs owner) routes) := by
  unfold NewRequestScreen.resume at resumes
  split at resumes
  case h_5 => exact enterBranch_performs owner routes (Option.some.inj resumes)
  case h_6 =>
    split at resumes
    · cases resumes
      exact .of_push [.progress true owner, .progress false owner]
        [.progress false owner, .progress true owner] rfl rfl (fun _ => rfl) (by simp [tapLoses])
    · cases resumes
      exact .of_silent (by simp) rfl rfl rfl
  case h_7 =>
    split at resumes
    · next mounted =>
      split at resumes
      · next draws =>
        cases resumes
        exact performs_two (by simp [tapPops, mounted, draws]) rfl
      · next undrawn =>
        cases resumes
        exact .of_pop [] [] (by simp [tapPops, mounted, undrawn]) rfl rfl rfl rfl
    · next gone =>
      cases resumes
      exact .of_silent (by simp) (by simp [tapPops, gone]) rfl rfl
  case h_12 =>
    split at resumes
    · cases resumes
      exact .of_push [.progress true owner] [.progress true owner] rfl rfl (fun _ => rfl)
        (by simp [tapLoses])
    · cases resumes
      exact .of_silent (by simp) rfl rfl rfl
  case h_13 =>
    split at resumes
    · next mounted =>
      split at resumes <;>
        · cases resumes
          exact .of_pop [] [] (by simp [tapPops, mounted]) rfl rfl rfl rfl
    · next gone =>
      cases resumes
      exact .of_silent (by simp) (by simp [tapPops, gone]) rfl rfl
  case h_15 =>
    split at resumes
    · next mounted => exact endTheTrip_performs owner routes mounted (Option.some.inj resumes)
    · next gone =>
      cases resumes
      exact .of_silent (by simp) rfl (by simp [tapLoses, gone]) rfl
  case h_16 =>
    split at resumes
    · next mounted => exact finishTrip_performs owner routes mounted (Option.some.inj resumes)
    · next gone =>
      cases resumes
      exact .of_silent (by simp) (by simp [tapPops, gone]) rfl rfl
  all_goals
    repeat' split at resumes
    all_goals
      cases resumes
      try exact .of_silent (by simp) (by simp [tapPops]) (by simp [tapLoses]) rfl

end RideNavigator

end FilldRider
