import FilldRider.NewRequestScreen.Basic

/-!
# What a step does to the ride

The moves of the stage button: an abstract account of the screen that keeps only
the stage, the label, the pending copies of the handler and the writes. Every step
of the screen is one of these moves, so laws about the ride are proved over moves.
-/

set_option autoImplicit false

namespace FilldRider

open Runs

variable {RequestId : Type}

/-- Dialogs, pops and directions requests: no write, no branch, no end of the trip. -/
def ScreenAction.Quiet : ScreenAction → Prop
  | .entered .. | .write _ | .endTheTrip | .saveEarnings _ => False
  | .showDialog _ | .pop | .showSnackBar _ | .directions .. => True

def Stage.advance : Stage → Option (Stage × TapPoint)
  | .accepted => some (.arrived, .arrivedWrite)
  | .arrived => some (.returning, .returningWrite)
  | .returning => some (.arrivedAtGasStation, .gasStationWrite)
  | .arrivedAtGasStation => some (.completed, .completedWrite)
  | .completed | .ended => none

/-- The label a copy shows when it gets past this await, and where it waits next. -/
def TapPoint.relabels : TapPoint → Option (ButtonLabel × Option TapPoint)
  | .arrivedWrite => some (.startJob, some .arrivedDirections)
  | .returningWrite => some (.arrivedAtGasStation, none)
  | .gasStationWrite => some (.completeDelivery, some .gasStationNotification)
  | .completedDirections => some (.endTrip, none)
  | _ => none

/-- The next await of a copy that changes neither stage nor label on the way. -/
def TapPoint.follows : TapPoint → Option TapPoint
  | .clientId => some .clientToken
  | .arrivedDirections => some .arrivedNotification
  | .completedWrite => some .completedDirections
  | .endWrite => some .endNotification
  | _ => none

/-- What every step leaves alone: the request, and the cancellation listener if it
is not active. -/
structure NewRequestScreen.Keeps (before after : NewRequestScreen RequestId) : Prop where
  details : after.clientDetails = before.clientDetails
  listener : after.rideStreamSubscription = true → before.rideStreamSubscription = true

/-- One move of the ride screen, by what it does to stage, label, copies and writes. -/
inductive StageMove (rideType : String) (before : NewRequestScreen RequestId) :
    ScreenEvent → NewRequestScreen RequestId → List ScreenAction → Prop where
  | tap {after : NewRequestScreen RequestId}
      (mounted : before.mounted = true)
      (status : after.status = before.status) (title : after.btnTitle = before.btnTitle)
      (taps : after.taps = before.taps ++ [⟨before.btnTitle, .clientId⟩])
      (frame : before.Keeps after) :
      StageMove rideType before .tap after []
  | advance {after : NewRequestScreen RequestId} {copy : Nat} {token : String}
      {label : ButtonLabel} {point : TapPoint}
      (waiting : before.taps[copy]? = some ⟨label, .clientToken⟩)
      (next : before.status.advance = some (after.status, point))
      (title : after.btnTitle = before.btnTitle)
      (taps : after.taps = before.taps.set copy ⟨label, point⟩)
      (frame : before.Keeps after) :
      StageMove rideType before (.reply copy (.value (some token))) after
        [.entered label before.status, .write (.status after.status)]
  | endTrip {after : NewRequestScreen RequestId} {copy : Nat} {token : String}
      {label : ButtonLabel}
      (waiting : before.taps[copy]? = some ⟨label, .clientToken⟩)
      (completed : before.status = .completed)
      (status : after.status = before.status) (title : after.btnTitle = before.btnTitle)
      (taps : after.taps = before.taps.set copy ⟨label, .endWrite⟩)
      (frame : before.Keeps after) :
      StageMove rideType before (.reply copy (.value (some token))) after
        [.entered label .completed, .write (.status .completed)]
  | relabel {after : NewRequestScreen RequestId} {copy : Nat} {reply : Reply}
      {label : ButtonLabel} {point : TapPoint} {next : Option TapPoint}
      {actions : List ScreenAction}
      (waiting : before.taps[copy]? = some ⟨label, point⟩)
      (shown : point.relabels = some (after.btnTitle, next))
      (status : after.status = before.status)
      (taps : after.taps = NewRequestScreen.advanceTap before.taps copy label next)
      (quiet : ∀ action ∈ actions, action.Quiet)
      (frame : before.Keeps after) :
      StageMove rideType before (.reply copy reply) after actions
  | proceed {after : NewRequestScreen RequestId} {copy : Nat} {reply : Reply}
      {label : ButtonLabel} {point : TapPoint} {next : Option TapPoint}
      {actions : List ScreenAction}
      (waiting : before.taps[copy]? = some ⟨label, point⟩)
      (onward : next = none ∨ next = point.follows)
      (status : after.status = before.status) (title : after.btnTitle = before.btnTitle)
      (taps : after.taps = NewRequestScreen.advanceTap before.taps copy label next)
      (quiet : ∀ action ∈ actions, action.Quiet)
      (frame : before.Keeps after) :
      StageMove rideType before (.reply copy reply) after actions
  | endTheTrip {after : NewRequestScreen RequestId} {copy : Nat} {reply : Reply}
      {label : ButtonLabel} {next : Option TapPoint} {actions : List ScreenAction}
      (waiting : before.taps[copy]? = some ⟨label, .endNotification⟩)
      (onward : next = none ∨ next = some .endDirections)
      (status : after.status = before.status) (title : after.btnTitle = .endTrip)
      (taps : after.taps = NewRequestScreen.advanceTap before.taps copy label next)
      (quiet : ∀ action ∈ actions, action.Quiet)
      (frame : before.Keeps after) :
      StageMove rideType before (.reply copy reply) after (.endTheTrip :: actions)
  | finish {after : NewRequestScreen RequestId} {copy : Nat} {label : ButtonLabel}
      {details : DirectionDetails} {fareAmount : Int} {dialog : ScreenDialog}
      (mounted : before.mounted = true)
      (waiting : before.taps[copy]? = some ⟨label, .endDirections⟩)
      (fare : calculateFares rideType details = some fareAmount)
      (status : after.status = before.status) (title : after.btnTitle = before.btnTitle)
      (taps : after.taps = before.taps.eraseIdx copy)
      (frame : before.Keeps after) :
      StageMove rideType before (.reply copy (.directions (some details))) after
        [.pop, .write (.fares fareAmount), .write (.status .ended), .showDialog dialog,
          .saveEarnings fareAmount]
  | locate {after : NewRequestScreen RequestId} {position : LatLng}
      {actions : List ScreenAction}
      (listening : before.mounted = true ∧ before.animatingMarkerIcon = true)
      (status : after.status = before.status) (title : after.btnTitle = before.btnTitle)
      (taps : after.taps = before.taps) (quiet : ∀ action ∈ actions, action.Quiet)
      (frame : before.Keeps after) :
      StageMove rideType before (.position position) after
        (actions ++ [.write (.driverLocation (some position))])
  | background {after : NewRequestScreen RequestId} {event : ScreenEvent}
      {actions : List ScreenAction}
      (status : after.status = before.status) (title : after.btnTitle = before.btnTitle)
      (taps : after.taps = before.taps) (quiet : ∀ action ∈ actions, action.Quiet)
      (frame : before.Keeps after) :
      StageMove rideType before event after actions

theorem StageMove.keeps {rideType : String} {before after : NewRequestScreen RequestId}
    {event : ScreenEvent} {actions : List ScreenAction}
    (moves : StageMove rideType before event after actions) : before.Keeps after := by
  cases moves <;> assumption

theorem NewRequestScreen.Keeps.unlistened {before after : NewRequestScreen RequestId}
    (frame : before.Keeps after) (unlistened : before.rideStreamSubscription = false) :
    after.rideStreamSubscription = false := by
  cases listening : after.rideStreamSubscription with
  | false => rfl
  | true =>
      rw [frame.listener listening] at unlistened
      cases unlistened

inductive ScreenWrite (rideType : String) (before : NewRequestScreen RequestId) :
    ScreenEvent → RequestWrite → Prop where
  | stage {copy : Nat} {token : String} {label : ButtonLabel} {stage : Stage}
      (waiting : before.taps[copy]? = some ⟨label, .clientToken⟩) :
      ScreenWrite rideType before (.reply copy (.value (some token))) (.status stage)
  | fares {copy : Nat} {label : ButtonLabel} {details : DirectionDetails} {fareAmount : Int}
      (waiting : before.taps[copy]? = some ⟨label, .endDirections⟩)
      (mounted : before.mounted = true)
      (fare : calculateFares rideType details = some fareAmount) :
      ScreenWrite rideType before (.reply copy (.directions (some details))) (.fares fareAmount)
  | ended {copy : Nat} {label : ButtonLabel} {details : DirectionDetails} {fareAmount : Int}
      (waiting : before.taps[copy]? = some ⟨label, .endDirections⟩)
      (mounted : before.mounted = true)
      (fare : calculateFares rideType details = some fareAmount) :
      ScreenWrite rideType before (.reply copy (.directions (some details))) (.status .ended)
  | location {position : LatLng} :
      ScreenWrite rideType before (.position position) (.driverLocation (some position))

theorem StageMove.screenWrite {rideType : String} {before after : NewRequestScreen RequestId}
    {event : ScreenEvent} {actions : List ScreenAction} {write : RequestWrite}
    (moves : StageMove rideType before event after actions)
    (written : .write write ∈ actions) : ScreenWrite rideType before event write := by
  cases moves with
  | tap mounted status title taps => cases written
  | advance waiting next title taps =>
      simp only [List.mem_cons, reduceCtorEq, ScreenAction.write.injEq, List.not_mem_nil,
        false_or, or_false] at written
      subst written
      exact .stage waiting
  | endTrip waiting completed status title taps =>
      simp only [List.mem_cons, reduceCtorEq, ScreenAction.write.injEq, List.not_mem_nil,
        false_or, or_false] at written
      subst written
      exact .stage waiting
  | finish mounted waiting fare status title taps =>
      simp only [List.mem_cons, reduceCtorEq, ScreenAction.write.injEq, List.not_mem_nil,
        false_or, or_false] at written
      rcases written with same | same <;> subst same
      · exact .fares waiting mounted fare
      · exact .ended waiting mounted fare
  | endTheTrip waiting onward status title taps quiet =>
      rcases List.mem_cons.mp written with same | later
      · cases same
      · exact (quiet _ later).elim
  | locate listening status title taps quiet =>
      rcases List.mem_append.mp written with requested | last
      · exact (quiet _ requested).elim
      · cases List.mem_singleton.mp last
        exact .location
  | relabel waiting shown status taps quiet => exact (quiet _ written).elim
  | proceed waiting onward status title taps quiet => exact (quiet _ written).elim
  | background status title taps quiet => exact (quiet _ written).elim

theorem mem_advanceTap {taps : List Tap} {copy : Nat} {label : ButtonLabel}
    {next : Option TapPoint} {tap : Tap}
    (member : tap ∈ NewRequestScreen.advanceTap taps copy label next) :
    tap ∈ taps ∨ ∃ point, next = some point ∧ tap = ⟨label, point⟩ := by
  cases next with
  | none => exact .inl (List.mem_of_mem_eraseIdx member)
  | some point =>
      rcases List.mem_or_eq_of_mem_set member with old | new
      · exact .inl old
      · exact .inr ⟨point, rfl, new⟩

theorem points_waiting {taps : List Tap} {copy : Nat} {tap : Tap}
    (waiting : taps[copy]? = some tap) :
    (taps.map Tap.point).Perm (tap.point :: (taps.eraseIdx copy).map Tap.point) := by
  obtain ⟨inside, rfl⟩ := List.getElem?_eq_some_iff.mp waiting
  exact (List.getElem_cons_eraseIdx_perm inside).symm.map Tap.point

theorem points_advanceTap {taps : List Tap} {copy : Nat} {tap : Tap} {label : ButtonLabel}
    {next : Option TapPoint} (waiting : taps[copy]? = some tap) :
    (next.toList ++ (taps.eraseIdx copy).map Tap.point).Perm
      ((NewRequestScreen.advanceTap taps copy label next).map Tap.point) := by
  cases next with
  | none => exact List.Perm.refl _
  | some point =>
      obtain ⟨inside, _⟩ := List.getElem?_eq_some_iff.mp waiting
      exact ((List.set_perm_cons_eraseIdx inside ⟨label, point⟩).map Tap.point).symm

namespace NewRequestScreen

variable {rideType : String} {before after : NewRequestScreen RequestId}

private theorem enterBranch_moves {copy : Nat} {label : ButtonLabel} (token : String)
    (waiting : before.taps[copy]? = some ⟨label, .clientToken⟩) :
    StageMove rideType before (.reply copy (.value (some token)))
      { (before.enterBranch label).1 with
        taps := advanceTap before.taps copy label (before.enterBranch label).2.1 }
      (before.enterBranch label).2.2 := by
  cases stage : before.status with
  | accepted | arrived | returning | arrivedAtGasStation =>
      simp only [enterBranch, stage, advanceTap]
      rw [← stage]
      exact .advance waiting (by rw [stage]; rfl) rfl rfl ⟨rfl, id⟩
  | completed =>
      simp only [enterBranch, stage, advanceTap]
      exact .endTrip waiting stage stage.symm rfl rfl ⟨rfl, id⟩
  | ended =>
      simp only [enterBranch, stage]
      exact .proceed waiting (.inl rfl) stage.symm rfl rfl (by simp) ⟨rfl, id⟩

private theorem endTheTrip_moves {copy : Nat} {label : ButtonLabel} {reply : Reply}
    {resumed : NewRequestScreen RequestId} {next : Option TapPoint}
    {actions : List ScreenAction}
    (waiting : before.taps[copy]? = some ⟨label, .endNotification⟩)
    (resumes : endTheTrip { before with btnTitle := .endTrip } = (resumed, next, actions)) :
    StageMove rideType before (.reply copy reply)
      { resumed with taps := advanceTap before.taps copy label next } actions := by
  cases located : before.myPosition with
  | none =>
      simp only [endTheTrip, located, Prod.mk.injEq] at resumes
      obtain ⟨rfl, rfl, rfl⟩ := resumes
      exact .endTheTrip waiting (.inl rfl) rfl rfl rfl (by simp [ScreenAction.Quiet]) ⟨rfl, id⟩
  | some position =>
      simp only [endTheTrip, located, Prod.mk.injEq] at resumes
      obtain ⟨rfl, rfl, rfl⟩ := resumes
      exact .endTheTrip waiting (.inr rfl) rfl rfl rfl (by simp [ScreenAction.Quiet]) ⟨rfl, id⟩

private theorem finishTrip_moves {copy : Nat} {label : ButtonLabel}
    {details : Option DirectionDetails} {resumed : NewRequestScreen RequestId}
    {next : Option TapPoint} {actions : List ScreenAction}
    (mounted : before.mounted = true)
    (waiting : before.taps[copy]? = some ⟨label, .endDirections⟩)
    (resumes : before.finishTrip rideType details = (resumed, next, actions)) :
    StageMove rideType before (.reply copy (.directions details))
      { resumed with taps := advanceTap before.taps copy label next } actions := by
  cases details with
  | none =>
      simp only [finishTrip, Option.bind_none, Prod.mk.injEq] at resumes
      obtain ⟨rfl, rfl, rfl⟩ := resumes
      exact .proceed waiting (.inl rfl) rfl rfl rfl (by simp [ScreenAction.Quiet]) ⟨rfl, id⟩
  | some details =>
      cases fare : calculateFares rideType details with
      | none =>
          simp only [finishTrip, Option.bind_some, fare, Prod.mk.injEq] at resumes
          obtain ⟨rfl, rfl, rfl⟩ := resumes
          exact .proceed waiting (.inl rfl) rfl rfl rfl (by simp [ScreenAction.Quiet]) ⟨rfl, id⟩
      | some fareAmount =>
          simp only [finishTrip, Option.bind_some, fare, Prod.mk.injEq] at resumes
          obtain ⟨rfl, rfl, rfl⟩ := resumes
          exact .finish mounted waiting fare rfl rfl rfl ⟨rfl, by simp⟩

private theorem resume_moves {copy : Nat} {tap : Tap} {reply : Reply}
    {resumed : NewRequestScreen RequestId} {next : Option TapPoint}
    {actions : List ScreenAction} (waiting : before.taps[copy]? = some tap)
    (resumes : before.resume rideType tap.label tap.point reply =
      some (resumed, next, actions)) :
    StageMove rideType before (.reply copy reply)
      { resumed with taps := advanceTap before.taps copy tap.label next } actions := by
  obtain ⟨label, point⟩ := tap
  cases reply with
  | error =>
      simp only [resume, Option.some.injEq, Prod.mk.injEq] at resumes
      obtain ⟨rfl, rfl, rfl⟩ := resumes
      exact .proceed waiting (.inl rfl) rfl rfl rfl (by simp) ⟨rfl, id⟩
  | value value =>
      cases point <;> cases value <;>
        simp only [resume, Option.some.injEq, Prod.mk.injEq, reduceCtorEq] at resumes
      case clientId.none | clientToken.none =>
        obtain ⟨rfl, rfl, rfl⟩ := resumes
        exact .proceed waiting (.inl rfl) rfl rfl rfl (by simp) ⟨rfl, id⟩
      case clientId.some =>
        obtain ⟨rfl, rfl, rfl⟩ := resumes
        exact .proceed waiting (.inr rfl) rfl rfl rfl (by simp) ⟨rfl, id⟩
      case clientToken.some token =>
        have entered : StageMove rideType before _ _ _ := enterBranch_moves token waiting
        rw [resumes] at entered
        exact entered
  | done =>
      cases mounted : before.mounted <;> cases point <;>
        simp only [resume, mounted, if_true, if_false, Bool.false_eq_true, Option.some.injEq,
          Prod.mk.injEq, reduceCtorEq] at resumes
      case true.endNotification =>
        exact endTheTrip_moves waiting (by simpa only [mounted] using resumes)
      case false.endWrite | true.endWrite | true.completedWrite =>
        obtain ⟨rfl, rfl, rfl⟩ := resumes
        exact .proceed waiting (.inr rfl) rfl rfl rfl
          (by simp [getPlaceDirection2, ScreenAction.Quiet]) ⟨rfl, id⟩
      case true.arrivedWrite | true.returningWrite | true.gasStationWrite =>
        obtain ⟨rfl, rfl, rfl⟩ := resumes
        exact .relabel waiting rfl rfl rfl (by simp [getPlaceDirection, ScreenAction.Quiet]) ⟨rfl, id⟩
      all_goals
        obtain ⟨rfl, rfl, rfl⟩ := resumes
        exact .proceed waiting (.inl rfl) rfl rfl rfl (by simp) ⟨rfl, id⟩
  | directions details =>
      cases mounted : before.mounted <;> cases drawn : before.drawsRoute details <;>
        cases point <;>
        simp only [resume, mounted, drawn, if_true, if_false, Bool.false_eq_true,
          Option.some.injEq, Prod.mk.injEq, reduceCtorEq] at resumes
      case true.true.arrivedDirections =>
        obtain ⟨rfl, rfl, rfl⟩ := resumes
        exact .proceed waiting (.inr rfl) rfl rfl rfl (by simp [ScreenAction.Quiet]) ⟨rfl, id⟩
      case true.true.completedDirections =>
        obtain ⟨rfl, rfl, rfl⟩ := resumes
        exact .relabel waiting rfl rfl rfl (by simp [ScreenAction.Quiet]) ⟨rfl, id⟩
      case true.true.endDirections | true.false.endDirections =>
        exact finishTrip_moves mounted waiting resumes
      all_goals
        obtain ⟨rfl, rfl, rfl⟩ := resumes
        exact .proceed waiting (.inl rfl) rfl rfl rfl (by simp [ScreenAction.Quiet]) ⟨rfl, id⟩

private theorem updateRideDetails_fields (screen : NewRequestScreen RequestId) :
    screen.updateRideDetails.1.status = screen.status ∧
      screen.updateRideDetails.1.btnTitle = screen.btnTitle ∧
      screen.updateRideDetails.1.taps = screen.taps ∧
      (∀ action ∈ screen.updateRideDetails.2, action.Quiet) ∧
      screen.Keeps screen.updateRideDetails.1 := by
  unfold updateRideDetails
  split
  · exact ⟨rfl, rfl, rfl, by simp, rfl, id⟩
  · split
    · exact ⟨rfl, rfl, rfl, by simp, rfl, id⟩
    · exact ⟨rfl, rfl, rfl, by simp [ScreenAction.Quiet], rfl, id⟩

private theorem onPosition_moves (screen : NewRequestScreen RequestId) (position : LatLng) :
    StageMove rideType screen (.position position) (screen.onPosition position).1
      (screen.onPosition position).2 := by
  have fields := updateRideDetails_fields { screen with myPosition := some position }
  unfold onPosition
  dsimp only
  split
  · next ready =>
    have listening : screen.mounted = true ∧ screen.animatingMarkerIcon = true := by
      simpa [and_comm] using ready
    exact .locate listening fields.1 fields.2.1 fields.2.2.1 fields.2.2.2.1
      ⟨fields.2.2.2.2.details, fields.2.2.2.2.listener⟩
  · exact .background rfl rfl rfl (by simp) ⟨rfl, id⟩

private theorem onMapCreated_moves (screen : NewRequestScreen RequestId)
    (currentPosition : Option LatLng) :
    StageMove rideType screen (.mapCreated currentPosition)
      (screen.onMapCreated currentPosition).1 (screen.onMapCreated currentPosition).2 := by
  unfold onMapCreated
  split
  · exact .background rfl rfl rfl (by simp) ⟨rfl, id⟩
  · dsimp only
    split
    · exact .background rfl rfl rfl (by simp [getPlaceDirection, ScreenAction.Quiet]) ⟨rfl, id⟩
    · exact .background rfl rfl rfl (by simp) ⟨rfl, id⟩

private theorem finishMapCreated_moves {reply : Reply} {actions : List ScreenAction}
    (finishes : before.finishMapCreated reply = some (after, actions)) :
    StageMove rideType before (.mapReply reply) after actions := by
  cases reply with
  | value value => cases finishes
  | done => cases finishes
  | error =>
      cases finishes
      exact .background rfl rfl rfl (by simp) ⟨rfl, id⟩
  | directions details =>
      cases mounted : before.mounted <;>
        simp only [finishMapCreated, mounted, if_true, if_false, Bool.false_eq_true,
          Option.some.injEq, Prod.mk.injEq] at finishes <;>
        obtain ⟨rfl, rfl⟩ := finishes
      · exact .background rfl rfl rfl (by simp) ⟨rfl, id⟩
      · exact .background rfl rfl rfl (by simp [ScreenAction.Quiet]) ⟨rfl, id⟩

private theorem finishRideDetails_moves {reply : Reply}
    (finishes : before.finishRideDetails reply = some after) :
    StageMove rideType before (.rideDetailsReply reply) after [] := by
  cases reply with
  | value value => cases finishes
  | done => cases finishes
  | error =>
      cases finishes
      exact .background rfl rfl rfl (by simp) ⟨rfl, id⟩
  | directions details =>
      cases details with
      | none =>
          cases finishes
          exact .background rfl rfl rfl (by simp) ⟨rfl, id⟩
      | some details =>
          simp only [finishRideDetails] at finishes
          split at finishes <;> cases finishes <;> exact .background rfl rfl rfl (by simp) ⟨rfl, id⟩

theorem step_moves {event : ScreenEvent} {actions : List ScreenAction}
    (stepped : before.step rideType event = some (after, actions)) :
    StageMove rideType before event after actions := by
  cases event with
  | tap =>
      simp only [step] at stepped
      split at stepped
      · next mounted =>
        cases stepped
        exact .tap mounted rfl rfl rfl ⟨rfl, id⟩
      · cases stepped
  | reply copy reply =>
      simp only [step] at stepped
      cases waiting : before.taps[copy]? with
      | none => simp [waiting] at stepped
      | some tap =>
          cases resumes : before.resume rideType tap.label tap.point reply with
          | none => simp [waiting, resumes] at stepped
          | some result =>
              obtain ⟨resumed, next, emitted⟩ := result
              simp only [waiting, resumes, Option.some.injEq, Prod.mk.injEq] at stepped
              obtain ⟨rfl, rfl⟩ := stepped
              exact resume_moves waiting resumes
  | position position =>
      simp only [step] at stepped
      split at stepped
      · have moves : StageMove rideType before _ _ _ := onPosition_moves before position
        rwa [Option.some.inj stepped] at moves
      · cases stepped
  | mapCreated currentPosition =>
      have moves : StageMove rideType before _ _ _ := onMapCreated_moves before currentPosition
      rwa [Option.some.inj stepped] at moves
  | mapReply reply =>
      simp only [step] at stepped
      split at stepped
      · exact finishMapCreated_moves stepped
      · cases stepped
  | rideDetailsReply reply =>
      simp only [step] at stepped
      split at stepped
      · cases finishes : before.finishRideDetails reply with
        | none => simp [finishes] at stepped
        | some next =>
            simp only [finishes, Option.map_some, Option.some.injEq, Prod.mk.injEq] at stepped
            obtain ⟨rfl, rfl⟩ := stepped
            exact finishRideDetails_moves finishes
      · cases stepped
  | iconLoaded =>
      cases stepped
      exact .background rfl rfl rfl (by simp) ⟨rfl, id⟩
  | statusValue value =>
      simp only [step] at stepped
      split at stepped
      · split at stepped <;> cases stepped
        · exact .background rfl rfl rfl (by simp [ScreenAction.Quiet]) ⟨rfl, id⟩
        · exact .background rfl rfl rfl (by simp) ⟨rfl, id⟩
      · cases stepped
  | unmount =>
      cases stepped
      exact .background rfl rfl rfl (by simp) ⟨rfl, id⟩

/-! ## Steps that must write -/

/-- The events at which the screen writes below its request: a position that gets
past the icon and `setState`, a token read, and directions `endTheTrip` can charge
for. -/
def writes (rideType : String) (screen : NewRequestScreen RequestId) : ScreenEvent → Bool
  | .position _ => screen.mounted && screen.animatingMarkerIcon
  | .reply copy (.value (some _)) =>
      decide (screen.taps[copy]?.map (·.point) = some .clientToken)
  | .reply copy (.directions (some details)) =>
      decide (screen.taps[copy]?.map (·.point) = some .endDirections) && screen.mounted &&
        (calculateFares rideType details).isSome
  | _ => false

/-- A token read takes the branch of the stage the ride is in, and writes the stage
it leaves the ride in. -/
theorem step_token {copy : Nat} {token : String} {label : ButtonLabel}
    {actions : List ScreenAction}
    (stepped : before.step rideType (.reply copy (.value (some token))) =
      some (after, actions))
    (waiting : before.taps[copy]? = some ⟨label, .clientToken⟩)
    (unended : before.status ≠ .ended) :
    actions = [.entered label before.status, .write (.status after.status)] ∧
      before.status ≤ after.status ∧ (before.status = .completed → after.status = .completed) := by
  simp only [step, waiting, resume, Option.some.injEq, Prod.mk.injEq] at stepped
  obtain ⟨rfl, rfl⟩ := stepped
  cases stage : before.status with
  | ended => exact (unended stage).elim
  | accepted | arrived | returning | arrivedAtGasStation | completed =>
      simp only [enterBranch, stage]
      exact ⟨trivial, by decide, by decide⟩

/-- The events at which the screen writes the status or the fare. -/
def movesRide (rideType : String) (screen : NewRequestScreen RequestId) (event : ScreenEvent) :
    Bool :=
  match event with
  | .position _ => false
  | event => screen.writes rideType event

theorem movesRide_of_screenWrite {event : ScreenEvent} {write : RequestWrite}
    (written : ScreenWrite rideType before event write)
    (ride : (∃ stage, write = .status stage) ∨ ∃ fareAmount, write = .fares fareAmount) :
    before.movesRide rideType event = true := by
  cases written with
  | stage waiting => simp [movesRide, writes, waiting]
  | fares waiting mounted fare => simp [movesRide, writes, waiting, mounted, fare]
  | ended waiting mounted fare => simp [movesRide, writes, waiting, mounted, fare]
  | location => rcases ride with ⟨_, same⟩ | ⟨_, same⟩ <;> cases same

private theorem step_reply_writes {copy : Nat} {reply : Reply} {actions : List ScreenAction}
    (stepped : before.step rideType (.reply copy reply) = some (after, actions))
    (unended : before.status ≠ .ended)
    (writing : before.writes rideType (.reply copy reply) = true) :
    ∃ write, .write write ∈ actions := by
  cases reply with
  | error => cases writing
  | done => cases writing
  | value value =>
      cases value with
      | none => cases writing
      | some token =>
          simp only [writes, decide_eq_true_eq] at writing
          obtain ⟨⟨label, point⟩, waiting, here⟩ := Option.map_eq_some_iff.mp writing
          subst here
          rw [(step_token stepped waiting unended).1]
          exact ⟨.status after.status, by simp⟩
  | directions details =>
      cases details with
      | none => cases writing
      | some details =>
          simp only [writes, Bool.and_eq_true, decide_eq_true_eq] at writing
          obtain ⟨⟨waiting, mounted⟩, charged⟩ := writing
          obtain ⟨tap, present, point⟩ := Option.map_eq_some_iff.mp waiting
          obtain ⟨fareAmount, fare⟩ := Option.isSome_iff_exists.mp charged
          simp only [step, present, point, resume, mounted, if_true, finishTrip,
            Option.bind_some, fare, Option.some.injEq, Prod.mk.injEq] at stepped
          rw [← stepped.2]
          exact ⟨.fares fareAmount, by simp⟩

theorem step_writes {event : ScreenEvent} {actions : List ScreenAction}
    (stepped : before.step rideType event = some (after, actions))
    (unended : before.status ≠ .ended) (writing : before.writes rideType event = true) :
    ∃ write, .write write ∈ actions := by
  cases event with
  | reply copy reply => exact step_reply_writes stepped unended writing
  | position position =>
      simp only [step] at stepped
      split at stepped
      · have emitted : (before.onPosition position).2 = actions :=
          congrArg Prod.snd (Option.some.inj stepped)
        simp only [writes, Bool.and_eq_true] at writing
        rw [← emitted]
        exact ⟨.driverLocation (some position), by simp [onPosition, writing.1, writing.2]⟩
      · cases stepped
  | _ => cases writing

end NewRequestScreen

end FilldRider
