import FilldRider.NewRequestScreen.StatusOrder

/-!
# One step for each label

A tap is meant to take the branch of the label it was made under, each branch once
and the end of the trip once. The handler looks at `status` only after two reads,
so this depends on the stage the ride is in when a tap reads its token.
-/

set_option autoImplicit false

namespace FilldRider

open Runs

variable {RequestId : Type}

def ScreenAction.entered? : ScreenAction → Option (ButtonLabel × Stage)
  | .entered label stage => some (label, stage)
  | _ => none

def branches (actions : List ScreenAction) : List (ButtonLabel × Stage) :=
  actions.filterMap ScreenAction.entered?

@[simp] theorem branches_append (before after : List ScreenAction) :
    branches (before ++ after) = branches before ++ branches after :=
  List.filterMap_append ..

theorem branches_of_quiet {actions : List ScreenAction}
    (quiet : ∀ action ∈ actions, action.Quiet) : branches actions = [] := by
  rw [branches, List.filterMap_eq_nil_iff]
  intro action member
  have silent := quiet action member
  cases action <;> first | rfl | exact silent.elim

@[simp] theorem branches_initState (uid : String) (riderInfo : Option RideR)
    (currentPosition : Option LatLng) :
    branches (NewRequestScreen.initState uid riderInfo currentPosition) = [] :=
  rfl

/-- Every tap takes the branch of its own label or none, no branch is taken twice,
no stage is written twice and the trip is ended at most once. -/
structure OneStepPerLabel (actions : List ScreenAction) : Prop where
  own : ∀ branch ∈ branches actions, branch.2 = branch.1.stage
  oneStep : ((branches actions).map Prod.snd).Nodup
  writtenOnce : (statusWrites actions).Nodup
  endedOnce : actions.count .endTheTrip ≤ 1

theorem OneStepPerLabel.of_append {before after : List ScreenAction}
    (all : OneStepPerLabel (before ++ after)) : OneStepPerLabel before where
  own := by
    intro branch member
    exact all.own branch (by simp [member])
  oneStep := by
    have whole := all.oneStep
    rw [branches_append, List.map_append] at whole
    exact (List.nodup_append.mp whole).1
  writtenOnce := by
    have whole := all.writtenOnce
    rw [statusWrites_append] at whole
    exact (List.nodup_append.mp whole).1
  endedOnce := by
    have whole := all.endedOnce
    rw [List.count_append] at whole
    omega

/-- A token read in another stage than that of the tap's label, or by a tap on
`End Trip`, whose branch writes `completed` again. -/
def NewRequestScreen.readsLate (screen : NewRequestScreen RequestId) : ScreenEvent → Bool
  | .reply copy (.value (some _)) =>
      screen.taps[copy]?.any fun tap =>
        decide (tap.point = .clientToken) &&
          !(decide (screen.status = tap.label.stage) && decide (tap.label ≠ .endTrip))
  | _ => false

def ReadsInStage (_ : List ScreenAction) (screen : NewRequestScreen RequestId)
    (event : String × ScreenEvent) : Prop :=
  screen.readsLate event.2 = false

instance (history : List ScreenAction) (screen : NewRequestScreen RequestId)
    (event : String × ScreenEvent) : Decidable (ReadsInStage history screen event) :=
  inferInstanceAs (Decidable (_ = _))

theorem NewRequestScreen.readsLate_token {screen : NewRequestScreen RequestId}
    {event : ScreenEvent} (late : screen.readsLate event = true) :
    ∃ copy token label, event = .reply copy (.value (some token)) ∧
      screen.taps[copy]? = some ⟨label, .clientToken⟩ := by
  cases event with
  | reply copy reply =>
      cases reply with
      | value value =>
          cases value with
          | none => cases late
          | some token =>
              simp only [readsLate, Option.any_eq_true, Bool.and_eq_true,
                decide_eq_true_eq] at late
              obtain ⟨⟨label, point⟩, waiting, here, _⟩ := late
              subst here
              exact ⟨copy, token, label, rfl, waiting⟩
      | done | directions details | error => cases late
  | _ => cases late

theorem ReadsInStage.reply {history : List ScreenAction}
    {screen : NewRequestScreen RequestId} {rideType token : String} {copy : Nat}
    {label : ButtonLabel} (waiting : screen.taps[copy]? = some ⟨label, .clientToken⟩) :
    ReadsInStage history screen (rideType, .reply copy (.value (some token))) ↔
      screen.status = label.stage ∧ label ≠ .endTrip := by
  simp [ReadsInStage, NewRequestScreen.readsLate, waiting]

def TapPoint.EndsTrip : TapPoint → Bool
  | .endWrite | .endNotification | .endDirections => true
  | _ => false

/-- The law of runs whose token reads come in stage: the stages up to `status` are
written once each and nobody is ending the trip. -/
structure TapLaw (history : List ScreenAction) (screen : NewRequestScreen RequestId) :
    Prop where
  steps : OneStepPerLabel history
  left : ∀ branch ∈ branches history, branch.2 < screen.status
  written : ∀ stage ∈ statusWrites history, stage ≤ screen.status
  current : screen.status ∈ statusWrites history
  unended : screen.status ≤ .completed
  running : .endTheTrip ∉ history
  open_ : ∀ tap ∈ screen.taps, tap.point.EndsTrip = false

theorem TapLaw.initial (uid : String) (riderInfo : Option RideR)
    (currentPosition : Option LatLng) (details : ClientDetails RequestId) :
    TapLaw (NewRequestScreen.initState uid riderInfo currentPosition)
      { clientDetails := details } where
  steps := ⟨by simp, by simp, by simp, by
    simp [NewRequestScreen.initState, acceptRideRequest]⟩
  left := by simp
  written := by simp
  current := by simp
  unended := by show Stage.accepted ≤ Stage.completed; decide
  running := by simp [NewRequestScreen.initState, acceptRideRequest]
  open_ := by simp

theorem TapPoint.follows_endsTrip {point next : TapPoint}
    (onward : point.follows = some next) (open_ : point.EndsTrip = false) :
    next.EndsTrip = false := by
  cases point <;> cases onward <;> first | rfl | cases open_

theorem TapPoint.relabels_endsTrip {point next : TapPoint} {label : ButtonLabel}
    (shown : point.relabels = some (label, some next)) : next.EndsTrip = false := by
  cases point <;> cases shown <;> rfl

theorem Stage.advance_endsTrip {stage next : Stage} {point : TapPoint}
    (advances : stage.advance = some (next, point)) : point.EndsTrip = false := by
  cases stage <;> cases advances <;> rfl

section Steps

variable {history actions : List ScreenAction} {before after : NewRequestScreen RequestId}

theorem TapLaw.quiet_step (law : TapLaw history before) (status : after.status = before.status)
    (unbranched : branches actions = []) (unwritten : statusWrites actions = [])
    (running : .endTheTrip ∉ actions)
    (open_ : ∀ tap ∈ after.taps, tap.point.EndsTrip = false) :
    TapLaw (history ++ actions) after where
  steps := by
    constructor
    · simpa [unbranched] using law.steps.own
    · simpa [unbranched] using law.steps.oneStep
    · simpa [unwritten] using law.steps.writtenOnce
    · rw [List.count_append, List.count_eq_zero.mpr running]
      exact law.steps.endedOnce
  left := by simpa [unbranched, status] using law.left
  written := by simpa [unwritten, status] using law.written
  current := by simpa [unwritten, status] using law.current
  unended := by
    rw [status]
    exact law.unended
  running := by simp [law.running, running]
  open_ := open_

/-- Steps that neither branch nor write. -/
theorem TapLaw.silent_step (law : TapLaw history before) (status : after.status = before.status)
    (quiet : ∀ action ∈ actions, action.Quiet)
    (open_ : ∀ tap ∈ after.taps, tap.point.EndsTrip = false) :
    TapLaw (history ++ actions) after := by
  apply law.quiet_step status (branches_of_quiet quiet) (statusWrites_of_quiet quiet) _ open_
  intro member
  exact quiet _ member

/-- A copy that goes on to an await before the end of the trip leaves all copies there. -/
theorem TapLaw.open_advanceTap (law : TapLaw history before) {copy : Nat} {label : ButtonLabel}
    {next : Option TapPoint} (onward : ∀ point, next = some point → point.EndsTrip = false) :
    ∀ tap ∈ NewRequestScreen.advanceTap before.taps copy label next,
      tap.point.EndsTrip = false := by
  intro tap member
  rcases mem_advanceTap member with old | ⟨point, chosen, new⟩
  · exact law.open_ tap old
  · subst new
    exact onward point chosen

theorem TapLaw.advance_step {label : ButtonLabel} {point : TapPoint} {copy : Nat}
    (law : TapLaw history before) (own : before.status = label.stage)
    (next : before.status.advance = some (after.status, point))
    (taps : after.taps = before.taps.set copy ⟨label, point⟩) :
    TapLaw (history ++ [.entered label before.status, .write (.status after.status)])
      after := by
  obtain ⟨above, unended⟩ := Stage.advance_spec next
  have branch : branches [.entered label before.status, .write (.status after.status)] =
      [(label, before.status)] := rfl
  have stage : statusWrites [.entered label before.status, .write (.status after.status)] =
      [after.status] := rfl
  constructor
  · constructor
    · intro taken member
      rw [branches_append, branch, List.mem_append, List.mem_singleton] at member
      rcases member with old | new
      · exact law.steps.own taken old
      · subst new
        exact own
    · rw [branches_append, branch, List.map_append, List.nodup_append]
      refine ⟨law.steps.oneStep, by simp, ?_⟩
      intro earlier member later last same
      obtain ⟨taken, present, rfl⟩ := List.mem_map.mp member
      simp only [List.map_cons, List.map_nil, List.mem_singleton] at last
      exact absurd (same.trans last) (law.left taken present).ne
    · rw [statusWrites_append, stage, List.nodup_append]
      refine ⟨law.steps.writtenOnce, by simp, ?_⟩
      intro earlier member later last same
      rw [List.mem_singleton] at last
      exact absurd (same.trans last) ((law.written earlier member).trans_lt above).ne
    · simpa using law.steps.endedOnce
  · intro taken member
    rw [branches_append, branch, List.mem_append, List.mem_singleton] at member
    rcases member with old | new
    · exact (law.left taken old).trans above
    · subst new
      exact above
  · intro earlier member
    rw [statusWrites_append, stage, List.mem_append, List.mem_singleton] at member
    rcases member with old | new
    · exact ((law.written earlier old).trans_lt above).le
    · exact new.le
  · simp [stage]
  · exact unended
  · simp [law.running]
  · intro tap member
    rw [taps] at member
    rcases List.mem_or_eq_of_mem_set member with old | new
    · exact law.open_ tap old
    · subst new
      exact Stage.advance_endsTrip next

theorem TapLaw.move {rideType : String} {event : ScreenEvent} (law : TapLaw history before)
    (inStage : ReadsInStage history before (rideType, event))
    (moves : StageMove rideType before event after actions) :
    TapLaw (history ++ actions) after := by
  cases moves with
  | tap mounted status title taps =>
      apply law.silent_step status (by simp)
      intro tap member
      rw [taps, List.mem_append, List.mem_singleton] at member
      rcases member with old | new
      · exact law.open_ tap old
      · subst new
        rfl
  | advance waiting next title taps =>
      exact law.advance_step ((ReadsInStage.reply waiting).mp inStage).1 next taps
  | @endTrip _ copy token label waiting completed status title taps =>
      obtain ⟨own, other⟩ := (ReadsInStage.reply waiting).mp inStage
      rw [completed] at own
      cases label with
      | endTrip => exact (other rfl).elim
      | arrived | startJob | arrivedAtGasStation | completeDelivery => cases own
  | relabel waiting shown status taps quiet =>
      apply law.silent_step status quiet
      rw [taps]
      apply law.open_advanceTap
      rintro point rfl
      exact TapPoint.relabels_endsTrip shown
  | proceed waiting onward status title taps quiet =>
      apply law.silent_step status quiet
      rw [taps]
      apply law.open_advanceTap
      rintro point rfl
      rcases onward with done | follows
      · cases done
      · exact TapPoint.follows_endsTrip follows.symm
          (law.open_ _ (List.mem_of_getElem? waiting))
  | endTheTrip waiting onward status title taps quiet =>
      cases law.open_ _ (List.mem_of_getElem? waiting)
  | finish mounted waiting fare status title taps =>
      cases law.open_ _ (List.mem_of_getElem? waiting)
  | @locate _ position emitted listening status title taps quiet =>
      apply law.quiet_step status
      · rw [branches_append, branches_of_quiet quiet]
        rfl
      · exact statusWrites_located _ quiet
      · intro member
        rcases List.mem_append.mp member with requested | last
        · exact quiet _ requested
        · cases List.mem_singleton.mp last
      · rw [taps]
        exact law.open_
  | background status title taps quiet =>
      apply law.silent_step status quiet
      rw [taps]
      exact law.open_

theorem TapLaw.readsInStage {event : String × ScreenEvent} (law : TapLaw history before)
    (stepped : NewRequestScreen.component before event = some (after, actions))
    (steps : OneStepPerLabel (history ++ actions)) : ReadsInStage history before event := by
  obtain ⟨rideType, event⟩ := event
  cases late : before.readsLate event with
  | false => exact late
  | true =>
      obtain ⟨copy, token, label, rfl, waiting⟩ := NewRequestScreen.readsLate_token late
      have unended : before.status ≠ .ended := by
        intro same
        exact absurd (same ▸ law.unended) (by decide)
      obtain ⟨rfl, _, stays⟩ := NewRequestScreen.step_token stepped waiting unended
      have own : before.status = label.stage :=
        steps.own (label, before.status) (by simp [branches, ScreenAction.entered?])
      apply (ReadsInStage.reply waiting).mpr
      refine ⟨own, ?_⟩
      intro last
      subst last
      have written := steps.writtenOnce
      rw [statusWrites_append, List.nodup_append] at written
      have again : after.status = before.status := (stays own).trans own.symm
      exact written.2.2 _ law.current after.status (by simp [statusWrites,
        ScreenAction.statusWrite?]) again.symm

end Steps

/-- In every run of the screen, taps do one step for each label exactly if every
token is read while the ride is in the stage of its tap's label, and none by a tap
on `End Trip`. -/
theorem oneStepPerLabel_iff_readsInStage (uid : String) (riderInfo : Option RideR)
    (currentPosition : Option LatLng) (details : ClientDetails RequestId)
    {screen : NewRequestScreen RequestId} {events : List (String × ScreenEvent)}
    {actions : List ScreenAction}
    (run : exec NewRequestScreen.component { clientDetails := details } events =
      some (screen, actions)) :
    OneStepPerLabel (NewRequestScreen.initState uid riderInfo currentPosition ++ actions) ↔
      Meets NewRequestScreen.component ReadsInStage
        (NewRequestScreen.initState uid riderInfo currentPosition)
        { clientDetails := details } events := by
  refine exec_holds_iff_meets TapLaw OneStepPerLabel TapLaw.steps OneStepPerLabel.of_append
    ?_ TapLaw.readsInStage (TapLaw.initial uid riderInfo currentPosition details) run
  intro history before event after emitted law inStage stepped
  exact law.move inStage (NewRequestScreen.step_moves stepped)

theorem oneStepPerLabel_sampleRide :
    ∃ screen actions,
      exec NewRequestScreen.component { clientDetails := sampleDetails }
        (asRideType "Rev-x" rideToEndTrip) = some (screen, actions) ∧
      screen.btnTitle = .endTrip ∧
      OneStepPerLabel (NewRequestScreen.initState "rider" none none ++ actions) := by
  have shown : ((exec NewRequestScreen.component { clientDetails := sampleDetails }
      (asRideType "Rev-x" rideToEndTrip)).map fun result => result.1.btnTitle) =
        some .endTrip := by
    decide +kernel
  obtain ⟨⟨screen, actions⟩, run, title⟩ := Option.map_eq_some_iff.mp shown
  refine ⟨screen, actions, run, title, ?_⟩
  apply (oneStepPerLabel_iff_readsInStage "rider" none none sampleDetails run).mpr
  decide +kernel

theorem not_oneStepPerLabel_of_double_tap :
    ¬ ∀ (uid : String) (riderInfo : Option RideR) (currentPosition : Option LatLng)
        (details : ClientDetails String) (screen : NewRequestScreen String)
        (events : List (String × ScreenEvent)) (actions : List ScreenAction),
      exec NewRequestScreen.component { clientDetails := details } events =
        some (screen, actions) →
      OneStepPerLabel
        (NewRequestScreen.initState uid riderInfo currentPosition ++ actions) := by
  intro always
  have taken : ((exec NewRequestScreen.component { clientDetails := sampleDetails }
      (asRideType "Rev-x" [.tap, .tap, .reply 0 (.value (some "client")),
        .reply 1 (.value (some "client")), .reply 0 (.value (some "token")),
        .reply 1 (.value (some "token"))])).map fun result => branches result.2) =
        some [(.arrived, .accepted), (.arrived, .arrived)] := by
    decide +kernel
  obtain ⟨⟨screen, actions⟩, run, labels⟩ := Option.map_eq_some_iff.mp taken
  have own := (always "rider" none none sampleDetails screen _ actions run).own
  simp only [branches_append, branches_initState] at own
  rw [show branches actions = _ from labels] at own
  exact absurd (own (.arrived, .arrived) (by decide)) (by decide)

end FilldRider
