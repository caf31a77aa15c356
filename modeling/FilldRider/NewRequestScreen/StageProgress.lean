import FilldRider.NewRequestScreen.TapOnce

/-!
# No stage is skipped

Whatever the taps and whichever of their awaits fail, a branch writes the stage after
the current one in the step that assigns it. So the stages written are those up to
`status`, and the end of the trip comes after all of them.
-/

set_option autoImplicit false

namespace FilldRider

open Runs

variable {RequestId : Type}

/-- The stages written so far, the end of the trip apart. -/
def stagesWritten (actions : List ScreenAction) : List Stage :=
  (statusWrites actions).filter (· ≠ .ended)

@[simp] theorem stagesWritten_append (before after : List ScreenAction) :
    stagesWritten (before ++ after) = stagesWritten before ++ stagesWritten after := by
  rw [stagesWritten, statusWrites_append, List.filter_append]
  rfl

theorem stagesWritten_of_unwritten {actions : List ScreenAction}
    (unwritten : statusWrites actions = []) : stagesWritten actions = [] := by
  rw [stagesWritten, unwritten]
  rfl

/-- The stages of a ride from `accepted` up to this one. -/
def Stage.upTo : Stage → List Stage
  | .accepted => [.accepted]
  | .arrived => [.accepted, .arrived]
  | .returning => [.accepted, .arrived, .returning]
  | .arrivedAtGasStation => [.accepted, .arrived, .returning, .arrivedAtGasStation]
  | .completed | .ended =>
      [.accepted, .arrived, .returning, .arrivedAtGasStation, .completed]

theorem Stage.upTo_advance {stage next : Stage} {point : TapPoint}
    (advances : stage.advance = some (next, point)) : next.upTo = stage.upTo ++ [next] := by
  cases stage <;> cases advances <;> rfl

theorem Stage.upTo_getLast {stage : Stage} (unended : stage ≤ .completed) :
    stage.upTo.getLast? = some stage := by
  cases stage <;> first | rfl | exact absurd unended (by decide)

/-- Every stage once and in order, `completed` perhaps again. -/
def AllStages (actions : List ScreenAction) : Prop :=
  ∃ repeats, stagesWritten actions = Stage.completed.upTo ++ List.replicate repeats .completed

/-- The writes of `endTheTrip`. -/
def RequestWrite.endsRide : RequestWrite → Bool
  | .status .ended | .fares _ => true
  | _ => false

def EndsAfterStages (actions : List ScreenAction) : Prop :=
  ∀ before write after, actions = before ++ .write write :: after →
    write.endsRide = true → AllStages before

theorem EndsAfterStages.append {history actions : List ScreenAction}
    (old : EndsAfterStages history)
    (new : ∀ early write late, actions = early ++ .write write :: late →
      write.endsRide = true → AllStages (history ++ early)) :
    EndsAfterStages (history ++ actions) := by
  intro before write after split ends
  rcases List.append_eq_append_iff.mp split with ⟨early, rfl, issued⟩ | ⟨rest, kept, issued⟩
  · exact new early write after issued ends
  · cases rest with
    | nil =>
        rw [List.append_nil] at kept
        subst kept
        have first : AllStages (history ++ []) := new [] write after issued.symm ends
        rwa [List.append_nil] at first
    | cons action rest =>
        rw [List.cons_append, List.cons.injEq] at issued
        obtain ⟨rfl, _⟩ := issued
        exact old before write rest kept ends

/-- The stages written are those up to `status`, a copy that ends the trip finds the
ride completed, and the trip was only ended after all stages. -/
structure ProgressLaw (history : List ScreenAction) (screen : NewRequestScreen RequestId) :
    Prop where
  unended : screen.status ≤ .completed
  written : ∃ repeats, stagesWritten history =
    screen.status.upTo ++ List.replicate repeats .completed ∧
      (repeats = 0 ∨ screen.status = .completed)
  ending : ∀ tap ∈ screen.taps, tap.point.EndsTrip = true → screen.status = .completed
  ends : EndsAfterStages history

theorem ProgressLaw.initial (uid : String) (riderInfo : Option RideR)
    (currentPosition : Option LatLng) (details : ClientDetails RequestId) :
    ProgressLaw (NewRequestScreen.initState uid riderInfo currentPosition)
      { clientDetails := details } where
  unended := by show Stage.accepted ≤ Stage.completed; decide
  written := ⟨0, rfl, .inl rfl⟩
  ending := by simp
  ends := by
    intro before write after split ends
    have issued : .write write ∈ NewRequestScreen.initState uid riderInfo currentPosition := by
      simp [split]
    obtain ⟨request, member, same⟩ := List.mem_map.mp issued
    cases same
    simp only [acceptRideRequest, List.mem_cons, List.not_mem_nil, or_false] at member
    rcases member with same | same | same | same | same | same | same <;> subst same <;>
      cases ends

section Steps

variable {history actions : List ScreenAction} {before after : NewRequestScreen RequestId}

theorem ProgressLaw.allStages (law : ProgressLaw history before)
    (completed : before.status = .completed) : AllStages history := by
  obtain ⟨repeats, written, _⟩ := law.written
  exact ⟨repeats, by rw [written, completed]⟩

/-- Steps that write neither a stage nor the end of the trip. -/
theorem ProgressLaw.quiet_step (law : ProgressLaw history before)
    (status : after.status = before.status) (unwritten : statusWrites actions = [])
    (unended : ∀ write, .write write ∈ actions → write.endsRide = false)
    (ending : ∀ tap ∈ after.taps, tap.point.EndsTrip = true → before.status = .completed) :
    ProgressLaw (history ++ actions) after where
  unended := by
    rw [status]
    exact law.unended
  written := by
    rw [stagesWritten_append, stagesWritten_of_unwritten unwritten, List.append_nil, status]
    exact law.written
  ending := by
    rw [status]
    exact ending
  ends := by
    apply law.ends.append
    intro early write late split ends
    have issued := unended write (by simp [split])
    rw [issued] at ends
    cases ends

/-- Steps that write nothing. -/
theorem ProgressLaw.silent_step (law : ProgressLaw history before)
    (status : after.status = before.status) (quiet : ∀ action ∈ actions, action.Quiet)
    (ending : ∀ tap ∈ after.taps, tap.point.EndsTrip = true → before.status = .completed) :
    ProgressLaw (history ++ actions) after := by
  apply law.quiet_step status (statusWrites_of_quiet quiet) _ ending
  intro write member
  exact (not_write_of_quiet quiet write member).elim

theorem ProgressLaw.stage_step {label : ButtonLabel} {entered stage : Stage}
    (law : ProgressLaw history before) (unended : stage ≤ .completed)
    (status : after.status = stage)
    (written : ∃ repeats, stagesWritten history ++ [stage] =
      stage.upTo ++ List.replicate repeats .completed ∧ (repeats = 0 ∨ stage = .completed))
    (ending : ∀ tap ∈ after.taps, tap.point.EndsTrip = true → stage = .completed) :
    ProgressLaw (history ++ [.entered label entered, .write (.status stage)]) after where
  unended := status ▸ unended
  written := by
    have last : stagesWritten [.entered label entered, .write (.status stage)] = [stage] := by
      cases stage <;> first | rfl | exact absurd unended (by decide)
    rw [stagesWritten_append, last, status]
    exact written
  ending := by
    rw [status]
    exact ending
  ends := by
    apply law.ends.append
    intro early write late split ends
    have issued : ScreenAction.write write ∈
        [ScreenAction.entered label entered, .write (.status stage)] := by simp [split]
    simp only [List.mem_cons, reduceCtorEq, ScreenAction.write.injEq, List.not_mem_nil,
      or_false, false_or] at issued
    subst issued
    cases stage <;> first | exact absurd unended (by decide) | cases ends

/-- The end of the trip, and nothing else. -/
theorem ProgressLaw.finish_step (law : ProgressLaw history before)
    (completed : before.status = .completed) (status : after.status = before.status)
    (unstaged : stagesWritten actions = []) : ProgressLaw (history ++ actions) after where
  unended := by
    rw [status]
    exact law.unended
  written := by
    rw [status, stagesWritten_append, unstaged, List.append_nil]
    exact law.written
  ending := by
    rw [status]
    exact fun _ _ _ => completed
  ends := by
    apply law.ends.append
    intro early write late split _
    rw [split, stagesWritten_append] at unstaged
    have silent := (List.append_eq_nil_iff.mp unstaged).1
    obtain ⟨repeats, stages⟩ := law.allStages completed
    exact ⟨repeats, by rw [stagesWritten_append, silent, List.append_nil, stages]⟩

/-- A copy that goes on keeps its place in the branch, so the open ends stay as they are. -/
theorem ProgressLaw.ending_advanceTap (law : ProgressLaw history before) {copy : Nat}
    {label : ButtonLabel} {next : Option TapPoint}
    (onward : ∀ point, next = some point → point.EndsTrip = true → before.status = .completed) :
    ∀ tap ∈ NewRequestScreen.advanceTap before.taps copy label next,
      tap.point.EndsTrip = true → before.status = .completed := by
  intro tap member ends
  rcases mem_advanceTap member with old | ⟨point, chosen, same⟩
  · exact law.ending tap old ends
  · subst same
    exact onward point chosen ends

theorem ProgressLaw.move {rideType : String} {event : ScreenEvent}
    (law : ProgressLaw history before) (moves : StageMove rideType before event after actions) :
    ProgressLaw (history ++ actions) after := by
  cases moves with
  | tap mounted status title taps =>
      apply law.silent_step status (by simp)
      intro tap member ends
      rw [taps, List.mem_append, List.mem_singleton] at member
      rcases member with old | new
      · exact law.ending tap old ends
      · subst new
        cases ends
  | @advance _ copy token label point waiting next title taps =>
      obtain ⟨above, unended⟩ := Stage.advance_spec next
      have open_ : before.status ≠ .completed := by
        intro same
        rw [same] at above
        exact absurd (above.trans_le unended) (lt_irrefl _)
      apply law.stage_step unended rfl
      · obtain ⟨repeats, written, alone⟩ := law.written
        obtain rfl := alone.resolve_right open_
        refine ⟨0, ?_, .inl rfl⟩
        rw [written, Stage.upTo_advance next]
        simp
      · intro tap member ends
        rw [taps] at member
        rcases List.mem_or_eq_of_mem_set member with old | new
        · exact (open_ (law.ending tap old ends)).elim
        · subst new
          rw [Stage.advance_endsTrip next] at ends
          cases ends
  | endTrip waiting completed status title taps =>
      apply law.stage_step le_rfl (status.trans completed)
      · obtain ⟨repeats, written, _⟩ := law.written
        refine ⟨repeats + 1, ?_, .inr rfl⟩
        rw [written, completed, List.replicate_succ', List.append_assoc]
      · intro _ _ _
        rfl
  | relabel waiting shown status taps quiet =>
      apply law.silent_step status quiet
      rw [taps]
      apply law.ending_advanceTap
      rintro point rfl ends
      rw [TapPoint.relabels_endsTrip shown] at ends
      cases ends
  | @proceed _ copy reply label point next _ waiting onward status title taps quiet =>
      apply law.silent_step status quiet
      rw [taps]
      apply law.ending_advanceTap
      intro reached chosen ends
      cases held : point.EndsTrip with
      | true => exact law.ending _ (List.mem_of_getElem? waiting) held
      | false =>
          rcases onward with done | follows
          · rw [done] at chosen
            cases chosen
          · rw [TapPoint.follows_endsTrip (follows.symm.trans chosen) held] at ends
            cases ends
  | @endTheTrip _ copy reply label next emitted waiting onward status title taps quiet =>
      have completed := law.ending _ (List.mem_of_getElem? waiting) rfl
      apply law.quiet_step status (statusWrites_endTheTrip quiet)
      · intro write member
        rcases List.mem_cons.mp member with same | later
        · cases same
        · exact (not_write_of_quiet quiet write later).elim
      · exact fun _ _ _ => completed
  | @finish _ copy label details fareAmount dialog mounted waiting fare status title taps =>
      have completed := law.ending _ (List.mem_of_getElem? waiting) rfl
      exact law.finish_step completed status rfl
  | @locate _ position emitted listening status title taps quiet =>
      apply law.quiet_step status (statusWrites_located _ quiet)
      · intro write member
        rcases List.mem_append.mp member with requested | last
        · exact (not_write_of_quiet quiet write requested).elim
        · cases List.mem_singleton.mp last
          rfl
      · rw [taps]
        exact law.ending
  | background status title taps quiet =>
      apply law.silent_step status quiet
      rw [taps]
      exact law.ending

end Steps

/-- Whatever fails, the screen ends the trip only after it wrote every stage in order,
the first ones once, and `status` is always the stage written last. -/
theorem stages_of_run (uid : String) (riderInfo : Option RideR)
    (currentPosition : Option LatLng) (details : ClientDetails RequestId)
    {screen : NewRequestScreen RequestId} {events : List (String × ScreenEvent)}
    {actions : List ScreenAction}
    (run : exec NewRequestScreen.component { clientDetails := details } events =
      some (screen, actions)) :
    EndsAfterStages (NewRequestScreen.initState uid riderInfo currentPosition ++ actions) ∧
      (stagesWritten (NewRequestScreen.initState uid riderInfo currentPosition ++ actions)).getLast?
        = some screen.status := by
  have law : ProgressLaw
      (NewRequestScreen.initState uid riderInfo currentPosition ++ actions) screen := by
    apply exec_invariant ProgressLaw _
      (ProgressLaw.initial uid riderInfo currentPosition details) run
    intro history before event after emitted held stepped
    exact held.move (NewRequestScreen.step_moves stepped)
  refine ⟨law.ends, ?_⟩
  obtain ⟨repeats, written, alone⟩ := law.written
  have last := Stage.upTo_getLast law.unended
  rw [written, List.getLast?_append, last]
  rcases alone with rfl | completed
  · rfl
  · rw [completed]
    cases repeats with
    | zero => rfl
    | succ repeats => simp [List.getLast?_replicate]

theorem stages_sampleRide :
    ∃ screen actions,
      exec NewRequestScreen.component { clientDetails := sampleDetails }
        (asRideType "Rev-x" (rideToEndTrip ++ endTripTap sampleDirections)) =
          some (screen, actions) ∧
      .write (.status .ended) ∈ actions ∧
      EndsAfterStages (NewRequestScreen.initState "rider" none none ++ actions) ∧
      (stagesWritten (NewRequestScreen.initState "rider" none none ++ actions)).getLast? =
        some screen.status := by
  have ends : ((exec NewRequestScreen.component { clientDetails := sampleDetails }
      (asRideType "Rev-x" (rideToEndTrip ++ endTripTap sampleDirections))).map fun result =>
        decide (.write (.status .ended) ∈ result.2)) = some true := by
    decide +kernel
  obtain ⟨⟨screen, actions⟩, run, ended⟩ := Option.map_eq_some_iff.mp ends
  exact ⟨screen, actions, run, of_decide_eq_true ended,
    stages_of_run "rider" none none sampleDetails run⟩

end FilldRider
