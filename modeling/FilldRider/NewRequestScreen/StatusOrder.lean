import FilldRider.NewRequestScreen.Moves

/-!
# The order of the status writes

What one screen writes below its request, from `acceptRideRequest` on: the stages
in order, and nothing more once `ended` is written and nothing reaches the screen.
-/

set_option autoImplicit false

namespace FilldRider

open Runs

variable {RequestId : Type}

def ScreenAction.statusWrite? : ScreenAction → Option Stage
  | .write (.status stage) => some stage
  | _ => none

def statusWrites (actions : List ScreenAction) : List Stage :=
  actions.filterMap ScreenAction.statusWrite?

@[simp] theorem statusWrites_append (before after : List ScreenAction) :
    statusWrites (before ++ after) = statusWrites before ++ statusWrites after :=
  List.filterMap_append ..

theorem mem_statusWrites {actions : List ScreenAction} {stage : Stage} :
    stage ∈ statusWrites actions ↔ .write (.status stage) ∈ actions := by
  rw [statusWrites, List.mem_filterMap]
  constructor
  · intro found
    obtain ⟨action, member, writes⟩ := found
    cases action with
    | write write =>
        cases write <;> simp [ScreenAction.statusWrite?] at writes
        subst writes
        exact member
    | _ => simp [ScreenAction.statusWrite?] at writes
  · intro member
    exact ⟨_, member, rfl⟩

theorem statusWrites_of_quiet {actions : List ScreenAction}
    (quiet : ∀ action ∈ actions, action.Quiet) : statusWrites actions = [] := by
  rw [statusWrites, List.filterMap_eq_nil_iff]
  intro action member
  have silent := quiet action member
  cases action <;> first | rfl | exact silent.elim

theorem statusWrites_endTheTrip {actions : List ScreenAction}
    (quiet : ∀ action ∈ actions, action.Quiet) : statusWrites (.endTheTrip :: actions) = [] := by
  show statusWrites actions = []
  exact statusWrites_of_quiet quiet

theorem statusWrites_located {actions : List ScreenAction} (location : Option LatLng)
    (quiet : ∀ action ∈ actions, action.Quiet) :
    statusWrites (actions ++ [.write (.driverLocation location)]) = [] := by
  rw [statusWrites_append, statusWrites_of_quiet quiet]
  rfl

theorem not_write_of_quiet {actions : List ScreenAction}
    (quiet : ∀ action ∈ actions, action.Quiet) (write : RequestWrite) :
    .write write ∉ actions := by
  intro member
  exact quiet _ member

def NothingAfterEnded (actions : List ScreenAction) : Prop :=
  actions.Pairwise fun earlier later =>
    earlier = .write (.status .ended) → ∀ write, later ≠ .write write

/-- The stored stages never go back, and `ended` is the last write of all. -/
structure StatusFinal (actions : List ScreenAction) : Prop where
  ordered : (statusWrites actions).Pairwise (· ≤ ·)
  final : NothingAfterEnded actions

theorem NothingAfterEnded.append {before after : List ScreenAction}
    (earlier : NothingAfterEnded before) (later : NothingAfterEnded after)
    (apart : .ended ∈ statusWrites before → ∀ write, .write write ∉ after) :
    NothingAfterEnded (before ++ after) := by
  rw [NothingAfterEnded, List.pairwise_append]
  refine ⟨earlier, later, ?_⟩
  intro first firstMember second secondMember ended write same
  subst first second
  exact apart (mem_statusWrites.mpr firstMember) write secondMember

theorem NothingAfterEnded.of_append {before after : List ScreenAction}
    (all : NothingAfterEnded (before ++ after)) :
    NothingAfterEnded before ∧
      (.ended ∈ statusWrites before → ∀ write, .write write ∉ after) := by
  rw [NothingAfterEnded, List.pairwise_append] at all
  obtain ⟨earlier, _, apart⟩ := all
  refine ⟨earlier, ?_⟩
  intro ended write member
  exact apart _ (mem_statusWrites.mp ended) _ member rfl write rfl

theorem StatusFinal.of_append {before after : List ScreenAction}
    (all : StatusFinal (before ++ after)) : StatusFinal before where
  ordered := by
    have whole := all.ordered
    rw [statusWrites_append, List.pairwise_append] at whole
    exact whole.1
  final := all.final.of_append.1

theorem nothingAfterEnded_of_unwritten {actions : List ScreenAction}
    (unwritten : statusWrites actions = []) : NothingAfterEnded actions := by
  apply List.pairwise_of_forall_mem_list
  intro first firstMember second _ ended
  subst first
  have member := mem_statusWrites.mpr firstMember
  rw [unwritten] at member
  cases member

theorem Stage.advance_spec {stage next : Stage} {point : TapPoint}
    (advances : stage.advance = some (next, point)) : stage < next ∧ next ≤ .completed := by
  cases stage <;> cases advances <;> decide

/-- Once `ended` is written, no event at which the screen writes comes. -/
def EndsQuietly (history : List ScreenAction) (screen : NewRequestScreen RequestId)
    (event : String × ScreenEvent) : Prop :=
  .ended ∈ statusWrites history → screen.writes event.1 event.2 = false

instance (history : List ScreenAction) (screen : NewRequestScreen RequestId)
    (event : String × ScreenEvent) : Decidable (EndsQuietly history screen event) :=
  inferInstanceAs (Decidable (_ → _))

/-- What holds between the writes so far and the screen while the trip ends quietly. -/
structure StatusLaw (history : List ScreenAction) (screen : NewRequestScreen RequestId) :
    Prop where
  ordered : (statusWrites history).Pairwise (· ≤ ·)
  bounded : ∀ stage ∈ statusWrites history, stage ≤ screen.status ∨ stage = .ended
  unended : screen.status ≤ .completed
  final : NothingAfterEnded history

theorem StatusLaw.statusFinal {history : List ScreenAction}
    {screen : NewRequestScreen RequestId} (law : StatusLaw history screen) :
    StatusFinal history :=
  ⟨law.ordered, law.final⟩

@[simp] theorem statusWrites_initState (uid : String) (riderInfo : Option RideR)
    (currentPosition : Option LatLng) :
    statusWrites (NewRequestScreen.initState uid riderInfo currentPosition) = [.accepted] :=
  rfl

theorem StatusLaw.initial (uid : String) (riderInfo : Option RideR)
    (currentPosition : Option LatLng) (details : ClientDetails RequestId) :
    StatusLaw (NewRequestScreen.initState uid riderInfo currentPosition)
      { clientDetails := details } where
  ordered := by simp
  bounded := by simp
  unended := by show Stage.accepted ≤ Stage.completed; decide
  final := by simp [NothingAfterEnded, NewRequestScreen.initState, acceptRideRequest]

section Steps

variable {history actions : List ScreenAction} {before after : NewRequestScreen RequestId}

theorem StatusLaw.quiet_step (law : StatusLaw history before)
    (status : after.status = before.status) (unwritten : statusWrites actions = [])
    (apart : .ended ∈ statusWrites history → ∀ write, .write write ∉ actions) :
    StatusLaw (history ++ actions) after where
  ordered := by simpa [unwritten] using law.ordered
  bounded := by simpa [unwritten, status] using law.bounded
  unended := by
    rw [status]
    exact law.unended
  final := law.final.append (nothingAfterEnded_of_unwritten unwritten) apart

/-- Steps that write nothing. -/
theorem StatusLaw.silent_step (law : StatusLaw history before)
    (status : after.status = before.status) (quiet : ∀ action ∈ actions, action.Quiet) :
    StatusLaw (history ++ actions) after :=
  law.quiet_step status (statusWrites_of_quiet quiet) fun _ => not_write_of_quiet quiet

theorem StatusLaw.stage_step {label : ButtonLabel} {entered stage : Stage}
    (law : StatusLaw history before) (open_ : .ended ∉ statusWrites history)
    (forward : before.status ≤ stage) (unended : stage ≤ .completed)
    (status : after.status = stage) :
    StatusLaw (history ++ [.entered label entered, .write (.status stage)]) after := by
  have written : statusWrites [.entered label entered, .write (.status stage)] = [stage] := rfl
  constructor
  · rw [statusWrites_append, written]
    apply pairwise_concat law.ordered
    intro earlier member
    rcases law.bounded earlier member with below | ended
    · exact below.trans forward
    · exact (open_ (ended ▸ member)).elim
  · intro earlier member
    rw [statusWrites_append, written, List.mem_append, List.mem_singleton] at member
    rw [status]
    rcases member with old | new
    · rcases law.bounded earlier old with below | ended
      · exact .inl (below.trans forward)
      · exact .inr ended
    · exact .inl (le_of_eq new)
  · rw [status]
    exact unended
  · apply law.final.append
    · simp [NothingAfterEnded]
    · intro ended
      exact (open_ ended).elim

theorem StatusLaw.finish_step {fareAmount : Int} {dialog : ScreenDialog}
    (law : StatusLaw history before) (open_ : .ended ∉ statusWrites history)
    (status : after.status = before.status) :
    StatusLaw (history ++ [.pop, .write (.fares fareAmount), .write (.status .ended),
      .showDialog dialog, .saveEarnings fareAmount]) after := by
  have written : statusWrites [.pop, .write (.fares fareAmount), .write (.status .ended),
      .showDialog dialog, .saveEarnings fareAmount] = [.ended] := rfl
  constructor
  · rw [statusWrites_append, written]
    apply pairwise_concat law.ordered
    intro earlier _
    cases earlier <;> decide
  · intro earlier member
    rw [statusWrites_append, written, List.mem_append, List.mem_singleton] at member
    rw [status]
    rcases member with old | new
    · exact law.bounded earlier old
    · exact .inr new
  · rw [status]
    exact law.unended
  · apply law.final.append
    · simp [NothingAfterEnded]
    · intro ended
      exact (open_ ended).elim

theorem StatusLaw.move {rideType : String} {event : ScreenEvent}
    (law : StatusLaw history before)
    (quietly : EndsQuietly history before (rideType, event))
    (moves : StageMove rideType before event after actions) :
    StatusLaw (history ++ actions) after := by
  cases moves with
  | tap mounted status title taps =>
      exact law.silent_step status (by simp)
  | advance waiting next title taps =>
      obtain ⟨above, unended⟩ := Stage.advance_spec next
      have open_ : .ended ∉ statusWrites history := by
        intro ended
        simpa [NewRequestScreen.writes, waiting] using quietly ended
      exact law.stage_step open_ above.le unended rfl
  | endTrip waiting completed status title taps =>
      have open_ : .ended ∉ statusWrites history := by
        intro ended
        simpa [NewRequestScreen.writes, waiting] using quietly ended
      exact law.stage_step open_ completed.le le_rfl (status.trans completed)
  | relabel waiting shown status taps quiet =>
      exact law.silent_step status quiet
  | proceed waiting onward status title taps quiet =>
      exact law.silent_step status quiet
  | @endTheTrip _ copy reply label next emitted waiting onward status title taps quiet =>
      apply law.quiet_step status (statusWrites_endTheTrip quiet)
      intro _ write member
      rcases List.mem_cons.mp member with same | later
      · cases same
      · exact not_write_of_quiet quiet write later
  | finish mounted waiting fare status title taps =>
      have open_ : .ended ∉ statusWrites history := by
        intro ended
        simpa [NewRequestScreen.writes, waiting, mounted, fare] using quietly ended
      exact law.finish_step open_ status
  | locate listening status title taps quiet =>
      apply law.quiet_step status (statusWrites_located _ quiet)
      intro ended
      simpa [NewRequestScreen.writes, listening.1, listening.2] using quietly ended
  | background status title taps quiet =>
      exact law.silent_step status quiet

theorem EndsQuietly.of_statusFinal {event : String × ScreenEvent}
    (law : StatusLaw history before)
    (stepped : NewRequestScreen.component before event = some (after, actions))
    (final : StatusFinal (history ++ actions)) : EndsQuietly history before event := by
  intro ended
  have unended : before.status ≠ .ended := by
    intro same
    exact absurd (same ▸ law.unended) (by decide)
  cases writing : before.writes event.1 event.2 with
  | false => rfl
  | true =>
      obtain ⟨write, member⟩ := NewRequestScreen.step_writes stepped unended writing
      exact (final.final.of_append.2 ended write member).elim

end Steps

/-- From `acceptRideRequest` on, the stored stages are in order and `ended` is the
last write exactly if nothing that still writes reaches the screen after it. -/
theorem statusFinal_iff_endsQuietly (uid : String) (riderInfo : Option RideR)
    (currentPosition : Option LatLng) (details : ClientDetails RequestId)
    {screen : NewRequestScreen RequestId} {events : List (String × ScreenEvent)}
    {actions : List ScreenAction}
    (run : exec NewRequestScreen.component { clientDetails := details } events =
      some (screen, actions)) :
    StatusFinal (NewRequestScreen.initState uid riderInfo currentPosition ++ actions) ↔
      Meets NewRequestScreen.component EndsQuietly
        (NewRequestScreen.initState uid riderInfo currentPosition)
        { clientDetails := details } events := by
  refine exec_holds_iff_meets StatusLaw StatusFinal StatusLaw.statusFinal
    StatusFinal.of_append ?_ EndsQuietly.of_statusFinal (StatusLaw.initial uid riderInfo currentPosition details) run
  intro history before event after emitted law quietly stepped
  exact law.move quietly (NewRequestScreen.step_moves stepped)

theorem statusFinal_sampleRide :
    ∃ screen actions,
      exec NewRequestScreen.component { clientDetails := sampleDetails }
        (asRideType "Rev-x" (rideToEndTrip ++ endTripTap sampleDirections)) = some (screen, actions) ∧
      .write (.status .ended) ∈ actions ∧
      StatusFinal (NewRequestScreen.initState "rider" none none ++ actions) := by
  have ends : ((exec NewRequestScreen.component { clientDetails := sampleDetails }
      (asRideType "Rev-x" (rideToEndTrip ++ endTripTap sampleDirections))).map fun result =>
        decide (.write (.status .ended) ∈ result.2)) = some true := by
    decide +kernel
  obtain ⟨⟨screen, actions⟩, run, ended⟩ := Option.map_eq_some_iff.mp ends
  refine ⟨screen, actions, run, of_decide_eq_true ended, ?_⟩
  apply (statusFinal_iff_endsQuietly "rider" none none sampleDetails run).mpr
  decide +kernel

theorem not_statusFinal_of_second_tap :
    ¬ ∀ (uid : String) (riderInfo : Option RideR) (currentPosition : Option LatLng)
        (details : ClientDetails String) (screen : NewRequestScreen String)
        (events : List (String × ScreenEvent)) (actions : List ScreenAction),
      exec NewRequestScreen.component { clientDetails := details } events =
        some (screen, actions) →
      StatusFinal (NewRequestScreen.initState uid riderInfo currentPosition ++ actions) := by
  intro always
  have written : ((exec NewRequestScreen.component { clientDetails := sampleDetails }
      (asRideType "Rev-x" (rideToEndTrip ++ [.tap] ++
        endTripTap sampleDirections ++ [.reply 0 (.value (some "client")), .reply 0 (.value (some "token"))]))).map
      fun result => statusWrites result.2) =
        some [.arrived, .returning, .arrivedAtGasStation, .completed, .completed, .ended,
          .completed] := by
    decide +kernel
  obtain ⟨⟨screen, actions⟩, run, stages⟩ := Option.map_eq_some_iff.mp written
  have final := always "rider" none none sampleDetails screen _ actions run
  have ordered := final.ordered
  simp only [statusWrites_append, statusWrites_initState] at ordered
  rw [show statusWrites actions = _ from stages] at ordered
  exact absurd ordered (by decide)

end FilldRider
