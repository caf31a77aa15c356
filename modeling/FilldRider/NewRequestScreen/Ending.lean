import FilldRider.NewRequestScreen.Position
import FilldRider.NewRequestScreen.StageProgress
import FilldRider.Runs.Reach
import Mathlib.Order.Bounds.Basic

/-!
# A ride can be brought to its end

What stands in the way of ending a ride is only the position: neither replies that
were lost nor copies of the handler that never go on. How many taps it takes depends
on the stage alone.
-/

set_option autoImplicit false

namespace FilldRider

open Runs

variable {RequestId : Type}

def Reply.Succeeds : Reply → Prop
  | .value text => text ≠ none
  | .done => True
  | .directions details => details ≠ none
  | .error => False

/-- The events of a ride on which everything works: no awaited call fails, and the
screen stays open. -/
def ScreenEvent.Succeeds : ScreenEvent → Prop
  | .reply _ answer | .mapReply answer | .rideDetailsReply answer => answer.Succeeds
  | .tap | .position _ | .mapCreated _ | .iconLoaded => True
  | .statusValue _ | .unmount => False

/-- The rider is there whenever the position is asked for. -/
def ScreenEvent.StaysAt (here : LatLng) : ScreenEvent → Prop
  | .position fix => fix = here
  | .mapCreated currentPosition => currentPosition = some here
  | _ => True

/-- What a ride finds outside of its screen: the ride type of the app, and the customer
as the taps read it from the database. -/
structure RideSurroundings where
  rideType : String
  clientId : String
  token : String

def Tap.Reads (around : RideSurroundings) (tap : Tap) : Reply → Prop
  | .value text => text = some (if tap.point = .clientId then around.clientId else around.token)
  | _ => True

def tapPrice (event : String × ScreenEvent) : Nat :=
  if event.2 = .tap then 1 else 0

/-- The taps it takes from a stage to the end of the ride. -/
def Stage.ahead (stage : Stage) : Nat := 5 - stage.rank

theorem Stage.ahead_advance {stage next : Stage} {point : TapPoint}
    (advances : stage.advance = some (next, point)) : stage.ahead = 1 + next.ahead := by
  cases stage <;> cases advances <;> rfl

namespace NewRequestScreen

/-- A position is known, or its listener is or may still be started. -/
def PositionComes (screen : NewRequestScreen RequestId) : Prop :=
  screen.myPosition ≠ none ∨ screen.liveLocation = true ∨ screen.mapDirections = true ∨
    screen.newRideGoogleMapController = false

instance (screen : NewRequestScreen RequestId) : Decidable screen.PositionComes :=
  inferInstanceAs (Decidable (_ ∨ _ ∨ _ ∨ _))

/-- What the reads of the copies find of the customer. -/
def Reads (around : RideSurroundings) (screen : NewRequestScreen RequestId) : ScreenEvent → Prop
  | .reply copy answer => ∀ tap ∈ screen.taps[copy]?, tap.Reads around answer
  | _ => True

/-- A run in which everything works at one place, with so many taps. -/
abbrev Leads (around : RideSurroundings) (screen : NewRequestScreen RequestId)
    (taps : Nat) (last : NewRequestScreen RequestId) (actions : List ScreenAction) : Prop :=
  Runs.Leads component
    (fun screen event =>
      (event.1 = around.rideType ∧ event.2.Succeeds ∧ event.2.StaysAt ⟨0, 0⟩) ∧
        screen.Reads around event.2)
    tapPrice screen taps last actions

/-- What a run towards the end of the ride has in hand: an open screen that knows the
position, and the copies that waited before still wait. -/
structure Underway (others : List Tap) (screen : NewRequestScreen RequestId) : Prop where
  mounted : screen.mounted = true
  located : screen.myPosition ≠ none
  taps : screen.taps = others

variable {rideType : String} {around : RideSurroundings}
  {screen next last : NewRequestScreen RequestId} {event : ScreenEvent}
  {actions : List ScreenAction}

/-! ## One copy from tap to end -/

theorem leads_event (stepped : screen.step around.rideType event = some (next, actions))
    (succeeds : event.Succeeds) (stays : event.StaysAt ⟨0, 0⟩) (untapped : event ≠ .tap)
    (reads : screen.Reads around event) : Leads around screen 0 next actions := by
  have free : tapPrice (around.rideType, event) = 0 := if_neg untapped
  rw [← free]
  have run : component screen (around.rideType, event) = some (next, actions) := stepped
  exact Runs.Leads.single run ⟨⟨rfl, succeeds, stays⟩, reads⟩

private theorem leads_tap (around : RideSurroundings) (mounted : screen.mounted = true) :
    Leads around screen 1
      { screen with taps := screen.taps ++ [⟨screen.btnTitle, .clientId⟩] } [] := by
  have run : component screen (around.rideType, .tap) =
      some ({ screen with taps := screen.taps ++ [⟨screen.btnTitle, .clientId⟩] }, []) := by
    simp only [component, step, mounted, if_true]
  exact Runs.Leads.single run ⟨⟨rfl, trivial, trivial⟩, trivial⟩

/-- A copy goes on; the others wait. -/
theorem leads_copy {copy : Nat} {tap : Tap} (reply : Reply) {onward : Option TapPoint}
    (waiting : screen.taps[copy]? = some tap) (succeeds : reply.Succeeds)
    (reads : tap.Reads around reply)
    (resumes : screen.resume around.rideType tap.label tap.point reply =
      some (next, onward, actions)) :
    Leads around screen 0
      { next with taps := advanceTap screen.taps copy tap.label onward } actions := by
  have stepped : screen.step around.rideType (.reply copy reply) =
      some ({ next with taps := advanceTap screen.taps copy tap.label onward }, actions) := by
    simp only [step, waiting]
    rw [resumes]
  refine leads_event stepped succeeds trivial (by simp) ?_
  intro other here
  cases waiting.symm.trans here
  exact reads

private theorem leads_reply (around : RideSurroundings) {others : List Tap} (tap : Tap)
    (reply : Reply) {onward : Option TapPoint} (newest : screen.taps = others ++ [tap])
    (succeeds : reply.Succeeds) (reads : tap.Reads around reply)
    (resumes : screen.resume around.rideType tap.label tap.point reply =
      some (next, onward, actions)) :
    Leads around screen 0
      { next with taps := others ++ (onward.map (Tap.mk tap.label)).toList } actions := by
  have waiting : screen.taps[others.length]? = some tap := by
    rw [newest]
    simp
  have kept : advanceTap screen.taps others.length tap.label onward =
      others ++ (onward.map (Tap.mk tap.label)).toList := by
    rw [newest]
    cases onward with
    | none => simp [advanceTap, List.eraseIdx_append_of_length_le]
    | some point => simp [advanceTap]
  rw [← kept]
  exact leads_copy reply waiting succeeds reads resumes

/-- A new tap whose two reads succeed reaches the branch of the stage. -/
theorem leads_branch (around : RideSurroundings) (mounted : screen.mounted = true)
    {onward : Option TapPoint}
    (enters : enterBranch { screen with taps := screen.taps ++ [⟨screen.btnTitle, .clientToken⟩] }
      screen.btnTitle = (next, onward, actions)) :
    Leads around screen 1
      { next with taps := screen.taps ++ (onward.map (Tap.mk screen.btnTitle)).toList }
      actions := by
  have tapped := leads_tap around mounted
  have known : Leads around
      { screen with taps := screen.taps ++ [⟨screen.btnTitle, .clientId⟩] } 0
      { screen with taps := screen.taps ++ [⟨screen.btnTitle, .clientToken⟩] } [] :=
    leads_reply around ⟨screen.btnTitle, .clientId⟩ (.value (some around.clientId)) rfl
      (by simp [Reply.Succeeds]) rfl rfl
  have entered : Leads around
      { screen with taps := screen.taps ++ [⟨screen.btnTitle, .clientToken⟩] } 0
      { next with taps := screen.taps ++ (onward.map (Tap.mk screen.btnTitle)).toList } actions :=
    leads_reply around ⟨screen.btnTitle, .clientToken⟩ (.value (some around.token)) rfl
      (by simp [Reply.Succeeds]) rfl (congrArg some enters)
  simpa using (tapped.trans known).trans entered

theorem enterBranch_advance {label : ButtonLabel} {stage : Stage} {point : TapPoint}
    (advances : screen.status.advance = some (stage, point)) :
    screen.enterBranch label =
      ({ screen with status := stage }, some point,
        [.entered label screen.status, .write (.status stage)]) := by
  cases status : screen.status <;> rw [status] at advances <;> cases advances <;>
    simp only [enterBranch, status]

theorem enterBranch_completed {label : ButtonLabel} (completed : screen.status = .completed) :
    screen.enterBranch label =
      (screen, some .endWrite, [.entered label .completed, .write (.status .completed)]) := by
  simp only [enterBranch, completed]

/-- Where a run leaves the screen: underway, in the same stage. -/
private abbrev Arrives (around : RideSurroundings) (screen : NewRequestScreen RequestId)
    (taps : Nat) (others : List Tap) (stage : Stage) : Prop :=
  ∃ last actions, Leads around screen taps last actions ∧ last.Underway others ∧
    last.status = stage

private theorem Arrives.after {taps more : Nat} {others : List Tap} {stage : Stage}
    (leads : Leads around screen taps next actions)
    (arrives : Arrives around next more others stage) :
    Arrives around screen (taps + more) others stage := by
  obtain ⟨last, later, onward, underway, status⟩ := arrives
  exact ⟨last, actions ++ later, leads.trans onward, underway, status⟩

section Copies

variable {others : List Tap} {label : ButtonLabel} (around : RideSurroundings)

private theorem arrives_arrivedNotification (mounted : screen.mounted = true)
    (located : screen.myPosition ≠ none)
    (newest : screen.taps = others ++ [⟨label, .arrivedNotification⟩]) :
    Arrives around screen 0 others screen.status :=
  ⟨_, _, leads_reply around ⟨label, .arrivedNotification⟩ .done newest trivial trivial rfl,
    ⟨mounted, located, by simp⟩, rfl⟩

private theorem arrives_gasStationNotification (mounted : screen.mounted = true)
    (located : screen.myPosition ≠ none)
    (newest : screen.taps = others ++ [⟨label, .gasStationNotification⟩]) :
    Arrives around screen 0 others screen.status :=
  ⟨_, _, leads_reply around ⟨label, .gasStationNotification⟩ .done newest trivial trivial rfl,
    ⟨mounted, located, by simp⟩, rfl⟩

private theorem arrives_arrivedDirections (mounted : screen.mounted = true)
    (located : screen.myPosition ≠ none)
    (newest : screen.taps = others ++ [⟨label, .arrivedDirections⟩]) :
    Arrives around screen 0 others screen.status := by
  by_cases drawn : screen.drawsRoute (some sampleDirections) = true
  · have resumes : screen.resume around.rideType label .arrivedDirections
        (.directions (some sampleDirections)) =
          some (screen, some .arrivedNotification, [.pop, .pop]) := by
      simp only [resume, mounted, drawn, if_true]
    have onward := leads_reply around ⟨label, .arrivedDirections⟩
      (.directions (some sampleDirections)) newest (by simp [Reply.Succeeds]) trivial resumes
    exact Arrives.after onward (arrives_arrivedNotification around mounted located rfl)
  · have resumes : screen.resume around.rideType label .arrivedDirections
        (.directions (some sampleDirections)) = some (screen, none, [.pop]) := by
      simp only [resume, mounted, drawn, if_true, if_false, Bool.false_eq_true]
    exact ⟨_, _, leads_reply around ⟨label, .arrivedDirections⟩
      (.directions (some sampleDirections)) newest (by simp [Reply.Succeeds]) trivial resumes,
      ⟨mounted, located, by simp⟩, rfl⟩

private theorem arrives_completedDirections (mounted : screen.mounted = true)
    (located : screen.myPosition ≠ none)
    (newest : screen.taps = others ++ [⟨label, .completedDirections⟩]) :
    Arrives around screen 0 others screen.status := by
  by_cases drawn : screen.drawsRoute (some sampleDirections) = true
  · have resumes : screen.resume around.rideType label .completedDirections
        (.directions (some sampleDirections)) =
          some ({ screen with btnTitle := .endTrip }, none, [.pop]) := by
      simp only [resume, mounted, drawn, if_true]
    exact ⟨_, _, leads_reply around ⟨label, .completedDirections⟩
      (.directions (some sampleDirections)) newest (by simp [Reply.Succeeds]) trivial resumes,
      ⟨mounted, located, by simp⟩, rfl⟩
  · have resumes : screen.resume around.rideType label .completedDirections
        (.directions (some sampleDirections)) = some (screen, none, [.pop]) := by
      simp only [resume, mounted, drawn, if_true, if_false, Bool.false_eq_true]
    exact ⟨_, _, leads_reply around ⟨label, .completedDirections⟩
      (.directions (some sampleDirections)) newest (by simp [Reply.Succeeds]) trivial resumes,
      ⟨mounted, located, by simp⟩, rfl⟩

/-- A copy that wrote the stage runs to its end. -/
private theorem arrives_written (mounted : screen.mounted = true)
    (located : screen.myPosition ≠ none) {stage next : Stage} {point : TapPoint}
    (advances : stage.advance = some (next, point))
    (newest : screen.taps = others ++ [⟨label, point⟩]) :
    Arrives around screen 0 others screen.status := by
  cases stage with
  | accepted =>
      cases advances
      have onward := leads_reply around ⟨label, .arrivedWrite⟩ .done newest trivial trivial
        (if_pos mounted)
      exact Arrives.after onward (arrives_arrivedDirections around mounted located rfl)
  | arrived =>
      cases advances
      exact ⟨_, _, leads_reply around ⟨label, .returningWrite⟩ .done newest trivial trivial
        (if_pos mounted), ⟨mounted, located, by simp⟩, rfl⟩
  | returning =>
      cases advances
      have onward := leads_reply around ⟨label, .gasStationWrite⟩ .done newest trivial trivial
        (if_pos mounted)
      exact Arrives.after onward (arrives_gasStationNotification around mounted located rfl)
  | arrivedAtGasStation =>
      cases advances
      have onward := leads_reply around ⟨label, .completedWrite⟩ .done newest trivial trivial
        (if_pos mounted)
      exact Arrives.after onward (arrives_completedDirections around mounted located rfl)
  | completed | ended => cases advances

end Copies

/-- One tap on which everything works takes the ride to the next stage. -/
private theorem arrives_advance (around : RideSurroundings) {others : List Tap} {stage : Stage}
    {point : TapPoint} (underway : screen.Underway others)
    (advances : screen.status.advance = some (stage, point)) :
    Arrives around screen 1 others stage := by
  have branch := leads_branch around underway.mounted (enterBranch_advance advances)
  rw [underway.taps] at branch
  exact Arrives.after branch
    (arrives_written around underway.mounted underway.located advances rfl)

/-! ## To the end of the ride -/

/-- A run that ends the ride with a fare, and leaves the copies that waited before. -/
private abbrev Ends (around : RideSurroundings) (screen : NewRequestScreen RequestId) (taps : Nat)
    (others : List Tap) : Prop :=
  ∃ last actions fareAmount, Leads around screen taps last actions ∧ last.taps = others ∧
    .write (.status .ended) ∈ actions ∧ .write (.fares fareAmount) ∈ actions

private theorem Ends.after {taps more : Nat} {others : List Tap}
    (leads : Leads around screen taps next actions) (ends : Ends around next more others) :
    Ends around screen (taps + more) others := by
  obtain ⟨last, later, fareAmount, onward, kept, ended, saved⟩ := ends
  exact ⟨last, actions ++ later, fareAmount, leads.trans onward, kept,
    List.mem_append_right _ ended, List.mem_append_right _ saved⟩

private theorem calculateFares_sample (rideType : String) :
    ∃ fareAmount, calculateFares rideType sampleDirections = some fareAmount := by
  simp only [calculateFares, sampleDirections]
  split
  · exact ⟨_, rfl⟩
  · split
    · exact ⟨_, rfl⟩
    · split <;> exact ⟨_, rfl⟩

theorem resume_endNotification {label : ButtonLabel} {position : LatLng}
    (mounted : screen.mounted = true) (known : screen.myPosition = some position) :
    screen.resume rideType label .endNotification .done =
      some ({ screen with btnTitle := .endTrip }, some .endDirections,
        [.endTheTrip, .showDialog (.progress false),
          .directions screen.clientDetails.pickup position]) := by
  simp only [resume, mounted, if_true, endTheTrip, known]

theorem resume_endDirections {label : ButtonLabel} {details : DirectionDetails}
    {fareAmount : Int} (mounted : screen.mounted = true)
    (fare : calculateFares rideType details = some fareAmount) :
    screen.resume rideType label .endDirections (.directions (some details)) =
      some ({ screen with rideStreamSubscription := false }, none,
        [.pop, .write (.fares fareAmount), .write (.status .ended),
          .showDialog (.collectFare screen.clientDetails.paymentMethod fareAmount),
          .saveEarnings fareAmount]) := by
  simp only [resume, mounted, if_true, finishTrip, Option.bind_some, fare]

section Copies

variable {others : List Tap} {label : ButtonLabel} (around : RideSurroundings)

private theorem ends_endDirections (mounted : screen.mounted = true)
    (newest : screen.taps = others ++ [⟨label, .endDirections⟩]) :
    Ends around screen 0 others := by
  obtain ⟨fareAmount, fare⟩ := calculateFares_sample around.rideType
  exact ⟨_, _, fareAmount, leads_reply around ⟨label, .endDirections⟩
    (.directions (some sampleDirections)) newest (by simp [Reply.Succeeds]) trivial
    (resume_endDirections mounted fare), by simp, by simp, by simp⟩

private theorem ends_endNotification (mounted : screen.mounted = true)
    (located : screen.myPosition ≠ none)
    (newest : screen.taps = others ++ [⟨label, .endNotification⟩]) :
    Ends around screen 0 others := by
  obtain ⟨position, here⟩ := Option.ne_none_iff_exists'.mp located
  have onward := leads_reply around ⟨label, .endNotification⟩ .done newest trivial trivial
    (resume_endNotification mounted here)
  exact Ends.after onward (ends_endDirections around mounted rfl)

private theorem ends_endWrite (mounted : screen.mounted = true)
    (located : screen.myPosition ≠ none)
    (newest : screen.taps = others ++ [⟨label, .endWrite⟩]) : Ends around screen 0 others := by
  have onward := leads_reply around ⟨label, .endWrite⟩ .done newest trivial trivial rfl
  exact Ends.after onward (ends_endNotification around mounted located rfl)

end Copies

private theorem ends_completed (around : RideSurroundings) {others : List Tap}
    (underway : screen.Underway others) (completed : screen.status = .completed) :
    Ends around screen 1 others := by
  have branch := leads_branch around underway.mounted (enterBranch_completed completed)
  rw [underway.taps] at branch
  exact Ends.after branch (ends_endWrite around underway.mounted underway.located rfl)

private theorem ends_underway (around : RideSurroundings) {others : List Tap} (left : Nat)
    {screen : NewRequestScreen RequestId} (underway : screen.Underway others)
    (ahead : screen.status.ahead = left + 1) : Ends around screen (left + 1) others := by
  induction left generalizing screen with
  | zero =>
      have completed : screen.status = .completed := by
        cases status : screen.status <;> rw [status] at ahead <;> first | rfl | cases ahead
      exact ends_completed around underway completed
  | succ left ih =>
      obtain ⟨⟨stage, point⟩, advances⟩ : ∃ next, screen.status.advance = some next := by
        cases status : screen.status <;> rw [status] at ahead <;>
          first | exact ⟨_, rfl⟩ | cases ahead
      obtain ⟨next, actions, leads, onward, status⟩ := arrives_advance around underway advances
      have rest : next.status.ahead = left + 1 := by
        have less := Stage.ahead_advance advances
        rw [status]
        omega
      have ends := Ends.after leads (ih onward rest)
      rwa [Nat.add_comm 1] at ends

/-! ## The position -/

private theorem arrives_live (around : RideSurroundings) (mounted : screen.mounted = true)
    (live : screen.liveLocation = true) : Arrives around screen 0 screen.taps screen.status := by
  have stepped : screen.step around.rideType (.position ⟨0, 0⟩) =
      some (screen.onPosition ⟨0, 0⟩) := by
    simp only [step, live, if_true]
  generalize screen.onPosition ⟨0, 0⟩ = moved at stepped
  obtain ⟨next, actions⟩ := moved
  have underway : next.Underway screen.taps ∧ next.status = screen.status := by
    cases step_background stepped with
    | button ofButton => cases ofButton
    | request | skip | lost => exact ⟨⟨mounted, by simp, rfl⟩, rfl⟩
  exact ⟨next, actions, leads_event stepped trivial rfl (by simp) trivial, underway⟩

private theorem arrives_mapDirections (around : RideSurroundings) (mounted : screen.mounted = true)
    (controller : screen.newRideGoogleMapController = true)
    (waiting : screen.mapDirections = true) :
    Arrives around screen 0 screen.taps screen.status := by
  have stepped : screen.step around.rideType (.mapReply (.directions (some sampleDirections))) =
      some ({ screen with mapDirections := false, liveLocation := true }, [.pop]) := by
    simp only [step, waiting, finishMapCreated, mounted, if_true, drawsRoute, controller]
    rfl
  have leads := leads_event stepped (by simp [ScreenEvent.Succeeds, Reply.Succeeds]) trivial
    (by simp) trivial
  exact Arrives.after leads (arrives_live around mounted rfl)

private theorem arrives_located (around : RideSurroundings) (mounted : screen.mounted = true)
    (comes : screen.PositionComes) : Arrives around screen 0 screen.taps screen.status := by
  cases controller : screen.newRideGoogleMapController with
  | true =>
      rcases comes with located | live | waiting | uncreated
      · exact ⟨screen, [], Runs.Leads.refl screen, ⟨mounted, located, rfl⟩, rfl⟩
      · exact arrives_live around mounted live
      · exact arrives_mapDirections around mounted controller waiting
      · rw [controller] at uncreated
        cases uncreated
  | false =>
      have stepped : screen.step around.rideType (.mapCreated (some ⟨0, 0⟩)) =
          some ({ screen with newRideGoogleMapController := true, mapDirections := true },
            getPlaceDirection ⟨0, 0⟩ screen.clientDetails.pickup) := by
        simp [step, onMapCreated, controller, mounted]
      have leads := leads_event stepped trivial rfl (by simp) trivial
      exact Arrives.after leads (arrives_mapDirections around mounted rfl rfl)

/-- With the position, the taps that are still ahead end the ride. -/
theorem ends_within (around : RideSurroundings) (mounted : screen.mounted = true)
    (comes : screen.PositionComes) (unended : screen.status ≤ .completed) :
    ∃ last actions fareAmount, Leads around screen screen.status.ahead last actions ∧
      last.taps = screen.taps ∧ .write (.status .ended) ∈ actions ∧
      .write (.fares fareAmount) ∈ actions := by
  obtain ⟨next, actions, leads, underway, status⟩ := arrives_located around mounted comes
  obtain ⟨left, ahead⟩ : ∃ left, screen.status.ahead = left + 1 := by
    cases stage : screen.status <;> rw [stage] at unended <;>
      first | exact ⟨_, rfl⟩ | exact absurd unended (by decide)
  have onward := ends_underway around left underway (by rw [status, ahead])
  rw [ahead]
  have ends := Ends.after leads onward
  rwa [Nat.zero_add] at ends

/-! ## What cannot be made up for -/

/-- An open screen, and a position that is known or may come. -/
def Endable (screen : NewRequestScreen RequestId) : Prop :=
  screen.mounted = true ∧ screen.PositionComes

private theorem live_of_position {position : LatLng}
    (stepped : screen.step rideType (.position position) = some (next, actions)) :
    screen.liveLocation = true := by
  simp only [step] at stepped
  split at stepped
  · next live => exact live
  · cases stepped

theorem step_endable (stepped : screen.step rideType event = some (next, actions))
    (endable : next.Endable) : screen.Endable := by
  obtain ⟨mounted, comes⟩ := endable
  cases step_background stepped with
  | button ofButton same =>
      rw [same.mounted] at mounted
      refine ⟨mounted, ?_⟩
      rwa [PositionComes, same.position, same.live, same.map, same.controller] at comes
  | request ready | skip ready | lost unready =>
      exact ⟨mounted, .inr (.inl (live_of_position stepped))⟩
  | draw mounted first => exact ⟨mounted, .inr (.inr (.inr first))⟩
  | create undrawn first => exact ⟨mounted, .inr (.inr (.inr first))⟩
  | drawn waiting opened => exact ⟨opened, .inr (.inr (.inl waiting))⟩
  | undrawn waiting failed => exact ⟨mounted, .inr (.inr (.inl waiting))⟩
  | recreate again | release | stick | loadIcon => exact ⟨mounted, comes⟩
  | unmount => cases mounted

/-- Directions for the fare are only awaited with a position. -/
def FareLocated (screen : NewRequestScreen RequestId) : Prop :=
  ∀ tap ∈ screen.taps, tap.point = .endDirections → screen.myPosition ≠ none

private theorem located_of_resume {label : ButtonLabel} {point : TapPoint} {reply : Reply}
    (resumes : screen.resume rideType label point reply =
      some (next, some .endDirections, actions)) : screen.myPosition ≠ none := by
  unfold resume at resumes
  split at resumes
  case h_5 =>
    unfold enterBranch at resumes
    split at resumes <;> cases resumes
  case h_15 =>
    split at resumes
    · cases located : screen.myPosition with
      | none =>
          simp only [endTheTrip, located] at resumes
          cases resumes
      | some position => simp
    · cases resumes
  case h_16 details =>
    split at resumes
    · unfold finishTrip at resumes
      split at resumes <;> cases resumes
    · cases resumes
  all_goals
    repeat' split at resumes
    all_goals cases resumes

/-- Only a reply brings a copy to another await than the first. -/
private theorem mem_step_taps {tap : Tap}
    (stepped : screen.step rideType event = some (next, actions)) (member : tap ∈ next.taps) :
    tap ∈ screen.taps ∨ tap.point = .clientId ∨
      ∃ label point reply resumed emitted,
        screen.resume rideType label point reply = some (resumed, some tap.point, emitted) := by
  cases event with
  | tap =>
      simp only [step] at stepped
      split at stepped
      · cases stepped
        rcases List.mem_append.mp member with old | new
        · exact .inl old
        · rw [List.mem_singleton.mp new]
          exact .inr (.inl rfl)
      · cases stepped
  | reply copy reply =>
      simp only [step] at stepped
      split at stepped
      · cases stepped
      · next waiting present =>
        split at stepped
        · cases stepped
        · next resumed onward emitted resumes =>
          cases stepped
          rcases mem_advanceTap member with old | ⟨point, rfl, rfl⟩
          · exact .inl old
          · exact .inr (.inr ⟨_, _, _, _, _, resumes⟩)
  | position position =>
      cases step_moves stepped with
      | locate listening status title taps | background status title taps =>
          exact .inl (taps ▸ member)
  | mapCreated | mapReply | rideDetailsReply | iconLoaded | statusValue | unmount =>
      cases step_moves stepped with
      | background status title taps => exact .inl (taps ▸ member)

theorem FareLocated.step (law : screen.FareLocated)
    (stepped : screen.step rideType event = some (next, actions)) : next.FareLocated := by
  intro tap member waits
  apply (step_position stepped).mpr
  rcases mem_step_taps stepped member with old | first | ⟨_, _, _, _, _, resumes⟩
  · exact .inl (law tap old waits)
  · rw [first] at waits
    cases waits
  · rw [waits] at resumes
    exact .inl (located_of_resume resumes)

/-- The copy that writes the end, with the fare just before. -/
theorem finishes_of_ended (stepped : screen.step rideType event = some (next, actions))
    (ended : .write (.status .ended) ∈ actions) :
    screen.mounted = true ∧ (∃ (copy : Nat) (label : ButtonLabel),
        screen.taps[copy]? = some ⟨label, .endDirections⟩) ∧
      ∃ fareAmount, .write (.fares fareAmount) ∈ actions := by
  cases step_moves stepped with
  | @finish _ _ _ _ fareAmount _ mounted waiting =>
      exact ⟨mounted, ⟨_, _, waiting⟩, fareAmount, by simp⟩
  | advance waiting onward =>
      obtain ⟨_, unended⟩ := Stage.advance_spec onward
      simp only [List.mem_cons, reduceCtorEq, ScreenAction.write.injEq, RequestWrite.status.injEq,
        List.not_mem_nil, false_or, or_false] at ended
      rw [← ended] at unended
      exact absurd unended (by decide)
  | tap => cases ended
  | endTrip waiting completed => simp at ended
  | endTheTrip waiting onward status title taps quiet =>
      rcases List.mem_cons.mp ended with same | later
      · cases same
      · exact (quiet _ later).elim
  | locate listening status title taps quiet =>
      rcases List.mem_append.mp ended with requested | last
      · exact (quiet _ requested).elim
      · cases List.mem_singleton.mp last
  | relabel waiting shown status taps quiet => exact (quiet _ ended).elim
  | proceed waiting onward status title taps quiet => exact (quiet _ ended).elim
  | background status title taps quiet => exact (quiet _ ended).elim

/-- Out of an unendable state nothing writes the end. -/
private theorem endable_of_run (law : screen.FareLocated) {events : List (String × ScreenEvent)}
    (run : exec component screen events = some (last, actions))
    (ended : .write (.status .ended) ∈ actions) : screen.Endable := by
  induction events generalizing screen actions with
  | nil =>
      cases run
      cases ended
  | cons event rest ih =>
      obtain ⟨next, now, later, stepped, continued, rfl⟩ := exec_cons_eq_some.mp run
      rcases List.mem_append.mp ended with first | others
      · obtain ⟨mounted, ⟨copy, label, waiting⟩, _⟩ := finishes_of_ended stepped first
        exact ⟨mounted, .inl (law _ (List.mem_of_getElem? waiting) rfl)⟩
      · exact step_endable stepped (ih (law.step stepped) continued others)

/-! ## The price of a ride -/

/-- A copy whose tap has not yet taken the ride to a stage, or is ending it. -/
def unspent : TapPoint → Bool
  | .clientId | .clientToken | .endWrite | .endNotification | .endDirections => true
  | _ => false

/-- The taps that count towards the end: one for each stage behind, and the copies
that may still add one. -/
def tapsCounted (screen : NewRequestScreen RequestId) : Nat :=
  screen.status.rank + (screen.taps.map Tap.point).countP unspent

private theorem unspent_advanceTap {taps : List Tap} {copy : Nat} {label : ButtonLabel}
    {point : TapPoint} (onward : Option TapPoint)
    (waiting : taps[copy]? = some ⟨label, point⟩) :
    ((advanceTap taps copy label onward).map Tap.point).countP unspent + [point].countP unspent =
      (taps.map Tap.point).countP unspent + onward.toList.countP unspent := by
  have before := (points_waiting waiting).countP_eq unspent
  have after : (onward.toList ++ (taps.eraseIdx copy).map Tap.point).countP unspent =
      ((advanceTap taps copy label onward).map Tap.point).countP unspent :=
    (points_advanceTap waiting).countP_eq unspent
  rw [List.countP_append] at after
  rw [List.countP_cons] at before
  rw [List.countP_singleton]
  dsimp only at before
  omega

private theorem tapsCounted_reply {copy : Nat} {label : ButtonLabel} {point : TapPoint}
    (onward : Option TapPoint) (waiting : screen.taps[copy]? = some ⟨label, point⟩)
    (taps : next.taps = advanceTap screen.taps copy label onward)
    (status : next.status = screen.status)
    (less : onward.toList.countP unspent ≤ [point].countP unspent) :
    next.tapsCounted ≤ screen.tapsCounted := by
  have counts := unspent_advanceTap onward waiting
  rw [tapsCounted, tapsCounted, taps, status]
  omega

private theorem follows_unspent (point : TapPoint) :
    point.follows.toList.countP unspent ≤ [point].countP unspent := by
  cases point <;> decide

private theorem relabels_unspent {point : TapPoint} {label : ButtonLabel}
    {onward : Option TapPoint} (shown : point.relabels = some (label, onward)) :
    onward.toList.countP unspent ≤ [point].countP unspent := by
  cases point <;> cases shown <;> decide

private theorem advance_rank {stage next : Stage} {point : TapPoint}
    (advances : stage.advance = some (next, point)) :
    next.rank + [point].countP unspent = stage.rank + 1 := by
  cases stage <;> cases advances <;> decide

theorem tapsCounted_step (stepped : screen.step rideType event = some (next, actions)) :
    next.tapsCounted ≤ screen.tapsCounted + tapPrice (rideType, event) := by
  cases step_moves stepped with
  | tap mounted status title taps =>
      simp only [tapsCounted, taps, status, tapPrice, List.map_append, List.countP_append,
        List.map_cons, List.map_nil, if_true]
      have newest : [TapPoint.clientId].countP unspent = 1 := rfl
      omega
  | @advance _ copy token label point waiting onward title taps =>
      have ranks := advance_rank onward
      have counts := unspent_advanceTap (some point) waiting
      have token : [TapPoint.clientToken].countP unspent = 1 := rfl
      rw [tapsCounted, tapsCounted, taps]
      simp only [advanceTap, Option.toList_some] at counts
      omega
  | endTrip waiting completed status title taps =>
      exact (tapsCounted_reply (some .endWrite) waiting taps status (by decide)).trans (by omega)
  | relabel waiting shown status taps quiet =>
      have less := relabels_unspent shown
      exact (tapsCounted_reply _ waiting taps status less).trans (by omega)
  | @proceed _ copy reply label point onward _ waiting follows status title taps quiet =>
      have less : onward.toList.countP unspent ≤ [point].countP unspent := by
        rcases follows with rfl | rfl
        · simp
        · exact follows_unspent point
      exact (tapsCounted_reply onward waiting taps status less).trans (by omega)
  | @endTheTrip _ copy reply label onward _ waiting goes status title taps quiet =>
      have less : onward.toList.countP unspent ≤ [TapPoint.endNotification].countP unspent := by
        rcases goes with rfl | rfl <;> decide
      exact (tapsCounted_reply onward waiting taps status less).trans (by omega)
  | finish mounted waiting fare status title taps =>
      exact (tapsCounted_reply none waiting taps status (by decide)).trans (by omega)
  | locate listening status title taps quiet | background status title taps quiet =>
      rw [tapsCounted, tapsCounted, taps, status]
      omega

/-- The copy that writes the end counts, and all stages are behind. -/
theorem tapsCounted_of_ended {earlier : List ScreenAction} (law : ProgressLaw earlier screen)
    (stepped : screen.step rideType event = some (next, actions))
    (ended : .write (.status .ended) ∈ actions) : 5 ≤ screen.tapsCounted := by
  obtain ⟨_, ⟨copy, label, waiting⟩, _⟩ := finishes_of_ended stepped ended
  have completed := law.ending _ (List.mem_of_getElem? waiting) rfl
  have held : 0 < (screen.taps.map Tap.point).countP unspent :=
    List.countP_pos_iff.mpr ⟨.endDirections,
      List.mem_map.mpr ⟨_, List.mem_of_getElem? waiting, rfl⟩, rfl⟩
  rw [tapsCounted, completed, Stage.rank]
  omega

/-- What the taps so far have bought: everything, once the end is written. -/
def tapsBought (history : List ScreenAction) (screen : NewRequestScreen RequestId) : Nat :=
  if .write (.status .ended) ∈ history then 5 else screen.tapsCounted

private theorem tapsBought_step {earlier history : List ScreenAction}
    (law : ProgressLaw earlier screen)
    (stepped : screen.step rideType event = some (next, actions)) :
    tapsBought (history ++ actions) next ≤
      tapsBought history screen + tapPrice (rideType, event) := by
  by_cases before : .write (.status .ended) ∈ history
  · simp [tapsBought, before]
  · by_cases now : .write (.status .ended) ∈ actions
    · have counted := tapsCounted_of_ended law stepped now
      simp only [tapsBought, before, now, List.mem_append, or_true, if_true, if_false]
      omega
    · have counted := tapsCounted_step stepped
      simpa [tapsBought, before, now] using counted

/-! ## The end of a run -/

private theorem laws_of_run (details : ClientDetails RequestId)
    {events : List (String × ScreenEvent)}
    (run : exec component { clientDetails := details } events = some (screen, actions)) :
    screen.FareLocated ∧ ∃ history, ProgressLaw history screen := by
  constructor
  · apply exec_invariant_state FareLocated _ _ run
    · intro state event next emitted law stepped
      exact law.step stepped
    · simp [FareLocated]
  · refine ⟨initState "" none none ++ actions, ?_⟩
    apply exec_invariant ProgressLaw _ (ProgressLaw.initial "" none none details) run
    intro history before event after emitted held stepped
    exact held.move (step_moves stepped)

/-- A ride can be ended precisely while its screen is open and the position is known
or may still come: no failed write, lost reply or pending copy is in the way. -/
theorem canStillEnd_iff (details : ClientDetails RequestId)
    {events : List (String × ScreenEvent)}
    (run : exec component { clientDetails := details } events = some (screen, actions)) :
    (∃ more last later, exec component screen more = some (last, later) ∧
        .write (.status .ended) ∈ later) ↔ screen.Endable := by
  obtain ⟨located, history, law⟩ := laws_of_run details run
  constructor
  · intro ends
    obtain ⟨more, last, later, onward, ended⟩ := ends
    exact endable_of_run located onward ended
  · intro endable
    obtain ⟨mounted, comes⟩ := endable
    obtain ⟨last, later, _, ⟨more, onward, _⟩, _, ended, _⟩ :=
      ends_within ⟨"", "", ""⟩ mounted comes law.unended
    exact ⟨more, last, later, onward, ended⟩

/-- Where no copy is pending, the fewest taps that end the ride are those of the stages
ahead, also if replies may fail. -/
theorem fewestTaps (details : ClientDetails RequestId) {events : List (String × ScreenEvent)}
    (run : exec component { clientDetails := details } events = some (screen, actions))
    (idle : screen.taps = []) (endable : screen.Endable) :
    IsLeast {taps | ∃ more last later, exec component screen more = some (last, later) ∧
      .write (.status .ended) ∈ later ∧ cost tapPrice more = taps} screen.status.ahead := by
  obtain ⟨located, history, law⟩ := laws_of_run details run
  constructor
  · obtain ⟨last, later, _, ⟨more, onward, _, spent⟩, _, ended, _⟩ :=
      ends_within ⟨"", "", ""⟩ endable.1 endable.2 law.unended
    exact ⟨more, last, later, onward, ended, spent⟩
  · intro taps ends
    obtain ⟨more, last, later, onward, ended, rfl⟩ := ends
    have bought : tapsBought ([] ++ later) last ≤ tapsBought [] screen + cost tapPrice more := by
      apply potential_le_cost tapPrice
        (fun (_ : List ScreenAction) screen => ∃ earlier, ProgressLaw earlier screen) tapsBought
        _ _ ⟨history, law⟩ onward
      · rintro _ _ _ _ _ ⟨earlier, law⟩ stepped
        exact ⟨_, law.move (step_moves stepped)⟩
      · rintro _ _ _ _ _ ⟨earlier, law⟩ stepped
        exact tapsBought_step law stepped
    simp only [tapsBought, List.nil_append, ended, if_true, List.not_mem_nil, if_false,
      tapsCounted, idle, List.map_nil, List.countP_nil] at bought
    rw [Stage.ahead]
    omega

end NewRequestScreen

theorem canStillEnd_rideWithoutRoute :
    ∃ screen actions,
      exec NewRequestScreen.component { clientDetails := sampleDetails }
        (asRideType "Rev-x" rideWithoutRoute) = some (screen, actions) ∧
      ¬ ∃ more last later, exec NewRequestScreen.component screen more = some (last, later) ∧
        .write (.status .ended) ∈ later := by
  have stuck : (exec NewRequestScreen.component { clientDetails := sampleDetails }
      (asRideType "Rev-x" rideWithoutRoute)).map
        (fun result => decide (result.1.PositionComes)) = some false := by
    decide +kernel
  obtain ⟨⟨screen, actions⟩, run, comes⟩ := Option.map_eq_some_iff.mp stuck
  refine ⟨screen, actions, run, ?_⟩
  rw [NewRequestScreen.canStillEnd_iff sampleDetails run]
  exact fun endable => of_decide_eq_false comes endable.2

/-- The first tap of `rideToEndTrip`, up to the end of its copy. -/
def rideToPickup : List ScreenEvent := rideToEndTrip.take 11

theorem fewestTaps_rideToPickup :
    ∃ screen actions,
      exec NewRequestScreen.component { clientDetails := sampleDetails }
        (asRideType "Rev-x" rideToPickup) = some (screen, actions) ∧
      IsLeast {taps | ∃ more last later,
        exec NewRequestScreen.component screen more = some (last, later) ∧
          .write (.status .ended) ∈ later ∧ cost tapPrice more = taps} 4 := by
  have reached : (exec NewRequestScreen.component { clientDetails := sampleDetails }
      (asRideType "Rev-x" rideToPickup)).map
        (fun result => (result.1.status, result.1.taps, result.1.mounted,
          decide result.1.PositionComes)) = some (.arrived, [], true, true) := by
    decide +kernel
  obtain ⟨⟨screen, actions⟩, run, here⟩ := Option.map_eq_some_iff.mp reached
  simp only [Prod.mk.injEq, decide_eq_true_eq] at here
  obtain ⟨stage, idle, mounted, comes⟩ := here
  refine ⟨screen, actions, run, ?_⟩
  have least := NewRequestScreen.fewestTaps sampleDetails run idle ⟨mounted, comes⟩
  rw [stage] at least
  exact least

end FilldRider
