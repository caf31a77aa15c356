import FilldRider.NewRequestScreen.Position

/-!
# The leg a ride is on

The route on the map is asked for when the map is created and after the writes of
'arrived' and 'completed'; the time shown is asked for at every position. Each picks
origin and destination by itself.
-/

set_option autoImplicit false

namespace FilldRider

open Runs

variable {RequestId : Type}

/-- The directions a step asks for to draw a route, behind a dialog that can be
dismissed. -/
def routeRequest : List ScreenAction → Option (LatLng × LatLng)
  | .showDialog (.progress true) :: .directions origin destination :: _ =>
      some (origin, destination)
  | _ :: rest => routeRequest rest
  | [] => none

/-- The directions asked for last to draw a route. -/
def ScreenTrace.lastRoute (trace : ScreenTrace) : Option (LatLng × LatLng) :=
  (trace.filterMap fun entry => routeRequest entry.2).getLast?

theorem ScreenTrace.lastRoute_append {trace : ScreenTrace} {event : String × ScreenEvent}
    {actions : List ScreenAction} :
    ScreenTrace.lastRoute (trace ++ [(event, actions)]) =
      (routeRequest actions).or trace.lastRoute := by
  rw [ScreenTrace.lastRoute, List.filterMap_append, List.getLast?_append]
  cases asked : routeRequest actions <;> simp [asked, ScreenTrace.lastRoute]

/-- The await of a copy that asks for a route as soon as it is answered. -/
def TapPoint.asksRoute : TapPoint → Bool
  | .arrivedWrite | .completedWrite => true
  | _ => false

def TapPoint.readsToken : TapPoint → Reply → Bool
  | .clientToken, .value (some _) => true
  | _, _ => false

/-- The stages between pickup and dropoff, and back. -/
def Stage.between : Stage → Bool
  | .arrived | .returning | .completed => true
  | .accepted | .arrivedAtGasStation | .ended => false

def ScreenEvent.createdAt (position : LatLng) (event : ScreenEvent) : Bool :=
  decide (event = .mapCreated (some position))

namespace NewRequestScreen

/-- A route will be asked for when a write of 'arrived' or 'completed' is answered. -/
def RouteAwaited (screen : NewRequestScreen RequestId) : Prop :=
  ∃ point ∈ screen.taps.map Tap.point, point.asksRoute = true

/-- The directions asked for last and the destination of `updateRideDetails` are those
of the leg: to the pickup, from there to the dropoff, and back from it. -/
structure LegsAgree (trace : ScreenTrace) (screen : NewRequestScreen RequestId) : Prop where
  destination : match screen.status with
    | .accepted | .completed => screen.destination = screen.clientDetails.pickup
    | .arrived | .returning => screen.destination = screen.clientDetails.dropoff
    | .arrivedAtGasStation | .ended => True
  route : ¬ screen.RouteAwaited → match screen.status with
    | .accepted => ∀ route ∈ trace.lastRoute,
        trace.Seen (ScreenEvent.createdAt route.1) ∧ route.2 = screen.clientDetails.pickup
    | .arrived | .returning =>
        trace.lastRoute = some (screen.clientDetails.pickup, screen.clientDetails.dropoff)
    | .completed =>
        trace.lastRoute = some (screen.clientDetails.dropoff, screen.clientDetails.pickup)
    | .arrivedAtGasStation | .ended => True

def awaitsRoute (screen : NewRequestScreen RequestId) (copy : Nat) : Bool :=
  (screen.taps[copy]?.map Tap.point).any TapPoint.asksRoute

/-- Another copy than this one still has to ask for a route. -/
def OtherAwaited (screen : NewRequestScreen RequestId) (copy : Nat) : Prop :=
  ∃ point ∈ (screen.taps.eraseIdx copy).map Tap.point, point.asksRoute = true

/-- A completed ride goes back where it came from; the map is not created between
pickup and dropoff, unless a route is asked for after it; and a write of 'arrived' or
'completed' that is not confirmed on the mounted screen does not leave the ride there
without its route. -/
def AsksInTime (trace : ScreenTrace) (screen : NewRequestScreen RequestId)
    (event : String × ScreenEvent) : Prop :=
  (screen.completes event.2 = true →
      screen.clientDetails.pickup = screen.clientDetails.dropoff) ∧
    match event.2 with
    | .mapCreated (some current) =>
        screen.mounted = true → screen.newRideGoogleMapController = false →
          screen.status.between = true →
          screen.RouteAwaited ∨ current = screen.clientDetails.pickup ∧
            screen.clientDetails.pickup = screen.clientDetails.dropoff
    | .reply copy reply =>
        screen.awaitsRoute copy = true → ¬ (reply = .done ∧ screen.mounted = true) →
          screen.status.between = true →
          screen.OtherAwaited copy ∨ trace.lastRoute =
            some (screen.clientDetails.pickup, screen.clientDetails.dropoff)
    | _ => True

instance (screen : NewRequestScreen RequestId) : Decidable screen.RouteAwaited :=
  inferInstanceAs (Decidable (∃ point ∈ screen.taps.map Tap.point, point.asksRoute = true))

instance (screen : NewRequestScreen RequestId) (copy : Nat) :
    Decidable (screen.OtherAwaited copy) :=
  inferInstanceAs
    (Decidable (∃ point ∈ (screen.taps.eraseIdx copy).map Tap.point, point.asksRoute = true))

instance (trace : ScreenTrace) (screen : NewRequestScreen RequestId) :
    ∀ event : String × ScreenEvent, Decidable (AsksInTime trace screen event)
  | (_, .mapCreated (some _)) => inferInstanceAs (Decidable (_ ∧ (_ → _ → _ → _ ∨ _ ∧ _)))
  | (_, .reply ..) => inferInstanceAs (Decidable (_ ∧ (_ → ¬ (_ ∧ _) → _ → _ ∨ _)))
  | (_, .mapCreated none) | (_, .tap) | (_, .position _) | (_, .mapReply _)
  | (_, .rideDetailsReply _) | (_, .iconLoaded) | (_, .statusValue _) | (_, .unmount) =>
      inferInstanceAs (Decidable (_ ∧ True))

/-- One move of the screen, by the route it asks for. -/
inductive RouteMove (before : NewRequestScreen RequestId) :
    ScreenEvent → NewRequestScreen RequestId → List ScreenAction → Prop where
  | draw {current : LatLng} {after : NewRequestScreen RequestId} {actions : List ScreenAction}
      (mounted : before.mounted = true) (first : before.newRideGoogleMapController = false)
      (status : after.status = before.status) (taps : after.taps = before.taps)
      (route : routeRequest actions = some (current, before.clientDetails.pickup)) :
      RouteMove before (.mapCreated (some current)) after actions
  | answer {copy : Nat} {reply : Reply} {after : NewRequestScreen RequestId}
      {actions : List ScreenAction} (waits : before.awaitsRoute copy = true)
      (status : after.status = before.status)
      (others : after.RouteAwaited ↔ before.OtherAwaited copy)
      (route : routeRequest actions =
        if reply = .done ∧ before.mounted = true then
          some (before.clientDetails.pickup, before.clientDetails.dropoff)
        else none) :
      RouteMove before (.reply copy reply) after actions
  | advance {event : ScreenEvent} {point : TapPoint} {after : NewRequestScreen RequestId}
      {actions : List ScreenAction}
      (next : before.status.advance = some (after.status, point))
      (awaits : point.asksRoute = true → after.RouteAwaited)
      (keeps : before.RouteAwaited → after.RouteAwaited)
      (unasked : ∀ copy reply, event = .reply copy reply → before.awaitsRoute copy = false)
      (undrawn : ∀ position, event ≠ .mapCreated position)
      (route : routeRequest actions = none) :
      RouteMove before event after actions
  | other {event : ScreenEvent} {after : NewRequestScreen RequestId}
      {actions : List ScreenAction}
      (status : after.status = before.status)
      (same : after.RouteAwaited ↔ before.RouteAwaited)
      (unasked : ∀ copy reply, event = .reply copy reply → before.awaitsRoute copy = false)
      (undrawn : ∀ current, event = .mapCreated (some current) →
        ¬ (before.mounted = true ∧ before.newRideGoogleMapController = false))
      (route : routeRequest actions = none) :
      RouteMove before event after actions

variable {rideType : String} {before after : NewRequestScreen RequestId} {copy : Nat}
  {label : ButtonLabel} {point : TapPoint} {next : Option TapPoint} {reply : Reply}
  {actions : List ScreenAction}

theorem routeAwaited_of_waiting (waiting : before.taps[copy]? = some ⟨label, point⟩) :
    before.RouteAwaited ↔ point.asksRoute = true ∨ before.OtherAwaited copy := by
  simp [RouteAwaited, OtherAwaited, (points_waiting waiting).mem_iff, -List.mem_map]

theorem routeAwaited_advanceTap (next : Option TapPoint)
    (waiting : before.taps[copy]? = some ⟨label, point⟩)
    (taps : after.taps = advanceTap before.taps copy label next) :
    after.RouteAwaited ↔
      (∃ reached ∈ next, reached.asksRoute = true) ∨ before.OtherAwaited copy := by
  simp [RouteAwaited, OtherAwaited, taps, (points_advanceTap waiting).symm.mem_iff,
    -List.mem_map, or_and_right, exists_or]

private theorem enterBranch_route (screen : NewRequestScreen RequestId) (label : ButtonLabel) :
    routeRequest (screen.enterBranch label).2.2 = none := by
  unfold enterBranch
  split <;> rfl

private theorem finishTrip_route (rideType : String) (screen : NewRequestScreen RequestId)
    (details : Option DirectionDetails) :
    routeRequest (screen.finishTrip rideType details).2.2 = none ∧
      (screen.finishTrip rideType details).1.status = screen.status ∧
      (screen.finishTrip rideType details).2.1 = none := by
  unfold finishTrip
  split <;> exact ⟨rfl, rfl, rfl⟩

private theorem endTheTrip_route (screen : NewRequestScreen RequestId) :
    routeRequest screen.endTheTrip.2.2 = none ∧ screen.endTheTrip.1.status = screen.status ∧
      ∀ reached ∈ screen.endTheTrip.2.1, reached.asksRoute = false := by
  unfold endTheTrip
  split <;> exact ⟨rfl, rfl, by simp [TapPoint.asksRoute]⟩

/-- Only the answers of two writes ask for a route, and only a token read leads to one
of these writes. -/
structure ResumesRoute (before : NewRequestScreen RequestId) (point : TapPoint) (reply : Reply)
    (after : NewRequestScreen RequestId) (next : Option TapPoint) (actions : List ScreenAction) :
    Prop where
  route : routeRequest actions =
    if point.asksRoute = true ∧ reply = .done ∧ before.mounted = true then
      some (before.clientDetails.pickup, before.clientDetails.dropoff)
    else none
  status : point.readsToken reply = false → after.status = before.status
  onward : point.readsToken reply = false → ∀ reached ∈ next, reached.asksRoute = false

theorem resume_route
    (resumes : before.resume rideType label point reply = some (after, next, actions)) :
    ResumesRoute before point reply after next actions := by
  unfold resume at resumes
  split at resumes
  case h_5 =>
    have unasked := enterBranch_route before label
    rw [Option.some.inj resumes] at unasked
    refine ⟨unasked, ?_, ?_⟩
    · intro elsewhere
      cases elsewhere
    · intro elsewhere
      cases elsewhere
  case h_15 =>
    split at resumes
    · have unasked := endTheTrip_route { before with btnTitle := .endTrip }
      rw [Option.some.inj resumes] at unasked
      exact ⟨unasked.1, fun _ => unasked.2.1, fun _ => unasked.2.2⟩
    · cases resumes
      constructor <;> simp [routeRequest, TapPoint.asksRoute]
  case h_16 details =>
    split at resumes
    · have unasked := finishTrip_route rideType before details
      rw [Option.some.inj resumes] at unasked
      obtain ⟨route, status, ended⟩ := unasked
      cases ended
      exact ⟨route, fun _ => status, fun _ => by simp⟩
    · cases resumes
      constructor <;> simp [routeRequest]
  all_goals
    repeat' split at resumes
    all_goals
      cases resumes
      try (constructor <;> simp_all [TapPoint.asksRoute, routeRequest, getPlaceDirection,
        getPlaceDirection2])

private theorem unasked_of_waiting {event : Reply}
    (waiting : before.taps[copy]? = some ⟨label, point⟩) (quiet : point.asksRoute = false)
    (other : Nat) (reply : Reply) (same : ScreenEvent.reply copy event = .reply other reply) :
    before.awaitsRoute other = false := by
  cases same
  simp [awaitsRoute, waiting, quiet]

private theorem enterBranch_routes (token : String)
    (waiting : before.taps[copy]? = some ⟨label, .clientToken⟩) :
    RouteMove before (.reply copy (.value (some token)))
      { (before.enterBranch label).1 with
        taps := advanceTap before.taps copy label (before.enterBranch label).2.1 }
      (before.enterBranch label).2.2 := by
  have waited := routeAwaited_of_waiting waiting
  have unasked : ∀ (other : Nat) (reply : Reply),
      ScreenEvent.reply copy (.value (some token)) = .reply other reply →
        before.awaitsRoute other = false := unasked_of_waiting waiting rfl
  cases stage : before.status with
  | accepted | arrived | returning | arrivedAtGasStation =>
      simp only [enterBranch, stage]
      refine .advance (by rw [stage]; rfl) ?_ ?_ unasked (by simp) rfl
      · intro asks
        exact (routeAwaited_advanceTap (some _) waiting rfl).mpr (.inl ⟨_, rfl, asks⟩)
      · intro awaited
        exact (routeAwaited_advanceTap (some _) waiting rfl).mpr
          (.inr ((waited.mp awaited).resolve_left (by decide)))
  | completed =>
      simp only [enterBranch, stage]
      refine .other stage.symm ?_ unasked (by simp) rfl
      rw [routeAwaited_advanceTap (some .endWrite) waiting rfl, waited]
      simp [TapPoint.asksRoute]
  | ended =>
      simp only [enterBranch, stage]
      refine .other stage.symm ?_ unasked (by simp) rfl
      rw [routeAwaited_advanceTap none waiting rfl, waited]
      simp [TapPoint.asksRoute]

private theorem reply_routes {resumed : NewRequestScreen RequestId}
    (waiting : before.taps[copy]? = some ⟨label, point⟩)
    (resumes : before.resume rideType label point reply = some (resumed, next, actions)) :
    RouteMove before (.reply copy reply)
      { resumed with taps := advanceTap before.taps copy label next } actions := by
  have route := resume_route resumes
  cases reads : point.readsToken reply with
  | true =>
      unfold TapPoint.readsToken at reads
      split at reads
      · next token =>
        simp only [resume] at resumes
        have moves := enterBranch_routes token waiting
        rwa [Option.some.inj resumes] at moves
      · cases reads
  | false =>
      have status := route.status reads
      have waited := routeAwaited_of_waiting waiting
      have silent : ¬ ∃ reached ∈ next, reached.asksRoute = true := by
        rintro ⟨reached, onward, asks⟩
        rw [route.onward reads reached onward] at asks
        cases asks
      cases asks : point.asksRoute with
      | true =>
          refine .answer (by simp [awaitsRoute, waiting, asks]) status ?_ ?_
          · rw [routeAwaited_advanceTap next waiting rfl]
            exact or_iff_right silent
          · rw [route.route, asks]
            simp
      | false =>
          refine .other status ?_ (unasked_of_waiting waiting asks) (by simp) ?_
          · rw [routeAwaited_advanceTap next waiting rfl, or_iff_right silent, waited, asks]
            simp
          · rw [route.route, asks]
            simp

theorem step_routes {event : ScreenEvent}
    (stepped : before.step rideType event = some (after, actions)) :
    RouteMove before event after actions := by
  cases step_background stepped with
  | button ofButton same =>
      cases event with
      | tap =>
          simp only [step] at stepped
          split at stepped <;> cases stepped
          refine .other rfl ?_ (by simp) (by simp) rfl
          simp [RouteAwaited, TapPoint.asksRoute, or_and_right, exists_or]
      | reply copy reply =>
          simp only [step] at stepped
          split at stepped
          · cases stepped
          · next tap waiting =>
            split at stepped
            · cases stepped
            · next resumed onward emitted resumes =>
              cases stepped
              exact reply_routes waiting resumes
      | statusValue value =>
          simp only [step] at stepped
          repeat' split at stepped
          all_goals
            cases stepped
            try exact .other rfl Iff.rfl (by simp) (by simp) rfl
      | position | mapCreated | mapReply | rideDetailsReply | iconLoaded | unmount => cases ofButton
  | draw mounted first => exact .draw mounted first rfl rfl rfl
  | create undrawn first =>
      refine .other rfl Iff.rfl (by simp) ?_ rfl
      intro current same
      cases same
      rcases undrawn with unknown | gone
      · cases unknown
      · simp [gone]
  | recreate again =>
      refine .other rfl Iff.rfl (by simp) ?_ rfl
      intro current same
      simp [again]
  | request | skip | lost | drawn | undrawn | release | stick | loadIcon | unmount =>
      exact .other rfl Iff.rfl (by simp) (by simp) rfl

/-! ## The law -/

/-- What holds of the route whatever the stage; the dropoff is the pickup once the
ride is completed. -/
structure LegLaw (trace : ScreenTrace) (screen : NewRequestScreen RequestId) : Prop where
  completed : screen.status = .completed →
    screen.clientDetails.pickup = screen.clientDetails.dropoff
  route : screen.status.between = true → ¬ screen.RouteAwaited → trace.lastRoute =
    some (screen.clientDetails.pickup, screen.clientDetails.dropoff)
  accepted : screen.status = .accepted → ¬ screen.RouteAwaited ∧
    ∀ route ∈ trace.lastRoute,
      trace.Seen (ScreenEvent.createdAt route.1) ∧ route.2 = screen.clientDetails.pickup

theorem LegLaw.initial (details : ClientDetails RequestId) :
    LegLaw [] { clientDetails := details } := by
  refine ⟨?_, ?_, ?_⟩
  · intro completed
    cases completed
  · intro between
    cases between
  · intro _
    exact ⟨by simp [RouteAwaited], by simp [ScreenTrace.lastRoute]⟩

theorem LegLaw.agrees {trace : ScreenTrace} {screen : NewRequestScreen RequestId}
    (law : LegLaw trace screen) : LegsAgree trace screen := by
  constructor
  · cases stage : screen.status with
    | accepted | arrived | returning => simp [destination, stage]
    | completed => simp [destination, stage, law.completed stage]
    | arrivedAtGasStation | ended => trivial
  · intro asked
    cases stage : screen.status with
    | accepted => exact (law.accepted stage).2
    | arrived | returning => exact law.route (by rw [stage]; rfl) asked
    | completed =>
        have route := law.route (by rw [stage]; rfl) asked
        rwa [law.completed stage] at route ⊢
    | arrivedAtGasStation | ended => trivial

section Steps

variable {trace : ScreenTrace} {screen next : NewRequestScreen RequestId} {event : ScreenEvent}

private theorem between_of_advance {stage reached : Stage} {point : TapPoint}
    (advance : stage.advance = some (reached, point)) :
    reached ≠ .accepted ∧ (point.asksRoute = true ∨ stage.between = true) := by
  cases stage <;> cases advance <;> simp [TapPoint.asksRoute, Stage.between]

private theorem routeAwaited_of_awaitsRoute {copy : Nat}
    (waits : screen.awaitsRoute copy = true) : screen.RouteAwaited := by
  simp only [awaitsRoute, Option.any_eq_true, Option.map_eq_some_iff] at waits
  obtain ⟨point, ⟨tap, waiting, rfl⟩, asks⟩ := waits
  exact ⟨tap.point, List.mem_map_of_mem (List.mem_of_getElem? waiting), asks⟩

private theorem LegLaw.route_step (law : LegLaw trace screen)
    (asks : AsksInTime trace screen (rideType, event))
    (stepped : screen.step rideType event = some (next, actions))
    (between : next.status.between = true) (settled : ¬ next.RouteAwaited) :
    ScreenTrace.lastRoute (trace ++ [((rideType, event), actions)]) =
      some (screen.clientDetails.pickup, screen.clientDetails.dropoff) := by
  rw [ScreenTrace.lastRoute_append]
  cases step_routes stepped with
  | @draw current _ _ mounted first status taps route =>
      rw [route, Option.some_or]
      rw [status] at between
      have awaited : ¬ screen.RouteAwaited := by
        rwa [RouteAwaited, taps] at settled
      obtain ⟨here, same⟩ := (asks.2 mounted first between).resolve_left awaited
      rw [here, ← same]
  | @answer copy reply _ _ waits status others route =>
      rw [status] at between
      rw [others] at settled
      rw [route]
      split
      · rfl
      · next unconfirmed => exact (asks.2 waits unconfirmed between).resolve_left settled
  | advance onward awaits keeps unasked undrawn route =>
      rcases (between_of_advance onward).2 with asked | before
      · exact (settled (awaits asked)).elim
      · rw [route, Option.none_or]
        exact law.route before fun awaited => settled (keeps awaited)
  | other status same unasked undrawn route =>
      rw [status] at between
      rw [same] at settled
      rw [route, Option.none_or]
      exact law.route between settled

private theorem LegLaw.accepted_step (law : LegLaw trace screen)
    (stepped : screen.step rideType event = some (next, actions))
    (accepted : next.status = .accepted) :
    ¬ next.RouteAwaited ∧
      ∀ route ∈ ScreenTrace.lastRoute (trace ++ [((rideType, event), actions)]),
        ScreenTrace.Seen (trace ++ [((rideType, event), actions)])
            (ScreenEvent.createdAt route.1) ∧
          route.2 = screen.clientDetails.pickup := by
  rw [ScreenTrace.lastRoute_append]
  cases step_routes stepped with
  | @draw current _ _ mounted first status taps route =>
      rw [status] at accepted
      rw [RouteAwaited, taps, route, Option.some_or]
      refine ⟨(law.accepted accepted).1, ?_⟩
      intro asked same
      cases same
      exact ⟨ScreenTrace.seen_append.mpr (.inr (by simp [ScreenEvent.createdAt])), rfl⟩
  | answer waits status others route =>
      rw [status] at accepted
      exact ((law.accepted accepted).1 (routeAwaited_of_awaitsRoute waits)).elim
  | advance onward awaits keeps unasked undrawn route =>
      exact ((between_of_advance onward).1 accepted).elim
  | other status same unasked undrawn route =>
      rw [status] at accepted
      obtain ⟨settled, drawn⟩ := law.accepted accepted
      rw [same, route, Option.none_or]
      exact ⟨settled, fun asked last => ⟨(drawn asked last).1.later, (drawn asked last).2⟩⟩

private theorem LegLaw.step (law : LegLaw trace screen)
    (asks : AsksInTime trace screen (rideType, event))
    (stepped : screen.step rideType event = some (next, actions)) :
    LegLaw (trace ++ [((rideType, event), actions)]) next := by
  have details := (step_moves stepped).keeps.details
  refine ⟨?_, ?_, ?_⟩
  · rw [details, step_completed stepped]
    intro either
    rcases either with before | completes
    · exact law.completed before
    · exact asks.1 completes
  · rw [details]
    exact law.route_step asks stepped
  · rw [details]
    exact law.accepted_step stepped

/-- A ride whose legs agree is completed only where it goes back to its dropoff. -/
theorem LegsAgree.back (agrees : LegsAgree trace screen) (completed : screen.status = .completed) :
    screen.clientDetails.pickup = screen.clientDetails.dropoff := by
  have towards := agrees.destination
  simp only [completed, NewRequestScreen.destination, reduceCtorEq, if_false] at towards
  exact towards.symm

theorem LegsAgree.between (agrees : LegsAgree trace screen)
    (settled : ¬ screen.RouteAwaited) (between : screen.status.between = true) :
    trace.lastRoute = some (screen.clientDetails.pickup, screen.clientDetails.dropoff) := by
  have route := agrees.route settled
  cases stage : screen.status with
  | arrived | returning =>
      rw [stage] at route
      exact route
  | completed =>
      simp only [stage] at route
      rwa [agrees.back stage] at route ⊢
  | accepted | arrivedAtGasStation | ended =>
      rw [stage] at between
      cases between

private theorem asksInTime_of_agrees
    (stepped : screen.step rideType event = some (next, actions))
    (agrees : LegsAgree (trace ++ [((rideType, event), actions)]) next) :
    AsksInTime trace screen (rideType, event) := by
  have details := (step_moves stepped).keeps.details
  have last := agrees.between
  rw [details, ScreenTrace.lastRoute_append] at last
  constructor
  · intro completes
    rw [← details]
    exact agrees.back ((step_completed stepped).mpr (.inr completes))
  · cases step_routes stepped with
    | @draw current _ _ mounted first status taps route =>
        intro _ _ between
        refine or_iff_not_imp_left.mpr fun awaited => ?_
        have settled : ¬ next.RouteAwaited := by rwa [RouteAwaited, taps]
        have asked := last settled (status ▸ between)
        rwa [route, Option.some_or, Option.some.injEq, Prod.mk.injEq] at asked
    | @answer copy reply _ _ waits status others route =>
        intro _ unconfirmed between
        refine or_iff_not_imp_left.mpr fun other => ?_
        have asked := last (mt others.mp other) (status ▸ between)
        rwa [route, if_neg unconfirmed, Option.none_or] at asked
    | advance onward awaits keeps unasked undrawn route =>
        cases event with
        | reply copy reply =>
            intro waits
            rw [unasked copy reply rfl] at waits
            cases waits
        | mapCreated position => exact (undrawn position rfl).elim
        | _ => trivial
    | other status same unasked undrawn route =>
        cases event with
        | reply copy reply =>
            intro waits
            rw [unasked copy reply rfl] at waits
            cases waits
        | mapCreated position =>
            cases position with
            | none => trivial
            | some current =>
                intro mounted first
                exact (undrawn current rfl ⟨mounted, first⟩).elim
        | _ => trivial

end Steps

end NewRequestScreen

/-- A gas station that fills the cylinder at the client's door. -/
def roundTrip : ClientDetails String :=
  { sampleDetails with dropoff := sampleDetails.pickup }

end FilldRider
