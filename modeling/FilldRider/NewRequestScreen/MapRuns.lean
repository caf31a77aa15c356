import FilldRider.NewRequestScreen.Background
import FilldRider.NewRequestScreen.Tracking
import FilldRider.Runs.Simulation

/-!
# The map of a ride

Every run of the ride screen is a run of its map: the route functions are called when
the map is created and by the copies of the stage button, and answered as the screen is.
So what holds in all runs of the map holds on the ride screen.
-/

set_option autoImplicit false

namespace FilldRider

open Runs

variable {RequestId : Type}

def MapAction.screen? : MapAction → Option ScreenAction
  | .screen action => some action
  | .drawn _ => none

/-- What the map emits is part of what the screen emits, with every shared position. -/
structure EchoedByMap (actions : List ScreenAction) (issued : List MapAction) : Prop where
  sublist : (issued.filterMap MapAction.screen?).Sublist actions
  positions : sharedPositions issued = sharedPositions (actions.map MapAction.screen)

theorem echoing_echoedByMap : Echoing EchoedByMap where
  nil := ⟨List.Sublist.refl [], rfl⟩
  append first second := by
    constructor
    · rw [List.filterMap_append]
      exact first.sublist.append second.sublist
    · rw [List.map_append, sharedPositions_append, sharedPositions_append, first.positions,
        second.positions]

/-- What the calls of route functions leave alone. -/
structure RideMap.SameScreen (before after : RideMap) : Prop where
  mounted : after.mounted = before.mounted
  controller : after.newRideGoogleMapController = before.newRideGoogleMapController
  icon : after.animatingMarkerIcon = before.animatingMarkerIcon
  oldPos : after.oldPos = before.oldPos

/-- How a call is answered; a failed request throws. -/
def RouteCall.answer (call : RouteCall) : Reply → MapEvent
  | .directions details => .route call details
  | _ => .routeError call

namespace RideMap

variable {decodePolyline : String → List LatLng} {computeHeading : LatLng → LatLng → ℚ}
  {map : RideMap} {call : RouteCall}

theorem draw_spec (map : RideMap) (call : RouteCall) (polylineCoordinates : List LatLng) :
    map.SameScreen (map.draw call polylineCoordinates).1 ∧
      (map.draw call polylineCoordinates).1.calls = map.calls ∧
      (map.draw call polylineCoordinates).2.filterMap MapAction.screen? = [.pop] ∧
      sharedPositions (map.draw call polylineCoordinates).2 = [] := by
  unfold draw
  split <;> exact ⟨⟨rfl, rfl, rfl, rfl⟩, rfl, rfl, rfl⟩

theorem onDirections_spec (decodePolyline : String → List LatLng) (map : RideMap)
    (call : RouteCall) (details : Option DirectionDetails) :
    map.SameScreen (onDirections decodePolyline map call details).1 ∧
      (onDirections decodePolyline map call details).1.calls = map.calls ∧
      (onDirections decodePolyline map call details).2.filterMap MapAction.screen? =
        (if map.mounted then [.pop] else []) ∧
      sharedPositions (onDirections decodePolyline map call details).2 = [] := by
  unfold onDirections
  split
  · split
    · exact ⟨⟨rfl, rfl, rfl, rfl⟩, rfl, rfl, rfl⟩
    · exact draw_spec ..
  · exact ⟨⟨rfl, rfl, rfl, rfl⟩, rfl, rfl, rfl⟩

/-- An answered call is over; directions that reach the mounted screen take its dialog
away. -/
theorem answer_spec (waiting : call ∈ map.calls) (reply : Reply) :
    ∃ reached issued,
      map.step decodePolyline computeHeading (call.answer reply) = some (reached, issued) ∧
        map.SameScreen reached ∧ reached.calls = map.calls.erase call ∧
        sharedPositions issued = [] ∧
        issued.filterMap MapAction.screen? =
          match reply with
          | .directions _ => if map.mounted then [.pop] else []
          | _ => [] := by
  cases reply with
  | value value | done | error =>
      exact ⟨_, [], if_pos waiting, ⟨rfl, rfl, rfl, rfl⟩, rfl, rfl, rfl⟩
  | directions details =>
      obtain ⟨same, calls, popped, positions⟩ := onDirections_spec decodePolyline
        { map with calls := map.calls.erase call } call details
      exact ⟨_, _, if_pos waiting, ⟨same.mounted, same.controller, same.icon, same.oldPos⟩, calls,
        positions, popped⟩

end RideMap

namespace NewRequestScreen

/-- The call a copy of the handler waits for at a point. -/
def routeCall? (screen : NewRequestScreen RequestId) : TapPoint → Option RouteCall
  | .arrivedDirections =>
      some ⟨screen.clientDetails.pickup, screen.clientDetails.dropoff⟩
  | .completedDirections =>
      some ⟨screen.clientDetails.dropoff, screen.clientDetails.pickup⟩
  | _ => none

/-- What resuming a copy is to the map: it calls a route function, it answers a call,
or it is nothing. -/
inductive RouteStep (screen : NewRequestScreen RequestId) (point : TapPoint) (reply : Reply)
    (next : Option TapPoint) (actions : List ScreenAction) : Prop where
  | calls (event : MapEvent) {call : RouteCall} {asking : List ScreenAction}
      (mounted : screen.mounted = true) (idle : screen.routeCall? point = none)
      (asked : next.bind screen.routeCall? = some call)
      (asks : ∀ (decodePolyline : String → List LatLng) (computeHeading : LatLng → LatLng → ℚ)
        (map : RideMap), map.step decodePolyline computeHeading event =
          some (map.call call asking))
      (quiet : ∀ action ∈ asking, action.Quiet) (issued : asking.Sublist actions)
  | answers {call : RouteCall} (asked : screen.routeCall? point = some call)
      (idle : next.bind screen.routeCall? = none)
      (popped : ∀ details, reply = .directions details → screen.mounted = true →
        [ScreenAction.pop].Sublist actions)
  | neither (idle : screen.routeCall? point = none)
      (unasked : next.bind screen.routeCall? = none)

variable {rideType : String} {before after : NewRequestScreen RequestId} {label : ButtonLabel}
  {point : TapPoint} {reply : Reply} {next : Option TapPoint} {actions : List ScreenAction}

private theorem enterBranch_unasked (screen : NewRequestScreen RequestId) (label : ButtonLabel) :
    (screen.enterBranch label).2.1.bind screen.routeCall? = none := by
  unfold enterBranch
  split <;> rfl

private theorem endTheTrip_unasked (screen : NewRequestScreen RequestId) :
    screen.endTheTrip.2.1.bind screen.routeCall? = none := by
  unfold endTheTrip
  split <;> rfl

private theorem finishTrip_unasked (rideType : String) (screen : NewRequestScreen RequestId)
    (details : Option DirectionDetails) :
    (screen.finishTrip rideType details).2.1.bind screen.routeCall? = none := by
  unfold finishTrip
  split <;> rfl

theorem resume_routeStep
    (resumes : before.resume rideType label point reply = some (after, next, actions)) :
    RouteStep before point reply next actions := by
  unfold resume at resumes
  split at resumes
  case h_1 =>
    cases resumes
    cases asked : before.routeCall? point with
    | none => exact .neither asked rfl
    | some call => exact .answers asked rfl (fun _ same => by cases same)
  case h_5 =>
    have unasked := enterBranch_unasked before label
    rw [Option.some.inj resumes] at unasked
    exact .neither rfl unasked
  case h_6 =>
    split at resumes
    · next mounted =>
      cases resumes
      exact .calls (.getPlaceDirection _ _) mounted rfl rfl (fun _ _ _ => rfl)
        (by simp [getPlaceDirection, ScreenAction.Quiet]) (List.sublist_cons_self ..)
    · cases resumes
      exact .neither rfl rfl
  case h_12 =>
    split at resumes
    · next mounted =>
      cases resumes
      exact .calls (.getPlaceDirection2 _ _) mounted rfl rfl (fun _ _ _ => rfl)
        (by simp [getPlaceDirection2, ScreenAction.Quiet]) (List.Sublist.refl _)
    · cases resumes
      exact .neither rfl rfl
  case h_7 details | h_13 details =>
    split at resumes
    · split at resumes <;> cases resumes <;> exact .answers rfl rfl (fun _ _ _ => by simp)
    · next unmounted =>
      cases resumes
      exact .answers rfl rfl (fun _ _ mounted => absurd mounted unmounted)
  case h_15 =>
    split at resumes
    · have unasked := endTheTrip_unasked { before with btnTitle := .endTrip }
      rw [Option.some.inj resumes] at unasked
      exact .neither rfl unasked
    · cases resumes
      exact .neither rfl rfl
  case h_16 details =>
    split at resumes
    · have unasked := finishTrip_unasked rideType before details
      rw [Option.some.inj resumes] at unasked
      exact .neither rfl unasked
    · cases resumes
      exact .neither rfl rfl
  case h_17 => cases resumes
  all_goals
    try split at resumes
    all_goals
      cases resumes
      exact .neither rfl rfl

/-- The calls the copies of the handler wait for. -/
def routeCalls (screen : NewRequestScreen RequestId) : List RouteCall :=
  (screen.taps.map Tap.point).filterMap screen.routeCall?

theorem SameBackground.routeCall? (same : before.SameBackground after) :
    after.routeCall? = before.routeCall? := by
  funext point
  cases point <;> simp [NewRequestScreen.routeCall?, same.details]

theorem routeCalls_waiting {copy : Nat} (waiting : before.taps[copy]? = some ⟨label, point⟩) :
    before.routeCalls.Perm ((before.routeCall? point).toList ++
      ((before.taps.eraseIdx copy).map Tap.point).filterMap before.routeCall?) := by
  have points := (points_waiting waiting).filterMap before.routeCall?
  cases asked : before.routeCall? point <;> simpa [routeCalls, asked] using points

theorem routeCalls_advanceTap {copy : Nat} (same : before.SameBackground after)
    (waiting : before.taps[copy]? = some ⟨label, point⟩)
    (taps : after.taps = advanceTap before.taps copy label next) :
    after.routeCalls.Perm ((next.bind before.routeCall?).toList ++
      ((before.taps.eraseIdx copy).map Tap.point).filterMap before.routeCall?) := by
  rw [routeCalls, taps, same.routeCall?]
  refine ((points_advanceTap waiting).symm.filterMap before.routeCall?).trans ?_
  cases next with
  | none => exact List.Perm.refl _
  | some reached => cases asked : before.routeCall? reached <;> simp [asked]

end NewRequestScreen

namespace RideMap

/-- A map that shows a ride screen, while the route from `first` is awaited: it is in
the same place, and waits for the same directions. -/
structure ShowsWith (first : Option LatLng) (screen : NewRequestScreen RequestId)
    (map : RideMap) : Prop where
  mounted : map.mounted = screen.mounted
  controller : map.newRideGoogleMapController = screen.newRideGoogleMapController
  icon : map.animatingMarkerIcon = screen.animatingMarkerIcon
  listening : map.oldPos.isSome = screen.liveLocation
  waiting : first.isSome = screen.mapDirections
  calls : map.calls.Perm
    ((first.map fun current => ⟨current, screen.clientDetails.pickup⟩).toList ++
      screen.routeCalls)
  unlistened : screen.mapDirections = true → screen.liveLocation = false
  uncreated : screen.newRideGoogleMapController = false →
    screen.mapDirections = false ∧ screen.liveLocation = false

def Shows (screen : NewRequestScreen RequestId) (map : RideMap) : Prop :=
  ∃ first, map.ShowsWith first screen

/-- A run of the map leads to one that shows a screen, with what it emitted. -/
abbrev ShowsAfter (decodePolyline : String → List LatLng)
    (computeHeading : LatLng → LatLng → ℚ) (map : RideMap) (screen : NewRequestScreen RequestId)
    (actions : List ScreenAction) : Prop :=
  Mirrored (component decodePolyline computeHeading) Shows EchoedByMap map screen actions

variable {decodePolyline : String → List LatLng} {computeHeading : LatLng → LatLng → ℚ}
  {rideType : String} {before after : NewRequestScreen RequestId} {first : Option LatLng}
  {map reached : RideMap} {actions : List ScreenAction}

/-- The stage button changes what the map waits for, and nothing else of it. -/
theorem ShowsWith.of_background (shown : map.ShowsWith first before)
    (same : before.SameBackground after) (screen : map.SameScreen reached)
    (calls : reached.calls.Perm
      ((first.map fun current => ⟨current, before.clientDetails.pickup⟩).toList ++
        after.routeCalls)) : reached.ShowsWith first after where
  mounted := by rw [screen.mounted, same.mounted, shown.mounted]
  controller := by rw [screen.controller, same.controller, shown.controller]
  icon := by rw [screen.icon, same.icon, shown.icon]
  listening := by rw [screen.oldPos, same.live, shown.listening]
  waiting := by rw [same.map, shown.waiting]
  calls := by rw [same.details]; exact calls
  unlistened := by rw [same.map, same.live]; exact shown.unlistened
  uncreated := by rw [same.controller, same.map, same.live]; exact shown.uncreated

theorem echoedByMap_of_unlocated {issued : List MapAction}
    (sublist : (issued.filterMap MapAction.screen?).Sublist actions)
    (unshared : sharedPositions issued = [])
    (unlocated : ∀ location, ScreenAction.write (.driverLocation location) ∉ actions) :
    EchoedByMap actions issued := by
  refine ⟨sublist, ?_⟩
  rw [unshared, sharedPositions_of_unlocated]
  intro location member
  obtain ⟨action, issuedAction, same⟩ := List.mem_map.mp member
  rw [MapAction.screen.inj same] at issuedAction
  exact unlocated location issuedAction

theorem mirrored_reply {copy : Nat} {label : ButtonLabel} {point : TapPoint} {reply : Reply}
    {resumed : NewRequestScreen RequestId} {next : Option TapPoint}
    (shown : map.Shows before) (waiting : before.taps[copy]? = some ⟨label, point⟩)
    (resumes : before.resume rideType label point reply = some (resumed, next, actions))
    (same : before.SameBackground after)
    (taps : after.taps = NewRequestScreen.advanceTap before.taps copy label next)
    (unlocated : ∀ location, ScreenAction.write (.driverLocation location) ∉ actions) :
    map.ShowsAfter decodePolyline computeHeading after actions := by
  obtain ⟨first, shown⟩ := shown
  have waited := shown.calls.trans
    ((NewRequestScreen.routeCalls_waiting waiting).append_left _)
  have advanced := (NewRequestScreen.routeCalls_advanceTap same waiting taps).symm.append_left
    (first.map fun current => RouteCall.mk current before.clientDetails.pickup).toList
  cases NewRequestScreen.resume_routeStep resumes with
  | @calls event call asking mounted idle asked asks quiet issued =>
      rw [idle, Option.toList_none, List.nil_append] at waited
      rw [asked, Option.toList_some, List.singleton_append] at advanced
      have called : component decodePolyline computeHeading map event =
          some ({ map with calls := map.calls ++ [call] }, asking.map .screen) := by
        rw [component, asks, RideMap.call, if_pos (shown.mounted.trans mounted)]
      refine mirrored_of_step called ⟨first, shown.of_background same ⟨rfl, rfl, rfl, rfl⟩ ?_⟩
        (echoedByMap_of_unlocated ?_ ?_ unlocated)
      · have placed := (waited.cons call).trans List.perm_middle.symm
        exact ((List.perm_append_singleton ..).trans placed).trans advanced
      · rw [List.filterMap_map]
        simpa [MapAction.screen?, Function.comp_def] using issued
      · apply sharedPositions_of_quiet
        intro action member
        obtain ⟨asked, askedMember, rfl⟩ := List.mem_map.mp member
        exact quiet asked askedMember
  | @answers call asked idle popped =>
      rw [asked, Option.toList_some, List.singleton_append] at waited
      rw [idle, Option.toList_none, List.nil_append] at advanced
      have waits : call ∈ map.calls := waited.mem_iff.mpr (by simp)
      obtain ⟨reached, issued, stepped, screen, calls, unshared, echoed⟩ := answer_spec waits reply
      refine mirrored_of_step stepped ⟨first, shown.of_background same screen ?_⟩
        (echoedByMap_of_unlocated ?_ unshared unlocated)
      · have erased := (waited.trans List.perm_middle).erase call
        rw [List.erase_cons_head] at erased
        rw [calls]
        exact erased.trans advanced
      · rw [echoed]
        cases reply with
        | value value | done | error => exact List.nil_sublist _
        | directions details =>
            show (if map.mounted then [ScreenAction.pop] else []).Sublist actions
            split
            · next mounted => exact popped details rfl (shown.mounted.symm.trans mounted)
            · exact List.nil_sublist _
  | neither idle unasked =>
      rw [idle, Option.toList_none, List.nil_append] at waited
      rw [unasked, Option.toList_none, List.nil_append] at advanced
      refine ⟨[], map, [], rfl, ⟨first, ?_⟩,
        echoedByMap_of_unlocated (List.nil_sublist _) rfl unlocated⟩
      exact shown.of_background same ⟨rfl, rfl, rfl, rfl⟩ (waited.trans advanced)

/-- A step that the map has no part in. -/
theorem mirrored_silent (shown : map.Shows before) (same : before.SameBackground after)
    (calls : after.routeCalls = before.routeCalls)
    (unlocated : ∀ location, ScreenAction.write (.driverLocation location) ∉ actions) :
    map.ShowsAfter decodePolyline computeHeading after actions := by
  obtain ⟨first, shown⟩ := shown
  refine ⟨[], map, [], rfl, ⟨first, ?_⟩,
    echoedByMap_of_unlocated (List.nil_sublist _) rfl unlocated⟩
  exact shown.of_background same ⟨rfl, rfl, rfl, rfl⟩ (calls ▸ shown.calls)

theorem mirrored_position {position : LatLng} (shown : map.Shows before)
    (stepped : before.step rideType (.position position) = some (after, actions)) :
    map.ShowsAfter decodePolyline computeHeading after actions := by
  obtain ⟨first, shown⟩ := shown
  have live : before.liveLocation = true := by
    cases live : before.liveLocation with
    | true => rfl
    | false => simp [NewRequestScreen.step, live] at stepped
  obtain ⟨oldPos, listening⟩ := Option.isSome_iff_exists.mp (shown.listening.trans live)
  have moved : component decodePolyline computeHeading map (.position position) =
      some (map.onPosition computeHeading oldPos position) := by
    simp [component, step, listening]
  cases NewRequestScreen.step_background stepped with
  | button ofButton same => exact ofButton.elim
  | request ready free | skip ready free =>
      rw [onPosition, if_pos (by simp [shown.icon, shown.mounted, ready])] at moved
      exact mirrored_of_step moved ⟨first, { shown with listening := live.symm }⟩
        ⟨by simp [MapAction.screen?], rfl⟩
  | lost unready =>
      rw [onPosition, if_neg (by simpa [shown.icon, shown.mounted, and_comm] using unready)] at moved
      exact mirrored_of_step moved ⟨first, { shown with }⟩ ⟨List.nil_sublist _, rfl⟩

theorem mirrored_mapCreated {currentPosition : Option LatLng} (shown : map.Shows before)
    (stepped : before.step rideType (.mapCreated currentPosition) = some (after, actions)) :
    map.ShowsAfter decodePolyline computeHeading after actions := by
  obtain ⟨first, shown⟩ := shown
  cases NewRequestScreen.step_background stepped with
  | button ofButton same => exact ofButton.elim
  | @draw current mounted created =>
      obtain ⟨idle, unlistened⟩ := shown.uncreated created
      cases first with
      | some other => simpa [idle] using shown.waiting
      | none =>
          have called : component decodePolyline computeHeading
              { map with newRideGoogleMapController := true }
              (.getPlaceDirection current before.clientDetails.pickup) =
              some ({ map with
                newRideGoogleMapController := true
                calls := map.calls ++ [⟨current, before.clientDetails.pickup⟩] }, _) :=
            congrArg some (if_pos (shown.mounted.trans mounted))
          refine ⟨[.created, .getPlaceDirection _ _], _, _,
            exec_cons_eq_some.mpr ⟨_, [], _, rfl, exec_singleton_eq_some.mpr called, rfl⟩,
            ⟨some current, ?_⟩, ⟨List.Sublist.refl _, rfl⟩⟩
          exact { shown with
            controller := rfl
            waiting := rfl
            calls := (List.perm_append_singleton ..).trans (shown.calls.cons _)
            unlistened := fun _ => unlistened
            uncreated := fun again => by cases again }
  | create undrawn created =>
      have stepped : component decodePolyline computeHeading map .created =
          some ({ map with newRideGoogleMapController := true }, []) := rfl
      exact mirrored_of_step stepped
        ⟨first, { shown with controller := rfl, uncreated := fun again => by cases again }⟩
        ⟨List.nil_sublist _, rfl⟩
  | recreate again =>
      exact ⟨[], map, [], rfl, ⟨first, shown⟩, ⟨List.nil_sublist _, rfl⟩⟩

/-- The route from where the map was created is answered. -/
theorem ShowsWith.answered {current : LatLng} (decodePolyline : String → List LatLng)
    (computeHeading : LatLng → LatLng → ℚ) (shown : map.ShowsWith (some current) before)
    (unlistened : before.liveLocation = false) (reply : Reply) :
    ∃ event reached issued,
      component decodePolyline computeHeading map event = some (reached, issued) ∧
        reached.ShowsWith none { before with mapDirections := false } ∧
        sharedPositions issued = [] ∧
        issued.filterMap MapAction.screen? =
          match reply with
          | .directions _ => if before.mounted then [.pop] else []
          | _ => [] := by
  have calls : map.calls.Perm (⟨current, before.clientDetails.pickup⟩ :: before.routeCalls) :=
    shown.calls
  obtain ⟨reached, issued, answered, screen, left, unshared, echoed⟩ :=
    answer_spec (calls.mem_iff.mpr (List.mem_cons_self ..)) reply
  have erased := calls.erase ⟨current, before.clientDetails.pickup⟩
  rw [List.erase_cons_head, ← left] at erased
  rw [shown.mounted] at echoed
  exact ⟨_, reached, issued, answered,
    { mounted := screen.mounted.trans shown.mounted
      controller := screen.controller.trans shown.controller
      icon := screen.icon.trans shown.icon
      listening := by rw [screen.oldPos, shown.listening]
      waiting := rfl
      calls := erased
      unlistened := fun _ => unlistened
      uncreated := fun _ => ⟨rfl, unlistened⟩ }, unshared, echoed⟩

/-- Only when its route is drawn the map starts to listen. -/
theorem mirrored_mapReply {reply : Reply} (shown : map.Shows before)
    (stepped : before.step rideType (.mapReply reply) = some (after, actions)) :
    map.ShowsAfter decodePolyline computeHeading after actions := by
  obtain ⟨first, shown⟩ := shown
  have awaited : before.mapDirections = true := by
    cases awaited : before.mapDirections with
    | true => rfl
    | false => simp [NewRequestScreen.step, awaited] at stepped
  obtain ⟨current, rfl⟩ := Option.isSome_iff_exists.mp (shown.waiting.trans awaited)
  have unlistened := shown.unlistened awaited
  obtain ⟨event, reached, issued, answered, background, unshared, echoed⟩ :=
    shown.answered decodePolyline computeHeading unlistened reply
  cases NewRequestScreen.step_background stepped with
  | button ofButton same => exact ofButton.elim
  | @drawn details waiting mounted =>
      rw [if_pos mounted] at echoed
      have idle : reached.oldPos = none := by
        rw [← Option.not_isSome_iff_eq_none, background.listening, unlistened]
        decide
      cases draws : before.drawsRoute details with
      | false =>
          exact mirrored_of_step answered
            ⟨none, { background with
              listening := by rw [idle]; rfl
              uncreated := fun _ => ⟨rfl, rfl⟩
              unlistened := fun _ => rfl }⟩ ⟨by rw [echoed], unshared⟩
      | true =>
          have listens : component decodePolyline computeHeading reached
              .getRideLiveLocationUpdates = some ({ reached with oldPos := some ⟨0, 0⟩ }, []) := by
            simp [component, step, idle]
          refine ⟨[event, .getRideLiveLocationUpdates], _, issued ++ [],
            exec_cons_eq_some.mpr ⟨_, _, _, answered, exec_singleton_eq_some.mpr listens, rfl⟩,
            ⟨none, ?_⟩, ?_⟩
          · have created := fun uncreated =>
              Bool.false_ne_true ((shown.uncreated uncreated).1.symm.trans awaited)
            exact { background with
              listening := rfl
              uncreated := fun uncreated => (created uncreated).elim
              unlistened := fun again => by cases again }
          · rw [List.append_nil]
            exact ⟨by rw [echoed], unshared⟩
  | undrawn waiting failed =>
      refine mirrored_of_step answered ⟨none, background⟩ ⟨?_, unshared⟩
      rcases failed with rfl | gone
      · rw [echoed]
      · rw [echoed]
        cases reply <;> simp [gone]

theorem mirrored_step {event : ScreenEvent} (shown : map.Shows before)
    (stepped : before.step rideType event = some (after, actions)) :
    map.ShowsAfter decodePolyline computeHeading after actions := by
  have moves := NewRequestScreen.step_moves stepped
  have background := NewRequestScreen.step_background stepped
  cases event with
  | tap =>
      simp only [NewRequestScreen.step] at stepped
      split at stepped
      · cases stepped
        refine mirrored_silent shown (by constructor <;> rfl) ?_ (by simp)
        rw [NewRequestScreen.routeCalls, List.map_append, List.filterMap_append]
        exact List.append_nil _
      · cases stepped
  | reply copy reply =>
      have unlocated : ∀ location, ScreenAction.write (.driverLocation location) ∉ actions := by
        intro location written
        cases moves.screenWrite written
      simp only [NewRequestScreen.step] at stepped
      split at stepped
      · cases stepped
      · next tap waiting =>
        split at stepped
        · cases stepped
        · next resumed onward emitted resumes =>
          cases stepped
          have same := NewRequestScreen.resume_background resumes
          refine mirrored_reply shown waiting resumes ?_ rfl unlocated
          exact ⟨same.details, same.mounted, same.controller, same.icon, same.position,
            same.guard, same.map, same.live, same.pending⟩
  | position position => exact mirrored_position shown stepped
  | mapCreated currentPosition => exact mirrored_mapCreated shown stepped
  | mapReply reply => exact mirrored_mapReply shown stepped
  | rideDetailsReply reply =>
      obtain ⟨first, shown⟩ := shown
      cases background with
      | button ofButton same => exact ofButton.elim
      | release pending releases | stick pending sticks =>
          exact ⟨[], map, [], rfl, ⟨first, { shown with }⟩, ⟨List.nil_sublist _, rfl⟩⟩
  | iconLoaded =>
      obtain ⟨first, shown⟩ := shown
      cases stepped
      have loaded : component decodePolyline computeHeading map .iconLoaded =
          some ({ map with animatingMarkerIcon := true }, []) := rfl
      exact mirrored_of_step loaded ⟨first, { shown with icon := rfl }⟩ ⟨List.nil_sublist _, rfl⟩
  | statusValue value =>
      simp only [NewRequestScreen.step] at stepped
      repeat' split at stepped
      all_goals
        cases stepped
        try exact mirrored_silent shown (by constructor <;> rfl) rfl (by simp)
  | unmount =>
      obtain ⟨first, shown⟩ := shown
      cases stepped
      have gone : component decodePolyline computeHeading map .unmount =
          some ({ map with mounted := false }, []) := rfl
      exact mirrored_of_step gone ⟨first, { shown with mounted := rfl }⟩ ⟨List.nil_sublist _, rfl⟩

/-- Every run of the ride screen is a run of its map. -/
theorem mirrored_screen (clientDetails : ClientDetails RequestId)
    {events : List (String × ScreenEvent)}
    (run : exec NewRequestScreen.component { clientDetails } events = some (after, actions)) :
    ShowsAfter decodePolyline computeHeading {} after actions := by
  have start : ({} : RideMap).Shows { clientDetails := clientDetails } :=
    ⟨none, ⟨rfl, rfl, rfl, rfl, rfl, List.Perm.refl _, fun _ => rfl, fun _ => ⟨rfl, rfl⟩⟩⟩
  exact mirrored_of_run echoing_echoedByMap mirrored_step start run

/-- On the ride screen the rider's marker is where the request says the rider is. -/
theorem markerShared_of_screen (decodePolyline : String → List LatLng)
    (computeHeading : LatLng → LatLng → ℚ) (clientDetails : ClientDetails RequestId)
    {events : List (String × ScreenEvent)}
    (run : exec NewRequestScreen.component { clientDetails } events = some (after, actions)) :
    ∃ signs map issued,
      exec (component decodePolyline computeHeading) {} signs = some (map, issued) ∧
        map.Shows after ∧ MarkerShared (actions.map .screen) map := by
  obtain ⟨signs, map, issued, mapRun, shown, echoed⟩ :
      ShowsAfter decodePolyline computeHeading {} after actions := mirrored_screen clientDetails run
  refine ⟨signs, map, issued, mapRun, shown, ?_⟩
  rw [MarkerShared, ← echoed.positions]
  exact markerShared_of_run mapRun

end RideMap

end FilldRider
