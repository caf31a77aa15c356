import FilldRider.NewRequestScreen.Overlays

/-!
# The marker of the rider

What the position listener does at each position. The position it came from is carried
in a local, from the origin on; the heading is computed with the latitude of the new
position in place of its longitude.
-/

set_option autoImplicit false

namespace FilldRider

open Runs

def MapAction.write? : MapAction → Option RequestWrite
  | .screen (.write write) => some write
  | _ => none

def RequestWrite.location? : RequestWrite → Option LatLng
  | .driverLocation location => location
  | _ => none

/-- The positions shared with the customer. -/
def sharedPositions (actions : List MapAction) : List LatLng :=
  (actions.filterMap MapAction.write?).filterMap RequestWrite.location?

/-- The position before the next one; the listener starts from the origin. -/
def previousPosition (history : List MapAction) : LatLng :=
  (sharedPositions history).getLast?.getD ⟨0, 0⟩

/-- The request after the writes among some actions. -/
def GasRequest.applyAll (request : GasRequest) (actions : List MapAction) : GasRequest :=
  (actions.filterMap MapAction.write?).foldl GasRequest.apply request

/-- One marker of the rider, at the new position and turned to where it came from;
other markers are left alone, and the request holds the position. -/
structure TracksRider (computeHeading : LatLng → LatLng → ℚ) (previous position : LatLng)
    (before after : RideMap) (emitted : List MapAction) : Prop where
  marker : ∃ marker : Marker,
    after.markersSet.filter (fun marker => marker.markerId = "animating") = {marker} ∧
      marker.position = position ∧ marker.rotation = computeHeading previous position
  others : after.markersSet.filter (fun marker => marker.markerId ≠ "animating") =
    before.markersSet.filter fun marker => marker.markerId ≠ "animating"
  location : ∀ request : GasRequest, (request.applyAll emitted).driverLocation = some position

/-- With the icon and the screen there, each position is tracked from the one before. -/
def TracksPosition (decodePolyline : String → List LatLng)
    (computeHeading : LatLng → LatLng → ℚ) (history : List MapAction) (map : RideMap) :
    MapEvent → Prop
  | .position position =>
      map.tracks = true →
        ∀ result ∈ map.step decodePolyline computeHeading (.position position),
          TracksRider computeHeading (previousPosition history) position map result.1 result.2
  | _ => True

/-- The latitude in place of the longitude makes no difference to the heading. -/
def HeadingKept (computeHeading : LatLng → LatLng → ℚ) (_ : List MapAction) (map : RideMap) :
    MapEvent → Prop
  | .position position =>
      map.tracks = true → ∀ oldPos ∈ map.oldPos,
        computeHeading oldPos ⟨position.latitude, position.latitude⟩ =
          computeHeading oldPos position
  | _ => True

/-- The local of the listener is the last position it shared. -/
def CarriesPosition (history : List MapAction) (map : RideMap) : Prop :=
  match map.oldPos with
  | none => sharedPositions history = []
  | some oldPos => oldPos = previousPosition history

variable {decodePolyline : String → List LatLng} {computeHeading : LatLng → LatLng → ℚ}
  {history emitted : List MapAction} {map next : RideMap} {event : MapEvent}

@[simp] theorem sharedPositions_append (before after : List MapAction) :
    sharedPositions (before ++ after) = sharedPositions before ++ sharedPositions after := by
  simp only [sharedPositions, List.filterMap_append]

theorem sharedPositions_of_unlocated {actions : List MapAction}
    (unlocated : ∀ location, .screen (.write (.driverLocation location)) ∉ actions) :
    sharedPositions actions = [] := by
  rw [sharedPositions, List.filterMap_eq_nil_iff]
  intro write written
  obtain ⟨action, member, issues⟩ := List.mem_filterMap.mp written
  unfold MapAction.write? at issues
  split at issues
  · cases issues
    cases write with
    | driverLocation location => exact absurd member (unlocated location)
    | _ => rfl
  · cases issues

theorem sharedPositions_of_quiet {actions : List MapAction}
    (quiet : ∀ action ∈ actions, action.Quiet) : sharedPositions actions = [] :=
  sharedPositions_of_unlocated fun _ member => quiet _ member

theorem previousPosition_append_of_quiet (history : List MapAction) {actions : List MapAction}
    (quiet : ∀ action ∈ actions, action.Quiet) :
    previousPosition (history ++ actions) = previousPosition history := by
  rw [previousPosition, sharedPositions_append, sharedPositions_of_quiet quiet, List.append_nil]
  rfl

theorem carriesPosition_of_move (carries : CarriesPosition history map)
    (moves : MapMove computeHeading map event next emitted) :
    CarriesPosition (history ++ emitted) next := by
  cases moves with
  | drawn waiting draws icons markers circles oldPos =>
      unfold CarriesPosition at carries ⊢
      rw [oldPos, previousPosition, sharedPositions_append,
        show sharedPositions [.screen .pop, MapAction.drawn _] = [] from rfl, List.append_nil]
      exact carries
  | @located oldPos position listening tracks =>
      show position = previousPosition _
      rw [previousPosition, sharedPositions_append]
      have last : (sharedPositions history ++ [position]).getLast? = some position :=
        List.getLast?_concat
      exact (congrArg (·.getD ⟨0, 0⟩) last).symm
  | listens idle =>
      rw [CarriesPosition, idle] at carries
      show _ = previousPosition _
      rw [List.append_nil, previousPosition, carries]
      rfl
  | other undrawn unlocated same oldPos quiet =>
      unfold CarriesPosition at carries ⊢
      rw [oldPos, previousPosition_append_of_quiet history quiet, sharedPositions_append,
        sharedPositions_of_quiet quiet, List.append_nil]
      exact carries

/-- All but the rotation is right whatever the heading. -/
theorem tracksRider_iff (previous oldPos position : LatLng) :
    TracksRider computeHeading previous position map
        { map with
          markersSet := Records.replace Marker.markerId
            (animatingMarker computeHeading oldPos position) map.markersSet
          oldPos := some position }
        [.screen (.write (.driverLocation (some position)))] ↔
      computeHeading oldPos ⟨position.latitude, position.latitude⟩ =
        computeHeading previous position := by
  have one := Records.filter_replace Marker.markerId
    (animatingMarker computeHeading oldPos position) map.markersSet
  constructor
  · intro tracks
    obtain ⟨marker, only, _, rotation⟩ := tracks.marker
    cases Finset.singleton_injective (one.symm.trans only)
    exact rotation
  · intro heading
    refine ⟨⟨_, one, rfl, heading⟩, ?_, fun request => rfl⟩
    exact Records.filter_ne_replace Marker.markerId
      (animatingMarker computeHeading oldPos position) map.markersSet

theorem tracksPosition_iff_step (carries : CarriesPosition history map) :
    TracksPosition decodePolyline computeHeading history map event ↔
      HeadingKept computeHeading history map event := by
  cases event with
  | position position =>
      unfold TracksPosition HeadingKept
      refine imp_congr_right fun tracks => ?_
      cases listening : map.oldPos with
      | none => simp [RideMap.step, listening]
      | some oldPos =>
          rw [CarriesPosition, listening] at carries
          have located : map.step decodePolyline computeHeading (.position position) =
              some ({ map with
                markersSet := Records.replace Marker.markerId
                  (animatingMarker computeHeading oldPos position) map.markersSet
                oldPos := some position },
                [.screen (.write (.driverLocation (some position)))]) := by
            rw [RideMap.step, listening, Option.map_some, RideMap.onPosition,
              if_pos (by simpa only [RideMap.tracks] using tracks)]
            rfl
          simp only [located, Option.mem_def, Option.some.injEq, forall_eq']
          rw [tracksRider_iff, ← carries]
  | _ => exact Iff.rfl

/-- The listener tracks the rider exactly in runs in which the latitude makes do for
the longitude. -/
theorem tracksPosition_iff_headingKept (decodePolyline : String → List LatLng)
    (computeHeading : LatLng → LatLng → ℚ) (events : List MapEvent) :
    Meets (RideMap.component decodePolyline computeHeading)
        (TracksPosition decodePolyline computeHeading) [] {} events ↔
      Meets (RideMap.component decodePolyline computeHeading) (HeadingKept computeHeading) [] {}
        events := by
  apply meets_iff_meets_of_law CarriesPosition
  · intro history map event next emitted carries stepped
    exact carriesPosition_of_move carries (RideMap.step_moves stepped)
  · intro history map event carries
    exact tracksPosition_iff_step carries
  · rfl

/-- The rider's marker is where the customer was told last. -/
def MarkerShared (history : List MapAction) (map : RideMap) : Prop :=
  ∀ position ∈ (sharedPositions history).getLast?, ∃ marker : Marker,
    map.markersSet.filter (fun marker => marker.markerId = "animating") = {marker} ∧
      marker.position = position

theorem markerShared_of_move (shared : MarkerShared history map)
    (moves : MapMove computeHeading map event next emitted) :
    MarkerShared (history ++ emitted) next := by
  unfold MarkerShared at shared ⊢
  cases moves with
  | drawn waiting draws icons markers circles =>
      have kept : next.markersSet.filter (fun marker => marker.markerId = "animating") =
          map.markersSet.filter fun marker => marker.markerId = "animating" := by
        simp [markers, Finset.filter_insert, RouteCall.pickUpLocMarker,
          RouteCall.dropOffLocMarker]
      rw [kept, sharedPositions_append,
        show sharedPositions [.screen .pop, MapAction.drawn _] = [] from rfl, List.append_nil]
      exact shared
  | @located oldPos position listening tracks =>
      intro last member
      rw [sharedPositions_append] at member
      cases Option.some.inj ((List.getLast?_concat ..).symm.trans member)
      exact ⟨_, Records.filter_replace Marker.markerId
        (animatingMarker computeHeading oldPos position) map.markersSet, rfl⟩
  | listens idle =>
      rw [List.append_nil]
      exact shared
  | other undrawn unlocated same oldPos quiet =>
      rw [same.markers, sharedPositions_append, sharedPositions_of_quiet quiet, List.append_nil]
      exact shared

theorem markerShared_of_run {events : List MapEvent} {history : List MapAction}
    (run : exec (RideMap.component decodePolyline computeHeading) {} events =
      some (map, history)) : MarkerShared history map := by
  have start : MarkerShared [] {} := by
    intro position member
    cases member
  rw [← List.nil_append history]
  apply exec_invariant MarkerShared _ start run
  intro history map event next emitted shared stepped
  exact markerShared_of_move shared (RideMap.step_moves stepped)

/-- A rider who comes from the origin and goes east along the equator is turned north. -/
theorem not_tracksPosition_eastwards :
    ¬ ∀ (decodePolyline : String → List LatLng) (computeHeading : LatLng → LatLng → ℚ)
        (events : List MapEvent),
      Meets (RideMap.component decodePolyline computeHeading)
        (TracksPosition decodePolyline computeHeading) [] {} events := by
  intro tracks
  have kept := (tracks emptyPolyline dueHeading
    ([.iconLoaded, .getRideLiveLocationUpdates] ++ [.position ⟨0, 1⟩])).of_append rfl
  have heading := (kept rfl _ rfl).marker
  obtain ⟨marker, only, _, rotation⟩ := heading
  have shown : animatingMarker dueHeading ⟨0, 0⟩ ⟨0, 1⟩ ∈ ({marker} : Finset Marker) := by
    rw [← only]
    decide +kernel
  rw [← Finset.mem_singleton.mp shown] at rotation
  exact absurd rotation (by decide +kernel)

end FilldRider
