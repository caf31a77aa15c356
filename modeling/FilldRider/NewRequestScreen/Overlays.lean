import FilldRider.NewRequestScreen.Moves
import FilldRider.Records.Keyed
import Mathlib.Data.Finset.Basic

/-!
# The overlays of the ride map

Markers, circles and the route of the ride screen, with the two functions that draw a
route and the position listener that moves the rider's marker. The listener replaces
its marker by id; a drawn route only adds its end points.
-/

set_option autoImplicit false

namespace FilldRider

open Runs

/-- A descriptor is equal to itself only: `object` numbers those that
`defaultMarkerWithHue` made. The one loaded from an asset is kept and used again. -/
inductive BitmapDescriptor where
  | hueYellow (object : Nat)
  | hueRed (object : Nat)
  | asset (name : String)
  deriving DecidableEq

inductive OverlayColor where
  | blueAccent
  | black
  deriving DecidableEq

/-- A marker is equal to another when all its fields are. -/
structure Marker where
  markerId : String
  position : LatLng
  icon : BitmapDescriptor
  rotation : ℚ := 0
  infoWindow : Option String := none
  deriving DecidableEq

structure Circle where
  circleId : String
  center : LatLng
  fillColor : OverlayColor
  strokeColor : OverlayColor
  radius : ℕ := 12
  strokeWidth : ℕ := 4
  deriving DecidableEq

structure Polyline where
  polylineId : String
  points : List LatLng
  width : ℕ := 5
  deriving DecidableEq

/-- The end points a route function was called with. -/
structure RouteCall where
  pickUpLatLng : LatLng
  dropOffLatLng : LatLng
  deriving DecidableEq

namespace RouteCall

def pickUpLocMarker (call : RouteCall) (object : Nat) : Marker :=
  { markerId := "pickUpId", position := call.pickUpLatLng, icon := .hueYellow object }

def dropOffLocMarker (call : RouteCall) (object : Nat) : Marker :=
  { markerId := "dropOffId", position := call.dropOffLatLng, icon := .hueRed object }

def pickUpLocCircle (call : RouteCall) : Circle :=
  { circleId := "pickUpId", center := call.pickUpLatLng, fillColor := .blueAccent,
    strokeColor := .blueAccent }

def dropOffLocCircle (call : RouteCall) : Circle :=
  { circleId := "dropOffId", center := call.dropOffLatLng, fillColor := .black,
    strokeColor := .black }

end RouteCall

structure RideMap where
  mounted : Bool := true
  newRideGoogleMapController : Bool := false
  animatingMarkerIcon : Bool := false
  /-- `oldPos` of the position listener, once it listens. -/
  oldPos : Option LatLng := none
  /-- Calls of the route functions that wait for directions. -/
  calls : List RouteCall := []
  /-- How many icons `defaultMarkerWithHue` has made. -/
  icons : Nat := 0
  polyLineSet : Finset Polyline := ∅
  markersSet : Finset Marker := ∅
  circleSet : Finset Circle := ∅

inductive MapEvent where
  | created
  | getPlaceDirection (pickUpLatLng dropOffLatLng : LatLng)
  | getPlaceDirection2 (pickUpLatLng dropOffLatLng : LatLng)
  | route (call : RouteCall) (details : Option DirectionDetails)
  | routeError (call : RouteCall)
  | getRideLiveLocationUpdates
  | position (position : LatLng)
  | iconLoaded
  | unmount
  deriving DecidableEq

/-- `drawn` only observes that a call got as far as its end points. -/
inductive MapAction where
  | screen (action : ScreenAction)
  | drawn (call : RouteCall)
  deriving DecidableEq

/-- `MapKitAssistant.getMarkerRotation`, on four numbers. -/
def getMarkerRotation (computeHeading : LatLng → LatLng → ℚ) (sLat sLng dLat dLng : ℚ) : ℚ :=
  computeHeading ⟨sLat, sLng⟩ ⟨dLat, dLng⟩

/-- The listener passes the latitude of the new position twice. -/
def animatingMarker (computeHeading : LatLng → LatLng → ℚ) (oldPos myPosition : LatLng) :
    Marker :=
  { markerId := "animating", position := myPosition, icon := .asset "images/tools.png",
    rotation := getMarkerRotation computeHeading oldPos.latitude oldPos.longitude
      myPosition.latitude myPosition.latitude,
    infoWindow := some "Current Location" }

namespace RideMap

def call (map : RideMap) (call : RouteCall) (actions : List ScreenAction) :
    RideMap × List MapAction :=
  if map.mounted then ({ map with calls := map.calls ++ [call] }, actions.map .screen)
  else (map, [])

/-- The end points come after the camera, which needs the map controller. -/
def draw (map : RideMap) (call : RouteCall) (polylineCoordinates : List LatLng) :
    RideMap × List MapAction :=
  let lined := { map with polyLineSet := {⟨"PolylineID", polylineCoordinates, 5⟩} }
  if map.newRideGoogleMapController then
    ({ lined with
      icons := map.icons + 2
      markersSet := insert (call.dropOffLocMarker (map.icons + 1))
        (insert (call.pickUpLocMarker map.icons) map.markersSet)
      circleSet := insert call.dropOffLocCircle (insert call.pickUpLocCircle map.circleSet) },
      [.screen .pop, .drawn call])
  else (lined, [.screen .pop])

/-- A route function after its await. -/
def onDirections (decodePolyline : String → List LatLng) (map : RideMap) (call : RouteCall)
    (details : Option DirectionDetails) : RideMap × List MapAction :=
  if map.mounted then
    match details.bind (·.encodedPoints) with
    | none => (map, [.screen .pop])
    | some encodedPoints => map.draw call (decodePolyline encodedPoints)
  else (map, [])

/-- The listener of the position stream; without the icon or the screen it throws. -/
def onPosition (computeHeading : LatLng → LatLng → ℚ) (map : RideMap)
    (oldPos position : LatLng) : RideMap × List MapAction :=
  if map.animatingMarkerIcon && map.mounted then
    ({ map with
      markersSet := insert (animatingMarker computeHeading oldPos position)
        (map.markersSet.filter fun marker => marker.markerId ≠ "animating")
      oldPos := some position },
      [.screen (.write (.driverLocation (some position)))])
  else (map, [])

def step (decodePolyline : String → List LatLng) (computeHeading : LatLng → LatLng → ℚ)
    (map : RideMap) : MapEvent → Option (RideMap × List MapAction)
  | .created => some ({ map with newRideGoogleMapController := true }, [])
  | .getPlaceDirection pickUpLatLng dropOffLatLng =>
      some (map.call ⟨pickUpLatLng, dropOffLatLng⟩
        (NewRequestScreen.getPlaceDirection pickUpLatLng dropOffLatLng))
  | .getPlaceDirection2 pickUpLatLng dropOffLatLng =>
      some (map.call ⟨pickUpLatLng, dropOffLatLng⟩
        (NewRequestScreen.getPlaceDirection2 pickUpLatLng dropOffLatLng))
  | .route call details =>
      if call ∈ map.calls then
        some (onDirections decodePolyline { map with calls := map.calls.erase call } call details)
      else none
  | .routeError call =>
      if call ∈ map.calls then some ({ map with calls := map.calls.erase call }, []) else none
  | .getRideLiveLocationUpdates =>
      match map.oldPos with
      | none => some ({ map with oldPos := some ⟨0, 0⟩ }, [])
      | some _ => none
  | .position position =>
      map.oldPos.map fun oldPos => map.onPosition computeHeading oldPos position
  | .iconLoaded => some ({ map with animatingMarkerIcon := true }, [])
  | .unmount => some ({ map with mounted := false }, [])

def component (decodePolyline : String → List LatLng) (computeHeading : LatLng → LatLng → ℚ) :
    Component RideMap MapEvent MapAction :=
  step decodePolyline computeHeading

/-- A reply gets as far as the end points. -/
def draws (map : RideMap) (details : Option DirectionDetails) : Bool :=
  map.mounted && map.newRideGoogleMapController && (details.bind (·.encodedPoints)).isSome

/-- A position gets as far as the marker. -/
def tracks (map : RideMap) : Bool := map.animatingMarkerIcon && map.mounted

end RideMap

/-- Headings between points of one meridian, or of the equator. -/
def dueHeading (start finish : LatLng) : ℚ :=
  if start.longitude = finish.longitude then
    if finish.latitude < start.latitude then -180 else 0
  else if start.longitude < finish.longitude then 90
  else -90

/-- An empty polyline has no points. -/
def emptyPolyline (_ : String) : List LatLng := []

/-! ## What a step does to the overlays -/

/-- Neither a write nor a drawn route. -/
def MapAction.Quiet : MapAction → Prop
  | .screen action => action.Quiet
  | .drawn _ => False

/-- What a step that neither draws nor moves a marker leaves alone. -/
structure RideMap.Same (before after : RideMap) : Prop where
  icons : after.icons = before.icons
  markers : after.markersSet = before.markersSet
  circles : after.circleSet = before.circleSet

inductive MapMove (computeHeading : LatLng → LatLng → ℚ) (before : RideMap) :
    MapEvent → RideMap → List MapAction → Prop where
  | drawn {after : RideMap} {call : RouteCall} {details : Option DirectionDetails}
      (waiting : call ∈ before.calls) (draws : before.draws details = true)
      (icons : after.icons = before.icons + 2)
      (markers : after.markersSet = insert (call.dropOffLocMarker (before.icons + 1))
        (insert (call.pickUpLocMarker before.icons) before.markersSet))
      (circles : after.circleSet =
        insert call.dropOffLocCircle (insert call.pickUpLocCircle before.circleSet))
      (oldPos : after.oldPos = before.oldPos) :
      MapMove computeHeading before (.route call details) after [.screen .pop, .drawn call]
  | located {oldPos position : LatLng}
      (listening : before.oldPos = some oldPos) (tracks : before.tracks = true) :
      MapMove computeHeading before (.position position)
        { before with
          markersSet := Records.replace Marker.markerId
            (animatingMarker computeHeading oldPos position) before.markersSet
          oldPos := some position }
        [.screen (.write (.driverLocation (some position)))]
  | listens (idle : before.oldPos = none) :
      MapMove computeHeading before .getRideLiveLocationUpdates
        { before with oldPos := some ⟨0, 0⟩ } []
  | other {event : MapEvent} {after : RideMap} {emitted : List MapAction}
      (undrawn : ∀ call details, event = .route call details → before.draws details = false)
      (unlocated : ∀ position, event = .position position → before.tracks = false)
      (same : before.Same after) (oldPos : after.oldPos = before.oldPos)
      (quiet : ∀ action ∈ emitted, action.Quiet) :
      MapMove computeHeading before event after emitted

namespace RideMap

variable {decodePolyline : String → List LatLng} {computeHeading : LatLng → LatLng → ℚ}
  {before after : RideMap} {event : MapEvent} {emitted : List MapAction}

private theorem call_moves {call : RouteCall} {actions : List ScreenAction}
    (route : ∀ other details, event ≠ .route other details)
    (moved : ∀ position, event ≠ .position position)
    (quiet : ∀ action ∈ actions, action.Quiet)
    (called : before.call call actions = (after, emitted)) :
    MapMove computeHeading before event after emitted := by
  rw [RideMap.call] at called
  split at called
  · obtain ⟨rfl, rfl⟩ := Prod.mk.inj called
    refine .other (fun _ _ same => absurd same (route _ _)) (fun _ same => absurd same (moved _))
      ⟨rfl, rfl, rfl⟩ rfl ?_
    intro action member
    obtain ⟨issued, issuedMember, rfl⟩ := List.mem_map.mp member
    exact quiet issued issuedMember
  · obtain ⟨rfl, rfl⟩ := Prod.mk.inj called
    exact .other (fun _ _ same => absurd same (route _ _)) (fun _ same => absurd same (moved _))
      ⟨rfl, rfl, rfl⟩ rfl (by simp)

private theorem onDirections_moves {call : RouteCall} {details : Option DirectionDetails}
    (waiting : call ∈ before.calls)
    (replied : onDirections decodePolyline { before with calls := before.calls.erase call } call
      details = (after, emitted)) :
    MapMove computeHeading before (.route call details) after emitted := by
  have popped : ∀ action ∈ [MapAction.screen .pop], action.Quiet := by simp [MapAction.Quiet,
    ScreenAction.Quiet]
  have undrawn (failed : before.draws details = false) : ∀ other reply,
      MapEvent.route call details = .route other reply → before.draws reply = false := by
    intro other reply same
    cases same
    exact failed
  unfold onDirections at replied
  split at replied
  · next mounted =>
    split at replied
    · next missing =>
      obtain ⟨rfl, rfl⟩ := Prod.mk.inj replied
      exact .other (undrawn (by simp [draws, missing])) (by simp) ⟨rfl, rfl, rfl⟩ rfl popped
    · next encodedPoints found =>
      unfold draw at replied
      split at replied
      · next controller =>
        obtain ⟨rfl, rfl⟩ := Prod.mk.inj replied
        refine .drawn waiting ?_ rfl rfl rfl rfl
        simpa [draws, found] using And.intro mounted controller
      · next controller =>
        obtain ⟨rfl, rfl⟩ := Prod.mk.inj replied
        exact .other (undrawn (by simpa [draws] using fun _ gone => absurd gone controller))
          (by simp) ⟨rfl, rfl, rfl⟩ rfl popped
  · next unmounted =>
    obtain ⟨rfl, rfl⟩ := Prod.mk.inj replied
    exact .other (undrawn (by simpa [draws] using fun mounted => absurd mounted unmounted))
      (by simp) ⟨rfl, rfl, rfl⟩ rfl (by simp)

theorem step_moves
    (stepped : before.step decodePolyline computeHeading event = some (after, emitted)) :
    MapMove computeHeading before event after emitted := by
  cases event with
  | created | iconLoaded | unmount =>
      cases stepped
      exact .other (by simp) (by simp) ⟨rfl, rfl, rfl⟩ rfl (by simp)
  | getPlaceDirection pickUpLatLng dropOffLatLng | getPlaceDirection2 pickUpLatLng dropOffLatLng =>
      refine call_moves (by simp) (by simp) ?_ (Option.some.inj stepped)
      simp [NewRequestScreen.getPlaceDirection, NewRequestScreen.getPlaceDirection2,
        ScreenAction.Quiet]
  | route call details =>
      simp only [step] at stepped
      split at stepped
      · next waiting => exact onDirections_moves waiting (Option.some.inj stepped)
      · cases stepped
  | routeError call =>
      simp only [step] at stepped
      split at stepped
      · cases stepped
        exact .other (by simp) (by simp) ⟨rfl, rfl, rfl⟩ rfl (by simp)
      · cases stepped
  | getRideLiveLocationUpdates =>
      simp only [step] at stepped
      split at stepped
      · next idle =>
        cases stepped
        exact .listens idle
      · cases stepped
  | position position =>
      obtain ⟨oldPos, listening, located⟩ := Option.map_eq_some_iff.mp stepped
      unfold onPosition at located
      split at located
      · next tracks =>
        obtain ⟨rfl, rfl⟩ := Prod.mk.inj located
        exact .located listening tracks
      · next idle =>
        obtain ⟨rfl, rfl⟩ := Prod.mk.inj located
        exact .other (by simp) (fun _ _ => Bool.eq_false_iff.mpr idle) ⟨rfl, rfl, rfl⟩ rfl (by simp)

end RideMap

end FilldRider
