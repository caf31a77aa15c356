import FilldRider.NewRequestScreen.Overlays

/-!
# Unique overlay ids

End points are never removed from the map, and those of every call have icons of their
own. With one drawn route the ids are unique and the end points are those of that route;
the second one leaves two markers of one id, also when its end points are the same.
-/

set_option autoImplicit false

namespace FilldRider

open Runs Records

def MapAction.drawn? : MapAction → Option RouteCall
  | .drawn call => some call
  | .screen _ => none

/-- The calls that got as far as their end points, in order. -/
def drawnCalls (actions : List MapAction) : List RouteCall := actions.filterMap MapAction.drawn?

@[simp] theorem drawnCalls_append (before after : List MapAction) :
    drawnCalls (before ++ after) = drawnCalls before ++ drawnCalls after :=
  List.filterMap_append ..

theorem drawnCalls_of_quiet {actions : List MapAction}
    (quiet : ∀ action ∈ actions, action.Quiet) : drawnCalls actions = [] := by
  rw [drawnCalls, List.filterMap_eq_nil_iff]
  intro action member
  cases action with
  | screen issued => rfl
  | drawn call => exact (quiet _ member).elim

namespace RouteCall

/-- The markers of a call that found so many icons made. -/
def markers (call : RouteCall) (icons : Nat) : List Marker :=
  [call.pickUpLocMarker icons, call.dropOffLocMarker (icons + 1)]

def circles (call : RouteCall) : List Circle := [call.pickUpLocCircle, call.dropOffLocCircle]

variable {call : RouteCall} {icons : Nat}

theorem markerId_of_mem {marker : Marker} (member : marker ∈ call.markers icons) :
    marker.markerId ≠ "animating" := by
  simp only [markers, List.mem_cons, List.not_mem_nil, or_false] at member
  rcases member with rfl | rfl <;> simp [pickUpLocMarker, dropOffLocMarker]

theorem marker_eq {first second : Marker} (firstMember : first ∈ call.markers icons)
    (secondMember : second ∈ call.markers icons) (same : first.markerId = second.markerId) :
    first = second := by
  simp only [markers, List.mem_cons, List.not_mem_nil, or_false] at firstMember secondMember
  rcases firstMember with rfl | rfl <;> rcases secondMember with rfl | rfl <;>
    first | rfl | simp [pickUpLocMarker, dropOffLocMarker] at same

theorem circle_eq {first second : Circle} (firstMember : first ∈ call.circles)
    (secondMember : second ∈ call.circles) (same : first.circleId = second.circleId) :
    first = second := by
  simp only [circles, List.mem_cons, List.not_mem_nil, or_false] at firstMember secondMember
  rcases firstMember with rfl | rfl <;> rcases secondMember with rfl | rfl <;>
    first | rfl | simp [pickUpLocCircle, dropOffLocCircle] at same

end RouteCall

/-- The overlays `pickUpId` and `dropOffId` are at the end points of a call. -/
structure RideMap.Placed (map : RideMap) (call : RouteCall) : Prop where
  pickUpMarker : ∃ marker ∈ map.markersSet, marker.markerId = "pickUpId" ∧
    marker.position = call.pickUpLatLng
  dropOffMarker : ∃ marker ∈ map.markersSet, marker.markerId = "dropOffId" ∧
    marker.position = call.dropOffLatLng
  pickUpCircle : ∃ circle ∈ map.circleSet, circle.circleId = "pickUpId" ∧
    circle.center = call.pickUpLatLng
  dropOffCircle : ∃ circle ∈ map.circleSet, circle.circleId = "dropOffId" ∧
    circle.center = call.dropOffLatLng

/-- At most one marker and one circle of each id, those of the end points where the
latest call put them. -/
structure UniqueOverlays (history : List MapAction) (map : RideMap) : Prop where
  markers : KeysUnique Marker.markerId map.markersSet
  circles : KeysUnique Circle.circleId map.circleSet
  latest : ∀ call ∈ (drawnCalls history).getLast?, map.Placed call

/-- No call gets as far as its end points after another did. -/
def DrawsOnce (history : List MapAction) (map : RideMap) : MapEvent → Prop
  | .route _ details => map.draws details = true → drawnCalls history = []
  | _ => True

instance (history : List MapAction) (map : RideMap) :
    ∀ event : MapEvent, Decidable (DrawsOnce history map event)
  | .route _ _ => inferInstanceAs (Decidable (_ → drawnCalls history = []))
  | .created | .getPlaceDirection .. | .getPlaceDirection2 .. | .routeError _
  | .getRideLiveLocationUpdates | .position _ | .iconLoaded | .unmount => isTrue trivial

/-- The overlays when at most one call has drawn its route. -/
structure OneRoute (drawn : List RouteCall) (map : RideMap) : Prop where
  same : ∀ first ∈ drawn, ∀ second ∈ drawn, first = second
  icons : drawn ≠ [] → 0 < map.icons
  origin : ∀ marker ∈ map.markersSet, marker.markerId = "animating" ∨
    ∃ call ∈ drawn, marker ∈ call.markers 0
  circleOrigin : ∀ circle ∈ map.circleSet, ∃ call ∈ drawn, circle ∈ call.circles
  rider : ∀ first ∈ map.markersSet, ∀ second ∈ map.markersSet,
    first.markerId = "animating" → second.markerId = "animating" → first = second
  unmade : drawn = [] → map.icons = 0
  markers : ∀ call ∈ drawn, ∀ marker ∈ call.markers 0, marker ∈ map.markersSet
  circles : ∀ call ∈ drawn, ∀ circle ∈ call.circles, circle ∈ map.circleSet

variable {decodePolyline : String → List LatLng} {computeHeading : LatLng → LatLng → ℚ}
  {history emitted : List MapAction} {map next : RideMap} {event : MapEvent}
  {drawn : List RouteCall}

namespace OneRoute

theorem uniqueMarkers (route : OneRoute drawn map) :
    KeysUnique Marker.markerId map.markersSet := by
  intro first firstMember second secondMember same
  rcases route.origin first firstMember with rider | ⟨call, called, firstEnd⟩
  · exact route.rider first firstMember second secondMember rider (same ▸ rider)
  · rcases route.origin second secondMember with rider | ⟨other, otherCalled, secondEnd⟩
    · exact absurd (same.trans rider) (RouteCall.markerId_of_mem firstEnd)
    · cases route.same call called other otherCalled
      exact RouteCall.marker_eq firstEnd secondEnd same

theorem uniqueCircles (route : OneRoute drawn map) :
    KeysUnique Circle.circleId map.circleSet := by
  intro first firstMember second secondMember same
  obtain ⟨call, called, firstEnd⟩ := route.circleOrigin first firstMember
  obtain ⟨other, otherCalled, secondEnd⟩ := route.circleOrigin second secondMember
  cases route.same call called other otherCalled
  exact RouteCall.circle_eq firstEnd secondEnd same

theorem placed (route : OneRoute drawn map) {call : RouteCall} (called : call ∈ drawn) :
    map.Placed call where
  pickUpMarker :=
    ⟨_, route.markers call called (call.pickUpLocMarker 0) (by simp [RouteCall.markers]), rfl,
      rfl⟩
  dropOffMarker :=
    ⟨_, route.markers call called (call.dropOffLocMarker 1) (by simp [RouteCall.markers]), rfl,
      rfl⟩
  pickUpCircle :=
    ⟨_, route.circles call called call.pickUpLocCircle (by simp [RouteCall.circles]), rfl, rfl⟩
  dropOffCircle :=
    ⟨_, route.circles call called call.dropOffLocCircle (by simp [RouteCall.circles]), rfl, rfl⟩

theorem uniqueOverlays (route : OneRoute (drawnCalls history) map) :
    UniqueOverlays history map where
  markers := route.uniqueMarkers
  circles := route.uniqueCircles
  latest _ last := route.placed (List.mem_of_getLast? last)

theorem of_same (route : OneRoute drawn map) (same : map.Same next) : OneRoute drawn next where
  same := route.same
  icons := by rw [same.icons]; exact route.icons
  unmade := by rw [same.icons]; exact route.unmade
  origin := by rw [same.markers]; exact route.origin
  circleOrigin := by rw [same.circles]; exact route.circleOrigin
  rider := by rw [same.markers]; exact route.rider
  markers := by rw [same.markers]; exact route.markers
  circles := by rw [same.circles]; exact route.circles

/-- The first drawn call adds its end points. -/
theorem of_drawn (route : OneRoute [] map) {call : RouteCall}
    (icons : next.icons = map.icons + 2)
    (markers : next.markersSet = insert (call.dropOffLocMarker (map.icons + 1))
      (insert (call.pickUpLocMarker map.icons) map.markersSet))
    (circles : next.circleSet =
      insert call.dropOffLocCircle (insert call.pickUpLocCircle map.circleSet)) :
    OneRoute [call] next := by
  rw [route.unmade rfl] at markers
  have added : ∀ marker, marker ∈ next.markersSet ↔
      marker ∈ call.markers 0 ∨ marker ∈ map.markersSet := by
    intro marker
    rw [markers, Finset.mem_insert, Finset.mem_insert, RouteCall.markers, List.mem_cons,
      List.mem_singleton, or_left_comm, or_assoc]
  have addedCircles : ∀ circle, circle ∈ next.circleSet ↔
      circle ∈ call.circles ∨ circle ∈ map.circleSet := by
    intro circle
    rw [circles, Finset.mem_insert, Finset.mem_insert, RouteCall.circles, List.mem_cons,
      List.mem_singleton, or_left_comm, or_assoc]
  refine
    { same := ?_
      icons := fun _ => by omega
      origin := ?_
      circleOrigin := ?_
      rider := ?_
      unmade := fun none => by cases none
      markers := ?_
      circles := ?_ }
  · intro first firstCalled second secondCalled
    rw [List.mem_singleton.mp firstCalled, List.mem_singleton.mp secondCalled]
  · intro marker member
    rcases (added marker).mp member with new | old
    · exact .inr ⟨call, List.mem_singleton.mpr rfl, new⟩
    · rcases route.origin marker old with rider | ⟨_, called, _⟩
      · exact .inl rider
      · cases called
  · intro circle member
    rcases (addedCircles circle).mp member with new | old
    · exact ⟨call, List.mem_singleton.mpr rfl, new⟩
    · obtain ⟨_, called, _⟩ := route.circleOrigin circle old
      cases called
  · intro first firstMember second secondMember firstRider secondRider
    rcases (added first).mp firstMember with new | firstOld
    · exact absurd firstRider (RouteCall.markerId_of_mem new)
    · rcases (added second).mp secondMember with new | secondOld
      · exact absurd secondRider (RouteCall.markerId_of_mem new)
      · exact route.rider first firstOld second secondOld firstRider secondRider
  · intro other called marker member
    rw [List.mem_singleton.mp called] at member
    exact (added marker).mpr (.inl member)
  · intro other called circle member
    rw [List.mem_singleton.mp called] at member
    exact (addedCircles circle).mpr (.inl member)

/-- The listener leaves the end points and exactly one marker of the rider. -/
theorem of_located (route : OneRoute drawn map) (oldPos position : LatLng)
    (markers : next.markersSet = Records.replace Marker.markerId
      (animatingMarker computeHeading oldPos position) map.markersSet)
    (circles : next.circleSet = map.circleSet) (icons : next.icons = map.icons) :
    OneRoute drawn next := by
  have replaced : ∀ marker, marker ∈ next.markersSet ↔
      marker = animatingMarker computeHeading oldPos position ∨
        marker ∈ map.markersSet ∧ marker.markerId ≠ "animating" := by
    intro marker
    rw [markers]
    exact mem_replace
  constructor
  · exact route.same
  · rw [icons]
    exact route.icons
  · intro marker member
    rcases (replaced marker).mp member with rfl | ⟨old, _⟩
    · exact .inl rfl
    · exact route.origin marker old
  · rw [circles]
    exact route.circleOrigin
  · intro first firstMember second secondMember firstRider secondRider
    rcases (replaced first).mp firstMember with rfl | ⟨_, other⟩
    · rcases (replaced second).mp secondMember with rfl | ⟨_, other⟩
      · rfl
      · exact absurd secondRider other
    · exact absurd firstRider other
  · rw [icons]
    exact route.unmade
  · intro call called marker member
    exact (replaced marker).mpr
      (.inr ⟨route.markers call called marker member, RouteCall.markerId_of_mem member⟩)
  · rw [circles]
    exact route.circles

theorem nil : OneRoute [] {} where
  same _ called := by cases called
  icons drawn := absurd rfl drawn
  unmade _ := rfl
  origin _ member := by simp at member
  circleOrigin _ member := by simp at member
  rider _ member := by simp at member
  markers _ called := by cases called
  circles _ called := by cases called

end OneRoute

/-- A step that draws no second route keeps the overlays those of one. -/
theorem oneRoute_of_drawsOnce (route : OneRoute (drawnCalls history) map)
    (once : DrawsOnce history map event)
    (moves : MapMove computeHeading map event next emitted) :
    OneRoute (drawnCalls (history ++ emitted)) next := by
  rw [drawnCalls_append]
  cases moves with
  | drawn waiting draws icons markers circles =>
      rw [once draws] at route ⊢
      exact route.of_drawn icons markers circles
  | located listening tracks =>
      rw [show drawnCalls [MapAction.screen _] = [] from rfl, List.append_nil]
      exact route.of_located _ _ rfl rfl rfl
  | listens idle =>
      rw [show drawnCalls [] = [] from rfl, List.append_nil]
      exact route.of_same ⟨rfl, rfl, rfl⟩
  | other undrawn unlocated same oldPos quiet =>
      rw [drawnCalls_of_quiet quiet, List.append_nil]
      exact route.of_same same

/-- A second route puts a second marker next to one of the same id. -/
theorem drawsOnce_of_unique (route : OneRoute (drawnCalls history) map)
    (moves : MapMove computeHeading map event next emitted)
    (unique : KeysUnique Marker.markerId next.markersSet) : DrawsOnce history map event := by
  cases moves with
  | @drawn _ call _ waiting _ _ markers circles =>
      intro _
      by_contra drawn
      obtain ⟨earlier, called⟩ := List.exists_mem_of_ne_nil _ drawn
      have pickUp : earlier.pickUpLocMarker 0 ∈ map.markersSet :=
        route.markers earlier called _ (by simp [RouteCall.markers])
      have same : earlier.pickUpLocMarker 0 = call.pickUpLocMarker map.icons :=
        unique.eq_of_mem (by simp [markers, pickUp]) (by simp [markers]) rfl
      have made := route.icons drawn
      have icon := congrArg Marker.icon same
      simp only [RouteCall.pickUpLocMarker, BitmapDescriptor.hueYellow.injEq] at icon
      omega
  | located => trivial
  | listens => trivial
  | other undrawn =>
      cases event with
      | route call details =>
          intro draws
          rw [undrawn call details rfl] at draws
          cases draws
      | _ => trivial

def sampleRoute : DirectionDetails := { encodedPoints := some "" }

/-- The way to the pickup, drawn after a failed call, with positions between. -/
def sampleOverlays : List MapEvent :=
  [.created, .iconLoaded, .getPlaceDirection ⟨6, 0⟩ ⟨5, 0⟩, .getRideLiveLocationUpdates,
    .position ⟨0, 1⟩, .getPlaceDirection2 ⟨5, 1⟩ ⟨5, 0⟩, .route ⟨⟨6, 0⟩, ⟨5, 0⟩⟩ none,
    .position ⟨0, 1⟩, .route ⟨⟨5, 1⟩, ⟨5, 0⟩⟩ (some sampleRoute), .position ⟨0, 1⟩]

/-- The way to the pickup, and from there to the dropoff once the rider has arrived. -/
def sampleLegs : List MapEvent :=
  [.created, .getPlaceDirection ⟨5, 1⟩ ⟨5, 0⟩, .route ⟨⟨5, 1⟩, ⟨5, 0⟩⟩ (some sampleRoute),
    .getPlaceDirection ⟨5, 0⟩ ⟨6, 0⟩, .route ⟨⟨5, 0⟩, ⟨6, 0⟩⟩ (some sampleRoute)]

end FilldRider
