import FilldRider.Models.Ride
import Mathlib.Algebra.Order.Ring.Rat
import Mathlib.Order.Interval.Set.UnorderedInterval

/-!
# The camera bounds of a leg

Both route functions fit the camera to the box they build from the corners of a leg.
That box is the unordered interval of the two points, in the product order of
latitude and longitude.
-/

set_option autoImplicit false

namespace FilldRider

def LatLng.toGeoPoint (point : LatLng) : GeoPoint ℚ := ⟨point.latitude, point.longitude⟩

def GeoPoint.pair {Coordinate : Type} (point : GeoPoint Coordinate) : Coordinate × Coordinate :=
  (point.latitude, point.longitude)

structure LatLngBounds (Coordinate : Type) [LE Coordinate] where
  southwest : GeoPoint Coordinate
  northeast : GeoPoint Coordinate
  ordered : southwest.latitude ≤ northeast.latitude

variable {Coordinate : Type} [LinearOrder Coordinate]

/-- The constructor, whose assertion throws on latitudes out of order. -/
def LatLngBounds.assert (southwest northeast : GeoPoint Coordinate) :
    Option (LatLngBounds Coordinate) :=
  if ordered : southwest.latitude ≤ northeast.latitude then
    some ⟨southwest, northeast, ordered⟩
  else none

def LatLngBounds.area (bounds : LatLngBounds Coordinate) : Set (Coordinate × Coordinate) :=
  Set.Icc bounds.southwest.pair bounds.northeast.pair

def latLngBounds (pickUpLatLng dropOffLatLng : GeoPoint Coordinate) :
    Option (LatLngBounds Coordinate) :=
  if pickUpLatLng.latitude > dropOffLatLng.latitude ∧
      pickUpLatLng.longitude > dropOffLatLng.longitude then
    LatLngBounds.assert dropOffLatLng pickUpLatLng
  else if pickUpLatLng.longitude > dropOffLatLng.longitude then
    LatLngBounds.assert ⟨pickUpLatLng.latitude, dropOffLatLng.longitude⟩
      ⟨dropOffLatLng.latitude, pickUpLatLng.longitude⟩
  else if pickUpLatLng.latitude > dropOffLatLng.latitude then
    LatLngBounds.assert ⟨dropOffLatLng.latitude, pickUpLatLng.longitude⟩
      ⟨pickUpLatLng.latitude, dropOffLatLng.longitude⟩
  else LatLngBounds.assert pickUpLatLng dropOffLatLng

/-- The bounds built in `getPlaceDirection`. -/
def getPlaceDirectionBounds (pickUpLatLng dropOffLatLng : GeoPoint Coordinate) :
    Option (LatLngBounds Coordinate) :=
  latLngBounds pickUpLatLng dropOffLatLng

/-- Built by the same branches, although this function asks for the way back. -/
def getPlaceDirection2Bounds (pickUpLatLng dropOffLatLng : GeoPoint Coordinate) :
    Option (LatLngBounds Coordinate) :=
  latLngBounds pickUpLatLng dropOffLatLng

/-! ## The least box -/

/-- The box of two points. -/
def boxOf (first second : GeoPoint Coordinate) : LatLngBounds Coordinate where
  southwest := ⟨min first.latitude second.latitude, min first.longitude second.longitude⟩
  northeast := ⟨max first.latitude second.latitude, max first.longitude second.longitude⟩
  ordered := min_le_max

theorem area_boxOf (first second : GeoPoint Coordinate) :
    (boxOf first second).area = Set.uIcc first.pair second.pair := rfl

theorem boxOf_comm (first second : GeoPoint Coordinate) :
    boxOf first second = boxOf second first := by
  simp only [boxOf, min_comm first.latitude, min_comm first.longitude, max_comm first.latitude,
    max_comm first.longitude]

/-- The constructor accepts corners that are those of a box. -/
theorem assert_eq_boxOf {first second southwest northeast : GeoPoint Coordinate}
    (south : southwest = (boxOf first second).southwest)
    (north : northeast = (boxOf first second).northeast) :
    LatLngBounds.assert southwest northeast = some (boxOf first second) := by
  subst south north
  exact dif_pos (boxOf first second).ordered

/-- Whatever the direction of the leg, and for every tie, its branch builds the box. -/
theorem latLngBounds_eq_boxOf (pickUpLatLng dropOffLatLng : GeoPoint Coordinate) :
    latLngBounds pickUpLatLng dropOffLatLng = some (boxOf pickUpLatLng dropOffLatLng) := by
  unfold latLngBounds
  split
  · next southwards =>
    obtain ⟨latitudes, longitudes⟩ := southwards
    apply assert_eq_boxOf
    · simp only [boxOf, min_eq_right latitudes.le, min_eq_right longitudes.le]
    · simp only [boxOf, max_eq_left latitudes.le, max_eq_left longitudes.le]
  · next notSouthwards =>
    split
    · next longitudes =>
      have latitudes := not_lt.mp fun lower => notSouthwards ⟨lower, longitudes⟩
      apply assert_eq_boxOf
      · simp only [boxOf, min_eq_left latitudes, min_eq_right longitudes.le]
      · simp only [boxOf, max_eq_right latitudes, max_eq_left longitudes.le]
    · next notWestwards =>
      have longitudes := not_lt.mp notWestwards
      split
      · next latitudes =>
        apply assert_eq_boxOf
        · simp only [boxOf, min_eq_right latitudes.le, min_eq_left longitudes]
        · simp only [boxOf, max_eq_left latitudes.le, max_eq_right longitudes]
      · next upwards =>
        have latitudes := not_lt.mp upwards
        apply assert_eq_boxOf
        · simp only [boxOf, min_eq_left latitudes, min_eq_left longitudes]
        · simp only [boxOf, max_eq_right latitudes, max_eq_right longitudes]

/-- Both functions build the least box of the leg, the same in both directions. -/
theorem cameraBounds_least (first second : GeoPoint Coordinate) :
    ∃ bounds : LatLngBounds Coordinate,
      getPlaceDirectionBounds first second = some bounds ∧
      getPlaceDirection2Bounds first second = some bounds ∧
      bounds.southwest = ⟨min first.latitude second.latitude,
        min first.longitude second.longitude⟩ ∧
      bounds.northeast = ⟨max first.latitude second.latitude,
        max first.longitude second.longitude⟩ ∧
      bounds.southwest.latitude ≤ bounds.northeast.latitude ∧
      first.pair ∈ bounds.area ∧ second.pair ∈ bounds.area ∧
      (∀ other : LatLngBounds Coordinate, first.pair ∈ other.area → second.pair ∈ other.area →
        bounds.area ⊆ other.area) ∧
      getPlaceDirectionBounds second first = some bounds ∧
      getPlaceDirection2Bounds second first = some bounds := by
  have back : latLngBounds second first = some (boxOf first second) := by
    rw [latLngBounds_eq_boxOf, boxOf_comm]
  refine ⟨boxOf first second, latLngBounds_eq_boxOf first second,
    latLngBounds_eq_boxOf first second, rfl, rfl, (boxOf first second).ordered, ?_, ?_, ?_,
    back, back⟩
  · rw [area_boxOf]
    exact Set.left_mem_uIcc
  · rw [area_boxOf]
    exact Set.right_mem_uIcc
  · intro other firstInside secondInside
    rw [area_boxOf]
    exact Set.uIcc_subset_Icc firstInside secondInside

example : ((getPlaceDirectionBounds (LatLng.toGeoPoint ⟨6, 0⟩) (LatLng.toGeoPoint ⟨5, 1⟩)).map
    fun bounds => (bounds.southwest, bounds.northeast)) = some (⟨5, 0⟩, ⟨6, 1⟩) := by
  decide +kernel

end FilldRider
