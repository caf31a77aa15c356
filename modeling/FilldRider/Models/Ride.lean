import Mathlib.Data.Rat.Defs
import Mathlib.Order.Lattice

/-!
# Rides as the app and the database hold them

The stages of a ride, the labels of the stage button, the profile and request
records the ride code reads, and the node `GasRequests/<id>` with its writers.
-/

set_option autoImplicit false

namespace FilldRider

structure LatLng where
  latitude : ℚ
  longitude : ℚ
  deriving DecidableEq

/-- A `LatLng` over any type of coordinates. -/
structure GeoPoint (Coordinate : Type) where
  latitude : Coordinate
  longitude : Coordinate
  deriving DecidableEq

/-- The texts the rider app stores at `GasRequests/<id>/status`, in ride order:
accepted, arrived, returning, arrived_at_gas_station, completed, ended. -/
inductive Stage where
  | accepted
  | arrived
  | returning
  | arrivedAtGasStation
  | completed
  | ended
  deriving DecidableEq, Repr

def Stage.rank : Stage → Nat
  | .accepted => 0
  | .arrived => 1
  | .returning => 2
  | .arrivedAtGasStation => 3
  | .completed => 4
  | .ended => 5

theorem Stage.rank_injective : Function.Injective Stage.rank := by
  intro left right same
  cases left <;> cases right <;> first | rfl | exact absurd same (by decide)

instance : LinearOrder Stage := LinearOrder.lift' Stage.rank Stage.rank_injective

/-- The values of `btnTitle`: Arrived, Start Job, Arrived At Gas Station,
Complete Delivery, End Trip. -/
inductive ButtonLabel where
  | arrived
  | startJob
  | arrivedAtGasStation
  | completeDelivery
  | endTrip
  deriving DecidableEq, Repr

/-- The stage a label is meant for: the value of `status` while it is shown. -/
def ButtonLabel.stage : ButtonLabel → Stage
  | .arrived => .accepted
  | .startJob => .arrived
  | .arrivedAtGasStation => .returning
  | .completeDelivery => .arrivedAtGasStation
  | .endTrip => .completed

structure RideR where
  firstname : Option String := none
  lastname : Option String := none
  phone : Option String := none
  email : Option String := none
  id : Option String := none
  automobileColor : Option String := none
  ghanaCard : Option String := none
  automobileModel : Option String := none
  plateNumber : Option String := none
  profilepicture : Option String := none
  deriving DecidableEq

/-- A request as the dialog hands it on. A dialog is only opened with an id and
both end points set, so these three are not optional here. -/
structure ClientDetails (RequestId : Type) (Position : Type := LatLng) where
  rideRequestId : RequestId
  pickup : Position
  dropoff : Position
  pickupAddress : Option String := none
  dropoffAddress : Option String := none
  paymentMethod : Option String := none
  clientName : Option String := none
  clientPhone : Option String := none
  gasFare : Option String := none
  deriving DecidableEq

/-- `DirectionDetails`; `encodedPoints` is `none` also when it cannot be decoded. -/
structure DirectionDetails where
  distanceValue : Option Int := none
  durationValue : Option Int := none
  distanceText : Option String := none
  durationText : Option String := none
  encodedPoints : Option String := none
  deriving DecidableEq

/-- What `once()` delivers. The value is in the snapshot. -/
structure DatabaseEvent where
  value : Option String
  deriving DecidableEq

/-- `DatabaseEvent` does not override `toString`. -/
def DatabaseEvent.toString (_ : DatabaseEvent) : String := "Instance of 'DatabaseEvent'"

/-- The content of a request's status: a stage the rider app wrote, the
customer's cancellation, or any other text. -/
inductive RideStatus where
  | stage (stage : Stage)
  | cancelled
  | other (text : String)
  deriving DecidableEq

structure GasRequest where
  status : Option RideStatus := none
  driverName : Option String := none
  driverPhone : Option String := none
  driverId : Option String := none
  carDetails : Option String := none
  profilepicture : Option String := none
  driverLocation : Option LatLng := none
  fares : Option Int := none
  deriving DecidableEq

/-- One `set` below `GasRequests/<id>`. Setting null removes the child. -/
inductive RequestWrite where
  | status (stage : Stage)
  | driverName (value : Option String)
  | driverPhone (value : Option String)
  | driverId (value : Option String)
  | carDetails (value : Option String)
  | profilepicture (value : Option String)
  | driverLocation (value : Option LatLng)
  | fares (amount : Int)
  deriving DecidableEq

def GasRequest.apply (request : GasRequest) : RequestWrite → GasRequest
  | .status stage => { request with status := some (.stage stage) }
  | .driverName value => { request with driverName := value }
  | .driverPhone value => { request with driverPhone := value }
  | .driverId value => { request with driverId := value }
  | .carDetails value => { request with carDetails := value }
  | .profilepicture value => { request with profilepicture := value }
  | .driverLocation value => { request with driverLocation := value }
  | .fares amount => { request with fares := some amount }

/-- The reference `Riderskey` as a path from the database root. -/
def riderskey (uid : String) : List String := ["Riders", uid, "status"]

def referenceKey (path : List String) : Option String := path.getLast?

def interpolate (value : Option String) : String := value.getD "null"

/-- The writes of `acceptRideRequest` below the request, in the order issued. A
map of two nulls, written while no position is known, removes the node. -/
def acceptRideRequest (uid : String) (riderInfo : Option RideR)
    (currentPosition : Option LatLng) : List RequestWrite :=
  [.status .accepted,
    .driverName (riderInfo.bind (·.firstname)),
    .driverPhone (riderInfo.bind (·.phone)),
    .driverId (referenceKey (riderskey uid)),
    .carDetails (some (interpolate (riderInfo.bind (·.automobileColor)) ++ " ● " ++
      interpolate (riderInfo.bind (·.automobileModel)) ++ " ● " ++
      interpolate (riderInfo.bind (·.plateNumber)))),
    .profilepicture (riderInfo.bind (·.profilepicture)),
    .driverLocation currentPosition]

end FilldRider
