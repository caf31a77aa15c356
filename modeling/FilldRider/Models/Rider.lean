import FilldRider.Models.Ride

/-!
# The rider's own nodes

What `Riders/<uid>` and the geofire index `availableRider` hold for one rider, with
the writers in the app: the slot `new Rider`, the index entry and the earnings.
-/

set_option autoImplicit false

namespace FilldRider

/-- A single value of the database. A number is given as Dart prints it. -/
inductive Scalar where
  | text (value : String)
  | flag (value : Bool)
  | number (printed : String)
  deriving DecidableEq

/-- `toString` of a decoded value. -/
def printed : Option Scalar → String
  | none => "null"
  | some (.text value) => value
  | some (.flag value) => if value then "true" else "false"
  | some (.number value) => value

/-- Assigning to a `String`; anything else throws. -/
def castString : Option Scalar → Option String
  | some (.text value) => some value
  | _ => none

/-- Assigning to a `String?`. -/
def castNullable : Option Scalar → Option (Option String)
  | none => some none
  | some (.text value) => some (some value)
  | some (.flag _) | some (.number _) => none

/-- The content of the slot: a text, or the object that the history marks of
`acceptRideRequest` make of it, as pairs of a rider and a request id. -/
inductive SlotValue where
  | text (value : String)
  | marks (entries : List (String × String))
  deriving DecidableEq

def SlotValue.toString : SlotValue → String
  | .text value => value
  | .marks entries =>
      let riders := (entries.map Prod.fst).eraseDups.map fun uid =>
        let ids := (entries.filter fun entry => entry.1 = uid).map fun entry =>
          entry.2 ++ ": true"
        uid ++ ": \x7bhistory: \x7b" ++ ", ".intercalate ids ++ "\x7d\x7d"
      "\x7b" ++ ", ".intercalate riders ++ "\x7d"

instance decidableMarked (uid rideRequestId : String) (entries : List (String × String)) :
    Decidable ((uid, rideRequestId) ∈ entries) := inferInstance

/-- Setting `<uid>/history/<id>` below the slot replaces a text by an object. -/
def SlotValue.mark (slot : Option SlotValue) (uid rideRequestId : String) : SlotValue :=
  match slot with
  | some (.marks entries) =>
      if (uid, rideRequestId) ∈ entries then .marks entries
      else .marks (entries ++ [(uid, rideRequestId)])
  | some (.text _) | none => .marks [(uid, rideRequestId)]

structure RiderNode where
  newRider : Option SlotValue := none
  availableRider : Option LatLng := none
  earnings : Option String := none
  deriving DecidableEq

/-- A write below the rider's own nodes. `accepted` stores the text "accepted"; it
also notes the dialog's request id and what the dialog's read returned. -/
inductive RiderWrite where
  | searching (text : String)
  | accepted (rideRequestId : String) (read : Option SlotValue)
  | removeSlot
  | history (uid rideRequestId : String)
  | setLocation (position : LatLng)
  | removeLocation
  | earnings (text : String)
  deriving DecidableEq

def RiderNode.apply (node : RiderNode) : RiderWrite → RiderNode
  | .searching text => { node with newRider := some (.text text) }
  | .accepted _ _ => { node with newRider := some (.text "accepted") }
  | .removeSlot => { node with newRider := none }
  | .history uid rideRequestId =>
      { node with newRider := some (SlotValue.mark node.newRider uid rideRequestId) }
  | .setLocation position => { node with availableRider := some position }
  | .removeLocation => { node with availableRider := none }
  | .earnings text => { node with earnings := some text }

/-- Both spellings `makeRiderOnlineNow` writes. -/
def RiderNode.Searching (node : RiderNode) : Prop :=
  node.newRider = some (.text "searching") ∨ node.newRider = some (.text "Searching")

instance (node : RiderNode) : Decidable node.Searching :=
  inferInstanceAs (Decidable (_ ∨ _))

end FilldRider
