import FilldRider.Models.Rider

/-!
# The request dialogs

`checkAvailabilityOfRide` of the two dialogs: what it does once its read of the
rider's slot returns.
-/

set_option autoImplicit false

namespace FilldRider

inductive DialogAction where
  | pop
  | displayToast (text : String)
  | setAccepted (rideRequestId : String) (read : Option SlotValue)
  | disableHomeTabLiveLocationUpdates
  | pushNewRequestScreen (clientDetails : ClientDetails String)
  deriving DecidableEq

/-- `theRideId`: the text of the slot, empty when there is none. -/
def theRideId (value : Option SlotValue) : String := (value.map SlotValue.toString).getD ""

/-- The two dialogs have the same text here. -/
def checkAvailability (clientDetails : ClientDetails String) (value : Option SlotValue) :
    List DialogAction :=
  .pop ::
    (if value = none then [.displayToast "Ride not exists."] else []) ++
    (if theRideId value = clientDetails.rideRequestId then
      [.setAccepted clientDetails.rideRequestId value, .disableHomeTabLiveLocationUpdates,
        .pushNewRequestScreen clientDetails]
    else if theRideId value = "cancelled" then [.displayToast "Ride has been Cancelled."]
    else if theRideId value = "timeout" then [.displayToast "Ride has time out."]
    else [.displayToast "Ride not exists."])

def NotificationDialog.checkAvailabilityOfRide (clientDetails : ClientDetails String)
    (value : Option SlotValue) : List DialogAction :=
  checkAvailability clientDetails value

def ATGASSTATIONNotificationDialog.checkAvailabilityOfRide
    (clientDetails : ClientDetails String) (value : Option SlotValue) : List DialogAction :=
  checkAvailability clientDetails value

inductive DialogKind where
  | notification
  | atGasStation
  deriving DecidableEq, Repr

def DialogKind.checkAvailabilityOfRide :
    DialogKind → ClientDetails String → Option SlotValue → List DialogAction
  | .notification => NotificationDialog.checkAvailabilityOfRide
  | .atGasStation => ATGASSTATIONNotificationDialog.checkAvailabilityOfRide

theorem DialogKind.checkAvailabilityOfRide_eq (dialog : DialogKind) :
    dialog.checkAvailabilityOfRide = checkAvailability := by
  cases dialog <;> rfl

end FilldRider
