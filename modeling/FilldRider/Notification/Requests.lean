import FilldRider.Documents.Basic
import FilldRider.Notification.Push

/-!
# Decoding a ride request

`retrieveRideRequestInfo` on whatever is stored at `GasRequests/<id>`. The value is cast
to a map before it is compared with null, coordinates and addresses are read through
their texts, and name, phone and amount are assigned as texts. Printing a double and
building a `LatLng` are left to the platform.
-/

set_option autoImplicit false

namespace FilldRider

open Documents Json

inductive RequestError where
  | thrown (thrown : Thrown)
  | formatException
  deriving DecidableEq

namespace StoredRequest

section

variable (printDouble : ℚ → String) (newLatLng : NewLatLng)

/-- `double.parse(map[place][name].toString())`. -/
def readDouble (map : Json) (place name : String) : Except RequestError Double :=
  match map.follow [.key place, .key name] with
  | .error thrown => .error (.thrown thrown)
  | .ok found =>
      match doubleParse (found.printed printDouble) with
      | none => .error .formatException
      | some value => .ok value

/-- `map[name].toString()`. -/
def readPrinted (map : Json) (name : String) : Except RequestError String :=
  ((map.select (.key name)).map (Json.printed printDouble)).mapError .thrown

/-- `map[name]` assigned to a `String`. -/
def readString (map : Json) (name : String) : Except RequestError String :=
  (map.select (.key name) >>= Json.asString).mapError .thrown

/-- The request's details for a dialog; `none` when none is opened. -/
def retrieveRideRequestInfo (rideRequestId : String) (value : Json) :
    Except RequestError (Option DialogDetails) := do
  let map ← value.asMap.mapError .thrown
  match value with
  | .null => return none
  | _ =>
      let pickUpLocationLat ← readDouble printDouble map "pickup" "latitude"
      let pickUpLocationLng ← readDouble printDouble map "pickup" "longitude"
      let pickUpAddress ← readPrinted printDouble map "pickup_address"
      let dropOffLocationLat ← readDouble printDouble map "dropoff" "latitude"
      let dropOffLocationLng ← readDouble printDouble map "dropoff" "longitude"
      let dropOffAddress ← readPrinted printDouble map "dropoff_address"
      let paymentMethod ← readPrinted printDouble map "payment_method"
      let clientName ← readString map "client_name"
      let gasfare ← readString map "Gas Amount"
      let clientPhone ← readString map "client_phone"
      let _token ← readString map "client_phone"
      return some {
        rideRequestId
        pickupAddress := some pickUpAddress
        dropoffAddress := some dropOffAddress
        pickup := newLatLng pickUpLocationLat pickUpLocationLng
        dropoff := newLatLng dropOffLocationLat dropOffLocationLng
        paymentMethod := some paymentMethod
        clientName := some clientName
        clientPhone := some clientPhone
        gasFare := some gasfare }

/-! ## What is stored -/

/-- The number stored as a coordinate of a place, or as its text. -/
def coordinate? (value : Json) (place name : String) : Option Double :=
  (value.find? [.key place, .key name]).bind fun found => doubleParse (found.printed printDouble)

def place? (value : Json) (place : String) : Option (GeoPoint Double) := do
  let latitude ← coordinate? printDouble value place "latitude"
  let longitude ← coordinate? printDouble value place "longitude"
  return ⟨latitude, longitude⟩

/-- The field as a text, unless it is missing. -/
def text? (value : Json) (name : String) : Option String :=
  match value.item? (.key name) with
  | none | some .null => none
  | some field => some (field.printed printDouble)

/-- What a request stores, if it has both places. -/
def details? (rideRequestId : String) (value : Json) : Option DialogDetails := do
  let pickup ← place? printDouble value "pickup"
  let dropoff ← place? printDouble value "dropoff"
  return {
    rideRequestId, pickup, dropoff
    pickupAddress := text? printDouble value "pickup_address"
    dropoffAddress := text? printDouble value "dropoff_address"
    paymentMethod := text? printDouble value "payment_method"
    clientName := text? printDouble value "client_name"
    clientPhone := text? printDouble value "client_phone"
    gasFare := text? printDouble value "Gas Amount" }

/-- A place with coordinates that a `LatLng` keeps. -/
def Located (value : Json) (place : String) : Prop :=
  ∃ position, place? printDouble value place = some position ∧
    newLatLng position.latitude position.longitude = position

def IsText (value : Json) (name : String) : Prop :=
  ∃ text, value.item? (.key name) = some (.string text)

/-- Both places have coordinates that a `LatLng` keeps, addresses and payment method
are not missing, and name, phone and amount are stored as texts. -/
structure Complete (value : Json) : Prop where
  pickup : Located printDouble newLatLng value "pickup"
  dropoff : Located printDouble newLatLng value "dropoff"
  pickupAddress : (text? printDouble value "pickup_address").isSome
  dropoffAddress : (text? printDouble value "dropoff_address").isSome
  paymentMethod : (text? printDouble value "payment_method").isSome
  clientName : IsText value "client_name"
  clientPhone : IsText value "client_phone"
  gasAmount : IsText value "Gas Amount"

end

variable {printDouble : ℚ → String} {newLatLng : NewLatLng} {value : Json}
  {rideRequestId : String} {place name text : String}

/-! ## Reading and finding -/

theorem doubleParse_null : doubleParse "null" = none := by decide

theorem readDouble_eq_ok {number : Double} :
    readDouble printDouble value place name = .ok number ↔
      coordinate? printDouble value place name = some number := by
  rw [readDouble, coordinate?]
  constructor
  · intro read
    split at read
    · cases read
    · next found followed =>
      have proper : found ≠ .null := by
        rintro rfl
        rw [Json.printed, doubleParse_null] at read
        cases read
      have present : value.find? ([.key place] ++ [.key name]) = some found :=
        find_of_follow followed proper
      have here : value.find? [.key place, .key name] = some found := present
      rw [here, Option.bind_some]
      split at read
      · cases read
      · next parsed =>
        cases read
        exact parsed
  · intro stored
    obtain ⟨found, present, parsed⟩ := Option.bind_eq_some_iff.mp stored
    rw [follow_of_find present]
    simp only [parsed]

theorem mapError_eq_ok {α : Type} {read : Except Thrown α} {result : α} :
    read.mapError RequestError.thrown = .ok result ↔ read = .ok result := by
  cases read <;> simp [Except.mapError]

theorem select_object (fields : List (String × Json)) (name : String) :
    (Json.object fields).select (.key name) =
      .ok (((Json.object fields).item? (.key name)).getD .null) := rfl

theorem readString_eq_ok {fields : List (String × Json)} :
    readString (.object fields) name = .ok text ↔
      (Json.object fields).item? (.key name) = some (.string text) := by
  rw [readString, mapError_eq_ok, select_object, bind_eq_ok]
  simp only [Except.ok.injEq, exists_eq_left', asString_eq_ok]
  cases present : (Json.object fields).item? (.key name) <;> simp

/-- A missing field is read as the text of null. -/
theorem readPrinted_object (fields : List (String × Json)) (name : String) :
    readPrinted printDouble (.object fields) name =
      .ok ((text? printDouble (.object fields) name).getD "null") := by
  rw [readPrinted, select_object, text?]
  cases present : (Json.object fields).item? (.key name) with
  | none => rfl
  | some field => cases field <;> rfl

theorem text?_of_string (stored : value.item? (.key name) = some (.string text)) :
    text? printDouble value name = some text := by
  rw [text?, stored]
  rfl

theorem place?_eq_some {position : GeoPoint Double} :
    place? printDouble value place = some position ↔
      coordinate? printDouble value place "latitude" = some position.latitude ∧
        coordinate? printDouble value place "longitude" = some position.longitude := by
  simp only [place?, Option.bind_eq_bind, Option.bind_eq_some_iff, pure, Option.some.injEq]
  constructor
  · intro made
    obtain ⟨latitude, first, longitude, second, rfl⟩ := made
    exact ⟨first, second⟩
  · intro stored
    obtain ⟨first, second⟩ := stored
    exact ⟨_, first, _, second, rfl⟩

theorem details?_of_places {pickup dropoff : GeoPoint Double}
    (first : place? printDouble value "pickup" = some pickup)
    (second : place? printDouble value "dropoff" = some dropoff) :
    details? printDouble rideRequestId value = some
      { rideRequestId, pickup, dropoff
        pickupAddress := text? printDouble value "pickup_address"
        dropoffAddress := text? printDouble value "dropoff_address"
        paymentMethod := text? printDouble value "payment_method"
        clientName := text? printDouble value "client_name"
        clientPhone := text? printDouble value "client_phone"
        gasFare := text? printDouble value "Gas Amount" } := by
  rw [details?, first, second]
  rfl

/-- A dialog is opened exactly on a map with both places and three texts, with the
addresses and the payment method as printed. -/
theorem retrieves_iff {details : DialogDetails} :
    retrieveRideRequestInfo printDouble newLatLng rideRequestId value = .ok (some details) ↔
      ∃ pickup dropoff name gasfare phone,
        place? printDouble value "pickup" = some pickup ∧
        place? printDouble value "dropoff" = some dropoff ∧
        value.item? (.key "client_name") = some (.string name) ∧
        value.item? (.key "Gas Amount") = some (.string gasfare) ∧
        value.item? (.key "client_phone") = some (.string phone) ∧
        details =
          { rideRequestId
            pickup := newLatLng pickup.latitude pickup.longitude
            dropoff := newLatLng dropoff.latitude dropoff.longitude
            pickupAddress := some ((text? printDouble value "pickup_address").getD "null")
            dropoffAddress := some ((text? printDouble value "dropoff_address").getD "null")
            paymentMethod := some ((text? printDouble value "payment_method").getD "null")
            clientName := some name
            clientPhone := some phone
            gasFare := some gasfare } := by
  cases value with
  | object fields =>
      have cast : (Json.object fields).asMap.mapError RequestError.thrown =
          .ok (.object fields) := rfl
      simp only [retrieveRideRequestInfo, cast, bind_eq_ok, readDouble_eq_ok, readPrinted_object,
        readString_eq_ok, place?_eq_some, pure, Except.pure, Except.ok.injEq, exists_eq_left',
        Option.some.injEq]
      constructor
      · intro read
        obtain ⟨lat, first, lng, second, lat', third, lng', fourth, name, named, gas, amount,
          phone, called, _, _, rfl⟩ := read
        exact ⟨⟨lat, lng⟩, ⟨lat', lng'⟩, name, gas, phone, ⟨first, second⟩, ⟨third, fourth⟩,
          named, amount, called, rfl⟩
      · intro stored
        obtain ⟨pickup, dropoff, name, gas, phone, ⟨first, second⟩, ⟨third, fourth⟩, named,
          amount, called, rfl⟩ := stored
        exact ⟨_, first, _, second, _, third, _, fourth, _, named, _, amount, _, called, _,
          called, rfl⟩
  | null | bool _ | int _ | double _ | string _ | list _ =>
      constructor
      · intro retrieved
        cases retrieved
      · rintro ⟨_, _, _, _, _, _, _, named, _⟩
        cases named

theorem retrieves_ne_none :
    retrieveRideRequestInfo printDouble newLatLng rideRequestId value ≠ .ok none := by
  cases value with
  | object fields =>
      have cast : (Json.object fields).asMap.mapError RequestError.thrown =
          .ok (.object fields) := rfl
      simp only [retrieveRideRequestInfo, cast, bind_eq_ok, pure, Except.pure, ne_eq,
        Except.ok.injEq, reduceCtorEq, and_false, exists_false, not_false_eq_true]
  | null | bool _ | int _ | double _ | string _ | list _ =>
      intro retrieved
      cases retrieved

/-- A stored value, when it is only printed or assigned to a text. -/
def scalar? (printDouble : ℚ → String) : Json → Option Scalar
  | .null => none
  | .bool value => some (.flag value)
  | .string text => some (.text text)
  | other => some (.number (other.printed printDouble))

def storedPlace? (printDouble : ℚ → String) (value : Json) (place : String) :
    Option StoredPlace :=
  match value.item? (.key place) with
  | some (.object fields) =>
      some {
        latitude := (fields.lookup "latitude").bind (scalar? printDouble)
        longitude := (fields.lookup "longitude").bind (scalar? printDouble) }
  | _ => none

/-- The fields of a stored value that are read for a message. -/
def rideRequest (printDouble : ℚ → String) (value : Json) : RideRequest where
  pickup := storedPlace? printDouble value "pickup"
  dropoff := storedPlace? printDouble value "dropoff"
  pickupAddress := (value.item? (.key "pickup_address")).bind (scalar? printDouble)
  dropoffAddress := (value.item? (.key "dropoff_address")).bind (scalar? printDouble)
  paymentMethod := (value.item? (.key "payment_method")).bind (scalar? printDouble)
  clientName := (value.item? (.key "client_name")).bind (scalar? printDouble)
  gasAmount := (value.item? (.key "Gas Amount")).bind (scalar? printDouble)
  clientPhone := (value.item? (.key "client_phone")).bind (scalar? printDouble)

theorem printed_scalar? (field : Option Json) :
    FilldRider.printed (field.bind (scalar? printDouble)) =
      ((field.getD .null).printed printDouble) := by
  cases field with
  | none => rfl
  | some value =>
      cases value with
      | bool value => cases value <;> rfl
      | _ => rfl

theorem printed_text? (value : Json) (name : String) :
    FilldRider.printed ((value.item? (.key name)).bind (scalar? printDouble)) =
      (text? printDouble value name).getD "null" := by
  rw [printed_scalar?, text?]
  cases value.item? (.key name) with
  | none => rfl
  | some field => cases field <;> rfl

theorem castString_scalar? {field : Option Json} :
    castString (field.bind (scalar? printDouble)) = some text ↔ field = some (.string text) := by
  cases field with
  | none => simp [castString]
  | some value => cases value <;> simp [scalar?, castString]

theorem coordinate?_object {fields : List (String × Json)}
    (stored : value.item? (.key place) = some (.object fields)) (name : String) :
    coordinate? printDouble value place name =
      doubleParse (FilldRider.printed ((fields.lookup name).bind (scalar? printDouble))) := by
  rw [coordinate?, Json.find?, stored, printed_scalar?]
  simp only [Json.find?, Json.item?]
  cases fields.lookup name with
  | none => exact doubleParse_null.symm
  | some field => rw [Option.bind_some, Option.getD_some]

theorem parse_storedPlace? (value : Json) (place : String) :
    StoredPlace.parse (storedPlace? printDouble value place) =
      (place? printDouble value place).map fun position =>
        (position.latitude, position.longitude) := by
  rw [storedPlace?]
  split
  · next fields stored =>
    simp only [place?, coordinate?_object stored, StoredPlace.parse, Option.bind_eq_bind,
      Option.bind_some]
    generalize doubleParse (FilldRider.printed ((fields.lookup "latitude").bind _)) = latitude
    generalize doubleParse (FilldRider.printed ((fields.lookup "longitude").bind _)) = longitude
    cases latitude <;> cases longitude <;> rfl
  · next other =>
    have nothing : coordinate? printDouble value place "latitude" = none := by
      rw [coordinate?, Json.find?]
      cases stored : value.item? (.key place) with
      | none => rfl
      | some field =>
          cases field with
          | object fields => exact absurd stored (other fields)
          | _ => rfl
    rw [place?, nothing]
    rfl

/-- The dialogs are those of the push messages. -/
theorem retrieves_iff_rideRequest (printDouble : ℚ → String) (newLatLng : NewLatLng)
    (rideRequestId : String) (value : Json) (details : DialogDetails) :
    retrieveRideRequestInfo printDouble newLatLng rideRequestId value = .ok (some details) ↔
      FilldRider.retrieveRideRequestInfo newLatLng rideRequestId
        (rideRequest printDouble value) = some details := by
  rw [retrieves_iff]
  simp only [FilldRider.retrieveRideRequestInfo, rideRequest, parse_storedPlace?, printed_text?,
    Option.bind_eq_bind, Option.bind_eq_some_iff, Option.map_eq_some_iff, castString_scalar?,
    Option.some.injEq]
  constructor
  · intro carried
    obtain ⟨pickup, dropoff, name, gas, phone, first, second, named, amount, called, rfl⟩ := carried
    exact ⟨_, ⟨pickup, first, rfl⟩, _, ⟨dropoff, second, rfl⟩, name, named, gas, amount, phone,
      called, rfl⟩
  · intro read
    obtain ⟨_, ⟨pickup, first, rfl⟩, _, ⟨dropoff, second, rfl⟩, name, named, gas, amount, phone,
      called, rfl⟩ := read
    exact ⟨pickup, dropoff, name, gas, phone, first, second, named, amount, called, rfl⟩

/-! ## A request with a numeric amount -/

/-- Texts of no interest here. -/
def unprinted (_ : ℚ) : String := ""

def sampleRequest (gasAmount : Json) : Json :=
  .object
    [("pickup", .object [("latitude", .string "5.6"), ("longitude", .string "-0.2")]),
      ("dropoff", .object [("latitude", .int 6), ("longitude", .string "-1")]),
      ("pickup_address", .string "Circle"), ("dropoff_address", .string "Adum"),
      ("payment_method", .string "cash"), ("client_name", .string "Esi"),
      ("client_phone", .string "+233240000002"), ("Gas Amount", gasAmount)]

example : retrieveRideRequestInfo unprinted GeoPoint.mk "request-1" (sampleRequest (.string "40")) =
    .ok (details? unprinted "request-1" (sampleRequest (.string "40"))) := by
  decide +kernel

end StoredRequest

end FilldRider
