import FilldRider.Models.Fares
import FilldRider.Models.Rider
import FilldRider.Trees.Basic

/-!
# Profiles

The rider's record `Riders/<uid>` as `registerNewUser` and `_saveProfile` write it and
as `Ride_r.fromMap` reads it back. The record is a tree with the rider's node as root.
-/

set_option autoImplicit false

namespace FilldRider

open Trees

abbrev RiderRecord := Tree String Scalar

/-- The texts of the registration form. -/
structure Registration where
  email : String
  firstname : String
  lastname : String
  selectedCountryCode : String
  phone : String
  password : String

def Registration.fullPhoneNumber (form : Registration) : String :=
  form.selectedCountryCode ++ trim form.phone

def Registration.userDataMap (form : Registration) : List (String × Scalar) :=
  [("email", .text (trim form.email)),
    ("FirstName", .text (trim form.firstname)),
    ("LastName", .text (trim form.lastname)),
    ("phoneNumber", .text form.fullPhoneNumber),
    ("Password", .text (trim form.password)),
    ("status", .text "deactivated"),
    ("detailsComp", .flag false)]

def registerNewUser (form : Registration) : RiderRecord :=
  Tree.empty.setChildren [] form.userDataMap

/-- The fields of `_RiderDetailsState` with the addresses of the uploaded images. -/
structure RiderDetails where
  nextOfKin : String
  nextOfKinNum : String
  nextOfKinRelationship : String
  location : String
  motorType : String
  motorColor : String
  licensePlateNumber : String
  ghanaCardNumber : String
  riderImageUrl : String
  licenseImageUrl : String
  ghanaCardUrl : String

def RiderDetails.userProfile (details : RiderDetails) : List (String × Scalar) :=
  [("NextofKinName", .text details.nextOfKin),
    ("NextofKinNumber", .text details.nextOfKinNum),
    ("NextofKinRelationship", .text details.nextOfKinRelationship),
    ("location", .text details.location),
    ("riderImageUrl", .text details.riderImageUrl),
    ("detailsComp", .flag true)]

def RiderDetails.profileData (details : RiderDetails) : List (String × Scalar) :=
  [("riderImageUrl", .text details.riderImageUrl),
    ("riderLicense", .text details.licenseImageUrl),
    ("ghanaCardUrl", .text details.ghanaCardUrl),
    ("motorColor", .text details.motorColor),
    ("type", .text "bike"),
    ("motorBrand", .text details.motorType),
    ("licensePlateNumber", .text details.licensePlateNumber),
    ("ghanaCardNumber", .text details.ghanaCardNumber),
    ("status", .text "deactivated")]

def saveProfile (record : RiderRecord) (details : RiderDetails) : RiderRecord :=
  (record.update [] details.userProfile).update ["car_details"] details.profileData

def profileRecord (form : Registration) (saves : List RiderDetails) : RiderRecord :=
  saves.foldl saveProfile (registerNewUser form)

/-! ## Reading a record -/

/-- What indexing a decoded record yields. -/
inductive MapValue where
  | null
  | scalar (value : Scalar)
  | map
  deriving DecidableEq

def RiderRecord.read (record : RiderRecord) (path : List String) : MapValue :=
  match record.leaf? path with
  | some value => .scalar value
  | none => if record.has path then .map else .null

/-- Assigning to a `String?`; any other type throws. -/
def MapValue.asString : MapValue → Option (Option String)
  | .null => some none
  | .scalar (.text value) => some (some value)
  | .scalar (.flag _) | .scalar (.number _) | .map => none

/-- `data[child][key]`. Indexing null or a scalar throws. -/
def RiderRecord.readBelow (record : RiderRecord) (child key : String) : Option MapValue :=
  match record.read [child] with
  | .map => some (record.read [child, key])
  | .null | .scalar _ => none

/-- `Ride_r.fromMap`; `none` when it throws. -/
def RideR.fromMap (record : RiderRecord) : Option RideR := do
  let id ← (record.read ["id"]).asString
  let phone ← (record.read ["phoneNumber"]).asString
  let email ← (record.read ["email"]).asString
  let firstname ← (record.read ["FirstName"]).asString
  let lastname ← (record.read ["LastName"]).asString
  let profilepicture ← (record.read ["riderImageUrl"]).asString
  let automobileColor ← (← record.readBelow "car_details" "automobile_color").asString
  let ghanaCard ← (← record.readBelow "car_details" "GhanaCardNumber").asString
  let automobileModel ← (← record.readBelow "car_details" "motorBrand").asString
  let plateNumber ← (← record.readBelow "car_details" "licensePlateNumber").asString
  some { id, phone, email, firstname, lastname, profilepicture, automobileColor, ghanaCard,
         automobileModel, plateNumber }

section Read

variable {record : RiderRecord} {path : List String}

theorem RiderRecord.read_of_leaf {value : Scalar} (found : record.leaf? path = some value) :
    record.read path = .scalar value := by
  rw [read, found]

theorem RiderRecord.read_of_unset (unset : ∀ below, record.leaf? (path ++ below) = none) :
    record.read path = .null := by
  have nothing : record.has path = false := by
    rw [Bool.eq_false_iff]
    intro present
    obtain ⟨below, value, found⟩ := Tree.has_iff.mp present
    rw [unset below] at found
    cases found
  have here := unset []
  rw [List.append_nil] at here
  rw [read, here, nothing]
  rfl

theorem RiderRecord.read_of_below {key : String} {below : List String} {value : Scalar}
    (found : record.leaf? (path ++ key :: below) = some value) : record.read path = .map := by
  rw [read, Tree.leaf?_above found, Tree.has_iff.mpr ⟨_, _, found⟩]
  rfl

end Read

/-! ## Records of registered riders -/

/-- The entries of the registration that `fromMap` reads. -/
def Registration.names (form : Registration) : List (String × Scalar) :=
  [("email", .text (trim form.email)),
    ("FirstName", .text (trim form.firstname)),
    ("LastName", .text (trim form.lastname)),
    ("phoneNumber", .text form.fullPhoneNumber)]

/-- What a record holds after the last save, if any. The keys `fromMap` expects of the
colour and of the Ghana card are written by nobody. -/
structure RecordLaw (form : Registration) (last : Option RiderDetails) (record : RiderRecord) :
    Prop where
  names : ∀ entry ∈ form.names, record.leaf? [entry.1] = some entry.2
  unnamed : ∀ below, record.leaf? ("id" :: below) = none
  unknown : ∀ key ∈ ["automobile_color", "GhanaCardNumber"],
    ∀ below, record.leaf? ("car_details" :: key :: below) = none
  unsaved : last = none → ∀ below, record.leaf? ("car_details" :: below) = none
  picture : ∀ details ∈ last,
    record.leaf? ["riderImageUrl"] = some (.text details.riderImageUrl)
  saved : ∀ details ∈ last, ∀ entry ∈ details.profileData,
    record.leaf? ["car_details", entry.1] = some entry.2

theorem leaf?_registerNewUser (form : Registration) {key : String} (below : List String)
    (unwritten : key ∉ form.userDataMap.map Prod.fst) :
    (registerNewUser form).leaf? (key :: below) = none := by
  rw [registerNewUser, Tree.setChildren, Tree.leaf?_update_of_apart, Tree.leaf?_remove,
    if_pos List.nil_prefix]
  intro child member
  have other : child.1 ≠ key := by
    rintro rfl
    exact unwritten (List.mem_map.mpr ⟨child, member, rfl⟩)
  exact (apart_cons child.1 key [] below).mpr (.inl other)

theorem userDataMap_of_registerNewUser (form : Registration) :
    ∀ entry ∈ form.userDataMap, (registerNewUser form).leaf? [entry.1] = some entry.2 := by
  intro entry member
  have distinct : (form.userDataMap.map Prod.fst).Nodup := by simp [Registration.userDataMap]
  rw [registerNewUser, Tree.setChildren]
  exact Tree.leaf?_update_of_mem [] distinct member _

theorem RecordLaw.registered (form : Registration) :
    RecordLaw form none (registerNewUser form) where
  names := by
    intro entry member
    have written : entry ∈ form.userDataMap := List.take_subset 4 form.userDataMap member
    exact userDataMap_of_registerNewUser form entry written
  unnamed := fun below =>
    leaf?_registerNewUser form below (by simp [Registration.userDataMap])
  unknown := fun key _ below =>
    leaf?_registerNewUser form (key :: below) (by simp [Registration.userDataMap])
  unsaved := fun _ below =>
    leaf?_registerNewUser form below (by simp [Registration.userDataMap])
  picture := by simp
  saved := by simp

section Save

variable {record : RiderRecord} (details : RiderDetails)

/-- What `_saveProfile` leaves alone at the rider's node. -/
theorem leaf?_saveProfile {key : String} (below : List String)
    (unwritten : key ∉ details.userProfile.map Prod.fst) (elsewhere : key ≠ "car_details") :
    (saveProfile record details).leaf? (key :: below) = record.leaf? (key :: below) := by
  rw [saveProfile, Tree.leaf?_update_of_apart, Tree.leaf?_update_of_apart]
  · intro child member
    have other : child.1 ≠ key := by
      rintro rfl
      exact unwritten (List.mem_map.mpr ⟨child, member, rfl⟩)
    exact (apart_cons child.1 key [] below).mpr (.inl other)
  · intro child _
    exact (apart_cons "car_details" key [child.1] below).mpr (.inl elsewhere.symm)

/-- And below its `car_details`. -/
theorem leaf?_saveProfile_details {key : String} (below : List String)
    (unwritten : key ∉ details.profileData.map Prod.fst) :
    (saveProfile record details).leaf? ("car_details" :: key :: below) =
      record.leaf? ("car_details" :: key :: below) := by
  rw [saveProfile, Tree.leaf?_update_of_apart, Tree.leaf?_update_of_apart]
  · simp [RiderDetails.userProfile]
  · intro child member
    have other : child.1 ≠ key := by
      rintro rfl
      exact unwritten (List.mem_map.mpr ⟨child, member, rfl⟩)
    exact (apart_cons _ _ _ _).mpr (.inr ((apart_cons child.1 key [] below).mpr (.inl other)))

theorem profileData_of_saveProfile (record : RiderRecord) :
    ∀ entry ∈ details.profileData,
      (saveProfile record details).leaf? ["car_details", entry.1] = some entry.2 := by
  intro entry member
  have distinct : (details.profileData.map Prod.fst).Nodup := by simp [RiderDetails.profileData]
  rw [saveProfile]
  exact Tree.leaf?_update_of_mem ["car_details"] distinct member _

theorem userProfile_of_saveProfile (record : RiderRecord) :
    ∀ entry ∈ details.userProfile,
      (saveProfile record details).leaf? [entry.1] = some entry.2 := by
  intro entry member
  have distinct : (details.userProfile.map Prod.fst).Nodup := by simp [RiderDetails.userProfile]
  have elsewhere : entry.1 ≠ "car_details" := by
    simp only [RiderDetails.userProfile, List.mem_cons, List.not_mem_nil, or_false] at member
    rcases member with rfl | rfl | rfl | rfl | rfl | rfl <;> simp
  rw [saveProfile, Tree.leaf?_update_of_apart (by simp [elsewhere.symm])]
  exact Tree.leaf?_update_of_mem [] distinct member record

theorem riderImageUrl_of_saveProfile (record : RiderRecord) :
    (saveProfile record details).leaf? ["riderImageUrl"] =
      some (.text details.riderImageUrl) :=
  userProfile_of_saveProfile details record ("riderImageUrl", .text details.riderImageUrl)
    (by simp [RiderDetails.userProfile])

theorem RecordLaw.save {form : Registration} {last : Option RiderDetails}
    (law : RecordLaw form last record) :
    RecordLaw form (some details) (saveProfile record details) where
  names := by
    intro entry member
    have unwritten : entry.1 ∉ details.userProfile.map Prod.fst ∧ entry.1 ≠ "car_details" := by
      simp only [Registration.names, List.mem_cons, List.not_mem_nil, or_false] at member
      rcases member with rfl | rfl | rfl | rfl <;> simp [RiderDetails.userProfile]
    rw [leaf?_saveProfile details [] unwritten.1 unwritten.2]
    exact law.names entry member
  unnamed := by
    intro below
    rw [leaf?_saveProfile details below (by simp [RiderDetails.userProfile]) (by decide)]
    exact law.unnamed below
  unknown := by
    intro key member below
    rw [leaf?_saveProfile_details details below]
    · exact law.unknown key member below
    · simp only [List.mem_cons, List.not_mem_nil, or_false] at member
      rcases member with rfl | rfl <;> simp [RiderDetails.profileData]
  unsaved := by simp
  picture := by
    rintro _ ⟨⟩
    exact riderImageUrl_of_saveProfile details record
  saved := by
    rintro _ ⟨⟩ entry member
    exact profileData_of_saveProfile details record entry member

end Save

theorem recordLaw_profileRecord (form : Registration) (saves : List RiderDetails) :
    RecordLaw form saves.getLast? (profileRecord form saves) := by
  induction saves using List.reverseRecOn with
  | nil => exact RecordLaw.registered form
  | append_singleton saves last ih =>
      rw [profileRecord, List.foldl_append, List.getLast?_append]
      exact ih.save last

/-- What `fromMap` makes of a record after a save: the colour and the Ghana card, which
are stored under other keys, stay null. -/
def loadedProfile (form : Registration) (last : RiderDetails) : RideR :=
  { firstname := some (trim form.firstname)
    lastname := some (trim form.lastname)
    phone := some form.fullPhoneNumber
    email := some (trim form.email)
    automobileModel := some last.motorType
    plateNumber := some last.licensePlateNumber
    profilepicture := some last.riderImageUrl }

theorem RecordLaw.fromMap_unsaved {form : Registration} {record : RiderRecord}
    (law : RecordLaw form none record) : RideR.fromMap record = none := by
  have missing : record.read ["car_details"] = .null :=
    RiderRecord.read_of_unset (law.unsaved rfl)
  have throws : ∀ key, record.readBelow "car_details" key = none := by
    intro key
    rw [RiderRecord.readBelow, missing]
  simp [RideR.fromMap, throws]

theorem RecordLaw.fromMap_saved {form : Registration} {last : RiderDetails}
    {record : RiderRecord} (law : RecordLaw form (some last) record) :
    RideR.fromMap record = some (loadedProfile form last) := by
  have named : ∀ entry ∈ form.names, record.read [entry.1] = .scalar entry.2 :=
    fun entry member => RiderRecord.read_of_leaf (law.names entry member)
  have saved : ∀ entry ∈ last.profileData,
      record.read ["car_details", entry.1] = .scalar entry.2 :=
    fun entry member => RiderRecord.read_of_leaf (law.saved last rfl entry member)
  have unknown : ∀ key ∈ ["automobile_color", "GhanaCardNumber"],
      record.read ["car_details", key] = .null :=
    fun key member => RiderRecord.read_of_unset (law.unknown key member)
  have unnamed : record.read ["id"] = .null := RiderRecord.read_of_unset law.unnamed
  have picture := RiderRecord.read_of_leaf (law.picture last rfl)
  have details : record.read ["car_details"] = .map :=
    RiderRecord.read_of_below (law.saved last rfl ("type", .text "bike")
      (by simp [RiderDetails.profileData]))
  simp only [Registration.names, RiderDetails.profileData, List.forall_mem_cons] at named saved unknown
  simp [RideR.fromMap, RiderRecord.readBelow, named, saved, unknown, unnamed, picture, details,
    MapValue.asString, loadedProfile]

theorem fromMap_profileRecord (form : Registration) (saves : List RiderDetails) :
    RideR.fromMap (profileRecord form saves) = saves.getLast?.map (loadedProfile form) := by
  have law := recordLaw_profileRecord form saves
  cases last : saves.getLast? with
  | none =>
      rw [last] at law
      exact law.fromMap_unsaved
  | some details =>
      rw [last] at law
      exact law.fromMap_saved

/-- The profile read back is the one registered and last saved. -/
structure RoundTrip (form : Registration) (last : Option RiderDetails) (info : RideR) : Prop where
  firstname : info.firstname = some (trim form.firstname)
  lastname : info.lastname = some (trim form.lastname)
  email : info.email = some (trim form.email)
  phone : info.phone = some form.fullPhoneNumber
  automobileColor : info.automobileColor = last.map (·.motorColor)
  automobileModel : info.automobileModel = last.map (·.motorType)
  plateNumber : info.plateNumber = last.map (·.licensePlateNumber)
  ghanaCard : info.ghanaCard = last.map (·.ghanaCardNumber)
  profilepicture : info.profilepicture = last.map (·.riderImageUrl)

/-- No record comes back whole: unsaved ones make `fromMap` throw, saved ones lose the
colour and the Ghana card. -/
theorem not_roundTrip (form : Registration) (saves : List RiderDetails) :
    ¬ ∃ info, RideR.fromMap (profileRecord form saves) = some info ∧
      RoundTrip form saves.getLast? info := by
  intro returned
  obtain ⟨info, loads, trip⟩ := returned
  rw [fromMap_profileRecord] at loads
  obtain ⟨last, saved, rfl⟩ := Option.map_eq_some_iff.mp loads
  have colour := trip.automobileColor
  rw [saved] at colour
  cases colour

def sampleRegistration : Registration :=
  { email := "ama@mail", firstname := "Ama", lastname := "Mensah", selectedCountryCode := "+233",
    phone := "240000000", password := "secret" }

theorem not_roundTrip_of_registered :
    ¬ ∀ (form : Registration) (saves : List RiderDetails),
      ∃ info, RideR.fromMap (profileRecord form saves) = some info ∧
        RoundTrip form saves.getLast? info := by
  intro always
  have throws : RideR.fromMap (profileRecord sampleRegistration []) = none := by
    decide +kernel
  obtain ⟨info, loads, _⟩ := always sampleRegistration []
  rw [throws] at loads
  cases loads

end FilldRider
