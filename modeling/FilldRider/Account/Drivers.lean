import FilldRider.Account.RiderInfo

/-!
# Who the customer is told is coming

Registration and `_saveProfile` are all that writes the keys of a record that
`Ride_r.fromMap` reads. So the name, the telephone, the vehicle and the picture that
`acceptRideRequest` publishes were typed by the rider they were loaded for, and the colour
of the vehicle, which is read under a key nobody writes, is always missing.
-/

set_option autoImplicit false

namespace FilldRider

open Runs Trees

/-- The children of a record that `Ride_r.fromMap` reads. -/
def profileKeys : List String :=
  ["id", "email", "FirstName", "LastName", "phoneNumber", "riderImageUrl", "car_details"]

/-- What others write is no part of a profile. -/
def RecordIntrusion.Foreign (intrusion : RecordIntrusion) : Prop :=
  match intrusion.path with
  | [] => False
  | key :: _ => key ∉ profileKeys

instance (intrusion : RecordIntrusion) : Decidable intrusion.Foreign := by
  unfold RecordIntrusion.Foreign
  split <;> infer_instance

/-- A rider whose fields were typed in one registration, if any, and in saves: the vehicle
in one of them. -/
structure TypedProfile (writes : List RecordWrite) (rider : RideR) : Prop where
  names : (rider.firstname = none ∧ rider.lastname = none ∧ rider.email = none ∧
      rider.phone = none) ∨
    ∃ form, .registerNewUser form ∈ writes ∧ rider.firstname = some (trim form.firstname) ∧
      rider.lastname = some (trim form.lastname) ∧ rider.email = some (trim form.email) ∧
      rider.phone = some form.fullPhoneNumber
  vehicle : ∃ details, .profileData details ∈ writes ∧
    rider.automobileModel = some details.motorType ∧
    rider.plateNumber = some details.licensePlateNumber
  picture : rider.profilepicture = none ∨
    ∃ details, .userProfile details ∈ writes ∧ rider.profilepicture = some details.riderImageUrl
  unknown : rider.id = none ∧ rider.automobileColor = none ∧ rider.ghanaCard = none

/-- The same of the record, where nothing is below the keys that were not written. -/
structure TypedRecord (writes : List RecordWrite) (record : RiderRecord) : Prop where
  names : (∀ key ∈ ["email", "FirstName", "LastName", "phoneNumber"], ∀ below,
      record.leaf? (key :: below) = none) ∨
    ∃ form, .registerNewUser form ∈ writes ∧
      ∀ entry ∈ form.names, record.leaf? [entry.1] = some entry.2
  vehicle : (∀ below, record.leaf? ("car_details" :: below) = none) ∨
    ∃ details, .profileData details ∈ writes ∧
      ∀ entry ∈ details.profileData, record.leaf? ["car_details", entry.1] = some entry.2
  picture : (∀ below, record.leaf? ("riderImageUrl" :: below) = none) ∨
    ∃ details, .userProfile details ∈ writes ∧
      record.leaf? ["riderImageUrl"] = some (.text details.riderImageUrl)
  unnamed : ∀ below, record.leaf? ("id" :: below) = none
  unknown : ∀ key ∈ ["automobile_color", "GhanaCardNumber"], ∀ below,
    record.leaf? ("car_details" :: key :: below) = none

namespace TypedRecord

variable {writes : List RecordWrite} {record next : RiderRecord}

theorem empty (writes : List RecordWrite) : TypedRecord writes Tree.empty where
  names := .inl fun _ _ _ => rfl
  vehicle := .inl fun _ => rfl
  picture := .inl fun _ => rfl
  unnamed := fun _ => rfl
  unknown := fun _ _ _ => rfl

/-- The parts of a record that a write leaves alone were typed before it. -/
private theorem names_of_same (law : TypedRecord writes record) (later : List RecordWrite)
    (same : ∀ key ∈ ["email", "FirstName", "LastName", "phoneNumber"], ∀ below,
      next.leaf? (key :: below) = record.leaf? (key :: below)) :
    (∀ key ∈ ["email", "FirstName", "LastName", "phoneNumber"], ∀ below,
      next.leaf? (key :: below) = none) ∨
    ∃ form, .registerNewUser form ∈ writes ++ later ∧
      ∀ entry ∈ form.names, next.leaf? [entry.1] = some entry.2 := by
  rcases law.names with unset | ⟨form, member, stored⟩
  · left
    intro key listed below
    rw [same key listed below]
    exact unset key listed below
  · refine .inr ⟨form, List.mem_append_left _ member, ?_⟩
    intro entry named
    have listed : entry.1 ∈ ["email", "FirstName", "LastName", "phoneNumber"] :=
      List.mem_map_of_mem named
    rw [same entry.1 listed []]
    exact stored entry named

private theorem vehicle_of_same (law : TypedRecord writes record) (later : List RecordWrite)
    (same : ∀ below, next.leaf? ("car_details" :: below) = record.leaf? ("car_details" :: below)) :
    (∀ below, next.leaf? ("car_details" :: below) = none) ∨
    ∃ details, .profileData details ∈ writes ++ later ∧
      ∀ entry ∈ details.profileData, next.leaf? ["car_details", entry.1] = some entry.2 := by
  rcases law.vehicle with unset | ⟨details, member, stored⟩
  · exact .inl fun below => (same below).trans (unset below)
  · exact .inr ⟨details, List.mem_append_left _ member,
      fun entry saved => (same _).trans (stored entry saved)⟩

private theorem picture_of_same (law : TypedRecord writes record) (later : List RecordWrite)
    (same : ∀ below,
      next.leaf? ("riderImageUrl" :: below) = record.leaf? ("riderImageUrl" :: below)) :
    (∀ below, next.leaf? ("riderImageUrl" :: below) = none) ∨
    ∃ details, .userProfile details ∈ writes ++ later ∧
      next.leaf? ["riderImageUrl"] = some (.text details.riderImageUrl) := by
  rcases law.picture with unset | ⟨details, member, stored⟩
  · exact .inl fun below => (same below).trans (unset below)
  · exact .inr ⟨details, List.mem_append_left _ member, (same _).trans stored⟩

/-- A write elsewhere in the record. -/
theorem of_same (law : TypedRecord writes record) (later : List RecordWrite)
    (same : ∀ key ∈ profileKeys, ∀ below, next.leaf? (key :: below) = record.leaf? (key :: below)) :
    TypedRecord (writes ++ later) next where
  names := law.names_of_same later fun key listed =>
    have read : ∀ key ∈ ["email", "FirstName", "LastName", "phoneNumber"], key ∈ profileKeys := by
      decide
    same key (read key listed)
  vehicle := law.vehicle_of_same later (same _ (by simp [profileKeys]))
  picture := law.picture_of_same later (same _ (by simp [profileKeys]))
  unnamed below := (same _ (by simp [profileKeys]) below).trans (law.unnamed below)
  unknown key listed below :=
    (same _ (by simp [profileKeys]) (key :: below)).trans (law.unknown key listed below)

theorem registered (writes : List RecordWrite) (form : Registration) :
    TypedRecord (writes ++ [.registerNewUser form]) (registerNewUser form) where
  names := by
    refine .inr ⟨form, by simp, ?_⟩
    intro entry member
    exact userDataMap_of_registerNewUser form entry (List.take_subset 4 form.userDataMap member)
  vehicle := .inl fun below =>
    leaf?_registerNewUser form below (by simp [Registration.userDataMap])
  picture := .inl fun below =>
    leaf?_registerNewUser form below (by simp [Registration.userDataMap])
  unnamed := fun below => leaf?_registerNewUser form below (by simp [Registration.userDataMap])
  unknown := fun key _ below =>
    leaf?_registerNewUser form (key :: below) (by simp [Registration.userDataMap])

/-- The update at the rider's node stores the picture and none of the other keys. -/
theorem userProfile (law : TypedRecord writes record) (details : RiderDetails) :
    TypedRecord (writes ++ [.userProfile details]) (record.update [] details.userProfile) := by
  have same : ∀ key ∉ details.userProfile.map Prod.fst, ∀ below,
      (record.update [] details.userProfile).leaf? (key :: below) = record.leaf? (key :: below) :=
    fun key unwritten below => Tree.leaf?_update_of_unwritten [] unwritten record below
  have distinct : (details.userProfile.map Prod.fst).Nodup := by simp [RiderDetails.userProfile]
  constructor
  · apply law.names_of_same
    intro key listed
    apply same
    simp only [List.mem_cons, List.not_mem_nil, or_false] at listed
    rcases listed with rfl | rfl | rfl | rfl <;> simp [RiderDetails.userProfile]
  · exact law.vehicle_of_same _ (same _ (by simp [RiderDetails.userProfile]))
  · have listed : ("riderImageUrl", Scalar.text details.riderImageUrl) ∈ details.userProfile := by
      simp [RiderDetails.userProfile]
    exact .inr ⟨details, by simp, Tree.leaf?_update_of_mem [] distinct listed record⟩
  · intro below
    rw [same _ (by simp [RiderDetails.userProfile])]
    exact law.unnamed below
  · intro key listed below
    rw [same _ (by simp [RiderDetails.userProfile])]
    exact law.unknown key listed below

/-- The update of `car_details` stores the vehicle, but no colour under the key read. -/
theorem profileData (law : TypedRecord writes record) (details : RiderDetails) :
    TypedRecord (writes ++ [.profileData details])
      (record.update ["car_details"] details.profileData) := by
  have same : ∀ key, key ≠ "car_details" → ∀ below,
      (record.update ["car_details"] details.profileData).leaf? (key :: below) =
        record.leaf? (key :: below) := by
    intro key other below
    apply Tree.leaf?_update_of_apart
    intro child _
    exact (apart_cons "car_details" key [child.1] below).mpr (.inl other.symm)
  have distinct : (details.profileData.map Prod.fst).Nodup := by simp [RiderDetails.profileData]
  constructor
  · apply law.names_of_same
    intro key listed
    apply same
    rintro rfl
    simp at listed
  · refine .inr ⟨details, by simp, ?_⟩
    intro entry member
    exact Tree.leaf?_update_of_mem ["car_details"] distinct member record
  · exact law.picture_of_same _ (same _ (by decide))
  · intro below
    rw [same _ (by decide)]
    exact law.unnamed below
  · intro key listed below
    have unwritten : key ∉ details.profileData.map Prod.fst := by
      simp only [List.mem_cons, List.not_mem_nil, or_false] at listed
      rcases listed with rfl | rfl <;> simp [RiderDetails.profileData]
    have kept := Tree.leaf?_update_of_unwritten ["car_details"] unwritten record below
    exact kept.trans (law.unknown key listed below)

theorem apply (law : TypedRecord writes record) (write : RecordWrite) :
    TypedRecord (writes ++ [write]) (write.apply record) := by
  cases write with
  | registerNewUser form => exact registered writes form
  | userProfile details => exact law.userProfile details
  | profileData details => exact law.profileData details
  | remove =>
      rw [RecordWrite.apply, Tree.remove_nil]
      exact empty _

/-- The four texts of a registration are read as typed there, or are all missing. -/
private theorem names_read (law : TypedRecord writes record) :
    ∃ email firstname lastname phone,
      (record.read ["email"]).asString = some email ∧
      (record.read ["FirstName"]).asString = some firstname ∧
      (record.read ["LastName"]).asString = some lastname ∧
      (record.read ["phoneNumber"]).asString = some phone ∧
      ((firstname = none ∧ lastname = none ∧ email = none ∧ phone = none) ∨
        ∃ form, .registerNewUser form ∈ writes ∧ firstname = some (trim form.firstname) ∧
          lastname = some (trim form.lastname) ∧ email = some (trim form.email) ∧
          phone = some form.fullPhoneNumber) := by
  rcases law.names with unset | ⟨form, member, stored⟩
  · have missing : ∀ key ∈ ["email", "FirstName", "LastName", "phoneNumber"],
        record.read [key] = .null :=
      fun key listed => RiderRecord.read_of_unset (unset key listed)
    simp only [List.forall_mem_cons] at missing
    exact ⟨none, none, none, none, by simp [missing, MapValue.asString]⟩
  · have named : ∀ entry ∈ form.names, record.read [entry.1] = .scalar entry.2 :=
      fun entry listed => RiderRecord.read_of_leaf (stored entry listed)
    simp only [Registration.names, List.forall_mem_cons] at named
    refine ⟨_, _, _, _, by rw [named.1]; rfl, by rw [named.2.1]; rfl, by rw [named.2.2.1]; rfl,
      by rw [named.2.2.2.1]; rfl, .inr ⟨form, member, rfl, rfl, rfl, rfl⟩⟩

private theorem picture_read (law : TypedRecord writes record) :
    ∃ picture, (record.read ["riderImageUrl"]).asString = some picture ∧
      (picture = none ∨
        ∃ details, .userProfile details ∈ writes ∧ picture = some details.riderImageUrl) := by
  rcases law.picture with unset | ⟨details, member, stored⟩
  · have missing : record.read ["riderImageUrl"] = .null := RiderRecord.read_of_unset unset
    exact ⟨none, by simp [missing, MapValue.asString], .inl rfl⟩
  · have shown := RiderRecord.read_of_leaf stored
    exact ⟨_, by rw [shown]; rfl, .inr ⟨details, member, rfl⟩⟩

/-- A profile that loads is typed: before the vehicle is saved `fromMap` throws. -/
theorem load (law : TypedRecord writes record) {rider : RideR}
    (loads : record.load = some rider) : TypedProfile writes rider := by
  rw [RiderRecord.load] at loads
  split at loads
  · rcases law.vehicle with unset | ⟨details, member, stored⟩
    · have missing : record.read ["car_details"] = .null := RiderRecord.read_of_unset unset
      have throws : ∀ key, record.readBelow "car_details" key = none := by
        intro key
        rw [RiderRecord.readBelow, missing]
      simp [RideR.fromMap, throws] at loads
    · have saved : ∀ entry ∈ details.profileData,
          record.read ["car_details", entry.1] = .scalar entry.2 :=
        fun entry listed => RiderRecord.read_of_leaf (stored entry listed)
      have children : record.read ["car_details"] = .map :=
        RiderRecord.read_of_below (stored ("type", .text "bike")
          (by simp [RiderDetails.profileData]))
      have unnamed : record.read ["id"] = .null := RiderRecord.read_of_unset law.unnamed
      have unknown : ∀ key ∈ ["automobile_color", "GhanaCardNumber"],
          record.read ["car_details", key] = .null :=
        fun key listed => RiderRecord.read_of_unset (law.unknown key listed)
      obtain ⟨email, firstname, lastname, phone, first, second, third, fourth, names⟩ :=
        law.names_read
      obtain ⟨picture, shown, pictured⟩ := law.picture_read
      simp only [RiderDetails.profileData, List.forall_mem_cons] at saved unknown
      have null : MapValue.null.asString = some none := rfl
      have text : ∀ value, (MapValue.scalar (.text value)).asString = some (some value) :=
        fun _ => rfl
      have made : some rider = some
          { firstname, lastname, email, phone, automobileModel := some details.motorType,
            plateNumber := some details.licensePlateNumber, profilepicture := picture } := by
        rw [← loads]
        simp [RideR.fromMap, RiderRecord.readBelow, first, second, third, fourth, shown, children,
          saved, unnamed, unknown, null, text]
      cases made
      exact ⟨names, ⟨details, member, rfl, rfl⟩, pictured, rfl, rfl, rfl⟩
  · cases loads
  · cases loads

end TypedRecord

/-! ## All processes -/

/-- What the apps have stored of a rider's record. -/
def recordWrites {Device : Type} (uid : String) (stored : List (StoredWrite Device)) :
    List RecordWrite :=
  stored.filterMap fun
    | .byClient _ (.record owner write) => if owner = uid then some write else none
    | _ => none

theorem recordWrites_append {Device : Type} (uid : String)
    (before after : List (StoredWrite Device)) :
    recordWrites uid (before ++ after) = recordWrites uid before ++ recordWrites uid after :=
  List.filterMap_append ..

namespace RiderProcesses

variable {Device : Type} [DecidableEq Device] {before after : RiderProcesses Device}
  {history stored : List (StoredWrite Device)} {event : ProcessesEvent Device}
  {events : List (ProcessesEvent Device)} {store : RiderStore}

/-- Nobody but the apps writes the keys of a profile. -/
def Foreign : ProcessesEvent Device → Prop
  | .outside intrusion => intrusion.Foreign
  | _ => True

/-- An intrusion is apart from every key of a profile. -/
theorem leaf?_intrude {intrusion : RecordIntrusion} (foreign : intrusion.Foreign) (uid : String) :
    ∀ key ∈ profileKeys, ∀ below,
      ((store.intrude intrusion).records uid).leaf? (key :: below) =
        (store.records uid).leaf? (key :: below) := by
  intro key listed below
  obtain ⟨owner, path, value⟩ := intrusion
  cases path with
  | nil => exact foreign.elim
  | cons first rest =>
      have other : first ≠ key := by
        rintro rfl
        exact foreign listed
      by_cases same : uid = owner
      · subst owner
        simp only [RiderStore.intrude, Function.update_self]
        cases value with
        | some value => exact Tree.leaf?_set_of_apart _ _ ((apart_cons ..).mpr (.inl other))
        | none =>
            rw [Tree.leaf?_remove, if_neg]
            intro inside
            exact other (List.cons_prefix_cons.mp inside).1
      · simp only [RiderStore.intrude, Function.update_of_ne same]

theorem typedRecord_step
    (law : ∀ uid, TypedRecord (recordWrites uid history) (before.store.records uid))
    (foreign : Foreign event) (stepped : step before event = some (after, stored)) :
    ∀ uid, TypedRecord (recordWrites uid (history ++ stored)) (after.store.records uid) := by
  intro uid
  rw [recordWrites_append]
  cases Shared.moves_of_step stepped with
  | act answered reacts => exact (law uid).of_same _ fun _ _ _ => rfl
  | @deliver device write rest queued =>
      cases write with
      | request rideRequestId write => exact (law uid).of_same _ fun _ _ _ => rfl
      | record owner write =>
          by_cases same : uid = owner
          · subst owner
            have told : recordWrites uid [.byClient device (.record uid write)] = [write] := by
              simp [recordWrites]
            rw [told]
            simp only [RiderStore.apply, Function.update_self]
            exact (law uid).apply write
          · simp only [RiderStore.apply, Function.update_of_ne same]
            exact (law uid).of_same _ fun _ _ _ => rfl
  | outside => exact (law uid).of_same _ (leaf?_intrude foreign uid)

/-- Who a customer is told is coming, a rider typed: what is published of the driver is
nothing, or the texts of one rider's registration and saves, stored before; and no colour. -/
theorem driver_of_written (unregistered : ∀ uid, store.records uid = Tree.empty)
    (run : exec step (start store) events = some (after, stored))
    (foreign : ∀ event ∈ events, Foreign event) {device : Device} {rideRequestId : String}
    {write : RequestWrite} (written : .byClient device (.request rideRequestId write) ∈ stored) :
    ∃ earlier later user currentPosition driver,
      events = earlier ++
        .act device (.acceptRideRequest rideRequestId user currentPosition) :: later ∧
      write ∈ acceptRideRequest user driver currentPosition ∧
      ∀ rider ∈ driver, ∃ past rest middle early uid, earlier = past ++ rest ∧
        exec step (start store) past = some (middle, early) ∧
        AskedFor (actsOf device past) uid ∧ TypedProfile (recordWrites uid early) rider := by
  obtain ⟨earlier, later, user, currentPosition, rfl, issued, origin⟩ :=
    published_of_written run written
  refine ⟨earlier, later, user, currentPosition, _, rfl, issued, ?_⟩
  intro rider member
  obtain ⟨⟨uid, profile⟩, loads, rfl⟩ := Option.map_eq_some_iff.mp member
  obtain ⟨past, rest, middle, early, rfl, first, asked, loaded⟩ := origin uid profile loads
  have law : ∀ uid, TypedRecord (recordWrites uid early) (middle.store.records uid) := by
    apply exec_trace_invariant (fun _ history shared =>
      ∀ uid, TypedRecord (recordWrites uid history) (shared.store.records uid)) _ [] [] _ _ first
    · exact Foreign
    · intro past history before event after stored law foreign stepped
      exact typedRecord_step law foreign stepped
    · intro uid
      simp only [start, unregistered]
      exact .empty _
    · intro event member
      exact foreign event (by simp [member])
  exact ⟨past, rest, middle, early, uid, rfl, first, asked, (law uid).load loaded⟩

end RiderProcesses

theorem driver_sampleDriver :
    ∃ earlier later user currentPosition driver,
      sampleDriver = earlier ++
        .act () (.acceptRideRequest "request-1" user currentPosition) :: later ∧
      .carDetails (some "null ● Honda ● GT 1-24") ∈
        acceptRideRequest user driver currentPosition ∧
      ∀ rider ∈ driver, ∃ past rest middle early uid, earlier = past ++ rest ∧
        exec RiderProcesses.step (RiderProcesses.start emptyRiderStore) past =
          some (middle, early) ∧
        AskedFor (actsOf () past) uid ∧ TypedProfile (recordWrites uid early) rider := by
  have runs : (exec RiderProcesses.step (RiderProcesses.start emptyRiderStore)
      sampleDriver).map (fun result => decide (.byClient () (.request "request-1"
        (.carDetails (some "null ● Honda ● GT 1-24"))) ∈ result.2)) = some true := by
    decide +kernel
  obtain ⟨⟨after, stored⟩, run, written⟩ := Option.map_eq_some_iff.mp runs
  have foreign : ∀ event ∈ sampleDriver, RiderProcesses.Foreign event := by
    simp [sampleDriver, RiderProcesses.Foreign]
  exact RiderProcesses.driver_of_written (fun _ => rfl) run foreign (of_decide_eq_true written)

end FilldRider
