import FilldRider.Models.Profile
import FilldRider.Runs.Component

/-!
# Completing the profile

`_saveProfile` uploads the picked images and then updates the rider's node and its
`car_details` at once. The flag `detailsComp`, which decides the first route of the next
start, goes with the former update.
-/

set_option autoImplicit false

namespace FilldRider

open Runs Trees

/-- An image of the form, with what becomes of its upload. -/
inductive PickedImage where
  | none
  | uploaded (url : String)
  | failed
  deriving DecidableEq

/-- `none` when it throws. -/
def PickedImage.uploadImageToStorage : PickedImage → Option String
  | .none => some ""
  | .uploaded url => some url
  | .failed => .none

/-- A call of `_saveProfile`: the form, and which of the two updates succeed. -/
structure SaveCall where
  signedIn : Bool := true
  nextOfKin : String
  nextOfKinNum : String
  nextOfKinRelationship : String
  location : String
  motorType : String
  motorColor : String
  licensePlateNumber : String
  ghanaCardNumber : String
  riderImage : PickedImage := .none
  licenseImage : PickedImage := .none
  insuranceImage : PickedImage := .none
  ghanaCardImage : PickedImage := .none
  profileUpdated : Bool := true
  carDetailsUpdated : Bool := true

namespace SaveCall

/-- The image of the insurance is uploaded like the others and its address dropped. -/
def details (call : SaveCall) : Option RiderDetails := do
  let riderImageUrl ← call.riderImage.uploadImageToStorage
  let licenseImageUrl ← call.licenseImage.uploadImageToStorage
  let _ ← call.insuranceImage.uploadImageToStorage
  let ghanaCardUrl ← call.ghanaCardImage.uploadImageToStorage
  some
    { nextOfKin := call.nextOfKin, nextOfKinNum := call.nextOfKinNum,
      nextOfKinRelationship := call.nextOfKinRelationship, location := call.location,
      motorType := call.motorType, motorColor := call.motorColor,
      licensePlateNumber := call.licensePlateNumber, ghanaCardNumber := call.ghanaCardNumber,
      riderImageUrl, licenseImageUrl, ghanaCardUrl }

/-- The updates that succeed, with the path each one is made at. -/
def applied (call : SaveCall) (details : RiderDetails) :
    List (List String × List (String × Scalar)) :=
  (if call.profileUpdated then [([], details.userProfile)] else []) ++
    if call.carDetailsUpdated then [(["car_details"], details.profileData)] else []

/-- A call that completes emits what it saved. -/
def saveProfile : Component RiderRecord SaveCall RiderDetails
  | record, call =>
      match call.signedIn, call.details with
      | true, some details =>
          some ((call.applied details).foldl (fun record update => record.update update.1 update.2)
              record,
            if call.profileUpdated && call.carDetailsUpdated then [details] else [])
      | true, none | false, _ => some (record, [])

/-- Where the addresses of the images are stored. -/
def images (call : SaveCall) : List (List String × PickedImage) :=
  [(["riderImageUrl"], call.riderImage), (["car_details", "riderImageUrl"], call.riderImage),
    (["car_details", "riderLicense"], call.licenseImage),
    (["car_details", "ghanaCardUrl"], call.ghanaCardImage)]

end SaveCall

/-! ## The next start -/

inductive InitialRoute where
  | onboarding
  | main
  | riderdetails
  deriving DecidableEq

/-- `value as bool?`. -/
def MapValue.asBool : MapValue → Option (Option Bool)
  | .null => some none
  | .scalar (.flag value) => some (some value)
  | .scalar (.text _) | .scalar (.number _) | .map => none

/-- Whether somebody is signed in is asked before and after the record is read; `none`
when it throws. -/
def getInitialRoute (before after : Bool) (record : RiderRecord) : Option InitialRoute :=
  if before then
    (record.read ["detailsComp"]).asBool.map fun detailComp =>
      if after = false then .onboarding
      else if detailComp = some true then .main
      else .riderdetails
  else none

/-! ## One call -/

def RiderRecord.hasUrl (record : RiderRecord) (path : List String) : Bool :=
  match record.leaf? path with
  | some (.text url) => url ≠ ""
  | some (.flag _) | some (.number _) | none => false

/-- What a call does to the record. -/
inductive SaveMove (record : RiderRecord) (call : SaveCall) :
    RiderRecord → List RiderDetails → Prop where
  | kept (idle : call.signedIn = true → ∀ details ∈ call.details, call.applied details = []) :
      SaveMove record call record []
  | saved {details : RiderDetails} (signedIn : call.signedIn = true)
      (uploaded : call.details = some details)
      (both : call.profileUpdated = true ∧ call.carDetailsUpdated = true) :
      SaveMove record call (FilldRider.saveProfile record details) [details]
  | partly {details : RiderDetails} {update : List String × List (String × Scalar)}
      (signedIn : call.signedIn = true) (uploaded : call.details = some details)
      (one : ¬ (call.profileUpdated = true ∧ call.carDetailsUpdated = true))
      (applied : call.applied details = [update]) :
      SaveMove record call (record.update update.1 update.2) []

variable {record next : RiderRecord} {call : SaveCall} {completed history : List RiderDetails}

theorem saveMove_of_saveProfile
    (stepped : SaveCall.saveProfile record call = some (next, completed)) :
    SaveMove record call next completed := by
  rw [SaveCall.saveProfile] at stepped
  split at stepped
  · next details signedIn uploaded =>
    simp only [Option.some.injEq, Prod.mk.injEq] at stepped
    obtain ⟨rfl, rfl⟩ := stepped
    cases profile : call.profileUpdated <;> cases car : call.carDetailsUpdated
    · have applied : call.applied details = [] := by simp [SaveCall.applied, profile, car]
      simp only [applied, List.foldl_nil, Bool.and_self, Bool.false_eq_true, if_false]
      refine .kept ?_
      intro _ other same
      cases uploaded.symm.trans same
      exact applied
    · have applied : call.applied details = [(["car_details"], details.profileData)] := by
        simp [SaveCall.applied, profile, car]
      rw [applied]
      exact .partly signedIn uploaded (by simp [profile]) applied
    · have applied : call.applied details = [([], details.userProfile)] := by
        simp [SaveCall.applied, profile, car]
      rw [applied]
      exact .partly signedIn uploaded (by simp [car]) applied
    · have applied : call.applied details =
          [([], details.userProfile), (["car_details"], details.profileData)] := by
        simp [SaveCall.applied, profile, car]
      have saved : SaveMove record call (FilldRider.saveProfile record details) [details] :=
        .saved signedIn uploaded ⟨profile, car⟩
      rw [FilldRider.saveProfile] at saved
      simpa only [applied, List.foldl_cons, List.foldl_nil, Bool.and_self, if_true] using saved
  · next nothing =>
    simp only [Option.some.injEq, Prod.mk.injEq] at stepped
    obtain ⟨rfl, rfl⟩ := stepped
    refine .kept ?_
    intro _ details uploaded
    rw [nothing] at uploaded
    cases uploaded
  · next nobody =>
    simp only [Option.some.injEq, Prod.mk.injEq] at stepped
    obtain ⟨rfl, rfl⟩ := stepped
    refine .kept ?_
    intro signedIn
    rw [nobody] at signedIn
    cases signedIn

/-! ## All calls -/

/-- A record whose flag is set has the car details of a save that completed. -/
def CompleteProfile (completed : List RiderDetails) (record : RiderRecord) : Prop :=
  record.leaf? ["detailsComp"] = some (.flag true) →
    ∃ details ∈ completed, ∀ entry ∈ details.profileData,
      record.leaf? ["car_details", entry.1] = some entry.2

/-- A call that does not complete changes nothing, and no call takes away the address
of an image that was not picked for it. -/
def KeepsRecord (_ : List RiderDetails) (record : RiderRecord) (call : SaveCall) : Prop :=
  ∀ result ∈ call.saveProfile record,
    (result.2 = [] → ∀ path, result.1.leaf? path = record.leaf? path) ∧
      ∀ image ∈ call.images, image.2 = .none → record.hasUrl image.1 = true →
        result.1.leaf? image.1 = record.leaf? image.1

/-- No image without a new file has an address. -/
def NoneLost (record : RiderRecord) (call : SaveCall) : Prop :=
  ∀ image ∈ call.images, image.2 = .none → record.hasUrl image.1 = false

instance (record : RiderRecord) (call : SaveCall) : Decidable (NoneLost record call) :=
  inferInstanceAs (Decidable (∀ image ∈ call.images, _ → _))

/-- What the successful updates of a call write is there already. -/
def WritesNothing (record : RiderRecord) (call : SaveCall) (details : RiderDetails) : Prop :=
  ∀ update ∈ call.applied details, ∀ child ∈ update.2,
    record.leaf? (update.1 ++ [child.1]) = some child.2

instance (record : RiderRecord) (call : SaveCall) (details : RiderDetails) :
    Decidable (WritesNothing record call details) :=
  inferInstanceAs (Decidable (∀ update ∈ call.applied details, ∀ child ∈ update.2, _ = _))

/-- Of the two updates both succeed and lose no image, or none changes anything. -/
def SavesWhole (_ : List RiderDetails) (record : RiderRecord) (call : SaveCall) : Prop :=
  call.signedIn = true → ∀ details ∈ call.details,
    if call.profileUpdated = true ∧ call.carDetailsUpdated = true then NoneLost record call
    else WritesNothing record call details

instance (history : List RiderDetails) (record : RiderRecord) (call : SaveCall) :
    Decidable (SavesWhole history record call) :=
  inferInstanceAs (Decidable (_ → ∀ details ∈ call.details, ite _ _ _))

theorem distinct_of_applied {details : RiderDetails}
    {update : List String × List (String × Scalar)} (applied : update ∈ call.applied details) :
    (update.2.map Prod.fst).Nodup := by
  rw [SaveCall.applied, List.mem_append] at applied
  rcases applied with profile | car
  · split at profile
    · cases List.mem_singleton.mp profile
      simp [RiderDetails.userProfile]
    · cases profile
  · split at car
    · cases List.mem_singleton.mp car
      simp [RiderDetails.profileData]
    · cases car

theorem url_of_unpicked {image : PickedImage} {url : String} (unpicked : image = .none)
    (uploaded : image.uploadImageToStorage = some url) : url = "" := by
  subst unpicked
  cases uploaded
  rfl

/-- A completed save stores an empty address for every image that was not picked. -/
theorem image_of_saved {details : RiderDetails} (uploaded : call.details = some details) :
    ∀ image ∈ call.images, image.2 = .none →
      (saveProfile record details).leaf? image.1 = some (.text "") := by
  have car := profileData_of_saveProfile details record
  have rider := riderImageUrl_of_saveProfile details record
  simp only [RiderDetails.profileData, List.forall_mem_cons] at car
  simp only [SaveCall.details, Option.bind_eq_bind, Option.bind_eq_some_iff] at uploaded
  obtain ⟨riderImage, first, license, second, insurance, _, card, third, made⟩ := uploaded
  cases made
  intro image member unpicked
  simp only [SaveCall.images, List.mem_cons, List.not_mem_nil, or_false] at member
  rcases member with rfl | rfl | rfl | rfl
  · rw [← url_of_unpicked unpicked first]
    exact rider
  · rw [← url_of_unpicked unpicked first]
    exact car.1
  · rw [← url_of_unpicked unpicked second]
    exact car.2.1
  · rw [← url_of_unpicked unpicked third]
    exact car.2.2.1

/-- Reading a record sees only its leaves. -/
theorem CompleteProfile.of_same (complete : CompleteProfile history record)
    (same : ∀ path, next.leaf? path = record.leaf? path) : CompleteProfile history next := by
  intro flagged
  rw [same] at flagged
  obtain ⟨details, member, stored⟩ := complete flagged
  refine ⟨details, member, ?_⟩
  intro entry written
  rw [same]
  exact stored entry written

theorem ne_of_hasUrl {path : List String} (url : record.hasUrl path = true) :
    record.leaf? path ≠ some (.text "") := by
  intro empty
  simp [RiderRecord.hasUrl, empty] at url

/-- A call that saves whole keeps the profile complete and loses nothing. -/
theorem keeps_of_savesWhole (complete : CompleteProfile history record)
    (whole : SavesWhole history record call)
    (stepped : SaveCall.saveProfile record call = some (next, completed)) :
    CompleteProfile (history ++ completed) next ∧ KeepsRecord history record call := by
  have moves := saveMove_of_saveProfile stepped
  rw [KeepsRecord, stepped]
  simp only [Option.mem_def, Option.some.injEq, forall_eq']
  cases moves with
  | kept =>
      refine ⟨?_, fun _ path => rfl, fun image _ _ _ => rfl⟩
      rw [List.append_nil]
      exact complete
  | @saved details signedIn uploaded both =>
      have none := whole signedIn details uploaded
      rw [if_pos both] at none
      refine ⟨?_, by simp, ?_⟩
      · intro _
        exact ⟨details, List.mem_append_right _ (List.mem_singleton_self _),
          profileData_of_saveProfile details record⟩
      · intro image member unpicked url
        rw [none image member unpicked] at url
        cases url
  | @partly details update signedIn uploaded one applied =>
      have stored := whole signedIn details uploaded
      rw [if_neg one] at stored
      have same : ∀ path, (record.update update.1 update.2).leaf? path = record.leaf? path :=
        Tree.leaf?_update_of_stored (stored update (by simp [applied]))
      refine ⟨?_, fun _ => same, fun image _ _ _ => same image.1⟩
      rw [List.append_nil]
      exact complete.of_same same

/-- A call that loses nothing saves whole. -/
theorem savesWhole_of_keeps
    (stepped : SaveCall.saveProfile record call = some (next, completed))
    (keeps : KeepsRecord history record call) : SavesWhole history record call := by
  obtain ⟨unchanged, images⟩ := keeps _ stepped
  intro signedIn details uploaded
  cases saveMove_of_saveProfile stepped with
  | kept idle =>
      have nothing := idle signedIn details uploaded
      split
      · next both => simp [SaveCall.applied, both] at nothing
      · simp [WritesNothing, nothing]
  | @saved saved _ uploads both =>
      cases uploads.symm.trans uploaded
      rw [if_pos both]
      intro image member unpicked
      rw [Bool.eq_false_iff]
      intro url
      have kept := images image member unpicked url
      rw [image_of_saved uploads image member unpicked] at kept
      exact ne_of_hasUrl url kept.symm
  | @partly saved update _ uploads one applied =>
      cases uploads.symm.trans uploaded
      rw [if_neg one]
      intro other member child written
      have single : update ∈ call.applied details := by simp [applied]
      rw [applied, List.mem_singleton] at member
      subst member
      rw [← unchanged rfl]
      exact Tree.leaf?_update_of_mem other.1 (distinct_of_applied single) written record

/-- After a sign-up the profile is completed atomically exactly by saves that are whole. -/
theorem completeProfile_iff_savesWhole {form : Registration} {calls : List SaveCall}
    (run : exec SaveCall.saveProfile (registerNewUser form) calls = some (record, completed)) :
    Always SaveCall.saveProfile CompleteProfile [] (registerNewUser form) calls ∧
        Meets SaveCall.saveProfile KeepsRecord [] (registerNewUser form) calls ↔
      Meets SaveCall.saveProfile SavesWhole [] (registerNewUser form) calls := by
  have all : ∀ call ∈ calls, True := fun _ _ => trivial
  apply always_meets_iff_meets CompleteProfile CompleteProfile _ _ _ _ _ all run
  · intro history record complete
    exact complete
  · intro history record call next completed complete _ whole stepped
    exact (keeps_of_savesWhole complete whole stepped).1
  · intro history record call next completed complete _ whole stepped
    exact (keeps_of_savesWhole complete whole stepped).2
  · intro history record call next completed _ _ stepped _ keeps
    exact savesWhole_of_keeps stepped keeps
  · intro flagged
    have written : ("detailsComp", Scalar.flag false) ∈ form.userDataMap := by
      simp [Registration.userDataMap]
    rw [userDataMap_of_registerNewUser form _ written] at flagged
    cases flagged

def sampleSaveCall : SaveCall :=
  { nextOfKin := "Yaw", nextOfKinNum := "+233240000001", nextOfKinRelationship := "Brother",
    location := "Accra", motorType := "Honda", motorColor := "red",
    licensePlateNumber := "GT 1-24", ghanaCardNumber := "GHA-1",
    riderImage := .uploaded "storage/rider", licenseImage := .uploaded "storage/license",
    ghanaCardImage := .uploaded "storage/card" }

/-- An upload fails, the retry completes, and the form is saved again with the images. -/
def sampleSaveCalls : List SaveCall :=
  [{ sampleSaveCall with insuranceImage := .failed }, sampleSaveCall,
    { sampleSaveCall with motorColor := "blue" }]

theorem completeProfile_sampleSaveCalls :
    ∃ record completed,
      exec SaveCall.saveProfile (registerNewUser sampleRegistration) sampleSaveCalls =
        some (record, completed) ∧
      getInitialRoute true true record = some .main ∧
      Always SaveCall.saveProfile CompleteProfile [] (registerNewUser sampleRegistration)
        sampleSaveCalls ∧
      Meets SaveCall.saveProfile KeepsRecord [] (registerNewUser sampleRegistration)
        sampleSaveCalls := by
  have ends : (exec SaveCall.saveProfile (registerNewUser sampleRegistration)
      sampleSaveCalls).map (fun result => getInitialRoute true true result.1) =
        some (some .main) := by
    decide +kernel
  obtain ⟨⟨record, completed⟩, run, main⟩ := Option.map_eq_some_iff.mp ends
  have whole : Meets SaveCall.saveProfile SavesWhole [] (registerNewUser sampleRegistration)
      sampleSaveCalls := by
    decide +kernel
  obtain ⟨always, keeps⟩ := (completeProfile_iff_savesWhole run).mpr whole
  exact ⟨record, completed, run, main, always, keeps⟩

/-- The flag is set by an update whose sibling fails; and a save without new images
empties the addresses of the old ones. -/
theorem not_completeProfile_of_failure :
    (¬ ∀ (form : Registration) (calls : List SaveCall) (record : RiderRecord)
        (completed : List RiderDetails),
      exec SaveCall.saveProfile (registerNewUser form) calls = some (record, completed) →
      Always SaveCall.saveProfile CompleteProfile [] (registerNewUser form) calls) ∧
    ¬ ∀ (form : Registration) (calls : List SaveCall) (record : RiderRecord)
        (completed : List RiderDetails),
      exec SaveCall.saveProfile (registerNewUser form) calls = some (record, completed) →
      Meets SaveCall.saveProfile KeepsRecord [] (registerNewUser form) calls := by
  constructor
  · intro always
    have ends : (exec SaveCall.saveProfile (registerNewUser sampleRegistration)
        [{ sampleSaveCall with carDetailsUpdated := false }]).map (fun result =>
          (result.1.leaf? ["detailsComp"], result.2.length)) = some (some (.flag true), 0) := by
      decide +kernel
    obtain ⟨⟨record, completed⟩, run, left⟩ := Option.map_eq_some_iff.mp ends
    simp only [Prod.mk.injEq, List.length_eq_zero_iff] at left
    obtain ⟨details, member, _⟩ := (always _ _ _ _ run).last run left.1
    rw [left.2] at member
    cases member
  · intro always
    have first : (SaveCall.saveProfile (registerNewUser sampleRegistration)
        sampleSaveCall).map (fun result => result.1.leaf? ["riderImageUrl"]) =
          some (some (.text "storage/rider")) := by
      decide +kernel
    have ends : (exec SaveCall.saveProfile (registerNewUser sampleRegistration)
        [sampleSaveCall, { sampleSaveCall with riderImage := .none }]).map (fun result =>
          result.1.leaf? ["riderImageUrl"]) = some (some (.text "")) := by
      decide +kernel
    obtain ⟨⟨record, completed⟩, run, emptied⟩ := Option.map_eq_some_iff.mp ends
    have meets := always _ _ _ _ run
    obtain ⟨middle, now, later, stepped, continued, -⟩ := exec_cons_eq_some.mp run
    rw [stepped, Option.map_some, Option.some.injEq] at first
    simp only [Meets, stepped] at meets
    have kept := (meets.2.1 _ (exec_singleton_eq_some.mp continued)).2
      (["riderImageUrl"], .none) (by simp [SaveCall.images]) rfl
      (by simp [RiderRecord.hasUrl, first])
    rw [first, emptied] at kept
    exact absurd kept (by decide)

end FilldRider
