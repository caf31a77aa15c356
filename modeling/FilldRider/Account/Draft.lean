import FilldRider.Models.Profile
import FilldRider.Runs.Component

/-!
# The draft of a profile

`Riderdetails` keeps its texts in the preferences of the device, under the same keys for
every rider, and loads them when it is opened. The text fields do not show what was
loaded, and nothing ever clears it.
-/

set_option autoImplicit false

namespace FilldRider

open Runs Trees

/-- The fields with a key in the preferences. -/
inductive DraftField where
  | motorType
  | motorColor
  | nextOfKin
  | nextOfKinNum
  | nextOfKinRelationship
  | licensePlateNumber
  | ghanaCardNumber
  | location
  deriving DecidableEq

/-- Where a profile stores a field. -/
def DraftField.path : DraftField → List String
  | .motorType => ["car_details", "motorBrand"]
  | .motorColor => ["car_details", "motorColor"]
  | .nextOfKin => ["NextofKinName"]
  | .nextOfKinNum => ["NextofKinNumber"]
  | .nextOfKinRelationship => ["NextofKinRelationship"]
  | .licensePlateNumber => ["car_details", "licensePlateNumber"]
  | .ghanaCardNumber => ["car_details", "ghanaCardNumber"]
  | .location => ["location"]

/-- The addresses of the uploaded images. -/
structure ImageUrls where
  riderImageUrl : String := ""
  licenseImageUrl : String := ""
  ghanaCardUrl : String := ""

/-- The fields of a screen in the maps of `_saveProfile`. -/
def profileOf (texts : DraftField → String) (images : ImageUrls) : RiderDetails where
  nextOfKin := texts .nextOfKin
  nextOfKinNum := texts .nextOfKinNum
  nextOfKinRelationship := texts .nextOfKinRelationship
  location := texts .location
  motorType := texts .motorType
  motorColor := texts .motorColor
  licensePlateNumber := texts .licensePlateNumber
  ghanaCardNumber := texts .ghanaCardNumber
  riderImageUrl := images.riderImageUrl
  licenseImageUrl := images.licenseImageUrl
  ghanaCardUrl := images.ghanaCardUrl

structure DetailsScreen where
  texts : DraftField → String := fun _ => ""
  mounted : Bool := true
  /-- `_loadSavedData` waits for the preferences. -/
  loading : Bool := true
  /-- Calls of `_saveDataLocally` that wait for the preferences. -/
  saving : ℕ := 0

/-- A device with the screens opened on it so far, and the riders' records. -/
structure DraftDevice (Rider : Type) where
  prefs : DraftField → Option String := fun _ => none
  currentUser : Option Rider := none
  screens : List DetailsScreen := []
  records : Rider → RiderRecord := fun _ => Tree.empty

inductive DraftEvent (Rider : Type) where
  | registered (rider : Rider)
  | loadSavedData (screen : ℕ)
  | changed (screen : ℕ) (field : DraftField) (text : String)
  | imagePicked (screen : ℕ)
  | saveDataLocally (screen : ℕ)
  | saveProfile (screen : ℕ) (images : ImageUrls)
  | left (screen : ℕ)

/-- Who typed a text into a field of a screen, and what a screen loaded. -/
inductive DraftAction (Rider : Type) where
  | typed (rider : Option Rider) (screen : ℕ) (field : DraftField) (text : String)
  | loaded (screen : ℕ) (draft : DraftField → String)

variable {Rider : Type} [DecidableEq Rider]

namespace DraftDevice

def setScreen (device : DraftDevice Rider) (index : ℕ) (screen : DetailsScreen) :
    DraftDevice Rider :=
  { device with screens := device.screens.set index screen }

def draft (device : DraftDevice Rider) (field : DraftField) : String :=
  (device.prefs field).getD ""

def onScreen (device : DraftDevice Rider) (index : ℕ) (screen : DetailsScreen) :
    DraftEvent Rider → Option (DraftDevice Rider × List (DraftAction Rider))
  | .registered _ => none
  | .loadSavedData _ =>
      if screen.loading then
        if screen.mounted then
          some (device.setScreen index { screen with texts := device.draft, loading := false },
            [.loaded index device.draft])
        else some (device.setScreen index { screen with loading := false }, [])
      else none
  | .changed _ field text =>
      if screen.mounted then
        some (device.setScreen index
          { screen with
            texts := Function.update screen.texts field text
            saving := screen.saving + 1 },
          [.typed device.currentUser index field text])
      else none
  -- the picker's callback saves, and `_pickImage` saves again
  | .imagePicked _ =>
      if screen.mounted then
        some (device.setScreen index { screen with saving := screen.saving + 2 }, [])
      else none
  | .saveDataLocally _ =>
      if 0 < screen.saving then
        some ({ device.setScreen index { screen with saving := screen.saving - 1 } with
          prefs := fun field => some (screen.texts field) }, [])
      else none
  | .saveProfile _ images =>
      match device.currentUser with
      | none => some (device, [])
      | some rider =>
          some ({ device with
            records := Function.update device.records rider
              (FilldRider.saveProfile (device.records rider) (profileOf screen.texts images)) },
            [])
  | .left _ => some (device.setScreen index { screen with mounted := false }, [])

def target : DraftEvent Rider → ℕ
  | .registered _ => 0
  | .loadSavedData screen | .changed screen .. | .imagePicked screen | .saveDataLocally screen
  | .saveProfile screen _ | .left screen => screen

/-- Registering signs the rider in and opens the screen. -/
def step (device : DraftDevice Rider) :
    DraftEvent Rider → Option (DraftDevice Rider × List (DraftAction Rider))
  | .registered rider =>
      some ({ device with currentUser := some rider, screens := device.screens ++ [{}] }, [])
  | event =>
      match device.screens[target event]? with
      | none => none
      | some screen => device.onScreen (target event) screen event

def component : Component (DraftDevice Rider) (DraftEvent Rider) (DraftAction Rider) := step

end DraftDevice

/-! ## What a field was given -/

/-- How a field of a screen got a text: typed into it, or with the draft. -/
inductive Assignment where
  | typed (text : String)
  | drafted (text : String)
  deriving DecidableEq

def Assignment.text : Assignment → String
  | .typed text | .drafted text => text

def Assignment.typed? : Assignment → Option String
  | .typed text => some text
  | .drafted _ => none

def DraftAction.assignment? (screen : ℕ) (field : DraftField) :
    DraftAction Rider → Option Assignment
  | .typed _ other edited text =>
      if other = screen ∧ edited = field then some (.typed text) else none
  | .loaded other draft => if other = screen then some (.drafted (draft field)) else none

def assignments (history : List (DraftAction Rider)) (screen : ℕ) (field : DraftField) :
    List Assignment :=
  history.filterMap (DraftAction.assignment? screen field)

/-- The text a field was given last. -/
def lastText (history : List (DraftAction Rider)) (screen : ℕ) (field : DraftField) : String :=
  ((assignments history screen field).getLast?.map Assignment.text).getD ""

/-- What the text field shows: the text typed into it last. -/
def shown (history : List (DraftAction Rider)) (screen : ℕ) (field : DraftField) : String :=
  ((assignments history screen field).filterMap Assignment.typed?).getLast?.getD ""

/-- The rider typed this text into the field, on some screen. -/
def Entered (history : List (DraftAction Rider)) (rider : Rider) (field : DraftField)
    (text : String) : Prop :=
  ∃ screen, .typed (some rider) screen field text ∈ history

/-- A record holds, in the fields of the form, only what the rider entered there, and
nothing in the fields that are blank on the screen. -/
def OwnProfile (history : List (DraftAction Rider)) (screen : ℕ) (rider : Rider)
    (record : RiderRecord) : Prop :=
  ∀ field text, record.leaf? field.path = some (.text text) →
    (shown history screen field = "" → text = "") ∧
      (text = "" ∨ Entered history rider field text)

def StoresOwn (history : List (DraftAction Rider)) (device : DraftDevice Rider) :
    DraftEvent Rider → Prop
  | .saveProfile screen images =>
      ∀ rider ∈ device.currentUser, ∀ result ∈ device.step (.saveProfile screen images),
        OwnProfile history screen rider (result.1.records rider)
  | _ => True

/-- When a profile is saved, a field that got its text last with the draft got a blank
one, or one the rider had entered into it before and that the field does not hide; and
a text typed last was typed by that rider. -/
def DraftsOwn (history : List (DraftAction Rider)) (device : DraftDevice Rider) :
    DraftEvent Rider → Prop
  | .saveProfile screen _ =>
      ∀ rider ∈ device.currentUser, (device.screens[screen]?).isSome = true → ∀ field,
        match (assignments history screen field).getLast? with
        | none => True
        | some (.typed text) => text = "" ∨ Entered history rider field text
        | some (.drafted text) =>
            text = "" ∨ shown history screen field ≠ "" ∧ Entered history rider field text
  | _ => True

/-- A screen holds what its fields were given last; a screen not opened yet was given
nothing. -/
structure Remembers (history : List (DraftAction Rider)) (device : DraftDevice Rider) :
    Prop where
  texts : ∀ index screen, device.screens[index]? = some screen → ∀ field,
    screen.texts field = lastText history index field
  unopened : ∀ index, device.screens.length ≤ index → ∀ field, assignments history index field = []

section Assignments

omit [DecidableEq Rider]

variable {history emitted : List (DraftAction Rider)} {screen : ℕ} {field : DraftField}
  {text : String}

@[simp] theorem assignments_append (before after : List (DraftAction Rider)) (screen : ℕ)
    (field : DraftField) :
    assignments (before ++ after) screen field =
      assignments before screen field ++ assignments after screen field :=
  List.filterMap_append ..

theorem assignments_typed (rider : Option Rider) (index screen : ℕ) (edited field : DraftField)
    (text : String) :
    assignments [DraftAction.typed rider index edited text] screen field =
      if index = screen ∧ edited = field then [.typed text] else [] := by
  by_cases same : index = screen ∧ edited = field <;>
    simp [assignments, DraftAction.assignment?, same]

theorem assignments_loaded (index screen : ℕ) (draft : DraftField → String)
    (field : DraftField) :
    assignments ([.loaded index draft] : List (DraftAction Rider)) screen field =
      if index = screen then [.drafted (draft field)] else [] := by
  by_cases same : index = screen <;> simp [assignments, DraftAction.assignment?, same]

theorem lastText_of_last {assignment : Assignment}
    (last : (assignments history screen field).getLast? = some assignment) :
    lastText history screen field = assignment.text := by
  rw [lastText, last]
  rfl

/-- What was typed last is what the field shows. -/
theorem shown_of_typed
    (last : (assignments history screen field).getLast? = some (.typed text)) :
    shown history screen field = text := by
  obtain ⟨earlier, split⟩ := List.getLast?_eq_some_iff.mp last
  rw [shown, split, List.filterMap_append]
  simp [Assignment.typed?]

theorem lastText_of_none (last : (assignments history screen field).getLast? = none) :
    lastText history screen field = "" := by
  rw [lastText, last]
  rfl

end Assignments

variable {history emitted : List (DraftAction Rider)} {device next : DraftDevice Rider}
  {event : DraftEvent Rider}

/-! ## What the screens remember -/

omit [DecidableEq Rider] in
theorem Remembers.set (remembers : Remembers history device) {index : ℕ}
    {screen after : DetailsScreen} (found : device.screens[index]? = some screen)
    (screens : next.screens = device.screens.set index after)
    (texts : ∀ field, after.texts field = lastText (history ++ emitted) index field)
    (elsewhere : ∀ other, other ≠ index → ∀ field, assignments emitted other field = []) :
    Remembers (history ++ emitted) next where
  texts other shownScreen here field := by
    rw [screens] at here
    by_cases same : other = index
    · subst same
      obtain ⟨inside, _⟩ := List.getElem?_eq_some_iff.mp found
      rw [List.getElem?_set_self inside] at here
      cases here
      exact texts field
    · rw [List.getElem?_set_ne (Ne.symm same)] at here
      rw [remembers.texts other shownScreen here field, lastText, lastText, assignments_append,
        elsewhere other same field, List.append_nil]
  unopened other beyond field := by
    rw [screens, List.length_set] at beyond
    have different : other ≠ index := by
      obtain ⟨inside, _⟩ := List.getElem?_eq_some_iff.mp found
      omega
    rw [assignments_append, elsewhere other different field, List.append_nil]
    exact remembers.unopened other beyond field

omit [DecidableEq Rider] in
/-- A screen whose fields are left alone. -/
theorem Remembers.keep (remembers : Remembers history device) {index : ℕ}
    {screen after : DetailsScreen} (found : device.screens[index]? = some screen)
    (screens : next.screens = device.screens.set index after)
    (same : after.texts = screen.texts) : Remembers (history ++ []) next := by
  refine remembers.set found screens ?_ fun _ _ _ => rfl
  intro field
  rw [same, List.append_nil]
  exact remembers.texts index screen found field

omit [DecidableEq Rider] in
theorem Remembers.opened (remembers : Remembers history device)
    (screens : next.screens = device.screens ++ [({} : DetailsScreen)]) :
    Remembers (history ++ []) next where
  texts index screen here field := by
    rw [screens] at here
    rw [List.append_nil]
    rcases Nat.lt_or_ge index device.screens.length with inside | beyond
    · rw [List.getElem?_append_left inside] at here
      exact remembers.texts index screen here field
    · rw [List.getElem?_append_right beyond] at here
      obtain ⟨_, rfl⟩ := List.getElem?_eq_some_iff.mp here
      rw [lastText, remembers.unopened index beyond field]
      simp
  unopened index beyond field := by
    rw [screens, List.length_append, List.length_singleton] at beyond
    rw [List.append_nil]
    exact remembers.unopened index (by omega) field

theorem Remembers.onScreen (remembers : Remembers history device) {screen : DetailsScreen}
    (found : device.screens[DraftDevice.target event]? = some screen)
    (stepped : device.onScreen (DraftDevice.target event) screen event = some (next, emitted)) :
    Remembers (history ++ emitted) next := by
  cases event with
  | registered rider => cases stepped
  | loadSavedData index =>
      simp only [DraftDevice.onScreen] at stepped
      split at stepped
      · split at stepped
        · cases stepped
          refine remembers.set found rfl ?_ ?_
          · intro field
            simp [lastText, assignments_loaded, DraftDevice.target, Assignment.text]
          · intro other different field
            rw [assignments_loaded, if_neg (Ne.symm different)]
        · cases stepped
          exact remembers.keep found rfl rfl
      · cases stepped
  | changed index field text =>
      simp only [DraftDevice.onScreen] at stepped
      split at stepped
      · cases stepped
        refine remembers.set found rfl ?_ ?_
        · intro other
          by_cases same : other = field
          · subst same
            simp [lastText, assignments_typed, DraftDevice.target, Assignment.text]
          · have before := remembers.texts _ screen found other
            rw [lastText] at before ⊢
            rw [assignments_append, assignments_typed, if_neg fun both => same both.2.symm,
              List.append_nil, ← before]
            exact Function.update_of_ne same ..
        · intro other different edited
          rw [assignments_typed, if_neg fun both => different both.1.symm]
      · cases stepped
  | imagePicked index =>
      simp only [DraftDevice.onScreen] at stepped
      split at stepped
      · cases stepped
        exact remembers.keep found rfl rfl
      · cases stepped
  | saveDataLocally index =>
      simp only [DraftDevice.onScreen] at stepped
      split at stepped
      · cases stepped
        exact remembers.keep found rfl rfl
      · cases stepped
  | saveProfile index images =>
      have kept : device.screens = device.screens.set index screen := by
        obtain ⟨inside, rfl⟩ := List.getElem?_eq_some_iff.mp found
        exact (List.set_getElem_self inside).symm
      simp only [DraftDevice.onScreen] at stepped
      split at stepped <;> cases stepped
      · exact remembers.keep found kept rfl
      · exact remembers.keep found kept rfl
  | left index =>
      cases stepped
      exact remembers.keep found rfl rfl

theorem Remembers.step (remembers : Remembers history device)
    (stepped : device.step event = some (next, emitted)) :
    Remembers (history ++ emitted) next := by
  cases event with
  | registered rider =>
      cases stepped
      exact remembers.opened rfl
  | loadSavedData | changed | imagePicked | saveDataLocally | saveProfile | left =>
      simp only [DraftDevice.step] at stepped
      split at stepped
      · cases stepped
      · next screen found => exact remembers.onScreen found stepped

/-! ## What is stored -/

theorem leaf?_of_saveProfile (record : RiderRecord) (texts : DraftField → String)
    (images : ImageUrls) (field : DraftField) :
    (saveProfile record (profileOf texts images)).leaf? field.path = some (.text (texts field)) := by
  have profile := userProfile_of_saveProfile (profileOf texts images) record
  have car := profileData_of_saveProfile (profileOf texts images) record
  simp only [RiderDetails.userProfile, RiderDetails.profileData, List.forall_mem_cons] at profile car
  cases field with
  | motorType => exact car.2.2.2.2.2.1
  | motorColor => exact car.2.2.2.1
  | nextOfKin => exact profile.1
  | nextOfKinNum => exact profile.2.1
  | nextOfKinRelationship => exact profile.2.2.1
  | licensePlateNumber => exact car.2.2.2.2.2.2.1
  | ghanaCardNumber => exact car.2.2.2.2.2.2.2.1
  | location => exact profile.2.2.2.1

theorem storesOwn_iff_step (remembers : Remembers history device) :
    StoresOwn history device event ↔ DraftsOwn history device event := by
  cases event with
  | saveProfile index images =>
      unfold StoresOwn DraftsOwn
      refine forall₂_congr fun rider signedIn => ?_
      cases found : device.screens[index]? with
      | none => simp [DraftDevice.step, DraftDevice.target, found]
      | some screen =>
          have stored : device.step (.saveProfile index images) = some ({ device with
              records := Function.update device.records rider
                (saveProfile (device.records rider) (profileOf screen.texts images)) }, []) := by
            simp [DraftDevice.step, DraftDevice.target, found, DraftDevice.onScreen,
              Option.mem_def.mp signedIn]
          simp only [stored, Option.mem_def, Option.some.injEq, forall_eq', Option.isSome_some,
            true_implies, OwnProfile, Function.update_self, leaf?_of_saveProfile,
            Scalar.text.injEq, remembers.texts index screen found]
          refine forall_congr' fun field => ?_
          cases last : (assignments history index field).getLast? with
          | none => simp [lastText_of_none last]
          | some assignment =>
              rw [lastText_of_last last]
              cases assignment with
              | typed text =>
                  rw [shown_of_typed last]
                  exact and_iff_right id
              | drafted text =>
                  simp only [Assignment.text]
                  tauto
  | _ => exact Iff.rfl

/-- Every profile saved on a device is the rider's own exactly in runs in which the
drafts it is made of are. -/
theorem storesOwn_iff_draftsOwn (events : List (DraftEvent Rider)) :
    Meets DraftDevice.component StoresOwn [] {} events ↔
      Meets DraftDevice.component DraftsOwn [] {} events := by
  apply meets_iff_meets_of_law Remembers
  · intro history device event next emitted remembers stepped
    exact remembers.step stepped
  · intro history device event remembers
    exact storesOwn_iff_step remembers
  · exact ⟨fun index screen here => by simp at here, fun _ _ _ => rfl⟩

/-- One rider types a motor type, and the next one leaves the field blank. -/
def sampleDrafts : List (DraftEvent Bool) :=
  [.registered false, .loadSavedData 0, .changed 0 .motorType "Honda", .saveDataLocally 0,
    .saveProfile 0 {}, .left 0, .registered true, .loadSavedData 1,
    .changed 1 .motorColor "red", .saveDataLocally 1]

/-- The second profile has the first rider's motor type. -/
theorem not_storesOwn_sampleDrafts :
    ¬ ∀ events : List (DraftEvent Bool), Meets DraftDevice.component StoresOwn [] {} events := by
  intro stores
  have ends : (exec DraftDevice.component {} sampleDrafts).map (fun result =>
      (result.1.currentUser, shown result.2 1 .motorType,
        (result.1.step (.saveProfile 1 {})).map fun last =>
          (last.1.records true).leaf? DraftField.motorType.path)) =
        some (some true, "", some (some (.text "Honda"))) := by
    decide +kernel
  obtain ⟨⟨device, history⟩, run, seen⟩ := Option.map_eq_some_iff.mp ends
  obtain ⟨signedIn, blank, saved⟩ : device.currentUser = some true ∧
      shown history 1 .motorType = "" ∧
      (device.step (.saveProfile 1 {})).map (fun last =>
        (last.1.records true).leaf? DraftField.motorType.path) =
          some (some (.text "Honda")) := by
    simpa only [Prod.mk.injEq] using seen
  obtain ⟨result, stepped, leaf⟩ := Option.map_eq_some_iff.mp saved
  have own := (stores (sampleDrafts ++ [.saveProfile 1 {}])).of_append run true signedIn result
    stepped .motorType "Honda" leaf
  exact absurd (own.1 blank) (by decide)

end FilldRider
