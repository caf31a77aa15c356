import FilldRider.Account.Completion
import FilldRider.Runs.Clients

/-!
# The profile in the provider

`getCurrentOnlineUserInfo` reads the record of the rider signed in when it is called, and
reads it again before it hands the profile to the provider. The provider belongs to the
process: it outlives the rider, and whoever accepts a request publishes from it.
-/

set_option autoImplicit false

namespace FilldRider

open Runs Trees

inductive InfoRead where
  /-- Whether there is a record. -/
  | snapshot
  /-- The record itself. -/
  | profile
  deriving DecidableEq

/-- One process: who is signed in, the provider, the reads of `getCurrentOnlineUserInfo`
that are not answered, and for whom `_saveProfile` still uploads images. -/
structure RiderProcess where
  currentUser : Option String := none
  riderInfo : Option RideR := none
  reads : List (String × InfoRead) := []
  uploads : List String := []
  deriving DecidableEq

deriving instance DecidableEq for Registration, RiderDetails

/-- The writes of the app to `Riders/<uid>` that a profile is read from. -/
inductive RecordWrite where
  | registerNewUser (form : Registration)
  | userProfile (details : RiderDetails)
  | profileData (details : RiderDetails)
  | remove
  deriving DecidableEq

def RecordWrite.apply (record : RiderRecord) : RecordWrite → RiderRecord
  | .registerNewUser form => FilldRider.registerNewUser form
  | .userProfile details => record.update [] details.userProfile
  | .profileData details => record.update ["car_details"] details.profileData
  | .remove => record.remove []

inductive ProcessWrite where
  | record (uid : String) (write : RecordWrite)
  | request (rideRequestId : String) (write : RequestWrite)
  deriving DecidableEq

/-- `registerNewUser` comes with the rider that the auth service created. The answers to
reads name the rider read, and `recordRead` whether the context of the call is still
mounted. `acceptRideRequest` comes with the rider that `Riderskey` was made for. -/
inductive ProcessEvent where
  | signedIn (uid : String)
  | signedOut
  | registerNewUser (uid : String) (form : Registration)
  | saveProfile
  | imagesUploaded (upload : Nat) (call : SaveCall)
  | deleteUserData
  | getCurrentOnlineUserInfo
  | valueRead (read : Nat) (uid : String) (value : MapValue)
  | recordRead (read : Nat) (uid : String) (loaded : Option RideR) (mounted : Bool)
  | acceptRideRequest (rideRequestId user : String) (currentPosition : Option LatLng)

/-- `Ride_r.fromMap` of what was read; `none` when it throws. -/
def RiderRecord.load (record : RiderRecord) : Option RideR :=
  match record.read [] with
  | .map => RideR.fromMap record
  | .null | .scalar _ => none

/-- The updates of a call of `_saveProfile` that reach the database. -/
def SaveCall.recordWrites (call : SaveCall) : List RecordWrite :=
  match call.details with
  | none => []
  | some details =>
      (if call.profileUpdated then [.userProfile details] else []) ++
        if call.carDetailsUpdated then [.profileData details] else []

namespace RiderProcess

def await (process : RiderProcess) (uid : String) (read : InfoRead) : RiderProcess :=
  { process with reads := process.reads ++ [(uid, read)] }

/-- `firebaseUser!` throws when nobody is signed in. -/
def getCurrentOnlineUserInfo (process : RiderProcess) : RiderProcess :=
  match process.currentUser with
  | none => process
  | some uid => process.await uid .snapshot

/-- A context that is gone, and a record that is no profile, throw before `setRider`. -/
def setRider (process : RiderProcess) (mounted : Bool) (loaded : Option RideR) : RiderProcess :=
  match mounted, loaded with
  | true, some rider => { process with riderInfo := some rider }
  | _, _ => process

def step (process : RiderProcess) : ProcessEvent → Option (RiderProcess × List ProcessWrite)
  | .signedIn uid => some ({ process with currentUser := some uid }, [])
  | .signedOut => some ({ process with currentUser := none }, [])
  | .registerNewUser uid form =>
      some ({ process with currentUser := some uid }, [.record uid (.registerNewUser form)])
  | .saveProfile =>
      match process.currentUser with
      | none => some (process, [])
      | some uid => some ({ process with uploads := process.uploads ++ [uid] }, [])
  | .imagesUploaded upload call =>
      match process.uploads[upload]? with
      | none => none
      | some uid =>
          some ({ process with uploads := process.uploads.eraseIdx upload },
            call.recordWrites.map (.record uid))
  | .deleteUserData =>
      match process.currentUser with
      | none => some (process, [])
      | some uid => some (process, [.record uid .remove])
  | .getCurrentOnlineUserInfo => some (process.getCurrentOnlineUserInfo, [])
  | .valueRead read uid value =>
      if process.reads[read]? = some (uid, .snapshot) then
        let answered := { process with reads := process.reads.eraseIdx read }
        some (if value = .null then answered else answered.await uid .profile, [])
      else none
  | .recordRead read uid loaded mounted =>
      if process.reads[read]? = some (uid, .profile) then
        let answered := { process with reads := process.reads.eraseIdx read }
        some (answered.setRider mounted loaded, [])
      else none
  | .acceptRideRequest rideRequestId user currentPosition =>
      some (process,
        (acceptRideRequest user process.riderInfo currentPosition).map (.request rideRequestId))

def component : Component RiderProcess ProcessEvent ProcessWrite := step

end RiderProcess

/-! ## All processes and the database -/

structure RiderStore where
  records : String → RiderRecord
  requests : String → GasRequest

/-- Somebody else sets or removes something at or below a rider's record. -/
structure RecordIntrusion where
  uid : String
  path : List String
  value : Option Scalar
  deriving DecidableEq

namespace RiderStore

/-- An answer reports what is stored. -/
def answers (store : RiderStore) : ProcessEvent → Bool
  | .valueRead _ uid value => decide (value = (store.records uid).read [])
  | .recordRead _ uid loaded _ => decide (loaded = (store.records uid).load)
  | _ => true

def apply (store : RiderStore) : ProcessWrite → RiderStore
  | .record uid write =>
      { store with records := Function.update store.records uid (write.apply (store.records uid)) }
  | .request rideRequestId write =>
      { store with
        requests := Function.update store.requests rideRequestId
          ((store.requests rideRequestId).apply write) }

def intrude (store : RiderStore) (intrusion : RecordIntrusion) : RiderStore :=
  let record := store.records intrusion.uid
  { store with
    records := Function.update store.records intrusion.uid
      (match intrusion.value with
      | some value => record.set intrusion.path value
      | none => record.remove intrusion.path) }

end RiderStore

abbrev RiderProcesses (Device : Type) := Shared Device RiderProcess ProcessWrite RiderStore

abbrev ProcessesEvent (Device : Type) := SharedEvent Device ProcessEvent RecordIntrusion

abbrev StoredWrite (Device : Type) := Stored Device ProcessWrite RecordIntrusion

namespace RiderProcesses

variable {Device : Type} [DecidableEq Device]

def step : Component (RiderProcesses Device) (ProcessesEvent Device) (StoredWrite Device) :=
  Shared.step RiderProcess.component (fun store _ => store.answers) (fun store _ => store.apply)
    RiderStore.intrude

/-- Every process just started. -/
def start (store : RiderStore) : RiderProcesses Device where
  client _ := {}
  outbox _ := []
  store := store

end RiderProcesses

/-! ## Whose profile it is -/

def ProcessEvent.signs? : ProcessEvent → Option (Option String)
  | .signedIn uid | .registerNewUser uid _ => some (some uid)
  | .signedOut => some none
  | _ => none

/-- Who is signed in after these events. -/
def signer (events : List ProcessEvent) : Option String :=
  (events.filterMap ProcessEvent.signs?).getLast?.join

/-- The profile an answer hands to the provider, with the rider it was read for. -/
def ProcessEvent.loads? : ProcessEvent → Option (String × RideR)
  | .recordRead _ uid (some rider) true => some (uid, rider)
  | _ => none

def lastLoaded (events : List ProcessEvent) : Option (String × RideR) :=
  (events.filterMap ProcessEvent.loads?).getLast?

/-- The rider was signed in when the profile was asked for. -/
def AskedFor (events : List ProcessEvent) (uid : String) : Prop :=
  ∃ before after, events = before ++ .getCurrentOnlineUserInfo :: after ∧
    signer before = some uid

theorem AskedFor.append {events : List ProcessEvent} {uid : String} (asked : AskedFor events uid)
    (later : List ProcessEvent) : AskedFor (events ++ later) uid := by
  obtain ⟨before, after, rfl, own⟩ := asked
  exact ⟨before, after ++ later, by simp, own⟩

theorem signer_append (events : List ProcessEvent) (event : ProcessEvent) :
    signer (events ++ [event]) = event.signs?.getD (signer events) := by
  rw [signer, List.filterMap_append]
  cases signs : event.signs? <;> simp [signs, signer]

theorem lastLoaded_append (events : List ProcessEvent) (event : ProcessEvent) :
    lastLoaded (events ++ [event]) = event.loads?.or (lastLoaded events) := by
  rw [lastLoaded, List.filterMap_append]
  cases loads : event.loads? <;> simp [loads, lastLoaded]

/-- The profile of a request was the last one loaded when the rider accepted it. -/
def PublishedFrom (events : List ProcessEvent) (rideRequestId : String) (write : RequestWrite) :
    Prop :=
  ∃ before after user currentPosition,
    events = before ++ .acceptRideRequest rideRequestId user currentPosition :: after ∧
    write ∈ acceptRideRequest user ((lastLoaded before).map Prod.snd) currentPosition

theorem PublishedFrom.append {events : List ProcessEvent} {rideRequestId : String}
    {write : RequestWrite} (published : PublishedFrom events rideRequestId write)
    (later : List ProcessEvent) : PublishedFrom (events ++ later) rideRequestId write := by
  obtain ⟨before, after, user, currentPosition, rfl, issued⟩ := published
  exact ⟨before, after ++ later, user, currentPosition, by simp, issued⟩

/-- What a process holds and has written, told by its events. -/
structure ProcessLaw (past : List ProcessEvent) (history : List ProcessWrite)
    (process : RiderProcess) : Prop where
  user : process.currentUser = signer past
  asked : ∀ read ∈ process.reads, AskedFor past read.1
  provider : process.riderInfo = (lastLoaded past).map Prod.snd
  published : ∀ rideRequestId write, .request rideRequestId write ∈ history →
    PublishedFrom past rideRequestId write

namespace ProcessLaw

variable {past : List ProcessEvent} {history writes : List ProcessWrite}
  {before after : RiderProcess} {event : ProcessEvent}

theorem initial : ProcessLaw [] [] {} where
  user := rfl
  asked := by simp
  provider := rfl
  published := by simp

/-- An event that loads nothing, whatever it does to who is signed in and to the reads. -/
private theorem of_unloaded (law : ProcessLaw past history before)
    (nothing : event.loads? = none)
    (user : after.currentUser = event.signs?.getD (signer past))
    (kept : after.riderInfo = before.riderInfo)
    (asked : ∀ read ∈ after.reads, AskedFor (past ++ [event]) read.1)
    (published : ∀ rideRequestId write, .request rideRequestId write ∈ writes →
      PublishedFrom (past ++ [event]) rideRequestId write) :
    ProcessLaw (past ++ [event]) (history ++ writes) after where
  user := user.trans (signer_append past event).symm
  asked := asked
  provider := by
    rw [kept, law.provider, lastLoaded_append, nothing, Option.none_or]
  published := by
    intro rideRequestId write member
    rcases List.mem_append.mp member with old | new
    · exact (law.published rideRequestId write old).append [event]
    · exact published rideRequestId write new

theorem step (law : ProcessLaw past history before)
    (stepped : before.step event = some (after, writes)) :
    ProcessLaw (past ++ [event]) (history ++ writes) after := by
  have waiting : ∀ read ∈ before.reads, AskedFor (past ++ [event]) read.1 :=
    fun read member => (law.asked read member).append [event]
  cases event with
  | signedIn uid | signedOut =>
      cases stepped
      exact law.of_unloaded rfl rfl rfl waiting (by simp)
  | registerNewUser uid form =>
      cases stepped
      exact law.of_unloaded rfl rfl rfl waiting (by simp)
  | saveProfile | deleteUserData =>
      simp only [RiderProcess.step] at stepped
      split at stepped <;> cases stepped <;>
        exact law.of_unloaded rfl law.user rfl waiting (by simp)
  | imagesUploaded upload call =>
      simp only [RiderProcess.step] at stepped
      split at stepped
      · cases stepped
      · cases stepped
        exact law.of_unloaded rfl law.user rfl waiting (by simp)
  | getCurrentOnlineUserInfo =>
      cases stepped
      simp only [RiderProcess.getCurrentOnlineUserInfo]
      split
      · exact law.of_unloaded rfl law.user rfl waiting (by simp)
      · next uid signed =>
        refine law.of_unloaded rfl law.user rfl ?_ (by simp)
        intro read member
        rcases List.mem_append.mp member with old | new
        · exact waiting read old
        · cases List.mem_singleton.mp new
          exact ⟨past, [], rfl, law.user.symm.trans signed⟩
  | valueRead read uid value =>
      simp only [RiderProcess.step, Option.ite_none_right_eq_some, Option.some.injEq,
        Prod.mk.injEq] at stepped
      obtain ⟨reading, rfl, rfl⟩ := stepped
      have own := waiting _ (List.mem_of_getElem? reading)
      split
      · refine law.of_unloaded rfl law.user rfl ?_ (by simp)
        exact fun other member => waiting other (List.mem_of_mem_eraseIdx member)
      · refine law.of_unloaded rfl law.user rfl ?_ (by simp)
        intro other member
        rcases List.mem_append.mp member with old | new
        · exact waiting other (List.mem_of_mem_eraseIdx old)
        · cases List.mem_singleton.mp new
          exact own
  | recordRead read uid loaded mounted =>
      simp only [RiderProcess.step, Option.ite_none_right_eq_some, Option.some.injEq,
        Prod.mk.injEq] at stepped
      obtain ⟨reading, rfl, rfl⟩ := stepped
      have others : ∀ other ∈ before.reads.eraseIdx read,
          AskedFor (past ++ [.recordRead read uid loaded mounted]) other.1 :=
        fun other member => waiting other (List.mem_of_mem_eraseIdx member)
      cases loaded with
      | none =>
          cases mounted <;> exact law.of_unloaded rfl law.user rfl others (by simp)
      | some rider =>
          cases mounted with
          | false => exact law.of_unloaded rfl law.user rfl others (by simp)
          | true =>
              constructor
              · rw [signer_append]
                exact law.user
              · exact others
              · rw [lastLoaded_append]
                rfl
              · intro rideRequestId write member
                rw [List.append_nil] at member
                exact (law.published rideRequestId write member).append _
  | acceptRideRequest rideRequestId user currentPosition =>
      cases stepped
      refine law.of_unloaded rfl law.user rfl waiting ?_
      intro other write member
      obtain ⟨_, issued, ⟨⟩⟩ := List.mem_map.mp member
      rw [law.provider] at issued
      exact ⟨past, [], user, currentPosition, rfl, issued⟩

theorem of_run {events : List ProcessEvent} {process : RiderProcess}
    (run : exec RiderProcess.component {} events = some (process, writes)) :
    ProcessLaw events writes process := by
  have all : ∀ event ∈ events, True := fun _ _ => trivial
  exact exec_trace_invariant ProcessLaw (fun law _ stepped => law.step stepped) [] [] initial all
    run

end ProcessLaw

theorem mem_of_lastLoaded {events : List ProcessEvent} {uid : String} {rider : RideR}
    (loads : lastLoaded events = some (uid, rider)) :
    ∃ before after read, events = before ++ .recordRead read uid (some rider) true :: after := by
  obtain ⟨event, member, told⟩ := List.mem_filterMap.mp (List.mem_of_getLast? loads)
  obtain ⟨before, after, rfl⟩ := List.append_of_mem member
  cases event with
  | recordRead read owner loaded mounted =>
      cases loaded with
      | none => simp [ProcessEvent.loads?] at told
      | some profile =>
          cases mounted with
          | false => simp [ProcessEvent.loads?] at told
          | true =>
              cases told
              exact ⟨before, after, read, rfl⟩
  | _ => cases told

namespace RiderProcesses

variable {Device : Type} [DecidableEq Device] {store : RiderStore}
  {events : List (ProcessesEvent Device)} {after : RiderProcesses Device}
  {stored : List (StoredWrite Device)} {device : Device} {rideRequestId : String}
  {write : RequestWrite}

/-- A profile is loaded by a read that was asked for, and as it is stored then. -/
theorem stored_of_lastLoaded (run : exec step (start store) events = some (after, stored))
    {uid : String} {rider : RideR} (loads : lastLoaded (actsOf device events) = some (uid, rider)) :
    ∃ earlier later middle early, events = earlier ++ later ∧
      exec step (start store) earlier = some (middle, early) ∧
      AskedFor (actsOf device earlier) uid ∧ (middle.store.records uid).load = some rider := by
  obtain ⟨before, rest, read, split⟩ := mem_of_lastLoaded loads
  obtain ⟨earlier, later, rfl, _⟩ := split_of_actsOf split
  obtain ⟨middle, early, late, first, second, _⟩ := exec_append_eq_some.mp run
  obtain ⟨next, now, others, stepped, _, _⟩ := exec_cons_eq_some.mp second
  obtain ⟨issued, own, _⟩ := Shared.exec_client device first
  refine ⟨earlier, _, middle, early, rfl, first, ?_⟩
  cases Shared.moves_of_step stepped with
  | act answered reacts =>
      simp only [RiderProcess.component, RiderProcess.step, Option.ite_none_right_eq_some] at reacts
      simp only [RiderStore.answers, decide_eq_true_eq] at answered
      exact ⟨(ProcessLaw.of_run own).asked _ (List.mem_of_getElem? reacts.1), answered.symm⟩

/-- Who a customer is told is coming is the profile that the accepting process loaded
last: that of a rider who was signed in there when it was asked for, as it was stored at
some moment after that. -/
theorem published_of_written (run : exec step (start store) events = some (after, stored))
    (written : .byClient device (.request rideRequestId write) ∈ stored) :
    ∃ earlier later user currentPosition,
      events = earlier ++
        .act device (.acceptRideRequest rideRequestId user currentPosition) :: later ∧
      write ∈ acceptRideRequest user ((lastLoaded (actsOf device earlier)).map Prod.snd)
        currentPosition ∧
      ∀ uid rider, lastLoaded (actsOf device earlier) = some (uid, rider) →
        ∃ past rest middle early, earlier = past ++ rest ∧
          exec step (start store) past = some (middle, early) ∧
          AskedFor (actsOf device past) uid ∧
          (middle.store.records uid).load = some rider := by
  obtain ⟨issued, own, queue⟩ := Shared.exec_client device run
  have emitted : .request rideRequestId write ∈ issued := by
    rw [start, List.nil_append] at queue
    rw [queue]
    exact List.mem_append_left _ (mem_storedBy.mpr written)
  obtain ⟨before, rest, user, currentPosition, split, publishes⟩ :=
    (ProcessLaw.of_run own).published _ _ emitted
  obtain ⟨earlier, later, rfl, rfl⟩ := split_of_actsOf split
  obtain ⟨middle, early, late, first, _, _⟩ := exec_append_eq_some.mp run
  exact ⟨earlier, later, user, currentPosition, rfl, publishes,
    fun _ _ loads => stored_of_lastLoaded first loads⟩

end RiderProcesses

def emptyRiderStore : RiderStore where
  records _ := Tree.empty
  requests _ := {}

def sampleRiderInfo : RideR :=
  { firstname := some "Ama", lastname := some "Mensah", phone := some "+233240000000",
    email := some "ama@mail", automobileModel := some "Honda", plateNumber := some "GT 1-24",
    profilepicture := some "storage/rider" }

/-- A rider registers, saves the form, opens the home tab and accepts a request. -/
def sampleDriver : List (ProcessesEvent Unit) :=
  [.act () (.registerNewUser "ama" sampleRegistration), .act () .saveProfile,
    .act () (.imagesUploaded 0 sampleSaveCall), .deliver (), .deliver (), .deliver (),
    .act () .getCurrentOnlineUserInfo, .act () (.valueRead 0 "ama" .map),
    .act () (.recordRead 0 "ama" (some sampleRiderInfo) true),
    .act () (.acceptRideRequest "request-1" "ama" none), .deliver (), .deliver (), .deliver (),
    .deliver (), .deliver ()]

theorem published_sampleDriver :
    ∃ earlier later user currentPosition,
      sampleDriver = earlier ++
        .act () (.acceptRideRequest "request-1" user currentPosition) :: later ∧
      .carDetails (some "null ● Honda ● GT 1-24") ∈
        acceptRideRequest user ((lastLoaded (actsOf () earlier)).map Prod.snd)
          currentPosition ∧
      ∀ uid rider, lastLoaded (actsOf () earlier) = some (uid, rider) →
        ∃ past rest middle early, earlier = past ++ rest ∧
          exec RiderProcesses.step (RiderProcesses.start emptyRiderStore) past =
            some (middle, early) ∧
          AskedFor (actsOf () past) uid ∧
          (middle.store.records uid).load = some rider := by
  have runs : (exec RiderProcesses.step (RiderProcesses.start emptyRiderStore)
      sampleDriver).map (fun result => decide (.byClient () (.request "request-1"
        (.carDetails (some "null ● Honda ● GT 1-24"))) ∈ result.2)) = some true := by
    decide +kernel
  obtain ⟨⟨after, stored⟩, run, written⟩ := Option.map_eq_some_iff.mp runs
  exact RiderProcesses.published_of_written run (of_decide_eq_true written)

end FilldRider
