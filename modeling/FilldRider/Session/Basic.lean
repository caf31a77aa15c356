import FilldRider.Home.Basic
import FilldRider.Notification.Dialog
import Mathlib.Logic.Function.Basic

/-!
# Sessions within one process

The top-level variables of `main.dart` and the handlers that go through them. A
variable is initialised at its first read, from the rider signed in then; signing out
changes none of them.
-/

set_option autoImplicit false

namespace FilldRider

open Runs

abbrev Path := List String

def Path.Below (path : Path) (uid : String) : Prop :=
  ["Riders", uid] <+: path ∨ ["availableRider", uid] <+: path

instance (path : Path) (uid : String) : Decidable (path.Below uid) :=
  inferInstanceAs (Decidable (_ ∨ _))

inductive Reference where
  | riderRequestRef
  | riderskey
  | availableRider
  deriving DecidableEq

def Reference.initializer : Reference → String → Path
  | .riderRequestRef, uid => ["Riders", uid, "new Rider"]
  | .riderskey, uid => FilldRider.riderskey uid
  | .availableRider, uid => ["availableRider", uid]

/-- The variables of `main.dart`, `none` until first read. -/
structure Globals where
  user : Option (Option String)
  uid : Option (Option String)
  refs : Reference → Option Path
  uid_user : ∀ value, uid = some value → user = some value
  refs_uid : ∀ reference path, refs reference = some path →
    ∃ owner, uid = some (some owner) ∧ path = reference.initializer owner

namespace Globals

def unread : Globals where
  user := none
  uid := none
  refs _ := none
  uid_user _ read := nomatch read
  refs_uid _ _ read := nomatch read

/-- Reads `uid`, whose initializer reads `user`. -/
def readUid (globals : Globals) (currentUser : Option String) : Globals × Option String :=
  match unread : globals.uid with
  | some value => (globals, value)
  | none =>
      ({ user := some (globals.user.getD currentUser)
         uid := some (globals.user.getD currentUser)
         refs := globals.refs
         uid_user := fun _ read => read
         refs_uid := by
           intro reference path read
           obtain ⟨owner, known, _⟩ := globals.refs_uid reference path read
           rw [known] at unread
           cases unread },
        globals.user.getD currentUser)

theorem readUid_uid (globals : Globals) (currentUser : Option String) :
    (globals.readUid currentUser).1.uid = some (globals.readUid currentUser).2 := by
  unfold readUid
  split
  · assumption
  · rfl

/-- Reads a reference; `none` when `uid!` throws, and then it stays unread. -/
def read (globals : Globals) (currentUser : Option String) (reference : Reference) :
    Globals × Option Path :=
  match globals.refs reference with
  | some path => (globals, some path)
  | none =>
      match known : globals.readUid currentUser with
      | (next, none) => (next, none)
      | (next, some uid) =>
          ({ user := next.user
             uid := next.uid
             refs := Function.update next.refs reference (some (reference.initializer uid))
             uid_user := next.uid_user
             refs_uid := by
               have stored := globals.readUid_uid currentUser
               rw [known] at stored
               intro other path read
               by_cases same : other = reference
               · subst same
                 rw [Function.update_self, Option.some.injEq] at read
                 exact ⟨uid, stored, read.symm⟩
               · rw [Function.update_of_ne same] at read
                 exact next.refs_uid other path read },
            some (reference.initializer uid))

/-- The rider the references belong to once one of them is read. -/
def owner (globals : Globals) (currentUser : Option String) : Option String :=
  globals.user.getD currentUser

theorem readUid_spec (globals : Globals) (currentUser : Option String) :
    (globals.readUid currentUser).2 = globals.owner currentUser ∧
      (globals.readUid currentUser).1.user = some (globals.owner currentUser) := by
  have known := (globals.readUid currentUser).1.uid_user _ (globals.readUid_uid currentUser)
  suffices value : (globals.readUid currentUser).2 = globals.owner currentUser from
    ⟨value, value ▸ known⟩
  unfold readUid owner
  split
  next value read => rw [globals.uid_user value read]; rfl
  next => rfl

theorem read_spec (globals : Globals) (currentUser : Option String) (reference : Reference) :
    (globals.read currentUser reference).2 =
        (globals.owner currentUser).map reference.initializer ∧
      (globals.read currentUser reference).1.user = some (globals.owner currentUser) := by
  unfold read
  split
  next path read =>
    obtain ⟨owner, known, rfl⟩ := globals.refs_uid reference path read
    have user := globals.uid_user _ known
    simp [Globals.owner, user]
  next =>
    obtain ⟨value, user⟩ := globals.readUid_spec currentUser
    split
    next next known =>
      rw [known] at value user
      exact ⟨by simp [← value], user⟩
    next next uid known =>
      rw [known] at value user
      exact ⟨by simp [← value], user⟩

end Globals

/-! ## The handlers -/

inductive Operation where
  | once
  | set (value : String)
  | remove
  | onValue
  deriving DecidableEq

/-- A read or write through a reference, with the rider signed in at that moment. -/
structure Access where
  operation : Operation
  path : Path
  signedIn : Option String
  deriving DecidableEq

inductive Awaited where
  | status
  | position
  | slot (dialog : DialogKind) (clientDetails : ClientDetails String)
  | newRequestScreen (clientDetails : ClientDetails String)

/-- What a handler does, as far as these variables matter. Geofire is called with
`currentfirebaseUser!.uid`; `evaluate` reads a variable alone. -/
inductive Call where
  | access (reference : Reference) (below : Path) (operation : Operation)
  | evaluate (reference : Reference)
  | currentfirebaseUser
  | await (awaited : Awaited)

def RiderWrite.calls : RiderWrite → List Call
  | .searching text => [.access .riderRequestRef [] (.set text)]
  | .accepted _ _ => [.access .riderRequestRef [] (.set "accepted")]
  | .removeSlot => [.evaluate .riderRequestRef, .access .riderRequestRef [] .remove]
  | .history uid rideRequestId =>
      [.access .riderRequestRef [uid, "history", rideRequestId] (.set "true")]
  | .setLocation _ | .removeLocation | .earnings _ => [.currentfirebaseUser]

def DialogAction.calls : DialogAction → List Call
  | .pop | .displayToast _ => []
  | .setAccepted rideRequestId read => (RiderWrite.accepted rideRequestId read).calls
  | .disableHomeTabLiveLocationUpdates =>
      ({} : Home).disableHomeTabLiveLocationUpdates.2.flatMap RiderWrite.calls
  | .pushNewRequestScreen clientDetails => [.await (.newRequestScreen clientDetails)]

structure Session where
  /-- The uid of `FirebaseAuth.instance.currentUser`. -/
  auth : Option String := none
  currentfirebaseUser : Option String := none
  globals : Globals := Globals.unread
  statusReads : Nat := 0
  lookups : Nat := 0
  accepts : List (DialogKind × ClientDetails String) := []
  openings : List (ClientDetails String) := []

/-- `isDriverAvailable` is what the handler finds in `AppState`. -/
inductive SessionEvent where
  | signIn (uid : String)
  | signOut
  | getCurrentArtisanInfo
  | tap
  | statusRead (data : Option String) (isDriverAvailable : Bool)
  | located (position : LatLng)
  | lookupFailed
  | accept (dialog : DialogKind) (clientDetails : ClientDetails String)
  | slotRead (call : Nat) (value : Option SlotValue)
  | built (opening : Nat)

namespace Session

def await (session : Session) : Awaited → Session
  | .status => { session with statusReads := session.statusReads + 1 }
  | .position => { session with lookups := session.lookups + 1 }
  | .slot dialog clientDetails =>
      { session with accepts := session.accepts ++ [(dialog, clientDetails)] }
  | .newRequestScreen clientDetails =>
      { session with openings := session.openings ++ [clientDetails] }

/-- One call; `none` when it throws. -/
def call (session : Session) : Call → Session × Option (List Access)
  | .access reference below operation =>
      let (globals, path) := session.globals.read session.auth reference
      ({ session with globals := globals },
        path.map fun path => [⟨operation, path ++ below, session.auth⟩])
  | .evaluate reference =>
      let (globals, path) := session.globals.read session.auth reference
      ({ session with globals := globals }, path.map fun _ => [])
  | .currentfirebaseUser => (session, session.currentfirebaseUser.map fun _ => [])
  | .await awaited => (session.await awaited, some [])

def perform : Session → List Call → Session × List Access
  | session, [] => (session, [])
  | session, call :: rest =>
      match session.call call with
      | (next, none) => (next, [])
      | (next, some accesses) =>
          let (last, later) := next.perform rest
          (last, accesses ++ later)

def handleStatus (data : Option String) (isDriverAvailable : Bool) : List Call :=
  let (home, writes) := Home.handleStatus { isDriverAvailable := isDriverAvailable } data
  writes.flatMap RiderWrite.calls ++ List.replicate home.lookups (.await .position)

/-- `makeRiderOnlineNow` after its await; the listener does nothing. -/
def finishRiderOnline (position : LatLng) : List Call :=
  (({} : Home).finishRiderOnline position).2.flatMap RiderWrite.calls ++
    [.access .riderRequestRef [] .onValue]

/-- `acceptRideRequest`: `Riderskey.key` for the driver's id, then the history mark. -/
def acceptRideRequest (session : Session) (clientDetails : ClientDetails String) : List Call :=
  [.evaluate .riderskey, .evaluate .riderRequestRef, .currentfirebaseUser] ++
    session.currentfirebaseUser.toList.flatMap fun uid =>
      (RiderWrite.history uid clientDetails.rideRequestId).calls

/-- What an event changes by itself, and the calls of its handler. -/
def handler (session : Session) : SessionEvent → Option (Session × List Call)
  | .signIn uid => some ({ session with auth := some uid }, [])
  | .signOut => some ({ session with auth := none }, [])
  | .getCurrentArtisanInfo => some ({ session with currentfirebaseUser := session.auth }, [])
  | .tap =>
      some ({ session with currentfirebaseUser := session.auth },
        [.access .riderskey [] .once, .await .status])
  | .statusRead data isDriverAvailable =>
      if 0 < session.statusReads then
        some ({ session with statusReads := session.statusReads - 1 },
          handleStatus data isDriverAvailable)
      else none
  | .located position =>
      if 0 < session.lookups then
        some ({ session with lookups := session.lookups - 1 }, finishRiderOnline position)
      else none
  | .lookupFailed =>
      if 0 < session.lookups then
        some ({ session with lookups := session.lookups - 1 }, [])
      else none
  | .accept dialog clientDetails =>
      some (session, [.access .riderRequestRef [] .once, .await (.slot dialog clientDetails)])
  | .slotRead call value =>
      match session.accepts[call]? with
      | none => none
      | some (dialog, clientDetails) =>
          some ({ session with accepts := session.accepts.eraseIdx call },
            (dialog.checkAvailabilityOfRide clientDetails value).flatMap DialogAction.calls)
  | .built opening =>
      match session.openings[opening]? with
      | none => none
      | some clientDetails =>
          some ({ session with openings := session.openings.eraseIdx opening },
            session.acceptRideRequest clientDetails)

def step (session : Session) (event : SessionEvent) : Option (Session × List Access) :=
  (session.handler event).map fun (start, calls) => start.perform calls

def component : Component Session SessionEvent Access := step

end Session

end FilldRider
