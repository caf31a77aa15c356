import FilldRider.Models.Profile
import FilldRider.Runs.Component
import Mathlib.Logic.Function.Basic

/-!
# Push tokens

`main` starts `getToken` and `saveFCMToken` and listens to token refreshes; the home tab
starts `PushNotificationService.getToken`. Only `saveFCMToken` runs on a refresh, and it
writes beside the riders' records.
-/

set_option autoImplicit false

namespace FilldRider

open Runs Trees

/-- A function that awaits `messaging.getToken()`. -/
inductive TokenCall where
  | getToken
  | saveFCMToken
  /-- `PushNotificationService.getToken` -/
  | pushGetToken
  deriving DecidableEq

inductive TokenWrite where
  | setToken (uid : String) (token : Option String)
  | updateFcmToken (token : String)
  deriving DecidableEq

/-- The node `Riders` after a write. -/
def TokenWrite.apply (riders : Tree String Scalar) : TokenWrite → Tree String Scalar
  | .setToken uid (some token) => riders.set [uid, "token"] (.text token)
  | .setToken uid none => riders.remove [uid, "token"]
  | .updateFcmToken token => riders.update [] [("fcmToken", .text token)]

/-- A rider's device. A new process knows no `currentfirebaseUser`. -/
structure RiderDevice where
  /-- The uid of `FirebaseAuth.instance.currentUser`. -/
  auth : Option String := none
  currentfirebaseUser : Option String := none
  /-- The newest token of the device. -/
  token : Option String := none
  running : Bool := false
  calls : List TokenCall := []
  /-- The writes that have not reached the database. -/
  writes : List TokenWrite := []
  /-- Whether it obtained a token while the rider was signed in. -/
  obtained : Bool := false

inductive DeviceEvent where
  | signIn
  | signOut
  /-- `main`, in a new process. -/
  | start
  /-- `getCurrentArtisanInfo`, when the home tab is mounted. -/
  | mount
  /-- The online button. -/
  | tap
  | refreshed (token : String)
  | answered (call : Nat)
  | failed (call : Nat)
  | stored

namespace RiderDevice

/-- What a call does with the token. -/
def finish (device : RiderDevice) : TokenCall → List TokenWrite
  | .getToken =>
      match device.token, device.currentfirebaseUser with
      | some token, some uid => [.setToken uid (some token)]
      | none, _ | some _, none => []
  | .saveFCMToken =>
      match device.token, device.auth with
      | some token, some _ => [.updateFcmToken token]
      | none, _ | some _, none => []
  | .pushGetToken =>
      match device.currentfirebaseUser with
      | some uid => [.setToken uid device.token]
      | none => []

def answer (device : RiderDevice) (call : Nat) (awaiting : TokenCall) : RiderDevice :=
  { device with
    calls := device.calls.eraseIdx call
    writes := device.writes ++ device.finish awaiting
    obtained := device.obtained || device.auth.isSome && device.token.isSome }

/-- The step of the device of this rider, with the write that reaches the database. -/
def step (uid : String) : Component RiderDevice DeviceEvent TokenWrite
  | device, .signIn => some ({ device with auth := some uid }, [])
  | device, .signOut => some ({ device with auth := none }, [])
  | device, .start =>
      some ({ device with
        currentfirebaseUser := none, running := true, calls := [.getToken, .saveFCMToken],
        writes := [] }, [])
  | device, .mount =>
      if device.running then
        some ({ device with
          currentfirebaseUser := device.auth
          calls := device.calls ++ if device.auth = none then [] else [.pushGetToken] }, [])
      else none
  | device, .tap =>
      if device.running then some ({ device with currentfirebaseUser := device.auth }, [])
      else none
  | device, .refreshed token =>
      some ({ device with
        token := some token
        calls := device.calls ++ if device.running then [.saveFCMToken] else []
        obtained := device.obtained || device.auth.isSome }, [])
  | device, .answered call =>
      device.calls[call]?.map fun awaiting => (device.answer call awaiting, [])
  | device, .failed call =>
      if call < device.calls.length then
        some ({ device with calls := device.calls.eraseIdx call }, [])
      else none
  | device, .stored =>
      match device.writes with
      | [] => none
      | write :: rest => some ({ device with writes := rest }, [write])

end RiderDevice

/-- The devices of all riders, and the node `Riders`. -/
structure TokenNetwork where
  device : String → RiderDevice := fun _ => {}
  riders : Tree String Scalar

def TokenNetwork.step : Component TokenNetwork (String × DeviceEvent) TokenWrite
  | network, (uid, event) =>
      match RiderDevice.step uid (network.device uid) event with
      | none => none
      | some (next, stored) =>
          some ({ device := Function.update network.device uid next
                  riders := stored.foldl TokenWrite.apply network.riders }, stored)

def TokenNetwork.token (network : TokenNetwork) (uid : String) : Option Scalar :=
  network.riders.leaf? [uid, "token"]

/-- With nothing pending on a device that obtained a token for its rider, the rider's
record has the newest one. -/
def TokensKept (_ : List TokenWrite) (network : TokenNetwork) : Prop :=
  ∀ uid, (network.device uid).calls = [] → (network.device uid).writes = [] →
    (network.device uid).obtained = true →
    network.token uid = (network.device uid).token.map Scalar.text

/-- A device changes nothing outside its rider's record. -/
def KeepsOthers (_ : List TokenWrite) (network : TokenNetwork) (event : String × DeviceEvent) :
    Prop :=
  ∀ result ∈ network.step event, ∀ key below, key ≠ event.1 →
    result.1.riders.leaf? (key :: below) = network.riders.leaf? (key :: below)

/-! ## Writes of the token -/

section Writes

variable {riders : Tree String Scalar} {uid key : String} (token : Option String)

theorem leaf?_setToken : ((TokenWrite.setToken uid token).apply riders).leaf? [uid, "token"] =
    token.map Scalar.text := by
  cases token with
  | some token => exact Tree.leaf?_set_self ..
  | none => rw [TokenWrite.apply, Tree.leaf?_remove, if_pos (List.prefix_refl _)]; rfl

theorem leaf?_setToken_of_ne (other : key ≠ uid) (below : List String) :
    ((TokenWrite.setToken uid token).apply riders).leaf? (key :: below) =
      riders.leaf? (key :: below) := by
  cases token with
  | some token =>
      exact Tree.leaf?_set_of_apart _ _ ((apart_cons ..).mpr (.inl other.symm))
  | none =>
      rw [TokenWrite.apply, Tree.leaf?_remove, if_neg]
      intro under
      exact other (List.cons_prefix_cons.mp under).1.symm

end Writes

/-! ## One device -/

/-- A call that stores the token in the rider's record. -/
def TokenCall.Stores (call : TokenCall) : Prop := call ≠ .saveFCMToken

instance (call : TokenCall) : Decidable call.Stores := inferInstanceAs (Decidable (_ ≠ _))

namespace RiderDevice

/-- What the token of the record will be once the writes are stored. -/
def issued (device : RiderDevice) (stored : Option Scalar) : Option Scalar :=
  match device.writes.getLast? with
  | some (.setToken _ token) => token.map .text
  | some (.updateFcmToken _) | none => stored

def UpToDate (device : RiderDevice) (stored : Option Scalar) : Prop :=
  device.issued stored = device.token.map .text

instance (device : RiderDevice) (stored : Option Scalar) : Decidable (device.UpToDate stored) :=
  inferInstanceAs (Decidable (_ = _))

/-- The newest token is issued, or read by another call than this one. -/
def CoveredWithout (device : RiderDevice) (stored : Option Scalar) (call : Nat) : Prop :=
  device.UpToDate stored ∨ ∃ other ∈ device.calls.eraseIdx call, other.Stores

instance (device : RiderDevice) (stored : Option Scalar) (call : Nat) :
    Decidable (device.CoveredWithout stored call) :=
  inferInstanceAs (Decidable (_ ∨ ∃ other ∈ device.calls.eraseIdx call, other.Stores))

/-- `saveFCMToken` has nothing to write; where the token is not stored, it is stored
already or another call is going to; and so for a token that changes. -/
def StoresToken (device : RiderDevice) (stored : Option Scalar) : DeviceEvent → Prop
  | .answered call =>
      (device.calls[call]? = some .saveFCMToken → device.auth = none ∨ device.token = none) ∧
        (device.currentfirebaseUser = none →
          device.obtained = true ∨ device.auth ≠ none ∧ device.token ≠ none →
          device.CoveredWithout stored call)
  | .failed call => device.obtained = true → device.CoveredWithout stored call
  | .refreshed _ =>
      device.obtained = true ∨ device.auth ≠ none → ∃ call ∈ device.calls, call.Stores
  | .signIn | .signOut | .start | .mount | .tap | .stored => True

instance (device : RiderDevice) (stored : Option Scalar) :
    ∀ event, Decidable (device.StoresToken stored event)
  | .answered _ => inferInstanceAs (Decidable ((_ → _ ∨ _) ∧ (_ → _ ∨ _ ∧ _ → _)))
  | .failed _ => inferInstanceAs (Decidable (_ → _))
  | .refreshed _ =>
      inferInstanceAs (Decidable (_ ∨ _ → ∃ call ∈ device.calls, TokenCall.Stores call))
  | .signIn | .signOut | .start | .mount | .tap | .stored => isTrue trivial

/-- The writes are of the rider's own token, and a token obtained for the rider is
written or still to be read by a call that stores it. -/
structure TokenLaw (uid : String) (stored : Option Scalar) (device : RiderDevice) : Prop where
  auth : ∀ user ∈ device.auth, user = uid
  current : ∀ user ∈ device.currentfirebaseUser, user = uid
  writes : ∀ write ∈ device.writes, ∃ token, write = .setToken uid token
  known : device.obtained = true → device.token ≠ none
  covered : device.obtained = true →
    device.UpToDate stored ∨ ∃ call ∈ device.calls, call.Stores

variable {uid : String} {stored : Option Scalar} {device next : RiderDevice}

theorem stores_mem_eraseIdx {calls : List TokenCall} {call : Nat}
    (saves : calls[call]? = some .saveFCMToken) (pending : ∃ other ∈ calls, other.Stores) :
    ∃ other ∈ calls.eraseIdx call, other.Stores := by
  obtain ⟨other, member, stores⟩ := pending
  obtain ⟨index, found⟩ := List.mem_iff_getElem?.mp member
  refine ⟨other, List.mem_eraseIdx_iff_getElem?.mpr ⟨index, ?_, found⟩, stores⟩
  rintro rfl
  rw [saves] at found
  cases found
  exact stores rfl

theorem mem_finish {awaiting : TokenCall} {write : TokenWrite}
    (member : write ∈ device.finish awaiting) :
    (∃ user ∈ device.currentfirebaseUser, write = .setToken user device.token) ∨
      awaiting = .saveFCMToken ∧ device.auth ≠ none ∧ device.token ≠ none := by
  cases awaiting with
  | getToken =>
      simp only [finish] at member
      split at member
      · next token user newest current =>
        rw [newest]
        exact .inl ⟨user, current, List.mem_singleton.mp member⟩
      · cases member
      · cases member
  | saveFCMToken =>
      simp only [finish] at member
      split at member
      · next token user newest signedIn =>
        exact .inr ⟨rfl, by simp [signedIn], by simp [newest]⟩
      · cases member
      · cases member
  | pushGetToken =>
      simp only [finish] at member
      split at member
      · next user current => exact .inl ⟨user, current, List.mem_singleton.mp member⟩
      · cases member

/-- The answer to a call that stores the token, with somebody to store it for. -/
theorem finish_of_current {awaiting : TokenCall} {user : String} (stores : awaiting.Stores)
    (current : device.currentfirebaseUser = some user) (known : device.token ≠ none) :
    device.finish awaiting = [.setToken user device.token] := by
  obtain ⟨token, newest⟩ := Option.ne_none_iff_exists'.mp known
  cases awaiting with
  | saveFCMToken => exact (stores rfl).elim
  | getToken => simp [finish, current, newest]
  | pushGetToken => simp [finish, current]

theorem finish_of_nobody {awaiting : TokenCall} (stores : awaiting.Stores)
    (nobody : device.currentfirebaseUser = none) : device.finish awaiting = [] := by
  cases awaiting with
  | saveFCMToken => exact (stores rfl).elim
  | getToken => cases newest : device.token <;> simp [finish, nobody, newest]
  | pushGetToken => simp [finish, nobody]

theorem upToDate_answer {call : Nat} {awaiting : TokenCall}
    (silent : device.finish awaiting = []) (current : device.UpToDate stored) :
    (device.answer call awaiting).UpToDate stored := by
  rw [UpToDate, issued, answer, silent, List.append_nil]
  exact current

theorem upToDate_answer_of_current {call : Nat} {awaiting : TokenCall} {user : String}
    (wrote : device.finish awaiting = [.setToken user device.token]) :
    (device.answer call awaiting).UpToDate stored := by
  rw [UpToDate, issued, answer, wrote]
  simp

theorem obtained_answer {call : Nat} {awaiting : TokenCall} :
    (device.answer call awaiting).obtained = true ↔
      device.obtained = true ∨ device.auth ≠ none ∧ device.token ≠ none := by
  simp [answer, Option.isSome_iff_ne_none]

theorem TokenLaw.answered (law : TokenLaw uid stored device) {call : Nat} {awaiting : TokenCall}
    (found : device.calls[call]? = some awaiting)
    (stores : device.StoresToken stored (.answered call)) :
    TokenLaw uid stored (device.answer call awaiting) := by
  have known : (device.answer call awaiting).obtained = true → device.token ≠ none := by
    intro obtained
    rcases obtained_answer.mp obtained with before | now
    · exact law.known before
    · exact now.2
  refine ⟨law.auth, law.current, ?_, known, ?_⟩
  · intro write member
    rcases List.mem_append.mp member with old | new
    · exact law.writes write old
    · rcases mem_finish new with ⟨user, current, rfl⟩ | ⟨rfl, signedIn, newest⟩
      · exact ⟨device.token, by rw [law.current user current]⟩
      · rcases stores.1 found with nobody | unknown
        · exact (signedIn nobody).elim
        · exact (newest unknown).elim
  · intro obtained
    by_cases saves : awaiting = .saveFCMToken
    · subst saves
      have before : device.obtained = true := by
        rcases obtained_answer.mp obtained with before | ⟨signedIn, newest⟩
        · exact before
        · rcases stores.1 found with nobody | unknown
          · exact (signedIn nobody).elim
          · exact (newest unknown).elim
      have silent : device.finish .saveFCMToken = [] := by
        rcases stores.1 found with nobody | unknown
        · cases newest : device.token <;> simp [finish, nobody, newest]
        · simp [finish, unknown]
      rcases law.covered before with current | pending
      · exact .inl (upToDate_answer silent current)
      · exact .inr (stores_mem_eraseIdx found pending)
    · cases current : device.currentfirebaseUser with
      | none =>
          rcases stores.2 current (obtained_answer.mp obtained) with upToDate | pending
          · exact .inl (upToDate_answer (finish_of_nobody saves current) upToDate)
          · exact .inr pending
      | some user =>
          exact .inl (upToDate_answer_of_current
            (finish_of_current saves current (known obtained)))

/-- The oldest write is stored. -/
theorem TokenLaw.write_stored {riders : Tree String Scalar} {write : TokenWrite}
    {rest : List TokenWrite} (law : TokenLaw uid (riders.leaf? [uid, "token"]) device)
    (waiting : device.writes = write :: rest) :
    TokenLaw uid ((write.apply riders).leaf? [uid, "token"]) { device with writes := rest } := by
  obtain ⟨token, rfl⟩ := law.writes write (by simp [waiting])
  rw [leaf?_setToken]
  have later : ∀ other ∈ rest, ∃ token, other = .setToken uid token := by
    intro other member
    apply law.writes
    rw [waiting]
    exact List.mem_cons_of_mem _ member
  have issued : device.issued (riders.leaf? [uid, "token"]) =
      ({ device with writes := rest } : RiderDevice).issued (token.map Scalar.text) := by
    cases rest with
    | nil => simp [RiderDevice.issued, waiting]
    | cons second rest =>
        have last := List.getLast?_eq_some_getLast (List.cons_ne_nil second rest)
        obtain ⟨newest, same⟩ := later _ (List.getLast_mem (List.cons_ne_nil second rest))
        simp [RiderDevice.issued, waiting, last, same]
  refine ⟨law.auth, law.current, later, law.known, ?_⟩
  intro obtained
  rcases law.covered obtained with current | pending
  · exact .inl (issued.symm.trans current)
  · exact .inr pending

/-- One step of the rider's own device. -/
theorem TokenLaw.step {riders : Tree String Scalar} {event : DeviceEvent}
    {writes : List TokenWrite} (law : TokenLaw uid (riders.leaf? [uid, "token"]) device)
    (stores : device.StoresToken (riders.leaf? [uid, "token"]) event)
    (stepped : RiderDevice.step uid device event = some (next, writes)) :
    TokenLaw uid ((writes.foldl TokenWrite.apply riders).leaf? [uid, "token"]) next := by
  cases event with
  | signIn =>
      cases stepped
      exact { law with auth := fun user signed => (Option.some.inj signed).symm }
  | signOut =>
      cases stepped
      exact { law with auth := fun user signed => (Option.some_ne_none _ signed.symm).elim }
  | start =>
      cases stepped
      refine ⟨law.auth, by simp, by simp, law.known, fun _ => .inr ⟨.getToken, by simp, ?_⟩⟩
      decide
  | mount =>
      simp only [RiderDevice.step] at stepped
      split at stepped
      · cases stepped
        refine ⟨law.auth, law.auth, law.writes, law.known, ?_⟩
        intro obtained
        rcases law.covered obtained with current | ⟨call, member, pending⟩
        · exact .inl current
        · exact .inr ⟨call, List.mem_append_left _ member, pending⟩
      · cases stepped
  | tap =>
      simp only [RiderDevice.step] at stepped
      split at stepped
      · cases stepped
        exact ⟨law.auth, law.auth, law.writes, law.known, law.covered⟩
      · cases stepped
  | refreshed token =>
      cases stepped
      refine ⟨law.auth, law.current, law.writes, by simp, ?_⟩
      intro obtained
      simp only [Bool.or_eq_true, Option.isSome_iff_ne_none] at obtained
      obtain ⟨call, member, pending⟩ := stores obtained
      exact .inr ⟨call, List.mem_append_left _ member, pending⟩
  | answered call =>
      obtain ⟨awaiting, found, answered⟩ := Option.map_eq_some_iff.mp stepped
      cases answered
      exact law.answered found stores
  | failed call =>
      simp only [RiderDevice.step] at stepped
      split at stepped
      · cases stepped
        exact ⟨law.auth, law.current, law.writes, law.known, stores⟩
      · cases stepped
  | stored =>
      simp only [RiderDevice.step] at stepped
      split at stepped
      · cases stepped
      · next write rest waiting =>
        cases stepped
        exact law.write_stored waiting

/-- Only a write that was waiting reaches the database. -/
theorem mem_writes_of_step {event : DeviceEvent} {writes : List TokenWrite} {write : TokenWrite}
    (stepped : RiderDevice.step uid device event = some (next, writes))
    (member : write ∈ writes) : write ∈ device.writes := by
  cases event with
  | stored =>
      simp only [RiderDevice.step] at stepped
      split at stepped
      · cases stepped
      · next first rest waiting =>
        cases stepped
        rw [List.mem_singleton] at member
        simp [member, waiting]
  | answered call =>
      obtain ⟨awaiting, _, answered⟩ := Option.map_eq_some_iff.mp stepped
      cases answered
      cases member
  | mount | tap | failed =>
      simp only [RiderDevice.step] at stepped
      split at stepped <;> cases stepped
      cases member
  | signIn | signOut | start | refreshed =>
      cases stepped
      cases member

end RiderDevice

/-! ## All devices -/

def StoresTokens (_ : List TokenWrite) (network : TokenNetwork) (event : String × DeviceEvent) :
    Prop :=
  (network.device event.1).StoresToken (network.token event.1) event.2

instance (history : List TokenWrite) (network : TokenNetwork) (event : String × DeviceEvent) :
    Decidable (StoresTokens history network event) :=
  inferInstanceAs (Decidable ((network.device event.1).StoresToken _ event.2))

def TokensLaw (_ : List TokenWrite) (network : TokenNetwork) : Prop :=
  ∀ uid, RiderDevice.TokenLaw uid (network.token uid) (network.device uid)

variable {network next : TokenNetwork} {history stored : List TokenWrite}
  {event : String × DeviceEvent}

theorem leaf?_foldl_of_ne {uid key : String} (other : key ≠ uid) (below : List String)
    {writes : List TokenWrite} {riders : Tree String Scalar}
    (own : ∀ write ∈ writes, ∃ token, write = .setToken uid token) :
    (writes.foldl TokenWrite.apply riders).leaf? (key :: below) =
      riders.leaf? (key :: below) := by
  induction writes generalizing riders with
  | nil => rfl
  | cons write rest ih =>
      obtain ⟨token, rfl⟩ := own write (List.mem_cons_self ..)
      rw [List.foldl_cons, ih fun later member => own later (List.mem_cons_of_mem _ member),
        leaf?_setToken_of_ne token other]

/-- What a step of the network is for the acting device. -/
theorem TokenNetwork.step_eq_some
    (stepped : TokenNetwork.step network event = some (next, stored)) :
    ∃ device, RiderDevice.step event.1 (network.device event.1) event.2 = some (device, stored) ∧
      next.device = Function.update network.device event.1 device ∧
      next.riders = stored.foldl TokenWrite.apply network.riders := by
  simp only [TokenNetwork.step] at stepped
  split at stepped
  · cases stepped
  · next device writes acts =>
    cases stepped
    exact ⟨device, acts, rfl, rfl⟩

/-- The rider's record is all that a device of a lawful network writes to. -/
theorem TokensLaw.others (law : TokensLaw history network)
    (stepped : TokenNetwork.step network event = some (next, stored)) {key : String}
    (other : key ≠ event.1) (below : List String) :
    next.riders.leaf? (key :: below) = network.riders.leaf? (key :: below) := by
  obtain ⟨device, acts, _, riders⟩ := TokenNetwork.step_eq_some stepped
  rw [riders, leaf?_foldl_of_ne other below]
  intro write member
  exact (law event.1).writes write (RiderDevice.mem_writes_of_step acts member)

theorem TokensLaw.step (law : TokensLaw history network)
    (stores : StoresTokens history network event)
    (stepped : TokenNetwork.step network event = some (next, stored)) :
    TokensLaw (history ++ stored) next := by
  obtain ⟨device, acts, devices, riders⟩ := TokenNetwork.step_eq_some stepped
  intro uid
  by_cases same : uid = event.1
  · subst same
    rw [TokenNetwork.token, devices, riders, Function.update_self]
    exact (law event.1).step stores acts
  · have untouched : next.token uid = network.token uid := law.others stepped same ["token"]
    rw [untouched, devices, Function.update_of_ne same]
    exact law uid

theorem TokensLaw.tokensKept (law : TokensLaw history network) : TokensKept history network := by
  intro uid idle written obtained
  rcases (law uid).covered obtained with current | pending
  · rw [RiderDevice.UpToDate, RiderDevice.issued, written] at current
    exact current
  · rw [idle] at pending
    obtain ⟨call, member, _⟩ := pending
    cases member

/-- Where each obtained token is stored by somebody, and `saveFCMToken` never writes, all
records keep the newest tokens and no device touches another record. -/
theorem tokensKept_of_storesTokens {riders : Tree String Scalar}
    {events : List (String × DeviceEvent)}
    (run : exec TokenNetwork.step { riders := riders } events = some (network, stored))
    (stores : Meets TokenNetwork.step StoresTokens [] { riders := riders } events) :
    Always TokenNetwork.step TokensKept [] { riders := riders } events ∧
      Meets TokenNetwork.step KeepsOthers [] { riders := riders } events := by
  have all : ∀ event ∈ events, True := fun _ _ => trivial
  apply always_meets_of_meets TokensLaw TokensKept _ _ _ _ all run stores
  · intro history network law
    exact law.tokensKept
  · intro history network event next stored law _ stores stepped
    exact law.step stores stepped
  · intro history network event next stored law _ _ stepped result reached key below other
    cases stepped.symm.trans reached
    exact law.others stepped other below
  · intro uid
    exact ⟨by simp, by simp, by simp, by simp, by simp⟩

/-- Two riders sign in after their apps have started, and mount the home tab. -/
def sampleTokenEvents : List (String × DeviceEvent) :=
  [("ama", .refreshed "token-1"), ("kofi", .refreshed "token-2"), ("ama", .start),
    ("kofi", .start), ("ama", .answered 0), ("ama", .answered 0), ("kofi", .failed 1),
    ("kofi", .answered 0), ("ama", .signIn), ("kofi", .signIn), ("ama", .mount),
    ("kofi", .mount), ("kofi", .answered 0), ("ama", .answered 0), ("ama", .stored),
    ("kofi", .stored)]

theorem tokensKept_sampleTokenEvents :
    ∃ network stored,
      exec TokenNetwork.step { riders := Tree.empty } sampleTokenEvents =
        some (network, stored) ∧
      network.token "ama" = some (.text "token-1") ∧
      network.token "kofi" = some (.text "token-2") ∧
      Always TokenNetwork.step TokensKept [] { riders := Tree.empty } sampleTokenEvents ∧
      Meets TokenNetwork.step KeepsOthers [] { riders := Tree.empty } sampleTokenEvents := by
  have ends : (exec TokenNetwork.step { riders := Tree.empty } sampleTokenEvents).map
      (fun result => (result.1.token "ama", result.1.token "kofi")) =
        some (some (.text "token-1"), some (.text "token-2")) := by
    decide +kernel
  obtain ⟨⟨network, stored⟩, run, tokens⟩ := Option.map_eq_some_iff.mp ends
  simp only [Prod.mk.injEq] at tokens
  have stores : Meets TokenNetwork.step StoresTokens [] { riders := Tree.empty }
      sampleTokenEvents := by
    decide +kernel
  obtain ⟨always, others⟩ := tokensKept_of_storesTokens run stores
  exact ⟨network, stored, run, tokens.1, tokens.2, always, others⟩

/-- A rider is signed in when the app starts, and mounts the home tab. -/
def sampleTokenStart : List (String × DeviceEvent) :=
  [("ama", .signIn), ("ama", .refreshed "token-1"), ("ama", .start), ("ama", .answered 0),
    ("ama", .answered 0), ("ama", .stored), ("ama", .mount), ("ama", .answered 0),
    ("ama", .stored)]

/-- A refreshed token does not reach the rider's record, and the start of the app writes
beside it. -/
theorem not_tokensKept_of_refresh :
    (¬ ∀ (riders : Tree String Scalar) (events : List (String × DeviceEvent))
        (network : TokenNetwork) (stored : List TokenWrite),
      exec TokenNetwork.step { riders := riders } events = some (network, stored) →
      Always TokenNetwork.step TokensKept [] { riders := riders } events) ∧
    ¬ ∀ (riders : Tree String Scalar) (events : List (String × DeviceEvent))
        (network : TokenNetwork) (stored : List TokenWrite),
      exec TokenNetwork.step { riders := riders } events = some (network, stored) →
      Meets TokenNetwork.step KeepsOthers [] { riders := riders } events := by
  constructor
  · intro always
    have ends : (exec TokenNetwork.step { riders := Tree.empty }
        (sampleTokenStart ++ [("ama", .refreshed "token-2"), ("ama", .answered 0),
          ("ama", .stored)])).map (fun result => decide
            ((result.1.device "ama").calls = [] ∧ (result.1.device "ama").writes = [] ∧
              (result.1.device "ama").obtained = true ∧
              result.1.token "ama" = some (.text "token-1") ∧
              (result.1.device "ama").token = some "token-2")) = some true := by
      decide +kernel
    obtain ⟨⟨network, stored⟩, run, left⟩ := Option.map_eq_some_iff.mp ends
    obtain ⟨idle, written, obtained, kept, newest⟩ := of_decide_eq_true left
    have same := (always _ _ _ _ run).last run "ama" idle written obtained
    rw [kept, newest] at same
    exact absurd same (by decide)
  · intro always
    have ends : (exec TokenNetwork.step { riders := Tree.empty } sampleTokenStart).isSome =
        true := by
      decide +kernel
    obtain ⟨⟨network, stored⟩, run⟩ := Option.isSome_iff_exists.mp ends
    have beside : Meets TokenNetwork.step (fun _ network event =>
        ∀ result ∈ network.step event, "fcmToken" ≠ event.1 →
          result.1.riders.leaf? ["fcmToken"] = network.riders.leaf? ["fcmToken"])
        [] { riders := Tree.empty } sampleTokenStart := by
      apply meets_of_meets (fun _ => True) _ _ trivial (always _ _ _ _ run)
      · intro history network event next emitted _ _ _
        trivial
      · intro history network event _ others result reached
        exact others result reached "fcmToken" []
    revert beside
    decide +kernel

end FilldRider
