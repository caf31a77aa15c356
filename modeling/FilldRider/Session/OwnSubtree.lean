import FilldRider.Session.Basic
import FilldRider.NewRequestScreen.Basic
import FilldRider.Runs.Component

/-!
# The signed-in rider's own subtree

The references keep the rider of their first read, so after another sign-in they lead
into that first rider's subtree.
-/

set_option autoImplicit false

namespace FilldRider

open Runs

/-- Every access goes below the rider signed in at that moment. -/
def OwnSubtree (accesses : List Access) : Prop :=
  ∀ access ∈ accesses, ∃ uid, access.signedIn = some uid ∧ access.path.Below uid

theorem OwnSubtree.append {before after : List Access} :
    OwnSubtree (before ++ after) ↔ OwnSubtree before ∧ OwnSubtree after :=
  List.forall_mem_append

theorem Reference.below_initializer (reference : Reference) (uid : String) (below : Path) :
    Path.Below (reference.initializer uid ++ below) uid := by
  cases reference with
  | riderRequestRef | riderskey => exact .inl ⟨_ :: below, rfl⟩
  | availableRider => exact .inr ⟨below, rfl⟩

theorem Path.Below.unique {path : Path} {first second : String} (left : path.Below first)
    (right : path.Below second) : first = second := by
  rcases left with ⟨rest, rfl⟩ | ⟨rest, rfl⟩ <;>
    rcases right with ⟨other, same⟩ | ⟨other, same⟩ <;> simp at same <;>
    exact same.1.symm

namespace Session

/-- The rider whose nodes the references lead to, once one of them is read. -/
def owner (session : Session) : Option String := session.globals.owner session.auth

@[simp] theorem await_auth (session : Session) (awaited : Awaited) :
    (session.await awaited).auth = session.auth := by
  cases awaited <;> rfl

@[simp] theorem await_globals (session : Session) (awaited : Awaited) :
    (session.await awaited).globals = session.globals := by
  cases awaited <;> rfl

@[simp] theorem await_currentfirebaseUser (session : Session) (awaited : Awaited) :
    (session.await awaited).currentfirebaseUser = session.currentfirebaseUser := by
  cases awaited <;> rfl

structure CallKeeps (session next : Session) : Prop where
  auth : next.auth = session.auth
  currentfirebaseUser : next.currentfirebaseUser = session.currentfirebaseUser
  owner : next.owner = session.owner

theorem call_keeps (session : Session) (call : Call) :
    CallKeeps session (session.call call).1 := by
  cases call with
  | access reference below operation =>
      have user := (session.globals.read_spec session.auth reference).2
      exact ⟨rfl, rfl, by simp [Session.call, owner, Globals.owner, user]⟩
  | evaluate reference =>
      have user := (session.globals.read_spec session.auth reference).2
      exact ⟨rfl, rfl, by simp [Session.call, owner, Globals.owner, user]⟩
  | currentfirebaseUser => exact ⟨rfl, rfl, rfl⟩
  | await awaited => exact ⟨by simp [Session.call], by simp [Session.call],
      by simp [Session.call, owner]⟩

theorem call_access (session : Session) (reference : Reference) (below : Path)
    (operation : Operation) :
    (session.call (.access reference below operation)).2 =
      session.owner.map fun uid =>
        [⟨operation, reference.initializer uid ++ below, session.auth⟩] := by
  simp [Session.call, owner, (session.globals.read_spec session.auth reference).1,
    Function.comp_def]

theorem call_evaluate (session : Session) (reference : Reference) :
    (session.call (.evaluate reference)).2 = session.owner.map fun _ => [] := by
  simp [Session.call, owner, (session.globals.read_spec session.auth reference).1,
    Function.comp_def]

theorem perform_cons (session : Session) (call : Call) (rest : List Call) :
    (session.perform (call :: rest)).2 =
      (session.call call).2.elim [] fun accesses =>
        accesses ++ ((session.call call).1.perform rest).2 := by
  simp only [perform]
  split
  next next called => simp [called]
  next next accesses called => simp [called]

theorem perform_owner {session : Session} {calls : List Call} {access : Access}
    (member : access ∈ (session.perform calls).2) :
    access.signedIn = session.auth ∧
      ∃ uid, session.owner = some uid ∧ access.path.Below uid := by
  induction calls generalizing session with
  | nil => cases member
  | cons call rest ih =>
      rw [perform_cons] at member
      have keeps := session.call_keeps call
      cases called : (session.call call).2 with
      | none => simp [called] at member
      | some accesses =>
          simp only [called, Option.elim_some, List.mem_append] at member
          rcases member with now | later
          · cases call with
            | access reference below operation =>
                rw [call_access, Option.map_eq_some_iff] at called
                obtain ⟨uid, known, rfl⟩ := called
                cases List.mem_singleton.mp now
                exact ⟨rfl, uid, known, reference.below_initializer uid below⟩
            | evaluate reference =>
                rw [call_evaluate, Option.map_eq_some_iff] at called
                obtain ⟨_, _, rfl⟩ := called
                cases now
            | currentfirebaseUser =>
                obtain ⟨_, _, rfl⟩ := Option.map_eq_some_iff.mp called
                cases now
            | await awaited =>
                cases called
                cases now
          · have found := ih later
            rw [keeps.auth, keeps.owner] at found
            exact found

/-- With an owner, an access is reached unless the signed-in user is missing before it. -/
theorem perform_ne_nil {session : Session} {uid : String} (known : session.owner = some uid)
    (before : List Call) {after : List Call} {reference : Reference} {below : Path} {operation : Operation}
    (signedIn : .currentfirebaseUser ∈ before → session.currentfirebaseUser.isSome) :
    (session.perform (before ++ .access reference below operation :: after)).2 ≠ [] := by
  induction before generalizing session with
  | nil => simp [perform_cons, call_access, known]
  | cons call rest ih =>
      have keeps := session.call_keeps call
      have later := ih (keeps.owner.trans known) fun member => by
        rw [keeps.currentfirebaseUser]
        exact signedIn (List.mem_cons_of_mem _ member)
      rw [List.cons_append, perform_cons]
      cases call with
      | access reference below operation => simp [call_access, known]
      | evaluate reference => simpa [call_evaluate, known] using later
      | currentfirebaseUser =>
          obtain ⟨current, present⟩ :=
            Option.isSome_iff_exists.mp (signedIn (List.mem_cons_self ..))
          simpa [Session.call, present] using later
      | await awaited => simpa [Session.call] using later

theorem perform_eq_nil {session : Session} {calls : List Call}
    (quiet : ∀ reference below operation, .access reference below operation ∉ calls) :
    (session.perform calls).2 = [] := by
  induction calls generalizing session with
  | nil => rfl
  | cons call rest ih =>
      have later : ((session.call call).1.perform rest).2 = [] :=
        ih fun reference below operation member =>
          quiet reference below operation (List.mem_cons_of_mem _ member)
      rw [perform_cons]
      cases call with
      | access reference below operation =>
          exact (quiet reference below operation (List.mem_cons_self ..)).elim
      | evaluate reference => cases known : session.owner <;> simp [call_evaluate, known, later]
      | currentfirebaseUser =>
          cases current : session.currentfirebaseUser with
          | none => simp [Session.call, current]
          | some _ => simpa [Session.call, current] using later
      | await awaited => simpa [Session.call] using later

/-- The handler of this event comes to a use of one of the references. -/
def uses (session : Session) : SessionEvent → Bool
  | .tap | .accept .. | .located _ => true
  | .statusRead data isDriverAvailable =>
      decide (data ≠ some "deactivated") && isDriverAvailable &&
        session.currentfirebaseUser.isSome
  | .slotRead call value =>
      session.accepts[call]?.any fun pending =>
        decide (theRideId value = pending.2.rideRequestId)
  | .built _ => session.currentfirebaseUser.isSome
  | _ => false

theorem handler_keeps {session start : Session} {event : SessionEvent} {calls : List Call}
    (handled : session.handler event = some (start, calls)) :
    start.globals = session.globals ∧ (calls ≠ [] → start.auth = session.auth) := by
  cases event with
  | signIn | signOut | getCurrentArtisanInfo =>
      cases handled
      exact ⟨rfl, fun busy => (busy rfl).elim⟩
  | tap | accept =>
      cases handled
      exact ⟨rfl, fun _ => rfl⟩
  | statusRead | located | lookupFailed =>
      obtain ⟨_, rfl, rfl⟩ := by simpa [handler] using handled
      exact ⟨rfl, fun _ => rfl⟩
  | slotRead =>
      simp only [handler] at handled
      split at handled
      next => cases handled
      next =>
        cases handled
        exact ⟨rfl, fun _ => rfl⟩
  | built =>
      simp only [handler] at handled
      split at handled
      next => cases handled
      next =>
        cases handled
        exact ⟨rfl, fun _ => rfl⟩

theorem handleStatus_eq (data : Option String) (isDriverAvailable : Bool) :
    handleStatus data isDriverAvailable =
      if data = some "deactivated" then []
      else if isDriverAvailable then
        [.currentfirebaseUser, .evaluate .riderRequestRef,
          .access .riderRequestRef [] .remove]
      else [.await .position] := by
  by_cases deactivated : data = some "deactivated" <;> cases isDriverAvailable <;>
    simp [handleStatus, Home.handleStatus, deactivated, Home.makeRiderOfflineNow,
      Home.makeRiderOnlineNow, Home.getLocationLiveUpdates, Home.updateDriverStatus,
      RiderWrite.calls]

theorem flatMap_calls_checkAvailability (clientDetails : ClientDetails String)
    (value : Option SlotValue) :
    (checkAvailability clientDetails value).flatMap DialogAction.calls =
      if theRideId value = clientDetails.rideRequestId then
        [.access .riderRequestRef [] (.set "accepted"), .currentfirebaseUser,
          .await (.newRequestScreen clientDetails)]
      else [] := by
  have toasted : (if value = none then [DialogAction.displayToast "Ride not exists."]
      else []).flatMap DialogAction.calls = [] := by
    split <;> rfl
  simp only [checkAvailability, List.flatMap_cons, List.flatMap_append, toasted]
  by_cases same : theRideId value = clientDetails.rideRequestId
  · simp [same, DialogAction.calls, RiderWrite.calls,
      Home.disableHomeTabLiveLocationUpdates]
  · rw [if_neg same, if_neg same]
    split
    · rfl
    · split <;> rfl

theorem perform_of_uses {session start : Session} {event : SessionEvent} {calls : List Call}
    {uid : String} (handled : session.handler event = some (start, calls))
    (used : session.uses event = true) (known : start.owner = some uid) :
    (start.perform calls).2 ≠ [] := by
  cases event with
  | signIn | signOut | getCurrentArtisanInfo | lookupFailed => cases used
  | tap | accept =>
      cases handled
      exact perform_ne_nil known [] (by simp)
  | statusRead data isDriverAvailable =>
      simp only [uses, Bool.and_eq_true, decide_eq_true_eq] at used
      obtain ⟨⟨activated, available⟩, signedIn⟩ := used
      obtain ⟨_, rfl, rfl⟩ := by simpa [handler] using handled
      rw [handleStatus_eq, if_neg activated, if_pos available]
      exact perform_ne_nil known [.currentfirebaseUser, .evaluate .riderRequestRef]
        fun _ => signedIn
  | located position =>
      obtain ⟨_, rfl, rfl⟩ := by simpa [handler] using handled
      exact perform_ne_nil known [] (by simp)
  | slotRead call value =>
      simp only [uses, handler] at used handled
      split at handled
      next => cases handled
      next dialog clientDetails pending =>
        cases handled
        have same : theRideId value = clientDetails.rideRequestId := by
          simpa [pending] using used
        rw [dialog.checkAvailabilityOfRide_eq, flatMap_calls_checkAvailability, if_pos same]
        exact perform_ne_nil known [] (by simp)
  | built opening =>
      simp only [handler] at handled
      split at handled
      next => cases handled
      next clientDetails _ =>
        cases handled
        obtain ⟨current, present⟩ := Option.isSome_iff_exists.mp used
        have marked : session.acceptRideRequest clientDetails =
            [.evaluate .riderskey, .evaluate .riderRequestRef, .currentfirebaseUser] ++
              [.access .riderRequestRef [current, "history", clientDetails.rideRequestId]
                (.set "true")] := by
          simp [acceptRideRequest, present, RiderWrite.calls]
        rw [marked]
        exact perform_ne_nil known
          [.evaluate .riderskey, .evaluate .riderRequestRef, .currentfirebaseUser]
          fun _ => used

theorem perform_of_not_uses {session start : Session} {event : SessionEvent}
    {calls : List Call} (handled : session.handler event = some (start, calls))
    (unused : session.uses event = false) : (start.perform calls).2 = [] := by
  cases event with
  | signIn | signOut | getCurrentArtisanInfo =>
      cases handled
      rfl
  | lookupFailed =>
      obtain ⟨_, rfl, rfl⟩ := by simpa [handler] using handled
      rfl
  | tap | accept | located => cases unused
  | statusRead data isDriverAvailable =>
      obtain ⟨_, rfl, rfl⟩ := by simpa [handler] using handled
      rw [handleStatus_eq]
      split
      next => rfl
      next activated =>
        split
        next available =>
          have missing : session.currentfirebaseUser = none := by
            simpa [uses, activated, available] using unused
          simp [perform_cons, Session.call, missing]
        next => rfl
  | slotRead call value =>
      simp only [uses, handler] at unused handled
      split at handled
      next => cases handled
      next dialog clientDetails pending =>
        cases handled
        have other : theRideId value ≠ clientDetails.rideRequestId := by
          simpa [pending] using unused
        rw [dialog.checkAvailabilityOfRide_eq, flatMap_calls_checkAvailability, if_neg other]
        rfl
  | built opening =>
      simp only [handler] at handled
      split at handled
      next => cases handled
      next =>
        cases handled
        have missing : session.currentfirebaseUser = none := by
          simpa [uses] using unused
        apply perform_eq_nil
        simp [acceptRideRequest, missing]

end Session

/-- A use comes while the rider that `user` holds, if it holds one, is signed in. -/
def UsedByOwner (_ : List Access) (session : Session) (event : SessionEvent) : Prop :=
  session.uses event = true → ∀ owner ∈ session.globals.user.join, session.auth = some owner

instance (history : List Access) (session : Session) (event : SessionEvent) :
    Decidable (UsedByOwner history session event) :=
  have : Decidable (∀ owner ∈ session.globals.user.join, session.auth = some owner) :=
    Option.decidableForallMem _
  inferInstanceAs (Decidable (_ → _))

section Steps

variable {history accesses : List Access} {session next : Session} {event : SessionEvent}

theorem OwnSubtree.step (own : OwnSubtree history)
    (byOwner : UsedByOwner history session event)
    (stepped : Session.component session event = some (next, accesses)) :
    OwnSubtree (history ++ accesses) := by
  obtain ⟨⟨start, calls⟩, handled, performed⟩ := Option.map_eq_some_iff.mp stepped
  have emitted : (start.perform calls).2 = accesses := congrArg Prod.snd performed
  refine OwnSubtree.append.mpr ⟨own, ?_⟩
  rw [← emitted]
  intro access member
  obtain ⟨noted, uid, known, below⟩ := Session.perform_owner member
  obtain ⟨globals, signedIn⟩ := Session.handler_keeps handled
  have auth : start.auth = session.auth := by
    apply signedIn
    rintro rfl
    cases member
  have used : session.uses event = true := by
    by_contra unused
    rw [Session.perform_of_not_uses handled (Bool.eq_false_iff.mpr unused)] at member
    cases member
  refine ⟨uid, ?_, below⟩
  rw [noted, auth]
  rw [Session.owner, Globals.owner, globals, auth] at known
  cases user : session.globals.user with
  | none => simpa [user] using known
  | some value =>
      apply byOwner used uid
      simpa [user] using known

theorem OwnSubtree.usedByOwner
    (stepped : Session.component session event = some (next, accesses))
    (own : OwnSubtree accesses) : UsedByOwner history session event := by
  obtain ⟨⟨start, calls⟩, handled, performed⟩ := Option.map_eq_some_iff.mp stepped
  have emitted : (start.perform calls).2 = accesses := congrArg Prod.snd performed
  intro used owner held
  have known : start.owner = some owner := by
    rw [Session.owner, Globals.owner, (Session.handler_keeps handled).1,
      Option.join_eq_some_iff.mp held, Option.getD_some]
  obtain ⟨access, member⟩ :=
    List.exists_mem_of_ne_nil _ (Session.perform_of_uses handled used known)
  obtain ⟨noted, uid, same, below⟩ := Session.perform_owner member
  obtain ⟨signedIn, auth, own⟩ := own access (emitted ▸ member)
  have busy : calls ≠ [] := by
    rintro rfl
    cases member
  rw [← (Session.handler_keeps handled).2 busy, ← noted, auth, own.unique below, ← same, known]

end Steps

/-- In every process, all accesses stay below the signed-in rider exactly if each use
of a reference comes while the rider of the first use is signed in. -/
theorem ownSubtree_iff_usedByOwner (auth : Option String) {session : Session}
    {events : List SessionEvent} {accesses : List Access}
    (run : exec Session.component { auth := auth } events = some (session, accesses)) :
    OwnSubtree accesses ↔
      Meets Session.component UsedByOwner [] { auth := auth } events := by
  have start : OwnSubtree [] := by simp [OwnSubtree]
  refine exec_holds_iff_meets (fun history _ => OwnSubtree history) OwnSubtree id
    (fun all => (OwnSubtree.append.mp all).1) ?_ ?_ start run
  · intro history session event next accesses own byOwner stepped
    exact own.step byOwner stepped
  · intro history session event next accesses _ stepped all
    exact (OwnSubtree.append.mp all).2.usedByOwner stepped

def sampleSession : List SessionEvent :=
  [.signIn "rider", .getCurrentArtisanInfo, .tap, .statusRead none false, .located ⟨5, 1⟩,
    .accept .notification sampleDetails, .slotRead 0 (some (.text "request-1")), .built 0,
    .signOut, .signIn "rider", .getCurrentArtisanInfo, .tap, .statusRead none true]

theorem ownSubtree_sampleSession :
    ∃ session accesses,
      exec Session.component {} sampleSession = some (session, accesses) ∧
      accesses.length = 9 ∧ OwnSubtree accesses := by
  have used : ((exec Session.component {} sampleSession).map fun result =>
      result.2.length) = some 9 := by
    decide +kernel
  obtain ⟨⟨session, accesses⟩, run, length⟩ := Option.map_eq_some_iff.mp used
  refine ⟨session, accesses, run, length, ?_⟩
  apply (ownSubtree_iff_usedByOwner none run).mpr
  decide +kernel

theorem not_ownSubtree_of_second_rider :
    ¬ ∀ (auth : Option String) (session : Session) (events : List SessionEvent)
        (accesses : List Access),
      exec Session.component { auth := auth } events = some (session, accesses) →
      OwnSubtree accesses := by
  intro always
  have read : ((exec Session.component { auth := none }
      [.signIn "first", .tap, .signOut, .signIn "second", .tap]).map Prod.snd) =
        some [⟨.once, ["Riders", "first", "status"], some "first"⟩,
          ⟨.once, ["Riders", "first", "status"], some "second"⟩] := by
    decide +kernel
  obtain ⟨⟨session, accesses⟩, run, paths⟩ := Option.map_eq_some_iff.mp read
  obtain ⟨uid, signedIn, below⟩ := always none session _ accesses run
    ⟨.once, ["Riders", "first", "status"], some "second"⟩ (by rw [show accesses = _ from paths]; simp)
  cases signedIn
  exact absurd below (by decide)

end FilldRider
