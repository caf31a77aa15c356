import FilldRider.Models.Profile
import FilldRider.Runs.Component

/-!
# Deleting the account

`_deleteUserAccount` removes `Riders/<uid>` and then deletes the account. What the first
call did is not undone when the second one fails.
-/

set_option autoImplicit false

namespace FilldRider

open Runs Trees

/-- What a call to the database or to the authentication service throws. -/
inductive DeletionFailure where
  | firebaseAuth (code : String) (message : Option String)
  | other
  deriving DecidableEq

inductive DeletionAction where
  | openAuthPage
  | snackBar (text : String)
  deriving DecidableEq

/-- The `on FirebaseAuthException` clause; nothing else is caught. -/
def DeletionFailure.report : DeletionFailure → List DeletionAction
  | .firebaseAuth code message =>
      if code = "requires-recent-login" then
        [.snackBar "Please log in again to delete your account."]
      else [.snackBar ("Error: " ++ message.getD "null")]
  | .other => []

/-- The call a running `_deleteUserAccount` awaits. -/
inductive DeletionCall where
  | remove
  | delete
  deriving DecidableEq

/-- A rider's record and account, and the deletions in progress. -/
structure Account where
  record : RiderRecord
  registered : Bool := true
  signedIn : Bool := true
  calls : List DeletionCall := []

inductive DeletionEvent where
  /-- The Delete button of the confirmation dialog. -/
  | deleteUserAccount
  | answered (call : Nat) (result : Except DeletionFailure Unit)
  | signOut
  | signIn

namespace Account

def answer (account : Account) (call : Nat) :
    DeletionCall → Except DeletionFailure Unit → Account × List DeletionAction
  | .remove, .ok _ =>
      ({ account with
          record := account.record.remove [], calls := account.calls.set call .delete }, [])
  | .delete, .ok _ =>
      ({ account with
          registered := false, signedIn := false, calls := account.calls.eraseIdx call },
        [.openAuthPage, .snackBar "Account successfully deleted."])
  | .remove, .error failure | .delete, .error failure =>
      ({ account with calls := account.calls.eraseIdx call }, failure.report)

def step : Component Account DeletionEvent DeletionAction
  | account, .deleteUserAccount =>
      if account.signedIn then
        some ({ account with calls := account.calls ++ [.remove] }, [])
      else some (account, [])
  | account, .answered call result =>
      account.calls[call]?.map fun awaited => account.answer call awaited result
  | account, .signOut => some ({ account with signedIn := false }, [])
  | account, .signIn =>
      if account.registered then some ({ account with signedIn := true }, []) else none

/-- What a step does to the record, the account and the deletions in progress. -/
inductive Move (account next : Account) : DeletionEvent → Prop where
  | started (calls : next.calls = account.calls ++ [.remove])
      (record : next.record = account.record) (registered : next.registered = account.registered) :
      Move account next .deleteUserAccount
  | removed {call : Nat} (awaited : account.calls[call]? = some .remove)
      (calls : next.calls = account.calls.set call .delete)
      (record : next.record = account.record.remove [])
      (registered : next.registered = account.registered) :
      Move account next (.answered call (.ok ()))
  | deleted {call : Nat} (awaited : account.calls[call]? = some .delete)
      (calls : next.calls = account.calls.eraseIdx call)
      (record : next.record = account.record) (registered : next.registered = false) :
      Move account next (.answered call (.ok ()))
  | failed {call : Nat} {failure : DeletionFailure} (awaited : call < account.calls.length)
      (calls : next.calls = account.calls.eraseIdx call)
      (record : next.record = account.record) (registered : next.registered = account.registered) :
      Move account next (.answered call (.error failure))
  | session {event : DeletionEvent} (apart : ∀ call result, event ≠ .answered call result)
      (calls : next.calls = account.calls)
      (record : next.record = account.record) (registered : next.registered = account.registered) :
      Move account next event

variable {account next : Account} {event : DeletionEvent} {actions : List DeletionAction}

theorem step_move (stepped : account.step event = some (next, actions)) :
    Move account next event := by
  cases event with
  | deleteUserAccount =>
      simp only [step] at stepped
      split at stepped <;> cases stepped
      · exact .started rfl rfl rfl
      · exact .session (by simp) rfl rfl rfl
  | answered call result =>
      obtain ⟨awaited, found, answered⟩ := Option.map_eq_some_iff.mp stepped
      cases result with
      | error failure =>
          have inside := (List.getElem?_eq_some_iff.mp found).1
          cases awaited <;> cases answered <;> exact .failed inside rfl rfl rfl
      | ok =>
          cases awaited with
          | remove =>
              cases answered
              exact .removed found rfl rfl rfl
          | delete =>
              cases answered
              exact .deleted found rfl rfl rfl
  | signOut =>
      cases stepped
      exact .session (by simp) rfl rfl rfl
  | signIn =>
      simp only [step] at stepped
      split at stepped <;> cases stepped
      exact .session (by simp) rfl rfl rfl

/-- With no deletion in progress, the record and the account are both gone, or both as
they were. -/
def AllOrNothing (account before : Account) : Prop :=
  account.calls = [] →
    account.record = .empty ∧ account.registered = false ∨
      account.record = before.record ∧ account.registered = before.registered

/-- No failure ends the only deletion in progress after the record was removed, unless
the account is gone or there was no record. -/
def FailsFirst (record : RiderRecord) (_ : List DeletionAction) (account : Account) :
    DeletionEvent → Prop
  | .answered _ (.error _) =>
      account.calls.length = 1 → account.registered = true → record.has [] = true →
        account.record.has [] = true
  | .answered _ (.ok _) | .deleteUserAccount | .signOut | .signIn => True

instance (record : RiderRecord) (history : List DeletionAction) (account : Account) :
    ∀ event, Decidable (FailsFirst record history account event)
  | .answered _ (.error _) => inferInstanceAs (Decidable (_ → _ → _ → _))
  | .answered _ (.ok _) | .deleteUserAccount | .signOut | .signIn => isTrue trivial

/-- How far the deletions of this record have come. -/
structure DeletionLaw (record : RiderRecord) (account : Account) : Prop where
  kept : account.record = record ∨ account.record = .empty
  removed : .delete ∈ account.calls → account.record = .empty
  deleted : account.registered = false → account.record = .empty
  settled : account.calls = [] → account.registered = true → account.record = record

theorem DeletionLaw.allOrNothing {record : RiderRecord} (law : DeletionLaw record account) :
    account.AllOrNothing { record := record } := by
  intro idle
  cases registered : account.registered with
  | false => exact .inl ⟨law.deleted registered, rfl⟩
  | true => exact .inr ⟨law.settled idle registered, rfl⟩

/-- A step that leaves the record and the account alone. -/
theorem DeletionLaw.unchanged {record : RiderRecord} (law : DeletionLaw record account)
    (kept : next.record = account.record) (registered : next.registered = account.registered)
    (deleting : .delete ∈ next.calls → .delete ∈ account.calls)
    (settled : next.calls = [] → account.registered = true → account.record = record) :
    DeletionLaw record next := by
  refine ⟨?_, ?_, ?_, ?_⟩
  · rw [kept]
    exact law.kept
  · intro awaited
    rw [kept]
    exact law.removed (deleting awaited)
  · rw [kept, registered]
    exact law.deleted
  · rw [kept, registered]
    exact settled

/-- A failure that ends the last deletion leaves the record as it was. -/
theorem DeletionLaw.failed {record : RiderRecord} {history : List DeletionAction} {call : Nat}
    {failure : DeletionFailure} (law : DeletionLaw record account)
    (fails : FailsFirst record history account (.answered call (.error failure)))
    (inside : call < account.calls.length) (last : account.calls.eraseIdx call = [])
    (present : account.registered = true) : account.record = record := by
  rw [← List.length_eq_zero_iff, List.length_eraseIdx_of_lt inside] at last
  rcases law.kept with same | gone
  · exact same
  · cases there : record.has [] with
    | false => rw [gone, Tree.has_nil_eq_false_iff.mp there]
    | true =>
        have still := fails (by omega) present there
        rw [Tree.has_nil_eq_false_iff.mpr gone] at still
        cases still

theorem DeletionLaw.step {record : RiderRecord} {history : List DeletionAction}
    (law : DeletionLaw record account) (fails : FailsFirst record history account event)
    (stepped : account.step event = some (next, actions)) : DeletionLaw record next := by
  cases step_move stepped with
  | started calls kept registered =>
      apply law.unchanged kept registered
      · simp [calls]
      · simp [calls]
  | @removed call awaited calls gone registered =>
      rw [Tree.remove_nil] at gone
      refine ⟨.inr gone, fun _ => gone, fun _ => gone, ?_⟩
      intro idle
      rw [calls, List.set_eq_nil_iff] at idle
      rw [idle] at awaited
      cases awaited
  | deleted awaited calls kept registered =>
      have gone := law.removed (List.mem_of_getElem? awaited)
      rw [← kept] at gone
      refine ⟨.inr gone, fun _ => gone, fun _ => gone, ?_⟩
      simp [registered]
  | @failed call failure inside calls kept registered =>
      apply law.unchanged kept registered
      · rw [calls]
        exact List.mem_of_mem_eraseIdx
      · rw [calls]
        exact law.failed fails inside
  | session apart calls kept registered =>
      apply law.unchanged kept registered
      · rw [calls]
        exact id
      · rw [calls]
        exact law.settled

theorem failsFirst_of_allOrNothing {record : RiderRecord} {history : List DeletionAction}
    (stepped : account.step event = some (next, actions))
    (whole : next.AllOrNothing { record := record }) :
    FailsFirst record history account event := by
  cases step_move stepped with
  | @failed call failure inside calls kept registered =>
      intro single present there
      have idle : next.calls = [] := by
        rw [calls, ← List.length_eq_zero_iff, List.length_eraseIdx_of_lt inside, single]
      rcases whole idle with gone | same
      · rw [registered, present] at gone
        cases gone.2
      · rw [← kept, same.1]
        exact there
  | started | removed | deleted => trivial
  | session apart calls kept registered =>
      cases event with
      | answered call result => exact (apart call result rfl).elim
      | deleteUserAccount | signOut | signIn => trivial

/-- Deletions and their retries are all or nothing exactly when none fails for good after
the record was removed. -/
theorem allOrNothing_iff_failsFirst {record : RiderRecord} {events : List DeletionEvent}
    (run : exec step { record := record } events = some (account, actions)) :
    Always step (fun _ account => account.AllOrNothing { record := record }) []
        { record := record } events ↔
      Meets step (FailsFirst record) [] { record := record } events := by
  have all : ∀ event ∈ events, True := fun _ _ => trivial
  apply always_iff_meets (fun _ account => DeletionLaw record account) _ _ _ _ _ all run
  · intro history account law
    exact law.allOrNothing
  · intro history account event next actions law _ fails stepped
    exact law.step fails stepped
  · intro history account event next actions _ _ stepped whole
    exact failsFirst_of_allOrNothing stepped whole
  · exact ⟨.inl rfl, by simp, by simp, fun _ _ => rfl⟩

end Account

/-- The removal fails, and the retry succeeds. -/
def sampleRetry : List DeletionEvent :=
  [.deleteUserAccount, .answered 0 (.error .other), .deleteUserAccount, .answered 0 (.ok ()),
    .answered 0 (.ok ())]

theorem allOrNothing_sampleRetry :
    ∃ account actions,
      exec Account.step { record := registerNewUser sampleRegistration } sampleRetry =
        some (account, actions) ∧
      account.registered = false ∧
      Always Account.step
        (fun _ account =>
          account.AllOrNothing { record := registerNewUser sampleRegistration })
        [] { record := registerNewUser sampleRegistration } sampleRetry := by
  have ends : (exec Account.step { record := registerNewUser sampleRegistration }
      sampleRetry).map (fun result => result.1.registered) = some false := by
    decide +kernel
  obtain ⟨⟨account, actions⟩, run, gone⟩ := Option.map_eq_some_iff.mp ends
  have meets : Meets Account.step
      (Account.FailsFirst (registerNewUser sampleRegistration)) []
      { record := registerNewUser sampleRegistration } sampleRetry := by
    decide +kernel
  exact ⟨account, actions, run, gone, (Account.allOrNothing_iff_failsFirst run).mpr meets⟩

/-- The removal succeeds, and the account asks for a recent login. -/
def sampleStaleLogin : List DeletionEvent :=
  [.deleteUserAccount, .answered 0 (.ok ()),
    .answered 0 (.error (.firebaseAuth "requires-recent-login" none))]

theorem not_allOrNothing_of_staleLogin :
    ¬ ∀ (record : RiderRecord) (events : List DeletionEvent) (account : Account)
        (actions : List DeletionAction),
      exec Account.step { record := record } events = some (account, actions) →
      Always Account.step (fun _ account => account.AllOrNothing { record := record }) []
        { record := record } events := by
  intro always
  have ends : (exec Account.step { record := registerNewUser sampleRegistration }
      sampleStaleLogin).map (fun result =>
        (result.1.calls, result.1.registered, result.1.record.has [])) =
      some ([], true, false) := by
    decide +kernel
  obtain ⟨⟨account, actions⟩, run, left⟩ := Option.map_eq_some_iff.mp ends
  simp only [Prod.mk.injEq] at left
  obtain ⟨idle, registered, gone⟩ := left
  have whole := (always _ _ _ _ run).last run idle
  rcases whole with both | same
  · rw [registered] at both
    cases both.2
  · have present : (registerNewUser sampleRegistration).has [] = true := by decide +kernel
    have kept : account.record = registerNewUser sampleRegistration := same.1
    rw [← kept, gone] at present
    cases present

end FilldRider
