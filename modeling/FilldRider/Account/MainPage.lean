import FilldRider.Account.Pages

/-!
# Where the main screen is

The main screen is opened alone, for somebody who is signed in. While it is open only
pages of the rider are above it, so that no way back leads to it from a sign-in page or
from it to one.
-/

set_option autoImplicit false

namespace FilldRider

open Runs

/-- The main screen at the bottom, under pages of the rider. -/
inductive OverMain : List Page → Prop where
  | main : OverMain [.mainScreen]
  | above {page : Page} {routes : List Page} (ofRider : page.ofRider = true)
      (rest : OverMain routes) : OverMain (page :: routes)

namespace OverMain

variable {page : Page} {routes : List Page}

theorem tail (above : OverMain routes) (still : .mainScreen ∈ routes.tail) :
    OverMain routes.tail := by
  cases above with
  | main => cases still
  | above ofRider rest => exact rest

theorem top (above : OverMain (page :: routes)) : page = .mainScreen ∨ page.ofRider = true := by
  cases above with
  | main => exact .inl rfl
  | above ofRider rest => exact .inr ofRider

theorem ofRider_of_nonempty (above : OverMain (page :: routes)) (still : .mainScreen ∈ routes) :
    page.ofRider = true := by
  cases above with
  | main => cases still
  | above ofRider rest => exact ofRider

end OverMain

namespace AppPages

variable {pages next : AppPages} {page : Page} {event : PageEvent} {events : List PageEvent}

def MainGuarded (pages : AppPages) : Prop :=
  .mainScreen ∈ pages.routes → OverMain pages.routes ∧ pages.currentUser ≠ none

/-- The answer of a page that the main screen has replaced does nothing, and that of a
deletion finds its tab. -/
def AnswersInOrder (pages : AppPages) (mounted : Bool) : Option PageCall → Prop
  | some .saveProfile => mounted = true → .mainScreen ∉ pages.routes
  | some .createUser => mounted = true → .mainScreen ∉ pages.routes.tail
  | some (.deleteUser uid) =>
      mounted = false → pages.currentUser = some uid → .mainScreen ∉ pages.routes
  | some .signIn | some .signInAgain => True
  | some .retrieveRideRequestInfo | some .checkAvailabilityOfRide | none => True

instance (pages : AppPages) (mounted : Bool) :
    ∀ awaited, Decidable (AnswersInOrder pages mounted awaited)
  | some .saveProfile => inferInstanceAs (Decidable (_ → _ ∉ _))
  | some .createUser => inferInstanceAs (Decidable (_ → _ ∉ _))
  | some (.deleteUser _) => inferInstanceAs (Decidable (_ → _ → _ ∉ _))
  | some .signIn | some .signInAgain => isTrue trivial
  | some .retrieveRideRequestInfo | some .checkAvailabilityOfRide | none => isTrue trivial

/-- While the main screen is open no sign-out takes effect, and the answers that come
are in order. -/
def Orderly (_ : List Empty) (pages : AppPages) : PageEvent → Prop
  | .signedOut => .mainScreen ∉ pages.routes
  | .answered call mounted success =>
      success.isSome → AnswersInOrder pages mounted pages.calls[call]?
  | _ => True

instance (history : List Empty) (pages : AppPages) :
    ∀ event, Decidable (Orderly history pages event)
  | .signedOut => inferInstanceAs (Decidable (_ ∉ _))
  | .answered _ _ _ => inferInstanceAs (Decidable (_ → AnswersInOrder _ _ _))
  | .start _ | .onIntroEnd | .tap _ | .pop | .login => isTrue trivial
  | .loginAndAuthenticateUser | .registerNewUser | .saveProfile => isTrue trivial
  | .signOutYes | .deleteAccount | .pushMessage | .accept | .rideNotice => isTrue trivial

/-! ## The calls on the navigator -/

theorem MainGuarded.of_same (guarded : pages.MainGuarded) (routes : next.routes = pages.routes)
    (user : pages.currentUser ≠ none → next.currentUser ≠ none) : next.MainGuarded := by
  intro opened
  rw [routes] at opened ⊢
  obtain ⟨above, signedIn⟩ := guarded opened
  exact ⟨above, user signedIn⟩

theorem MainGuarded.push (guarded : pages.MainGuarded) (other : page ≠ .mainScreen)
    (ofRider : .mainScreen ∈ pages.routes → page.ofRider = true) :
    (pages.push page).MainGuarded := by
  intro opened
  rcases List.mem_cons.mp opened with same | below
  · exact absurd same.symm other
  · obtain ⟨above, signedIn⟩ := guarded below
    exact ⟨.above (ofRider below) above, signedIn⟩

theorem MainGuarded.pop (guarded : pages.MainGuarded) : pages.pop.MainGuarded := by
  intro opened
  obtain ⟨above, signedIn⟩ := guarded (List.mem_of_mem_tail opened)
  exact ⟨above.tail opened, signedIn⟩

theorem guarded_pushAndRemoveAll (other : page ≠ .mainScreen) :
    (pages.pushAndRemoveAll page).MainGuarded := by
  intro opened
  exact absurd (List.mem_singleton.mp opened).symm other

theorem guarded_openMainScreen (signedIn : pages.currentUser ≠ none) :
    pages.openMainScreen.MainGuarded := fun _ => ⟨.main, signedIn⟩

theorem MainGuarded.within (guarded : pages.MainGuarded) {mounted : Bool}
    {change : AppPages → AppPages} (changed : mounted = true → (change pages).MainGuarded) :
    (pages.within mounted change).MainGuarded := by
  rw [AppPages.within]
  split
  · next here => exact changed here
  · exact guarded

/-- A page that is none of the rider's is on top only when the main screen is not open. -/
theorem MainGuarded.closed (guarded : pages.MainGuarded) (top : pages.routes.head? = some page)
    (other : page ≠ .mainScreen) (foreign : page.ofRider = false) :
    .mainScreen ∉ pages.routes := by
  intro opened
  obtain ⟨above, _⟩ := guarded opened
  cases routes : pages.routes with
  | nil => simp [routes] at top
  | cons first rest =>
      rw [routes] at top above
      cases top
      rcases above.top with same | ofRider
      · exact other same
      · exact absurd (foreign.symm.trans ofRider) (by decide)

/-! ## One step -/

theorem MainGuarded.answer (guarded : pages.MainGuarded) {mounted : Bool} {awaited : PageCall}
    {success : Option String}
    (orderly : success.isSome → AnswersInOrder pages mounted (some awaited)) :
    (pages.answer mounted awaited success).MainGuarded := by
  have signedIn (uid : String) : ({ pages with currentUser := some uid } : AppPages).MainGuarded :=
    guarded.of_same rfl fun _ => by simp
  cases success with
  | none =>
      cases awaited with
      | signIn | createUser | checkAvailabilityOfRide => exact guarded.within fun _ => guarded.pop
      | signInAgain | saveProfile | deleteUser _ | retrieveRideRequestInfo => exact guarded
  | some uid =>
      have order := orderly rfl
      cases awaited with
      | signIn => exact (signedIn uid).of_same rfl id
      | signInAgain =>
          apply (signedIn uid).within
          intro _
          exact guarded_openMainScreen (by simp)
      | createUser =>
          apply (signedIn uid).within
          intro mounted opened
          cases routes : pages.routes with
          | nil => simp [pushReplacement, routes] at opened
          | cons page rest =>
              have closed : .mainScreen ∉ rest := by
                have below := order mounted
                rwa [routes] at below
              simp only [pushReplacement, routes, List.mem_cons, reduceCtorEq, false_or] at opened
              exact absurd opened closed
      | saveProfile =>
          apply guarded.within
          intro mounted
          apply guarded.push (by decide)
          intro opened
          exact absurd opened (order mounted)
      | deleteUser deleted =>
          simp only [AppPages.answer, AppPages.within]
          split
          · exact guarded_pushAndRemoveAll (by decide)
          · next gone =>
            intro opened
            have other : pages.currentUser ≠ some deleted := by
              intro same
              exact order (Bool.eq_false_iff.mpr gone) same opened
            obtain ⟨above, present⟩ := guarded opened
            refine ⟨above, ?_⟩
            simpa only [if_neg other] using present
      | retrieveRideRequestInfo =>
          apply guarded.within
          intro _
          exact guarded.push (by decide) fun _ => rfl
      | checkAvailabilityOfRide =>
          apply guarded.within
          intro _
          exact guarded.pop.push (by decide) fun _ => rfl

theorem onTop_eq_some {next result : AppPages} :
    pages.onTop page next = some result ↔ pages.routes.head? = some page ∧ next = result := by
  simp [onTop]

/-- Taps above the main screen stay with the rider. -/
theorem ofRider_of_links (page : Page) :
    page = .mainScreen ∨ page.ofRider = true → ∀ target ∈ page.links, target.ofRider = true := by
  cases page <;> decide

theorem ne_mainScreen_of_links (page : Page) : ∀ target ∈ page.links, target ≠ .mainScreen := by
  cases page <;> decide

theorem MainGuarded.handle {history : List Empty} (guarded : pages.MainGuarded)
    (orderly : Orderly history pages event) (handled : pages.handle event = some next) :
    next.MainGuarded := by
  cases event with
  | start route =>
      simp only [AppPages.handle, Option.ite_none_right_eq_some] at handled
      obtain ⟨_, started⟩ := handled
      cases route with
      | onboarding =>
          cases started
          exact guarded_pushAndRemoveAll (by decide)
      | main =>
          simp only [AppPages.start, Option.ite_none_right_eq_some, Option.some.injEq] at started
          obtain ⟨signedIn, rfl⟩ := started
          exact guarded_openMainScreen (Option.isSome_iff_ne_none.mp signedIn)
      | riderdetails =>
          simp only [AppPages.start, Option.ite_none_right_eq_some, Option.some.injEq] at started
          obtain ⟨_, rfl⟩ := started
          exact guarded_pushAndRemoveAll (by decide)
  | onIntroEnd | signOutYes =>
      obtain ⟨_, rfl⟩ := onTop_eq_some.mp handled
      exact guarded_pushAndRemoveAll (by decide)
  | tap target =>
      simp only [AppPages.handle] at handled
      split at handled
      · cases handled
      · next page rest routes =>
        simp only [Option.ite_none_right_eq_some, Option.some.injEq] at handled
        obtain ⟨link, rfl⟩ := handled
        apply guarded.push (ne_mainScreen_of_links page target link)
        intro opened
        obtain ⟨above, _⟩ := guarded opened
        rw [routes] at above
        exact ofRider_of_links page above.top target link
  | pop =>
      simp only [AppPages.handle, Option.ite_none_left_eq_some, Option.some.injEq] at handled
      obtain ⟨_, rfl⟩ := handled
      exact guarded.pop
  | login =>
      obtain ⟨top, rfl⟩ := onTop_eq_some.mp handled
      have closed := guarded.closed top (by decide) rfl
      apply guarded.pop.push (by decide)
      intro opened
      exact absurd (List.mem_of_mem_tail opened) closed
  | loginAndAuthenticateUser | registerNewUser =>
      obtain ⟨_, rfl⟩ := onTop_eq_some.mp handled
      have shown : (pages.push .notice).MainGuarded := guarded.push (by decide) fun _ => rfl
      exact shown.of_same rfl id
  | saveProfile =>
      obtain ⟨_, rfl⟩ := onTop_eq_some.mp handled
      split
      · have shown : (pages.push .notice).MainGuarded := guarded.push (by decide) fun _ => rfl
        exact shown.of_same rfl id
      · exact guarded
  | signedOut =>
      cases handled
      exact fun opened => absurd opened orderly
  | deleteAccount =>
      obtain ⟨_, rfl⟩ := onTop_eq_some.mp handled
      split
      · exact guarded.pop.of_same rfl id
      · exact guarded.pop
  | pushMessage =>
      simp only [AppPages.handle, Option.ite_none_right_eq_some, Option.some.injEq] at handled
      obtain ⟨_, rfl⟩ := handled
      exact guarded.of_same rfl id
  | accept =>
      obtain ⟨_, rfl⟩ := onTop_eq_some.mp handled
      exact guarded.of_same rfl id
  | rideNotice =>
      simp only [AppPages.handle, Option.ite_none_right_eq_some, Option.some.injEq] at handled
      obtain ⟨_, rfl⟩ := handled
      exact guarded.push (by decide) fun _ => rfl
  | answered call mounted success =>
      obtain ⟨awaited, present, rfl⟩ := Option.map_eq_some_iff.mp handled
      have same : ({ pages with calls := pages.calls.eraseIdx call } : AppPages).MainGuarded :=
        guarded.of_same rfl id
      apply same.answer
      intro succeeded
      have order : AnswersInOrder pages mounted (some awaited) := present ▸ orderly succeeded
      cases awaited <;> exact order

/-- Each step that is out of order leaves the main screen unguarded. -/
theorem orderly_of_guarded {history : List Empty} (handled : pages.handle event = some next)
    (guarded : next.MainGuarded) : Orderly history pages event := by
  cases event with
  | signedOut =>
      cases handled
      intro opened
      exact (guarded opened).2 rfl
  | answered call mounted success =>
      intro succeeded
      obtain ⟨awaited, present, rfl⟩ := Option.map_eq_some_iff.mp handled
      obtain ⟨uid, rfl⟩ := Option.isSome_iff_exists.mp succeeded
      rw [present]
      cases awaited with
      | signIn | signInAgain | retrieveRideRequestInfo | checkAvailabilityOfRide => trivial
      | saveProfile =>
          intro here opened
          subst here
          obtain ⟨above, _⟩ := guarded (List.mem_cons_of_mem _ opened)
          exact absurd (above.ofRider_of_nonempty opened) (by decide)
      | createUser =>
          intro here opened
          subst here
          cases routes : pages.routes with
          | nil => simp [routes] at opened
          | cons page rest =>
              rw [routes] at opened
              have replaced : OverMain (.riderdetails :: rest) := by
                have above := guarded
                simp only [MainGuarded, answer, within, pushReplacement, routes, if_true] at above
                exact (above (List.mem_cons_of_mem _ opened)).1
              exact absurd (replaced.ofRider_of_nonempty opened) (by decide)
      | deleteUser deleted =>
          intro gone same opened
          subst gone
          have kept := guarded
          simp only [MainGuarded, answer, within, Bool.false_eq_true, if_false] at kept
          exact (kept opened).2 (if_pos same)
  | start _ | onIntroEnd | tap _ | pop | login => trivial
  | loginAndAuthenticateUser | registerNewUser | saveProfile => trivial
  | signOutYes | deleteAccount | pushMessage | accept | rideNotice => trivial

/-! ## All runs -/

/-- However the calls are answered, the main screen stays at the bottom, under pages of
the rider and with somebody signed in, as long as the answers come in order; and no
longer. -/
theorem mainGuarded_iff_orderly (currentUser : Option String)
    {actions : List Empty} {last : AppPages}
    (run : exec component { currentUser := currentUser } events = some (last, actions)) :
    Always component (fun _ pages => pages.MainGuarded) [] { currentUser := currentUser } events ↔
      Meets component Orderly [] { currentUser := currentUser } events := by
  have all : ∀ event ∈ events, (fun _ : PageEvent => True) event := fun _ _ => trivial
  apply always_iff_meets (fun _ pages => pages.MainGuarded) (fun _ pages => pages.MainGuarded)
    _ _ _ _ all run
  · exact id
  · intro history pages event next emitted guarded _ orderly stepped
    obtain ⟨after, handled, same⟩ := Option.map_eq_some_iff.mp stepped
    cases same
    exact guarded.handle orderly handled
  · intro history pages event next emitted _ _ stepped guarded
    obtain ⟨after, handled, same⟩ := Option.map_eq_some_iff.mp stepped
    cases same
    exact orderly_of_guarded handled guarded
  · exact fun opened => absurd opened (by simp)

end AppPages

/-- A rider signs up, saves the details, signs in on the page that follows, is offered a
ride and signs out. The first push finds the home tab gone. -/
def sampleVisitOfPages : List PageEvent :=
  [.start .onboarding, .onIntroEnd, .registerNewUser, .answered 0 true (some "rider-1"),
    .saveProfile, .answered 0 true (some ""), .loginAndAuthenticateUser,
    .answered 0 true (some "rider-1"), .answered 0 true (some "rider-1"), .pushMessage,
    .answered 0 false (some ""), .pushMessage, .answered 0 true (some ""), .accept,
    .answered 0 true (some ""), .rideNotice, .pop, .pop, .tap .signOut, .signOutYes, .signedOut]

theorem mainGuarded_sampleVisitOfPages :
    (∃ last actions,
      exec AppPages.component { currentUser := none } sampleVisitOfPages = some (last, actions) ∧
      last.routes = [.authPage] ∧ last.currentUser = none) ∧
    Always AppPages.component (fun _ pages => pages.MainGuarded) [] { currentUser := none }
      sampleVisitOfPages := by
  have runs : (exec AppPages.component { currentUser := none } sampleVisitOfPages).map
      (fun result => (result.1.routes, result.1.currentUser)) = some ([.authPage], none) := by
    decide +kernel
  obtain ⟨⟨last, actions⟩, run, ends⟩ := Option.map_eq_some_iff.mp runs
  simp only [Prod.mk.injEq] at ends
  refine ⟨⟨last, actions, run, ends⟩, ?_⟩
  exact (AppPages.mainGuarded_iff_orderly none run).mpr (by decide +kernel)

end FilldRider
