import FilldRider.Account.Completion
import FilldRider.Runs.Component

/-!
# The pages of the app

The routes from the first page to the ride, and the calls whose answers push, pop and
replace them. An answer finds whatever route is on top by then. Its own context may be
gone: the form was toggled, the tab changed. It may also be mounted still while its
route, already removed, fades out.
-/

set_option autoImplicit false

namespace FilldRider

open Runs

inductive Page where
  | onBoardingPage
  | authPage
  | forgotPasswordScreen
  | guestModeScreen
  | aboutPage
  | gasCompaniesPage
  | riderdetails
  | mainScreen
  | customerSupportService
  | historyScreen
  | newRequestScreen
  | notificationDialog
  /-- "Sign Out" -/
  | signOut
  /-- "Confirm Deletion" -/
  | confirmDeletion
  /-- "Available Cylinders" -/
  | cylinders
  /-- "Login to Start Delivery" and "Login Required" -/
  | loginPrompt
  /-- A spinner, or a dialog with nothing but a button to close it. -/
  | notice
  deriving DecidableEq, Repr

namespace Page

/-- The pages a tap on this one pushes and does no more. -/
def links : Page → List Page
  | authPage => [authPage, forgotPasswordScreen, guestModeScreen]
  | guestModeScreen => [aboutPage, cylinders, gasCompaniesPage, notice, authPage]
  | cylinders | gasCompaniesPage => [loginPrompt]
  | mainScreen => [customerSupportService, historyScreen, signOut, confirmDeletion, notice]
  | aboutPage | customerSupportService | newRequestScreen => [notice]
  | _ => []

/-- The routes that belong above the main screen. -/
def ofRider : Page → Bool
  | customerSupportService | historyScreen | newRequestScreen => true
  | notificationDialog | signOut | confirmDeletion | notice => true
  | _ => false

end Page

/-- The awaited calls; `loginAndAuthenticateUser` has two. -/
inductive PageCall where
  | signIn
  | signInAgain
  | createUser
  | saveProfile
  | deleteUser (uid : String)
  | retrieveRideRequestInfo
  | checkAvailabilityOfRide
  deriving DecidableEq

/-- The routes, the top one first. `listening` holds once a home tab was mounted. -/
structure AppPages where
  routes : List Page := []
  currentUser : Option String
  listening : Bool := false
  calls : List PageCall := []
  deriving DecidableEq

/-- A call succeeds, with a user where it gives one, or fails. `pop` is any call that
removes the top route and does no more: the back button, "Cancel", the end of a spinner. -/
inductive PageEvent where
  | start (route : InitialRoute)
  | onIntroEnd
  | tap (target : Page)
  | pop
  | login
  | loginAndAuthenticateUser
  | registerNewUser
  | saveProfile
  | signOutYes
  | signedOut
  | deleteAccount
  | pushMessage
  | accept
  | rideNotice
  | answered (call : Nat) (mounted : Bool) (success : Option String)
  deriving DecidableEq

namespace AppPages

def push (pages : AppPages) (page : Page) : AppPages :=
  { pages with routes := page :: pages.routes }

def pop (pages : AppPages) : AppPages :=
  { pages with routes := pages.routes.tail }

/-- `pushAndRemoveUntil` with a predicate that no route meets. -/
def pushAndRemoveAll (pages : AppPages) (page : Page) : AppPages :=
  { pages with routes := [page] }

/-- `pushReplacement`; it throws where there is no route. -/
def pushReplacement (pages : AppPages) (page : Page) : AppPages :=
  { pages with
    routes :=
      match pages.routes with
      | [] => []
      | _ :: rest => page :: rest }

def await (pages : AppPages) (call : PageCall) : AppPages :=
  { pages with calls := pages.calls ++ [call] }

/-- What uses a context that is no longer mounted throws. -/
def within (mounted : Bool) (change : AppPages → AppPages) (pages : AppPages) : AppPages :=
  if mounted then change pages else pages

def openMainScreen (pages : AppPages) : AppPages :=
  { pages.pushAndRemoveAll .mainScreen with listening := true }

def start (pages : AppPages) : InitialRoute → Option AppPages
  | .onboarding => some (pages.pushAndRemoveAll .onBoardingPage)
  | .main => if pages.currentUser.isSome then some pages.openMainScreen else none
  | .riderdetails =>
      if pages.currentUser.isSome then some (pages.pushAndRemoveAll .riderdetails) else none

/-- The rest of the function that awaited a call. -/
def answer (pages : AppPages) (mounted : Bool) : PageCall → Option String → AppPages
  | .signIn, some uid => { pages with currentUser := some uid }.await .signInAgain
  | .signIn, none => pages.within mounted pop
  | .signInAgain, some uid => { pages with currentUser := some uid }.within mounted openMainScreen
  | .signInAgain, none => pages
  | .createUser, some uid =>
      { pages with currentUser := some uid }.within mounted (·.pushReplacement .riderdetails)
  | .createUser, none => pages.within mounted pop
  | .saveProfile, some _ => pages.within mounted (·.push .authPage)
  | .saveProfile, none => pages
  | .deleteUser uid, some _ =>
      { pages with
        currentUser := if pages.currentUser = some uid then none else pages.currentUser }.within
          mounted (·.pushAndRemoveAll .authPage)
  | .deleteUser _, none => pages
  | .retrieveRideRequestInfo, some _ => pages.within mounted (·.push .notificationDialog)
  | .retrieveRideRequestInfo, none => pages
  | .checkAvailabilityOfRide, some _ => pages.within mounted (·.pop.push .newRequestScreen)
  | .checkAvailabilityOfRide, none => pages.within mounted pop

/-- A tap reaches the top route. -/
def onTop (pages : AppPages) (page : Page) (next : AppPages) : Option AppPages :=
  if pages.routes.head? = some page then some next else none

def handle (pages : AppPages) : PageEvent → Option AppPages
  | .start route => if pages.routes = [] ∧ pages.calls = [] then pages.start route else none
  | .onIntroEnd => pages.onTop .onBoardingPage (pages.pushAndRemoveAll .authPage)
  | .tap target =>
      match pages.routes with
      | [] => none
      | page :: _ => if target ∈ page.links then some (pages.push target) else none
  | .pop => if pages.routes = [] then none else some pages.pop
  | .login => pages.onTop .loginPrompt (pages.pop.push .authPage)
  | .loginAndAuthenticateUser => pages.onTop .authPage ((pages.push .notice).await .signIn)
  | .registerNewUser => pages.onTop .authPage ((pages.push .notice).await .createUser)
  | .saveProfile =>
      pages.onTop .riderdetails
        (if pages.currentUser.isSome then (pages.push .notice).await .saveProfile else pages)
  | .signOutYes => pages.onTop .signOut (pages.pushAndRemoveAll .authPage)
  | .signedOut => some { pages with currentUser := none }
  | .deleteAccount =>
      pages.onTop .confirmDeletion
        (match pages.currentUser with
        | some uid => pages.pop.await (.deleteUser uid)
        | none => pages.pop)
  | .pushMessage => if pages.listening then some (pages.await .retrieveRideRequestInfo) else none
  | .accept => pages.onTop .notificationDialog (pages.await .checkAvailabilityOfRide)
  | .rideNotice => if .newRequestScreen ∈ pages.routes then some (pages.push .notice) else none
  | .answered call mounted success =>
      pages.calls[call]?.map fun awaited =>
        { pages with calls := pages.calls.eraseIdx call }.answer mounted awaited success

def step : Component AppPages PageEvent Empty
  | pages, event => (pages.handle event).map fun next => (next, [])

def component : Component AppPages PageEvent Empty := step

end AppPages

end FilldRider
