import FilldRider.Models.Profile

/-!
# Signing up and signing in

`registerNewUser` passes the texts of its form on as typed. `loginAndAuthenticateUser`
signs in with the trimmed texts first and with the typed ones after that.
-/

set_option autoImplicit false

namespace FilldRider

inductive AuthRoute where
  | onboarding
  | authPage
  | riderdetails
  | mainScreen
  /-- "Signing up,please wait..." -/
  | signingUp
  /-- "Loging In,please wait" -/
  | loggingIn
  deriving DecidableEq

/-- The routes, the top one first, and the toasts shown so far. -/
structure AuthPage where
  routes : List AuthRoute
  toasts : List String := []
  deriving DecidableEq

namespace AuthPage

def push (page : AuthPage) (route : AuthRoute) : AuthPage :=
  { page with routes := route :: page.routes }

def pop (page : AuthPage) : AuthPage :=
  { page with routes := page.routes.tail }

def displayToast (page : AuthPage) (text : String) : AuthPage :=
  { page with toasts := page.toasts ++ [text] }

end AuthPage

structure AuthAccount where
  uid : String
  email : String
  password : String

/-- The authentication service, with the text of what it throws at unknown credentials. -/
structure AuthService where
  accounts : List AuthAccount := []
  refusal : String

/-- The uid of the user of a `UserCredential`, or the text of what the call throws. -/
abbrev CredentialReply := Except String (Option String)

def AuthService.signInWithEmailAndPassword (service : AuthService) (email password : String) :
    CredentialReply :=
  match service.accounts.find? fun account =>
      account.email = email && account.password = password with
  | some account => .ok (some account.uid)
  | none => .error service.refusal

/-- The service answers as it likes, and stores the texts it was given. -/
def AuthService.createUserWithEmailAndPassword (service : AuthService) (reply : CredentialReply)
    (email password : String) : AuthService :=
  match reply with
  | .ok (some uid) => { service with accounts := service.accounts ++ [⟨uid, email, password⟩] }
  | .ok none | .error _ => service

/-- The service, the database records set by sign-ups, and the page. -/
structure AuthWorld where
  service : AuthService
  riders : List (String × RiderRecord) := []
  page : AuthPage
  currentfirebaseUser : Option String := none

def AuthWorld.registerNewUser (world : AuthWorld) (form : Registration)
    (reply : CredentialReply) : AuthWorld :=
  let page := world.page.push .signingUp
  let service := world.service.createUserWithEmailAndPassword reply form.email form.password
  match reply with
  | .error errMsg =>
      { world with service := service, page := page.pop.displayToast ("Error" ++ errMsg) }
  | .ok none =>
      { world with service := service, page := page.displayToast "user has not been created" }
  | .ok (some uid) =>
      { service := service
        riders := world.riders ++ [(uid, FilldRider.registerNewUser form)]
        page := page.pop.push .riderdetails
        currentfirebaseUser := some uid }

structure LoginForm where
  email : String
  password : String

/-- The two calls are answered one after the other, the second one whether or not it
asks for the same texts. -/
def AuthPage.loginAndAuthenticateUser (page : AuthPage)
    (signIn : Nat → String → String → CredentialReply) (form : LoginForm) : AuthPage :=
  let shown := page.push .loggingIn
  match signIn 0 (trim form.email) (trim form.password) with
  | .error errMsg => shown.pop.displayToast ("Error" ++ errMsg)
  | .ok firebaseUser =>
      match signIn 1 form.email form.password with
      | .error _ => shown
      | .ok _ =>
          match firebaseUser with
          | some _ => ({ shown with routes := [.mainScreen] }).displayToast "Logged-in "
          | none => shown.displayToast "Error: Cannot be signed in"

/-! ## The dialog -/

/-- No more login dialogs are open than before. -/
def AuthPage.DialogClosed (before after : AuthPage) : Prop :=
  after.routes.count .loggingIn ≤ before.routes.count .loggingIn

/-- The calls after which the function takes the dialog away. -/
def ClosesDialog (signIn : Nat → String → String → CredentialReply) (form : LoginForm) : Prop :=
  match signIn 0 (trim form.email) (trim form.password) with
  | .error _ => True
  | .ok none => False
  | .ok (some _) => (signIn 1 form.email form.password).isOk = true

theorem dialogClosed_iff (page : AuthPage)
    (signIn : Nat → String → String → CredentialReply) (form : LoginForm) :
    page.DialogClosed (page.loginAndAuthenticateUser signIn form) ↔ ClosesDialog signIn form := by
  rw [AuthPage.DialogClosed, AuthPage.loginAndAuthenticateUser, ClosesDialog]
  cases signIn 0 (trim form.email) (trim form.password) with
  | error errMsg => simp [AuthPage.push, AuthPage.pop, AuthPage.displayToast]
  | ok firebaseUser =>
      cases signIn 1 form.email form.password with
      | error errMsg => cases firebaseUser <;> simp [AuthPage.push, Except.isOk, Except.toBool]
      | ok again =>
          cases firebaseUser <;>
            simp [AuthPage.push, AuthPage.displayToast, Except.isOk, Except.toBool]

/-! ## The accounts -/

def AuthService.Knows (service : AuthService) (email password : String) : Prop :=
  ∃ account ∈ service.accounts, account.email = email ∧ account.password = password

theorem AuthService.signIn_of_knows {service : AuthService} {email password : String}
    (known : service.Knows email password) :
    ∃ uid, service.signInWithEmailAndPassword email password = .ok (some uid) := by
  obtain ⟨account, member, rfl, rfl⟩ := known
  rw [signInWithEmailAndPassword]
  cases found : service.accounts.find? fun other =>
      other.email = account.email && other.password = account.password with
  | some other => exact ⟨other.uid, rfl⟩
  | none =>
      have missing := List.find?_eq_none.mp found account member
      simp at missing

theorem AuthService.signIn_of_not_knows {service : AuthService} {email password : String}
    (unknown : ¬ service.Knows email password) :
    service.signInWithEmailAndPassword email password = .error service.refusal := by
  have missing : (service.accounts.find? fun account =>
      account.email = email && account.password = password) = none := by
    rw [List.find?_eq_none]
    intro account member same
    simp only [Bool.and_eq_true, decide_eq_true_eq] at same
    exact unknown ⟨account, member, same⟩
  rw [signInWithEmailAndPassword, missing]

/-- Whether a sign-up with its reply creates an account for these texts. -/
def CreatesAccount (signUp : Registration × CredentialReply) (email password : String) : Prop :=
  signUp.1.email = email ∧ signUp.1.password = password ∧ ∃ uid, signUp.2 = .ok (some uid)

def AuthWorld.signUps (world : AuthWorld) (requests : List (Registration × CredentialReply)) :
    AuthWorld :=
  requests.foldl (fun world signUp => world.registerNewUser signUp.1 signUp.2) world

theorem AuthWorld.knows_registerNewUser {world : AuthWorld} {form : Registration}
    {reply : CredentialReply} {email password : String} :
    (world.registerNewUser form reply).service.Knows email password ↔
      world.service.Knows email password ∨ CreatesAccount (form, reply) email password := by
  cases reply with
  | error errMsg => simp [registerNewUser, AuthService.createUserWithEmailAndPassword,
      CreatesAccount]
  | ok user =>
      cases user with
      | none => simp [registerNewUser, AuthService.createUserWithEmailAndPassword, CreatesAccount]
      | some uid =>
          simp [registerNewUser, AuthService.createUserWithEmailAndPassword, CreatesAccount,
            AuthService.Knows, or_and_right, exists_or]

/-- Sign-ups only ever add accounts. -/
theorem AuthWorld.knows_signUps {world : AuthWorld}
    {requests : List (Registration × CredentialReply)} {email password : String} :
    (world.signUps requests).service.Knows email password ↔
      world.service.Knows email password ∨
        ∃ signUp ∈ requests, CreatesAccount signUp email password := by
  induction requests generalizing world with
  | nil => simp [signUps]
  | cons signUp rest ih =>
      rw [signUps, List.foldl_cons, ← signUps, ih, knows_registerNewUser, List.exists_mem_cons_iff,
        or_assoc]

/-- The main screen is reached by texts that are known both trimmed and as typed. -/
theorem AuthPage.reachesMainScreen_iff (service : AuthService) (form : LoginForm)
    (below : List AuthRoute) (toasts : List String) :
    (loginAndAuthenticateUser ⟨.authPage :: below, toasts⟩
        (fun _ => service.signInWithEmailAndPassword) form).routes.head? = some .mainScreen ↔
      service.Knows (trim form.email) (trim form.password) ∧
        service.Knows form.email form.password := by
  by_cases trimmed : service.Knows (trim form.email) (trim form.password)
  · obtain ⟨uid, first⟩ := AuthService.signIn_of_knows trimmed
    by_cases typed : service.Knows form.email form.password
    · obtain ⟨again, second⟩ := AuthService.signIn_of_knows typed
      simp [loginAndAuthenticateUser, first, second, displayToast, trimmed, typed]
    · have second := AuthService.signIn_of_not_knows typed
      simp [loginAndAuthenticateUser, first, second, push, typed]
  · have first := AuthService.signIn_of_not_knows trimmed
    simp [loginAndAuthenticateUser, first, push, pop, displayToast, trimmed]

def Registration.loginForm (form : Registration) : LoginForm :=
  { email := form.email, password := form.password }

/-- A registered rider signs in exactly with texts that trimming leaves alone, or that
somebody else registered trimmed; the dialog is closed exactly by `ClosesDialog`. -/
theorem login_agrees_iff_trimmed (world : AuthWorld) (form : Registration) (uid : String)
    (later : List (Registration × CredentialReply)) (below : List AuthRoute)
    (toasts : List String) (page : AuthPage) (signIn : Nat → String → String → CredentialReply)
    (typed : LoginForm) :
    ((AuthPage.loginAndAuthenticateUser ⟨.authPage :: below, toasts⟩
        (fun _ => ((world.registerNewUser form (.ok (some uid))).signUps
          later).service.signInWithEmailAndPassword) form.loginForm).routes.head? =
          some .mainScreen ↔
      (trim form.email = form.email ∧ trim form.password = form.password) ∨
        world.service.Knows (trim form.email) (trim form.password) ∨
          ∃ signUp ∈ later, CreatesAccount signUp (trim form.email) (trim form.password)) ∧
    (page.DialogClosed (page.loginAndAuthenticateUser signIn typed) ↔
      ClosesDialog signIn typed) := by
  refine ⟨?_, dialogClosed_iff page signIn typed⟩
  have own : CreatesAccount (form, .ok (some uid)) form.email form.password :=
    ⟨rfl, rfl, uid, rfl⟩
  have known : ((world.registerNewUser form (.ok (some uid))).signUps
      later).service.Knows form.email form.password :=
    AuthWorld.knows_signUps.mpr (.inl (AuthWorld.knows_registerNewUser.mpr (.inr own)))
  rw [AuthPage.reachesMainScreen_iff, Registration.loginForm, and_iff_left known,
    AuthWorld.knows_signUps, AuthWorld.knows_registerNewUser]
  have creates : CreatesAccount (form, .ok (some uid)) (trim form.email) (trim form.password) ↔
      trim form.email = form.email ∧ trim form.password = form.password := by
    constructor
    · intro created
      exact ⟨created.1.symm, created.2.1.symm⟩
    · intro trimmed
      exact ⟨trimmed.1.symm, trimmed.2.symm, uid, rfl⟩
  rw [creates, or_assoc, or_left_comm]

/-- A password that starts with a blank. -/
def spacedRegistration : Registration :=
  { sampleRegistration with password := " secret" }

def emptyAuthWorld : AuthWorld :=
  { service := { refusal := "[firebase_auth/invalid-credential]" }, page := ⟨[.authPage], []⟩ }

/-- The rider cannot sign in with a password that starts with a blank; a blank typed
behind the right password leaves the dialog open. -/
theorem not_login_agrees_of_blanks :
    (¬ ∀ (world : AuthWorld) (form : Registration) (uid : String)
        (later : List (Registration × CredentialReply)) (below : List AuthRoute)
        (toasts : List String),
      (AuthPage.loginAndAuthenticateUser ⟨.authPage :: below, toasts⟩
        (fun _ => ((world.registerNewUser form (.ok (some uid))).signUps
          later).service.signInWithEmailAndPassword) form.loginForm).routes.head? =
          some .mainScreen) ∧
    ¬ ∀ (page : AuthPage) (signIn : Nat → String → String → CredentialReply) (typed : LoginForm),
      page.DialogClosed (page.loginAndAuthenticateUser signIn typed) := by
  constructor
  · intro always
    have stays : (AuthPage.loginAndAuthenticateUser ⟨[.authPage], []⟩
        (fun _ => ((emptyAuthWorld.registerNewUser spacedRegistration (.ok (some "ama"))).signUps
          []).service.signInWithEmailAndPassword) spacedRegistration.loginForm).routes.head? =
        some .authPage := by
      decide +kernel
    have reached := always emptyAuthWorld spacedRegistration "ama" [] [] []
    rw [stays] at reached
    cases reached
  · intro always
    have opened : ((AuthPage.loginAndAuthenticateUser ⟨[.authPage], []⟩
        (fun _ => ((emptyAuthWorld.registerNewUser sampleRegistration (.ok (some "ama"))).signUps
          []).service.signInWithEmailAndPassword)
        { email := "ama@mail", password := "secret " }).routes) = [.loggingIn, .authPage] := by
      decide +kernel
    have closed := always ⟨[.authPage], []⟩
      (fun _ => ((emptyAuthWorld.registerNewUser sampleRegistration (.ok (some "ama"))).signUps
        []).service.signInWithEmailAndPassword) { email := "ama@mail", password := "secret " }
    rw [AuthPage.DialogClosed, opened] at closed
    exact absurd closed (by decide)

end FilldRider
