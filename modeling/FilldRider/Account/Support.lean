import FilldRider.Account.Completion

/-!
# Support requests

`_submitRequest` pushes a request to the rider's own list and then to the list of the
support. It clears the form only after both, so an attempt that fails between them
leaves a request in one list and invites a retry.
-/

set_option autoImplicit false

namespace FilldRider

open Runs

structure SupportForm where
  title : String := ""
  description : String := ""
  selectedIssue : Option String := none
  imagePicked : Bool := false
  deriving DecidableEq

/-- `requestData`, with the address of the uploaded image. -/
structure SupportEntry where
  userId : String
  title : String
  description : String
  issue : Option String
  status : String := "open"
  wmsType : String := "Rider"
  timestamp : String
  imageUrl : Option String := none
  deriving DecidableEq

structure SupportService where
  form : SupportForm
  css : List SupportEntry := []
  customerSupportRequests : List SupportEntry := []
  mounted : Bool := true

/-- One tap on Accept: who is signed in, what becomes of the upload and of the two
pushes, and whether the page is still there at the end. -/
structure SupportCall where
  signedIn : Bool := true
  timestamp : String
  image : PickedImage := .none
  cssPushed : Bool := true
  requestPushed : Bool := true
  mounted : Bool := true

inductive SupportAction where
  | submitted
  | failed
  deriving DecidableEq

/-- The validators of the fields that are shown. -/
def SupportForm.validate (form : SupportForm) : Bool :=
  form.selectedIssue.isSome && form.description ≠ "" &&
    (form.selectedIssue ≠ some "Other" || form.title ≠ "")

/-- Whether an entry is this request, at whatever time and with whatever image address. -/
def SupportEntry.isOf (uid : String) (form : SupportForm) (entry : SupportEntry) : Bool :=
  entry.userId = uid && entry.title = form.title && entry.description = form.description &&
    entry.issue = form.selectedIssue

namespace SupportCall

/-- The address of the picked image, if any; `none` when the upload throws. -/
def imageUrl (call : SupportCall) (form : SupportForm) : Option (Option String) :=
  if form.imagePicked then call.image.uploadImageToStorage.map some else some none

def requestData (uid : String) (call : SupportCall) (form : SupportForm)
    (imageUrl : Option String) : SupportEntry :=
  { userId := uid, title := form.title, description := form.description,
    issue := form.selectedIssue, timestamp := call.timestamp, imageUrl }

/-- The block that catches an error shows it, in a page that is still there. -/
def caught (call : SupportCall) (service : SupportService) :
    SupportService × List SupportAction :=
  ({ service with mounted := call.mounted }, if call.mounted then [.failed] else [])

/-- One attempt from the tap to its end. Two awaits separate its pushes, so attempts may
overlap in the app; here each ends before the next begins. -/
def submitRequest (uid : String) (service : SupportService) (call : SupportCall) :
    SupportService × List SupportAction :=
  if call.signedIn then
    match call.imageUrl service.form with
    | none => call.caught service
    | some imageUrl =>
        let requestData := call.requestData uid service.form imageUrl
        if call.cssPushed then
          let pushed := { service with css := service.css ++ [requestData] }
          if call.requestPushed then
            let filed := { pushed with
              customerSupportRequests := service.customerSupportRequests ++ [requestData] }
            if call.mounted then ({ filed with form := {} }, [.submitted])
            else ({ filed with mounted := false }, [])
          else call.caught pushed
        else call.caught service
  else ({ service with mounted := call.mounted }, [])

/-- An invalid form is not submitted, and a page that is gone takes no taps. -/
def step (uid : String) (service : SupportService) (call : SupportCall) :
    Option (SupportService × List SupportAction) :=
  if service.mounted then
    if service.form.validate then some (call.submitRequest uid service) else some (service, [])
  else none

def component (uid : String) : Component SupportService SupportCall SupportAction := step uid

/-- The attempt gets as far as the first push. -/
def pushes (call : SupportCall) (service : SupportService) : Bool :=
  service.form.validate && call.signedIn && (call.imageUrl service.form).isSome && call.cssPushed

end SupportCall

/-- How often a list contains a request. -/
def filed (uid : String) (form : SupportForm) (entries : List SupportEntry) : ℕ :=
  entries.countP (SupportEntry.isOf uid form)

/-- Both lists contain the request equally often, and once after a reported success. -/
structure FiledOnce (uid : String) (form : SupportForm) (history : List SupportAction)
    (service : SupportService) : Prop where
  equally : filed uid form service.css = filed uid form service.customerSupportRequests
  once : .submitted ∈ history →
    filed uid form service.css = 1 ∧ filed uid form service.customerSupportRequests = 1

/-- The second push does not fail after the first. -/
def PushesBoth (_ : List SupportAction) (service : SupportService) (call : SupportCall) : Prop :=
  call.pushes service = true → call.requestPushed = true

instance (history : List SupportAction) (service : SupportService) (call : SupportCall) :
    Decidable (PushesBoth history service call) :=
  inferInstanceAs (Decidable (_ = true → _ = true))

/-- The request waits in the form, or it is in both lists and cannot be submitted again. -/
inductive Settled (uid : String) (form : SupportForm) (history : List SupportAction)
    (service : SupportService) : Prop where
  | waiting (unfiled : filed uid form service.css = 0)
      (unknown : filed uid form service.customerSupportRequests = 0)
      (same : service.form = form) (unreported : .submitted ∉ history)
  | done (once : filed uid form service.css = 1)
      (known : filed uid form service.customerSupportRequests = 1)
      (idle : service.mounted = false ∨ service.form.validate = false)

variable {uid : String} {form : SupportForm} {history emitted : List SupportAction}
  {service next : SupportService} {call : SupportCall}

theorem Settled.filedOnce (settled : Settled uid form history service) :
    FiledOnce uid form history service := by
  cases settled with
  | waiting unfiled unknown same unreported =>
      exact ⟨unfiled.trans unknown.symm, fun reported => absurd reported unreported⟩
  | done once known idle => exact ⟨once.trans known.symm, fun _ => ⟨once, known⟩⟩

theorem filed_append (uid : String) (form : SupportForm) (entries : List SupportEntry)
    (call : SupportCall) (imageUrl : Option String) :
    filed uid form (entries ++ [call.requestData uid form imageUrl]) =
      filed uid form entries + 1 := by
  rw [filed, filed, List.countP_append]
  simp [SupportCall.requestData, SupportEntry.isOf]

/-- What an attempt does: nothing, file the request in both lists, or in one. -/
inductive SupportMove (uid : String) (before : SupportService) (call : SupportCall) :
    SupportService → List SupportAction → Prop where
  | kept {after : SupportService} {emitted : List SupportAction}
      (stopped : call.pushes before = false) (form : after.form = before.form)
      (css : after.css = before.css)
      (requests : after.customerSupportRequests = before.customerSupportRequests)
      (unreported : .submitted ∉ emitted) :
      SupportMove uid before call after emitted
  | both {after : SupportService} {emitted : List SupportAction} {imageUrl : Option String}
      (pushed : call.requestPushed = true)
      (css : after.css = before.css ++ [call.requestData uid before.form imageUrl])
      (requests : after.customerSupportRequests =
        before.customerSupportRequests ++ [call.requestData uid before.form imageUrl])
      (idle : after.mounted = false ∨ after.form = {}) :
      SupportMove uid before call after emitted
  | one {after : SupportService} {emitted : List SupportAction} {imageUrl : Option String}
      (pushes : call.pushes before = true) (failed : call.requestPushed = false)
      (css : after.css = before.css ++ [call.requestData uid before.form imageUrl])
      (requests : after.customerSupportRequests = before.customerSupportRequests) :
      SupportMove uid before call after emitted

theorem not_submitted_mem_caught :
    .submitted ∉ (SupportCall.caught call service).2 := by
  unfold SupportCall.caught
  split <;> simp

theorem SupportCall.submitRequest_moves (valid : service.form.validate = true) :
    SupportMove uid service call (call.submitRequest uid service).1
      (call.submitRequest uid service).2 := by
  unfold submitRequest
  split
  · next signedIn =>
    split
    · next failed =>
      exact .kept (by simp [pushes, failed]) rfl rfl rfl not_submitted_mem_caught
    · next imageUrl uploaded =>
      dsimp only
      split
      · next first =>
        have reaches : call.pushes service = true := by
          simp [pushes, valid, signedIn, uploaded, first]
        split
        · next second =>
          split
          · exact .both second rfl rfl (.inr rfl)
          · exact .both second rfl rfl (.inl rfl)
        · next second => exact .one reaches (Bool.eq_false_iff.mpr second) rfl rfl
      · next first =>
        exact .kept (by simp [pushes, Bool.eq_false_iff.mpr first]) rfl rfl rfl
          not_submitted_mem_caught
  · next signedOut =>
    exact .kept (by simp [pushes, Bool.eq_false_iff.mpr signedOut]) rfl rfl rfl (by simp)

/-- Attempts that push to both lists or none keep the request settled. -/
theorem Settled.step (settled : Settled uid form history service)
    (both : PushesBoth history service call)
    (stepped : call.step uid service = some (next, emitted)) :
    Settled uid form (history ++ emitted) next := by
  simp only [SupportCall.step] at stepped
  split at stepped
  · next mounted =>
    split at stepped
    · next valid =>
      have moves : SupportMove uid _ call _ _ := SupportCall.submitRequest_moves valid
      rw [Option.some.inj stepped] at moves
      cases settled with
      | done once known idle =>
          rcases idle with gone | invalid
          · rw [mounted] at gone
            cases gone
          · rw [valid] at invalid
            cases invalid
      | waiting unfiled unknown same unreported =>
          cases moves with
          | kept stopped kept css requests quiet =>
              refine .waiting (by rw [css, unfiled]) (by rw [requests, unknown])
                (kept.trans same) ?_
              rw [List.mem_append]
              exact fun reported => reported.elim unreported quiet
          | both pushed css requests idle =>
              rw [same] at css requests
              refine .done ?_ ?_ (idle.imp_right fun cleared => by rw [cleared]; rfl)
              · rw [css, filed_append, unfiled]
              · rw [requests, filed_append, unknown]
          | one pushes failed =>
              rw [both pushes] at failed
              cases failed
    · next invalid =>
      obtain ⟨rfl, rfl⟩ := Prod.mk.inj (Option.some.inj stepped)
      rw [List.append_nil]
      exact settled
  · cases stepped

/-- A request pushed to one list only is in the lists unequally often. -/
theorem pushesBoth_of_equally (settled : Settled uid form history service)
    (stepped : call.step uid service = some (next, emitted))
    (equally : filed uid form next.css = filed uid form next.customerSupportRequests) :
    PushesBoth history service call := by
  intro pushes
  have valid : service.form.validate = true := by
    simp only [SupportCall.pushes, Bool.and_eq_true] at pushes
    exact pushes.1.1.1
  simp only [SupportCall.step, valid, if_true] at stepped
  split at stepped
  · next mounted =>
    have moves : SupportMove uid _ call _ _ := SupportCall.submitRequest_moves valid
    rw [Option.some.inj stepped] at moves
    cases moves with
    | kept stopped =>
        rw [pushes] at stopped
        cases stopped
    | both pushed => exact pushed
    | one _ failed css requests =>
        cases settled with
        | done once known idle =>
            rcases idle with gone | invalid
            · rw [mounted] at gone
              cases gone
            · rw [valid] at invalid
              cases invalid
        | waiting unfiled unknown same unreported =>
            rw [same] at css
            rw [css, requests, filed_append, unfiled, unknown] at equally
            cases equally
  · cases stepped

/-- A request that is in neither list yet is filed once exactly if no attempt fails
between its pushes. -/
theorem filedOnce_iff_pushesBoth {css requests : List SupportEntry} {calls : List SupportCall}
    (unfiled : filed uid form css = 0) (unknown : filed uid form requests = 0)
    (run : exec (SupportCall.component uid) ⟨form, css, requests, true⟩ calls =
      some (next, emitted)) :
    Always (SupportCall.component uid) (FiledOnce uid form) [] ⟨form, css, requests, true⟩ calls ↔
      Meets (SupportCall.component uid) PushesBoth [] ⟨form, css, requests, true⟩ calls := by
  have all : ∀ call ∈ calls, True := fun _ _ => trivial
  have start : Settled uid form [] ⟨form, css, requests, true⟩ :=
    .waiting unfiled unknown rfl (by simp)
  apply always_iff_meets (Settled uid form) (FiledOnce uid form) _ _ _ start all run
  · intro history service settled
    exact settled.filedOnce
  · intro history service call next emitted settled _ both stepped
    exact settled.step both stepped
  · intro history service call next emitted settled _ stepped once
    exact pushesBoth_of_equally settled stepped once.equally

/-! ## A bug report -/

def sampleSupportForm : SupportForm :=
  { description := "The map stays empty.", selectedIssue := some "Bug Report",
    imagePicked := true }

/-- The upload fails, then the first push, and the third attempt succeeds; a last tap
meets an empty form. -/
def sampleSupportCalls : List SupportCall :=
  [{ timestamp := "2025-01-01T10:00:00", image := .failed },
    { timestamp := "2025-01-01T10:01:00", image := .uploaded "storage/1", cssPushed := false },
    { timestamp := "2025-01-01T10:02:00", image := .uploaded "storage/2" },
    { timestamp := "2025-01-01T10:03:00" }]

theorem filedOnce_sampleSupportCalls :
    ∃ service emitted,
      exec (SupportCall.component "rider") ⟨sampleSupportForm, [], [], true⟩ sampleSupportCalls =
        some (service, emitted) ∧ .submitted ∈ emitted ∧
      Always (SupportCall.component "rider") (FiledOnce "rider" sampleSupportForm) []
        ⟨sampleSupportForm, [], [], true⟩ sampleSupportCalls := by
  have ends : (exec (SupportCall.component "rider") ⟨sampleSupportForm, [], [], true⟩
      sampleSupportCalls).map (fun result => decide (SupportAction.submitted ∈ result.2)) =
        some true := by
    decide +kernel
  obtain ⟨⟨service, emitted⟩, run, submitted⟩ := Option.map_eq_some_iff.mp ends
  have both : Meets (SupportCall.component "rider") PushesBoth []
      ⟨sampleSupportForm, [], [], true⟩ sampleSupportCalls := by
    decide +kernel
  exact ⟨service, emitted, run, of_decide_eq_true submitted,
    (filedOnce_iff_pushesBoth rfl rfl run).mpr both⟩

/-- After a failed second push and its retry the rider's list has the request twice. -/
theorem not_filedOnce_of_failure :
    ¬ ∀ (uid : String) (form : SupportForm) (calls : List SupportCall)
        (service : SupportService) (emitted : List SupportAction),
      exec (SupportCall.component uid) ⟨form, [], [], true⟩ calls = some (service, emitted) →
      Always (SupportCall.component uid) (FiledOnce uid form) [] ⟨form, [], [], true⟩ calls := by
  intro always
  have ends : (exec (SupportCall.component "rider") ⟨sampleSupportForm, [], [], true⟩
      [{ timestamp := "2025-01-01T10:00:00", image := .uploaded "storage/1",
         requestPushed := false },
        { timestamp := "2025-01-01T10:01:00", image := .uploaded "storage/2" }]).map
      (fun result => (filed "rider" sampleSupportForm result.1.css,
        filed "rider" sampleSupportForm result.1.customerSupportRequests)) = some (2, 1) := by
    decide +kernel
  obtain ⟨⟨service, emitted⟩, run, counts⟩ := Option.map_eq_some_iff.mp ends
  obtain ⟨twice, once⟩ := Prod.mk.inj counts
  have equally := ((always _ _ _ _ _ run).last run).equally
  rw [twice, once] at equally
  cases equally

end FilldRider
