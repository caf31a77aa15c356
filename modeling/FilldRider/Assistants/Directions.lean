import FilldRider.Models.Ride
import FilldRider.Documents.Basic

/-!
# Directions requests

`RequestAssistant.getRequest` and `AssistantMethod.obtainPlaceDirectionDetails` on every
outcome of the call. Which bodies are JSON is left to `jsonDecode`.
-/

set_option autoImplicit false

namespace FilldRider

open Documents

inductive HttpOutcome where
  | networkError
  | response (statusCode : Int) (body : String)
  deriving DecidableEq, Repr

/-- The call is outside the `try`; `none` is a decoder that throws inside it. -/
def getRequest (jsonDecode : String → Option Json) : HttpOutcome → Except Thrown Json
  | .networkError => .error .clientException
  | .response statusCode body =>
      if statusCode = 200 then
        match jsonDecode body with
        | some decodeData => .ok decodeData
        | none => .ok (.string "failed")
      else .ok (.string "failed")

def pointsPath : List Selector :=
  [.key "routes", .index 0, .key "overview_polyline"] ++ [.key "points"]

def legPath (measure field : String) : List Selector :=
  [.key "routes", .index 0, .key "legs", .index 0, .key measure] ++ [.key field]

def readDirections (res : Json) : Except Thrown DirectionDetails := do
  let encodedPoints ← res.readText pointsPath
  let distanceText ← res.readText (legPath "distance" "text")
  let distanceValue ← res.readInt (legPath "distance" "value")
  let durationText ← res.readText (legPath "duration" "text")
  let durationValue ← res.readInt (legPath "duration" "value")
  return { distanceValue, durationValue, distanceText, durationText, encodedPoints }

/-- The body may itself be the text that stands for a failure. -/
def obtainPlaceDirectionDetails (jsonDecode : String → Option Json) (outcome : HttpOutcome) :
    Except Thrown (Option DirectionDetails) := do
  let res ← getRequest jsonDecode outcome
  if res.text? = some "failed" then return none
  else return some (← readDirections res)

/-! ## What the body says -/

/-- The five values of the first leg of the first route, where all are there. -/
def firstLeg? (res : Json) : Option DirectionDetails := do
  let encodedPoints ← res.findText pointsPath
  let distanceText ← res.findText (legPath "distance" "text")
  let distanceValue ← res.findInt (legPath "distance" "value")
  let durationText ← res.findText (legPath "duration" "text")
  let durationValue ← res.findInt (legPath "duration" "value")
  return {
    distanceValue := some distanceValue
    durationValue := some durationValue
    distanceText := some distanceText
    durationText := some durationText
    encodedPoints := some encodedPoints }

/-- No value is null. -/
def DirectionDetails.Complete (details : DirectionDetails) : Prop :=
  details.distanceValue.isSome ∧ details.durationValue.isSome ∧ details.distanceText.isSome ∧
    details.durationText.isSome ∧ details.encodedPoints.isSome

namespace HttpOutcome

def document? (jsonDecode : String → Option Json) : HttpOutcome → Option Json
  | .networkError => none
  | .response statusCode body => if statusCode = 200 then jsonDecode body else none

/-- A response came, and a JSON body with status 200 is the failure text or has a
first route with a first leg. -/
def Readable (jsonDecode : String → Option Json) (outcome : HttpOutcome) : Prop :=
  outcome ≠ .networkError ∧ ∀ res ∈ outcome.document? jsonDecode,
    res.text? = some "failed" ∨ (firstLeg? res).isSome = true

end HttpOutcome

variable {jsonDecode : String → Option Json} {outcome : HttpOutcome} {res : Json}
  {details : DirectionDetails}

theorem getRequest_response (jsonDecode : String → Option Json) (statusCode : Int)
    (body : String) :
    getRequest jsonDecode (.response statusCode body) =
      .ok (((HttpOutcome.response statusCode body).document? jsonDecode).getD
        (.string "failed")) := by
  simp only [getRequest, HttpOutcome.document?]
  split
  · cases jsonDecode body <;> rfl
  · rfl

theorem readDirections_of_firstLeg (leg : firstLeg? res = some details) :
    readDirections res = .ok details := by
  simp only [firstLeg?, Option.bind_eq_bind, Option.bind_eq_some_iff, pure,
    Option.some.injEq] at leg
  obtain ⟨points, pointsRead, distanceText, distanceTextRead, distance, distanceRead,
    durationText, durationTextRead, duration, durationRead, rfl⟩ := leg
  simp only [readDirections, Json.readText_of_findText pointsRead,
    Json.readText_of_findText distanceTextRead, Json.readInt_of_findInt distanceRead,
    Json.readText_of_findText durationTextRead, Json.readInt_of_findInt durationRead]
  rfl

theorem firstLeg_of_readDirections (read : readDirections res = .ok details)
    (complete : details.Complete) : firstLeg? res = some details := by
  simp only [readDirections, bind, Except.bind] at read
  split at read
  · cases read
  · next points pointsRead =>
    split at read
    · cases read
    · next distanceText distanceTextRead =>
      split at read
      · cases read
      · next distance distanceRead =>
        split at read
        · cases read
        · next durationText durationTextRead =>
          split at read
          · cases read
          · next duration durationRead =>
            cases read
            obtain ⟨someDistance, someDuration, someDistanceText, someDurationText, somePoints⟩ :=
              complete
            obtain ⟨distance, rfl⟩ := Option.isSome_iff_exists.mp someDistance
            obtain ⟨duration, rfl⟩ := Option.isSome_iff_exists.mp someDuration
            obtain ⟨distanceText, rfl⟩ := Option.isSome_iff_exists.mp someDistanceText
            obtain ⟨durationText, rfl⟩ := Option.isSome_iff_exists.mp someDurationText
            obtain ⟨points, rfl⟩ := Option.isSome_iff_exists.mp somePoints
            simp only [firstLeg?, pointsPath, legPath, Json.findText_of_readText pointsRead,
              Json.findText_of_readText distanceTextRead, Json.findInt_of_readInt distanceRead,
              Json.findText_of_readText durationTextRead, Json.findInt_of_readInt durationRead]
            rfl

/-- Reading ends without an error and without a null exactly on a body whose first
route has a first leg. -/
theorem readDirections_complete_iff :
    readDirections res = .ok details ∧ details.Complete ↔ firstLeg? res = some details := by
  constructor
  · intro read
    exact firstLeg_of_readDirections read.1 read.2
  · intro leg
    refine ⟨readDirections_of_firstLeg leg, ?_⟩
    simp only [firstLeg?, Option.bind_eq_bind, Option.bind_eq_some_iff, pure,
      Option.some.injEq] at leg
    obtain ⟨points, _, distanceText, _, distance, _, durationText, _, duration, _, rfl⟩ := leg
    simp [DirectionDetails.Complete]

theorem failed_has_no_leg (failed : res.text? = some "failed") : firstLeg? res = none := by
  cases res <;> cases failed
  rfl

/-- What a decoded body is turned into. -/
theorem obtainPlaceDirectionDetails_of_document (document : outcome.document? jsonDecode = some res) :
    obtainPlaceDirectionDetails jsonDecode outcome =
      if res.text? = some "failed" then .ok none else (readDirections res).map some := by
  cases outcome with
  | networkError => cases document
  | response statusCode body =>
      rw [obtainPlaceDirectionDetails, getRequest_response, document, Option.getD_some]
      change (if res.text? = some "failed" then _ else _) = _
      split
      · rfl
      · cases readDirections res <;> rfl

theorem obtainPlaceDirectionDetails_of_no_document {statusCode : Int} {body : String}
    (absent : (HttpOutcome.response statusCode body).document? jsonDecode = none) :
    obtainPlaceDirectionDetails jsonDecode (.response statusCode body) = .ok none := by
  rw [obtainPlaceDirectionDetails, getRequest_response, absent]
  rfl

private theorem document_answered_iff (document : outcome.document? jsonDecode = some res) :
    obtainPlaceDirectionDetails jsonDecode outcome = .ok (firstLeg? res) ↔
      res.text? = some "failed" ∨ (firstLeg? res).isSome = true := by
  rw [obtainPlaceDirectionDetails_of_document document]
  by_cases failed : res.text? = some "failed"
  · simp [failed, failed_has_no_leg failed]
  · simp only [failed, if_false, false_or]
    constructor
    · intro answered
      cases read : readDirections res with
      | error thrown =>
          rw [read] at answered
          cases answered
      | ok details =>
          rw [read] at answered
          have same : some details = firstLeg? res := Except.ok.inj answered
          rw [← same]
          rfl
    · intro found
      obtain ⟨details, leg⟩ := Option.isSome_iff_exists.mp found
      rw [readDirections_of_firstLeg leg, leg]
      rfl

theorem obtainPlaceDirectionDetails_of_readable (readable : outcome.Readable jsonDecode) :
    obtainPlaceDirectionDetails jsonDecode outcome =
      .ok ((outcome.document? jsonDecode).bind firstLeg?) := by
  cases outcome with
  | networkError => exact absurd rfl readable.1
  | response statusCode body =>
      cases document : (HttpOutcome.response statusCode body).document? jsonDecode with
      | none => exact obtainPlaceDirectionDetails_of_no_document document
      | some res => exact (document_answered_iff document).mpr (readable.2 res document)

theorem readable_of_answered
    (answered : obtainPlaceDirectionDetails jsonDecode outcome =
      .ok ((outcome.document? jsonDecode).bind firstLeg?)) : outcome.Readable jsonDecode := by
  cases outcome with
  | networkError => cases answered
  | response statusCode body =>
      refine ⟨by simp, ?_⟩
      intro res document
      rw [Option.mem_def.mp document] at answered
      exact (document_answered_iff document).mp answered

/-- A directions request ends without an error and with what the body says about the
first leg of its first route, or null, exactly when the outcome is readable. -/
theorem obtainPlaceDirectionDetails_iff_readable (jsonDecode : String → Option Json)
    (outcome : HttpOutcome) :
    obtainPlaceDirectionDetails jsonDecode outcome =
        .ok ((outcome.document? jsonDecode).bind firstLeg?) ↔
      outcome.Readable jsonDecode := by
  constructor
  · intro answered
    exact readable_of_answered answered
  · intro readable
    exact obtainPlaceDirectionDetails_of_readable readable

/-- The reply for a place without a route throws. -/
theorem obtainPlaceDirectionDetails_empty_routes :
    obtainPlaceDirectionDetails (fun _ => some (.object [("routes", .list [])]))
        (.response 200 "\x7b\"routes\":[]\x7d") = .error .rangeError ∧
      obtainPlaceDirectionDetails (fun _ => some (.object [("routes", .list [])]))
        (.response 200 "\x7b\"routes\":[]\x7d") ≠
          .ok (((HttpOutcome.response 200 "\x7b\"routes\":[]\x7d").document?
            fun _ => some (.object [("routes", .list [])])).bind firstLeg?) := by
  have thrown : obtainPlaceDirectionDetails (fun _ => some (.object [("routes", .list [])]))
      (.response 200 "\x7b\"routes\":[]\x7d") = .error .rangeError := rfl
  refine ⟨thrown, ?_⟩
  rw [thrown]
  intro same
  cases same

end FilldRider
