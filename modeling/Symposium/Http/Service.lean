import Symposium.Http.Framework
import Symposium.Office.Perform
import Symposium.Settings

/-!
# The service

The office, served over HTTP. Main statements: a request that is not understood, or that only reads,
leaves the office as it was.
-/

namespace Symposium.Http

/-- What an operation answers over HTTP. -/
def ofOutcome (createdUnder : String) : Outcome → Response
  | .created id => ⟨201, .obj [(createdUnder, .obj [("id", .str id)])]⟩
  | .changed card => ⟨200, .obj [("conference", card.toJson)]⟩
  | .done => ⟨204, .null⟩

namespace Call

/-- The operation that a call asks for, if it changes something. -/
def operation? : Call → Option Operation
  | propose proposal => some (.propose proposal)
  | edit id changes => some (.edit id changes)
  | withdraw id => some (.withdraw id)
  | decide id status => some (.decide id status)
  | register id => some (.register id)
  | giveFeedback request => some (.giveFeedback request.conferenceId (some request.comment))
  | removeFeedback id => some (.removeFeedback id)
  | list _ | get _ | timeline _ | participants .. | conferencesOf .. | notes .. => none

/-- What a call that changed something answers. -/
def ofChange (call : Call) (caller : Caller) (outcome : Outcome) : Response :=
  match call with
  | register id =>
    ⟨201, .obj [("registration",
      .obj [("conference_id", .str id), ("user_id", .str caller.id)])]⟩
  | giveFeedback _ => ofOutcome "feedback" outcome
  | _ => ofOutcome "conference" outcome

/-- What a call that only reads answers. -/
def read (call : Call) (office : Office) (caller : Caller) (now : Timestamp) :
    Except Failure Json :=
  let principal := caller.principal
  match call with
  | list query =>
    (office.list principal query now).map (Page.toJson "conferences" "pagination" Card.toJson)
  | get id => (office.get principal id).map fun card => .obj [("conference", card.toJson)]
  | timeline id =>
    (office.timeline principal id >>= Entry.allShown).map fun entries =>
      .obj [("timeline", entries)]
  | participants id page =>
    (office.participants principal id page).map
      (Page.toJson "users" "pagination" Participant.toJson)
  | conferencesOf userId includePast page =>
    (office.conferencesOf principal userId includePast page now).map
      (Page.toJson "conferences" "pagination" Card.toJson)
  | notes id page =>
    (office.notes principal id page).map
      (Page.toJson "feedbacks" "pagination" Feedback.Note.toJson)
  | propose _ | edit .. | withdraw _ | decide .. | register _ | giveFeedback _
  | removeFeedback _ => .ok .null

/-- Answers a call, which is checked at one time and may be written at another. -/
def answer (call : Call) (office : Office) (caller : Caller) (checkedAt writtenAt : Timestamp) :
    Except Failure Response × Office :=
  match call.operation? with
  | some operation =>
    let (result, office) :=
      office.commitChecked writtenAt (office.check caller.principal operation checkedAt)
    (result.map (call.ofChange caller), office)
  | none => ((call.read office caller checkedAt).map (⟨200, ·⟩), office)

end Call

/-- The headers that say who makes a request, as the settings name them. -/
def IdentityHeaders.ofSettings (settings : Settings) : IdentityHeaders :=
  ⟨settings.userIdHeader, settings.userRoleHeader⟩

/-- Answers a request. An internal failure is reported under the given trace. -/
def serve {ρ : Type} (framework : Framework ρ) (headers : IdentityHeaders) (office : Office)
    (request : ρ) (checkedAt writtenAt : Timestamp) (freshTrace : String) : Response × Office :=
  match framework.understand headers request with
  | .error problem => (problem.response freshTrace, office)
  | .ok (caller, call) =>
    match call.answer office caller checkedAt writtenAt with
    | (.ok response, office) => (response, office)
    | (.error failure, office) => ((Problem.ofFailure failure).response freshTrace, office)

/-- A request that is not understood is answered without the office. -/
theorem serve_of_problem {ρ : Type} {framework : Framework ρ} {headers : IdentityHeaders}
    {request : ρ} {problem : Problem} (h : framework.understand headers request = .error problem)
    (office : Office) (checkedAt writtenAt : Timestamp) (freshTrace : String) :
    serve framework headers office request checkedAt writtenAt freshTrace =
      (problem.response freshTrace, office) := by
  simp [serve, h]

/-- A call that only reads leaves the office as it is. -/
theorem Call.answer_of_read {call : Call} (h : call.operation? = none) (office : Office)
    (caller : Caller) (checkedAt writtenAt : Timestamp) :
    (call.answer office caller checkedAt writtenAt).2 = office := by
  simp [answer, h]

end Symposium.Http
