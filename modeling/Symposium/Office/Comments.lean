import Symposium.Office.Change

/-!
# Comments

A participant who is not the host gives feedback on a conference after it has ended, once as long as
the feedback is not removed. Coordinators remove feedback.
-/

namespace Symposium.Office

/-- Drafts a feedback: the user takes part in the conference, sees it and does not host it. -/
def draftFeedback (office : Office) (principal : Principal) (id : String)
    (comment : Option String) : Except Failure Draft :=
  match principal.id with
  | none => .error (.refused .notRegistered)
  | some userId => do
    Failure.require (office.roll.has id userId) .notRegistered
    let row ← office.loadVisible principal id
    Failure.require (!principal.isUser row.hostId) .hostCannotGiveFeedback
    return .feedback userId row comment

/-- Reviews a feedback: the conference is over, and it is the user's only one. -/
def reviewFeedback (office : Office) (userId : String) (row : Conference)
    (comment : Option String) (now : Timestamp) : Except Failure Change := do
  let ahead ← now.isBefore row.window.endsAt
  Failure.require (!ahead) (.conferenceNotEnded row.window.endsAt)
  Failure.require (!office.feedback.has row.id userId) .feedbackAlreadyGiven
  return .giveFeedback userId row.id comment now

/-- How it is reported that the book did not take a feedback. -/
def unsaid : Failure → Failure
  | .violated (.feedbackTwice _) => .refused .feedbackAlreadyGiven
  | failure => failure

/-- How it is reported that the comment of a feedback is no text. -/
def uncommented : Failure :=
  .invalid Feedback.kind [⟨[.member "comment"], .notText, .null⟩]

/-- Adds the feedback, under a new id. -/
def commitFeedback (office : Office) (userId id : String) (comment : Option String)
    (time : Timestamp) : Except Failure Outcome × Office :=
  match office.ids.draw, comment with
  | (none, ids), _ => (.error (.refused (.noFeedbackId id userId)), { office with ids })
  | (some _, ids), none => (.error uncommented, { office with ids })
  | (some feedbackId, ids), some comment =>
    match office.feedback.add ⟨feedbackId, id, userId, comment, time, none⟩ with
    | .error failure => (.error (unsaid failure), { office with ids })
    | .ok feedback =>
      { office with feedback, ids }.announce ⟨time, id, .commented feedbackId userId⟩
        (.created feedbackId)

/-- Drafts the removal of a feedback, which is the business of coordinators. -/
def draftRemoval (principal : Principal) (id : String) : Except Failure Draft :=
  principal.checkUnrestricted.map fun _ => .removal id

/-- Removes a feedback; this is not announced. -/
def commitRemoval (office : Office) (id : String) (now : Timestamp) :
    Except Failure Outcome × Office :=
  match office.feedback.remove id now with
  | .error _ => (.error (.refused (.feedbackNotFound id)), office)
  | .ok feedback => (.ok .done, { office with feedback })

/-- Shows a page of the feedback on a conference. -/
def notes (office : Office) (principal : Principal) (id : String) (request : Page.Request) :
    Except Failure (Page Feedback.Note) := do
  Failure.ofRefusal (request.check office.policy.pageLimit)
  let _ ← office.loadVisible principal id
  let page ← office.feedback.pageOn id request
  return page.map Feedback.Note.ofFeedback

end Symposium.Office
