import Symposium.Office.Comments
import Symposium.Office.Scheduling
import Symposium.Office.Seating

/-!
# Carrying out operations

The three stages of every operation, and all of them in a row when nothing comes in between. Main
statements: an operation that does not pass its checks leaves the office as it was.
-/

namespace Symposium.Office

/-- Loads what an operation is about and checks the right to it. -/
def draft (office : Office) (principal : Principal) : Operation → Except Failure Draft
  | .propose proposal => draftProposal principal proposal
  | .edit id edit => office.draftEdit principal id edit
  | .decide id status => office.draftDecision principal id status
  | .withdraw id => office.draftWithdrawal principal id
  | .register id => office.draftSeat principal id
  | .giveFeedback id comment => office.draftFeedback principal id comment
  | .removeFeedback id => draftRemoval principal id

/-- Checks what depends on the time and on other rows. -/
def review (office : Office) (now : Timestamp) : Draft → Except Failure Change
  | .proposal hostId proposal => office.reviewProposal hostId proposal now
  | .edit row edit => office.reviewEdit row edit now
  | .decision actorId row status => office.reviewDecision actorId row status now
  | .withdrawal actorId id => .ok (.withdraw actorId id)
  | .seat userId id row => office.reviewSeat userId id row now
  | .feedback userId row comment => office.reviewFeedback userId row comment now
  | .removal id => .ok (.removeFeedback id)

/-- Writes a change and announces it. -/
def commit (office : Office) (now : Timestamp) : Change → Except Failure Outcome × Office
  | .propose hostId proposal time => office.commitProposal hostId proposal time
  | .edit row changedFields time =>
    office.commitRow row (.updated (some row.hostId) changedFields) time
  | .decide actorId previous row time =>
    office.commitRow row (.decided actorId previous row.status) time
  | .withdraw actorId id => office.commitWithdrawal actorId id now
  | .register userId id => office.commitSeat userId id now
  | .giveFeedback userId id comment time => office.commitFeedback userId id comment time
  | .removeFeedback id => office.commitRemoval id now

/-- The checks of an operation: what is to be written if it passes them. -/
def check (office : Office) (principal : Principal) (operation : Operation) (now : Timestamp) :
    Except Failure Change := do
  let draft ← office.draft principal operation
  office.review now draft

/-- Goes on with a change that passed its review; otherwise nothing happens. -/
def commitChecked (office : Office) (now : Timestamp) :
    Except Failure Change → Except Failure Outcome × Office
  | .ok change => office.commit now change
  | .error failure => (.error failure, office)

/-- Carries out an operation. -/
def perform (office : Office) (principal : Principal) (operation : Operation)
    (now : Timestamp) : Except Failure Outcome × Office :=
  office.commitChecked now (office.check principal operation now)

/-- What does not pass its checks is answered with their failure, and nothing is written. -/
theorem perform_of_check_error {office : Office} {principal : Principal} {operation : Operation}
    {now : Timestamp} {failure : Failure}
    (h : office.check principal operation now = .error failure) :
    office.perform principal operation now = (.error failure, office) := by
  simp [perform, h, commitChecked]

/-- What passes its checks is committed. -/
theorem perform_of_check_ok {office : Office} {principal : Principal} {operation : Operation}
    {now : Timestamp} {change : Change} (h : office.check principal operation now = .ok change) :
    office.perform principal operation now = office.commit now change := by
  simp [perform, h, commitChecked]

end Symposium.Office
