import Symposium.Failure
import Symposium.Feedback
import Symposium.Page.Cut
import Symposium.Table

/-!
# The feedback book

The book keeps all feedback under its id. It takes at most one live feedback of a user on a
conference; feedback that was removed stays as a row that is not live.
-/

namespace Symposium

/-- All feedback, in the order in which the ids came. -/
abbrev FeedbackBook := Table Feedback.id

namespace FeedbackBook

/-- The live feedback with an id. -/
def find? (book : FeedbackBook) (id : String) : Option Feedback :=
  (book.get? id).filter Feedback.isLive

/-- Whether a user has said something about a conference that was not removed. -/
def has (book : FeedbackBook) (conferenceId userId : String) : Bool :=
  book.rows.any fun f => f.isOf conferenceId userId && f.isLive

/-- Takes a feedback. -/
def add (book : FeedbackBook) (f : Feedback) : Except Failure FeedbackBook :=
  if book.has f.conferenceId f.userId then .error (.violated (.feedbackTwice f.conferenceId))
  else .ok (book.put f)

/-- Removes a live feedback. -/
def remove (book : FeedbackBook) (id : String) (now : Timestamp) : Except Failure FeedbackBook :=
  match book.find? id with
  | none => .error (.violated (.notFound id))
  | some f => .ok (book.put { f with deletedAt := some now })

/-- The live feedback on a conference. -/
def notesOn (book : FeedbackBook) (conferenceId : String) : List Feedback :=
  book.rows.filter fun f => f.conferenceId == conferenceId && f.isLive

/-- The key of a feedback in a listing. -/
def idKey (f : Feedback) : Page.SortKey :=
  .ofId f.id

/-- The page of the live feedback on a conference, in the order in which it was given. -/
def pageOn (book : FeedbackBook) (conferenceId : String) (request : Page.Request) :
    Except Failure (Page Feedback) := do
  let place ← Failure.ofRefusal (request.place (some ∘ Page.SortKey.ofId))
  return Page.cut idKey false place request.limit (book.notesOn conferenceId)

end FeedbackBook

end Symposium
