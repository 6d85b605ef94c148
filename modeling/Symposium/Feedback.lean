import Symposium.Conference.Card

/-!
# Feedback

What a participant says about a conference that is over. Feedback that was removed stays as a row
that is not live.
-/

namespace Symposium

/-- A comment of a participant on a conference. -/
structure Feedback where
  id : String
  conferenceId : String
  userId : String
  comment : String
  createdAt : Timestamp
  /-- When it was removed, if it was. -/
  deletedAt : Option Timestamp
  deriving DecidableEq, Repr, Inhabited

namespace Feedback

/-- The name of this kind of record. -/
def kind : String := "Feedback"

/-- Whether the feedback has not been removed. -/
def isLive (f : Feedback) : Bool :=
  f.deletedAt.isNone

/-- Whether this is what a user says about a conference. -/
def isOf (f : Feedback) (conferenceId userId : String) : Bool :=
  f.conferenceId == conferenceId && f.userId == userId

/-- Reads the members of a feedback; without a time of its own it was given now. -/
def read (now : Timestamp) (json : Json) : Check.Checked Feedback :=
  Feedback.mk <$> Check.required json "id" Check.text
    <*> Check.required json "conference_id" Check.text
    <*> Check.required json "user_id" Check.text
    <*> Check.required json "comment" Check.text
    <*> Check.optional json "created_at" now Check.timestamp
    <*> Check.optional json "deleted_at" none (Check.nullable Check.timestamp)

/-- A feedback as a record. -/
def toJson (f : Feedback) : Json :=
  .obj [("id", .str f.id), ("conference_id", .str f.conferenceId), ("user_id", .str f.userId),
    ("comment", .str f.comment), ("created_at", Json.ofTimestamp f.createdAt),
    ("deleted_at", Json.ofTimestamp? f.deletedAt)]

/-- A request to give feedback. -/
structure Request where
  conferenceId : String
  comment : String
  deriving DecidableEq, Repr, Inhabited

namespace Request

/-- The name of this kind of record. -/
def kind : String := "CreateFeedbackRequest"

/-- Reads the members of a request. -/
def read (json : Json) : Check.Checked Request :=
  Request.mk <$> Check.required json "conference_id" Check.text
    <*> Check.required json "comment" (Check.boundedText 1 1000)

/-- A request as a record. -/
def toJson (request : Request) : Json :=
  .obj [("conference_id", .str request.conferenceId), ("comment", .str request.comment)]

end Request

/-- A feedback as the list of a conference shows it. -/
structure Note where
  id : String
  comment : String
  createdAt : Timestamp
  userId : String
  deriving DecidableEq, Repr, Inhabited

namespace Note

/-- The name of this kind of record. -/
def kind : String := "FeedbackResponse"

/-- What the list shows of a feedback. -/
def ofFeedback (f : Feedback) : Note :=
  ⟨f.id, f.comment, f.createdAt, f.userId⟩

/-- Reads the members of a note. -/
def read (json : Json) : Check.Checked Note :=
  Note.mk <$> Check.required json "id" Check.text <*> Check.required json "comment" Check.text
    <*> Check.required json "created_at" Check.timestamp
    <*> Check.required json "user" readUserRef

/-- A note as a record. -/
def toJson (note : Note) : Json :=
  .obj [("id", .str note.id), ("comment", .str note.comment),
    ("created_at", Json.ofTimestamp note.createdAt), ("user", userRefToJson note.userId)]

end Note

end Feedback

end Symposium
