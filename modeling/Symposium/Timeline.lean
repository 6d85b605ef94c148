import Symposium.Conference

/-!
# Timeline entries

A timeline tells what happened to a conference, one entry for each change. An entry is not shown if
the values of its payload stand too deep in each other.
-/

namespace Symposium

/-- What an entry reports. -/
inductive Entry.Kind where
  | proposed
  | updated
  | approved
  | rejected
  | deleted
  | registered
  | feedbackGiven
  deriving DecidableEq, Repr, Inhabited

namespace Entry.Kind

/-- Every kind of entry with the word for it. -/
def words : List (String × Kind) :=
  [("proposed", proposed), ("updated", updated), ("approved", approved), ("rejected", rejected),
    ("deleted", deleted), ("registered", registered), ("feedback_given", feedbackGiven)]

/-- The word for a kind of entry. -/
def word : Kind → String
  | proposed => "proposed"
  | updated => "updated"
  | approved => "approved"
  | rejected => "rejected"
  | deleted => "deleted"
  | registered => "registered"
  | feedbackGiven => "feedback_given"

/-- Every kind of entry is the one that is listed under its word. -/
theorem lookup_word (kind : Kind) : words.lookup kind.word = some kind := by
  cases kind <;> decide

end Entry.Kind

/-- What happened to a conference, who did it and when. -/
structure Entry where
  conferenceId : String
  kind : Entry.Kind
  actorId : Option String
  time : Timestamp
  /-- What else there is to know about it. -/
  payload : Json.Members
  deriving Repr, Inhabited

namespace Entry

/-- The name of this kind of record. -/
def recordKind : String := "TimelineEntry"

/-- Reads the members of an entry; without a time of its own it was made now. -/
def read (now : Timestamp) (json : Json) : Check.Checked Entry :=
  Entry.mk <$> Check.required json "conference_id" Check.text
    <*> Check.required json "type" (Check.choice Kind.words)
    <*> Check.optional json "actor_id" none (Check.nullable Check.text)
    <*> Check.optional json "timestamp" now Check.timestamp
    <*> Check.optional json "payload" [] Check.object

/-- An entry as a record. -/
def toJson (entry : Entry) : Json :=
  .obj [("conference_id", .str entry.conferenceId), ("type", .str entry.kind.word),
    ("actor_id", Json.ofText? entry.actorId), ("timestamp", Json.ofTimestamp entry.time),
    ("payload", .obj entry.payload)]

/-- The most values of a payload that may stand in each other where the entry is shown. -/
def depthLimit : Nat := 255

/-- Whether an entry can be shown. -/
def isShowable (entry : Entry) : Bool :=
  Json.depthOfMembers entry.payload ≤ depthLimit

end Entry

end Symposium
