import Symposium.Conference.Card

/-!
# Registrations

A registration is a seat that a user has taken at a conference.
-/

namespace Symposium

/-- A seat taken. -/
structure Registration where
  conferenceId : String
  userId : String
  createdAt : Timestamp
  deriving DecidableEq, Repr, Inhabited

namespace Registration

/-- The name of this kind of record. -/
def kind : String := "Registration"

/-- What identifies a registration: each user takes at most one seat at a conference. -/
def key (r : Registration) : String × String :=
  (r.conferenceId, r.userId)

/-- Reads the members of a registration; without a time of its own it was made now. -/
def read (now : Timestamp) (json : Json) : Check.Checked Registration :=
  Registration.mk <$> Check.required json "conference_id" Check.text
    <*> Check.required json "user_id" Check.text
    <*> Check.optional json "created_at" now Check.timestamp

/-- A registration as a record. -/
def toJson (r : Registration) : Json :=
  .obj [("conference_id", .str r.conferenceId), ("user_id", .str r.userId),
    ("created_at", Json.ofTimestamp r.createdAt)]

/-- The name of a request for a seat. -/
def requestKind : String := "RegistrationRequest"

/-- Reads a request for a seat, which names the conference. -/
def readRequest (json : Json) : Check.Checked String :=
  Check.required json "conference_id" Check.text

/-- A request for a seat as a record. -/
def requestToJson (conferenceId : String) : Json :=
  .obj [("conference_id", .str conferenceId)]

end Registration

/-- A user who holds a seat, as the list of participants shows them. -/
structure Participant where
  id : String
  registeredAt : Timestamp
  deriving DecidableEq, Repr, Inhabited

namespace Participant

/-- The name of this kind of record. -/
def kind : String := "RegisteredUserResponse"

/-- The holder of a seat. -/
def ofRegistration (r : Registration) : Participant :=
  ⟨r.userId, r.createdAt⟩

/-- Reads the members of a participant. -/
def read (json : Json) : Check.Checked Participant :=
  Participant.mk <$> Check.required json "id" Check.text
    <*> Check.required json "registered_at" Check.timestamp

/-- A participant as a record. -/
def toJson (p : Participant) : Json :=
  .obj [("id", .str p.id), ("registered_at", Json.ofTimestamp p.registeredAt)]

end Participant

end Symposium
