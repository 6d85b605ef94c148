import Symposium.Conference

/-!
# Cards and clashes

A card is what a reader gets to see of a conference: its content, its host and how many seats are
taken. A clash is the short form in which a conference is named that stands in the way of another.
-/

namespace Symposium

/-- Reads a reference to a user, which is a record with nothing but an id. -/
def readUserRef : Json → Check.Checked String :=
  Check.record "UserRef" fun json => Check.required json "id" Check.text

/-- A reference to a user as a record. -/
def userRefToJson (id : String) : Json :=
  .obj [("id", .str id)]

/-- A conference as a reader gets to see it. -/
structure Card where
  id : String
  talk : Talk
  seats : Int
  seatsTaken : Int
  window : Window
  hostId : String
  status : Status
  createdAt : Timestamp
  updatedAt : Timestamp
  deriving DecidableEq, Repr, Inhabited

namespace Card

/-- The name of this kind of record. -/
def kind : String := "ConferenceResponse"

/-- The card of a conference with so many seats taken. -/
def ofConference (c : Conference) (seatsTaken : Int) : Card where
  id := c.id
  talk := c.talk
  seats := c.seats
  seatsTaken
  window := c.window
  hostId := c.hostId
  status := c.status
  createdAt := c.createdAt
  updatedAt := c.updatedAt

/-- Reads the members of a card. -/
def read (json : Json) : Check.Checked Card :=
  build <$> Check.required json "id" Check.text <*> Check.required json "title" Check.text
    <*> Check.required json "description" Check.text
    <*> Check.required json "speaker_name" Check.text
    <*> Check.required json "speaker_title" Check.text
    <*> Check.required json "target_audience" Check.text
    <*> Check.optional json "prerequisites" none (Check.nullable Check.text)
    <*> Check.required json "seats" Check.integer
    <*> Check.optional json "seats_taken" 0 Check.integer
    <*> Check.required json "starts_at" Check.timestamp
    <*> Check.required json "ends_at" Check.timestamp
    <*> Check.required json "host" readUserRef
    <*> Check.required json "status" (Check.choice Status.words)
    <*> Check.required json "created_at" Check.timestamp
    <*> Check.required json "updated_at" Check.timestamp
where
  /-- The card that consists of these members. -/
  build (id title description speakerName speakerTitle targetAudience : String)
      (prerequisites : Option String) (seats seatsTaken : Int) (startsAt endsAt : Timestamp)
      (hostId : String) (status : Status) (createdAt updatedAt : Timestamp) : Card :=
    ⟨id, ⟨title, description, speakerName, speakerTitle, targetAudience, prerequisites⟩,
      seats, seatsTaken, ⟨startsAt, endsAt⟩, hostId, status, createdAt, updatedAt⟩

/-- A card as a record. -/
def toJson (card : Card) : Json :=
  .obj <| [("id", .str card.id)] ++ card.talk.members ++
    [("seats", .int card.seats), ("seats_taken", .int card.seatsTaken)] ++ card.window.members ++
    [("host", userRefToJson card.hostId), ("status", .str card.status.word),
      ("created_at", Json.ofTimestamp card.createdAt),
      ("updated_at", Json.ofTimestamp card.updatedAt)]

end Card

/-- A conference that stands in the way of another, in short. -/
structure Clash where
  id : String
  title : String
  window : Window
  deriving DecidableEq, Repr, Inhabited

namespace Clash

/-- The name of this kind of record. -/
def kind : String := "ConflictingConference"

/-- The short form of a conference. -/
def ofConference (c : Conference) : Clash :=
  ⟨c.id, c.talk.title, c.window⟩

/-- Reads the members of a clash. -/
def read (json : Json) : Check.Checked Clash :=
  (fun id title startsAt endsAt => ⟨id, title, ⟨startsAt, endsAt⟩⟩)
    <$> Check.required json "id" Check.text <*> Check.required json "title" Check.text
    <*> Check.required json "starts_at" Check.timestamp
    <*> Check.required json "ends_at" Check.timestamp

/-- A clash as a record. -/
def toJson (clash : Clash) : Json :=
  .obj <| [("id", .str clash.id), ("title", .str clash.title)] ++ clash.window.members

/-- The explanation that names some clashes. -/
def explain (clashes : List Clash) : Json :=
  .obj [("conferences", .arr (clashes.map toJson))]

end Clash

end Symposium
