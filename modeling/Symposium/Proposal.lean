import Symposium.Conference

/-!
# Proposals

What a host asks for: a talk, its seats and its window. The texts are neither too short nor too
long, there is at least one seat, and both ends of the window have an offset.
-/

namespace Symposium

/-- A request for a conference. -/
structure Proposal where
  talk : Talk
  seats : Nat
  window : Window
  deriving DecidableEq, Repr, Inhabited

namespace Proposal

/-- The name of this kind of record. -/
def kind : String := "CreateConferenceRequest"

/-- Reads a title, or one of the texts about the speaker. -/
def readLine : Json → Check.Checked String :=
  Check.boundedText 3 100

/-- Reads a description. -/
def readDescription : Json → Check.Checked String :=
  Check.boundedText 3 1000

/-- Reads whom the talk is for. -/
def readAudience : Json → Check.Checked String :=
  Check.boundedText 3 255

/-- Reads what one should know before the talk. -/
def readPrerequisites : Json → Check.Checked (Option String) :=
  Check.nullable (Check.boundedText 0 255)

/-- Reads the members of a proposal. -/
def read (json : Json) : Check.Checked Proposal :=
  build <$> Check.required json "title" readLine
    <*> Check.required json "description" readDescription
    <*> Check.required json "speaker_name" readLine
    <*> Check.required json "speaker_title" readLine
    <*> Check.required json "target_audience" readAudience
    <*> Check.optional json "prerequisites" none readPrerequisites
    <*> Check.required json "seats" Check.positive
    <*> Check.required json "starts_at" Check.awareTimestamp
    <*> Check.required json "ends_at" Check.awareTimestamp
where
  /-- The proposal that consists of these members. -/
  build (title description speakerName speakerTitle targetAudience : String)
      (prerequisites : Option String) (seats : Int) (startsAt endsAt : Timestamp) : Proposal :=
    ⟨⟨title, description, speakerName, speakerTitle, targetAudience, prerequisites⟩,
      seats.toNat, ⟨startsAt, endsAt⟩⟩

/-- A proposal as a record. -/
def toJson (p : Proposal) : Json :=
  .obj <| p.talk.members ++ [("seats", .int p.seats)] ++ p.window.members

/-- The pending conference that a proposal becomes. -/
def toConference (p : Proposal) (id hostId : String) (now : Timestamp) : Conference where
  id
  talk := p.talk
  seats := p.seats
  window := p.window
  hostId
  status := .pending
  createdAt := now
  updatedAt := now
  deletedAt := none

end Proposal

end Symposium
