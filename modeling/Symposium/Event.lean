import Symposium.Timeline

/-!
# Events

Every change that was made is announced by an event. An event that reports a change of a conference
has an entry on its timeline; a status that is announced to be pending again has none.
-/

namespace Symposium

/-- What an event announces. -/
inductive Event.News where
  | proposed (actorId : Option String)
  | updated (actorId : Option String) (changedFields : List String)
  | decided (actorId : Option String) (previous status : Status)
  | deleted (actorId : Option String)
  | registered (userId : String)
  | commented (feedbackId userId : String)
  deriving DecidableEq, Repr, Inhabited

/-- The kinds of events that one can subscribe to. -/
inductive Event.Kind where
  | proposed
  | updated
  | decided
  | deleted
  | registered
  | commented
  deriving DecidableEq, Repr, Inhabited

namespace Event.Kind

/-- Every kind of event. -/
def all : List Kind :=
  [proposed, updated, decided, deleted, registered, commented]

/-- The name of a kind of event. -/
def name : Kind → String
  | proposed => "ConferenceProposed"
  | updated => "ConferenceUpdated"
  | decided => "ConferenceStatusChanged"
  | deleted => "ConferenceDeleted"
  | registered => "RegistrationCreated"
  | commented => "FeedbackCreated"

/-- The kind of event with a name. -/
def ofName? (name : String) : Option Kind :=
  all.find? (·.name == name)

/-- Every kind of event is found by its own name. -/
theorem ofName?_name (kind : Kind) : ofName? kind.name = some kind := by
  cases kind <;> decide

end Event.Kind

/-- The announcement that something happened to a conference. -/
structure Event where
  occurredAt : Timestamp
  conferenceId : String
  news : Event.News
  deriving DecidableEq, Repr, Inhabited

namespace Event

/-- The kind of an event. -/
def kind (event : Event) : Kind :=
  match event.news with
  | .proposed _ => .proposed
  | .updated .. => .updated
  | .decided .. => .decided
  | .deleted _ => .deleted
  | .registered _ => .registered
  | .commented .. => .commented

/-- Who brought the event about. -/
def actorId? (event : Event) : Option String :=
  match event.news with
  | .proposed actor => actor
  | .updated actor _ => actor
  | .decided actor _ _ => actor
  | .deleted actor => actor
  | .registered user => some user
  | .commented _ user => some user

/-- What the timeline says about an event: the kind of the entry and what else there is to know. -/
def report? (event : Event) : Option (Entry.Kind × Json.Members) :=
  match event.news with
  | .proposed _ => some (.proposed, [])
  | .updated _ fields => some (.updated, [("changed_fields", .arr (fields.map .str))])
  | .decided _ previous .approved => some (.approved, decision previous .approved)
  | .decided _ previous .rejected => some (.rejected, decision previous .rejected)
  | .decided _ _ .pending => none
  | .deleted _ => some (.deleted, [])
  | .registered _ => some (.registered, [])
  | .commented feedbackId _ => some (.feedbackGiven, [("feedback_id", .str feedbackId)])
where
  /-- From which status to which. -/
  decision (previous status : Status) : Json.Members :=
    [("from", .str previous.word), ("to", .str status.word)]

/-- The entry of an event on the timeline of its conference. -/
def entry? (event : Event) : Option Entry :=
  event.report?.map fun (kind, payload) =>
    ⟨event.conferenceId, kind, event.actorId?, event.occurredAt, payload⟩

/-- Reads what all events have: when it occurred, which is now if that is not said. -/
def readOccurrence (now : Timestamp) (json : Json) : Check.Checked Timestamp :=
  Check.optional json "occurred_at" now Check.timestamp

/-- Reads who acted. -/
def readActor (json : Json) : Check.Checked (Option String) :=
  Check.optional json "actor_id" none (Check.nullable Check.text)

/-- Reads the members of an event of some kind. -/
def read (kind : Kind) (now : Timestamp) (json : Json) : Check.Checked Event :=
  let start := Event.mk <$> readOccurrence now json
    <*> Check.required json "conference_id" Check.text
  match kind with
  | .proposed => start <*> (News.proposed <$> readActor json)
  | .updated =>
    start <*> (News.updated <$> readActor json
      <*> Check.required json "changed_fields" (Check.list Check.text))
  | .decided =>
    start <*> (News.decided <$> readActor json
      <*> Check.required json "previous" (Check.choice Status.words)
      <*> Check.required json "status" (Check.choice Status.words))
  | .deleted => start <*> (News.deleted <$> readActor json)
  | .registered => start <*> (News.registered <$> Check.required json "user_id" Check.text)
  | .commented =>
    start <*> (News.commented <$> Check.required json "feedback_id" Check.text
      <*> Check.required json "user_id" Check.text)

/-- The members that only some kinds of events have. -/
def News.members : News → Json.Members
  | .proposed actor => [("actor_id", Json.ofText? actor)]
  | .updated actor fields =>
    [("actor_id", Json.ofText? actor), ("changed_fields", .arr (fields.map .str))]
  | .decided actor previous status =>
    [("actor_id", Json.ofText? actor), ("previous", .str previous.word),
      ("status", .str status.word)]
  | .deleted actor => [("actor_id", Json.ofText? actor)]
  | .registered user => [("user_id", .str user)]
  | .commented feedbackId user => [("feedback_id", .str feedbackId), ("user_id", .str user)]

/-- The members of an event in a record. -/
def members (event : Event) : Json.Members :=
  [("occurred_at", Json.ofTimestamp event.occurredAt),
    ("conference_id", .str event.conferenceId)] ++ event.news.members

/-- An event as a record. -/
def toJson (event : Event) : Json :=
  .obj event.members

end Event

end Symposium
