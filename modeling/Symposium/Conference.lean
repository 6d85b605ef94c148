import Symposium.Check.Reader
import Symposium.Time.Printer

/-!
# Conferences

A conference is a talk with seats and a time window. It starts out as a proposal of its host, is
approved or rejected, and may be withdrawn, after which the row stays but is not live. Windows are
half open: one that starts when another ends does not overlap it. Main statement: two windows
overlap exactly if they share an instant.
-/

namespace Symposium

/-- What has been decided about a conference. -/
inductive Status where
  | pending
  | approved
  | rejected
  deriving DecidableEq, Repr, Inhabited

namespace Status

/-- Every status with the word for it. -/
def words : List (String × Status) :=
  [("pending", pending), ("approved", approved), ("rejected", rejected)]

/-- The word for a status. -/
def word : Status → String
  | pending => "pending"
  | approved => "approved"
  | rejected => "rejected"

/-- The name of a request for a decision. -/
def requestKind : String := "StatusUpdateRequest"

/-- Reads a request for a decision, which names the status. -/
def readRequest (json : Json) : Check.Checked Status :=
  Check.required json "status" (Check.choice words)

/-- A request for a decision as a record. -/
def requestToJson (status : Status) : Json :=
  .obj [("status", .str status.word)]

/-- Every status is the one that is listed under its word. -/
theorem lookup_word (status : Status) : words.lookup status.word = some status := by
  cases status <;> decide

end Status

/-- The time that a conference takes, from its start up to but without its end. -/
structure Window where
  startsAt : Timestamp
  endsAt : Timestamp
  deriving DecidableEq, Repr, Inhabited

namespace Window

/--
Whether two windows overlap; nothing if the timestamps that this depends on cannot be put in order.
The second comparison is made only if the first holds.
-/
def overlaps? (a b : Window) : Option Bool :=
  match a.startsAt.before? b.endsAt with
  | none => none
  | some false => some false
  | some true => b.startsAt.before? a.endsAt

/-- Whether an instant lies in the window. -/
def Contains (w : Window) (instant : Int) : Prop :=
  w.startsAt.instant ≤ instant ∧ instant < w.endsAt.instant

/-- Whether both ends have an offset. -/
def isAware (w : Window) : Bool :=
  w.startsAt.isAware && w.endsAt.isAware

/-- Whether both ends have an offset or neither has, and the end is after the start. -/
def isOrdered (w : Window) : Bool :=
  w.startsAt.before? w.endsAt == some true

/-- A window is ordered if its ends can be compared and the start is the earlier instant. -/
theorem isOrdered_iff {w : Window} :
    w.isOrdered = true ↔
      w.startsAt.comparable w.endsAt = true ∧ w.startsAt.instant < w.endsAt.instant := by
  simp [isOrdered, Timestamp.before?]

/-- With offsets, the overlap is decided by comparing starts and ends as instants. -/
theorem overlaps?_of_aware {a b : Window} (ha : a.isAware) (hb : b.isAware) :
    a.overlaps? b = some (decide (a.startsAt.instant < b.endsAt.instant) &&
      decide (b.startsAt.instant < a.endsAt.instant)) := by
  simp only [isAware, Bool.and_eq_true] at ha hb
  rw [overlaps?, Timestamp.before?_of_aware ha.1 hb.2, Timestamp.before?_of_aware hb.1 ha.2]
  by_cases h : a.startsAt.instant < b.endsAt.instant <;> simp [h]

/-- Windows that end after they start overlap exactly if they share an instant. -/
theorem overlaps?_eq_some_true_iff {a b : Window} (ha : a.isAware) (hb : b.isAware)
    (oa : a.isOrdered) (ob : b.isOrdered) :
    a.overlaps? b = some true ↔ ∃ t, a.Contains t ∧ b.Contains t := by
  rw [overlaps?_of_aware ha hb]
  have oa := (isOrdered_iff.1 oa).2
  have ob := (isOrdered_iff.1 ob).2
  constructor
  · intro h
    have h : a.startsAt.instant < b.endsAt.instant ∧ b.startsAt.instant < a.endsAt.instant := by
      simpa using h
    by_cases hs : a.startsAt.instant ≤ b.startsAt.instant
    · exact ⟨b.startsAt.instant, ⟨hs, h.2⟩, Int.le_refl _, ob⟩
    · exact ⟨a.startsAt.instant, ⟨Int.le_refl _, oa⟩, by omega, h.1⟩
  · rintro ⟨t, ⟨_, _⟩, _, _⟩
    have : a.startsAt.instant < b.endsAt.instant := by omega
    have : b.startsAt.instant < a.endsAt.instant := by omega
    simp [*]

end Window

/-- What a conference is about, who speaks and for whom. -/
structure Talk where
  title : String
  description : String
  speakerName : String
  speakerTitle : String
  targetAudience : String
  prerequisites : Option String
  deriving DecidableEq, Repr, Inhabited

/-- The members of a talk in a record. -/
def Talk.members (talk : Talk) : Json.Members :=
  [("title", .str talk.title), ("description", .str talk.description),
    ("speaker_name", .str talk.speakerName), ("speaker_title", .str talk.speakerTitle),
    ("target_audience", .str talk.targetAudience),
    ("prerequisites", Json.ofText? talk.prerequisites)]

/-- A timestamp in a record. -/
def Json.ofTimestamp (t : Timestamp) : Json :=
  .str (t.print .record)

/-- A timestamp or null in a record. -/
def Json.ofTimestamp? : Option Timestamp → Json
  | some t => Json.ofTimestamp t
  | none => .null

/-- The members of a window in a record. -/
def Window.members (w : Window) : Json.Members :=
  [("starts_at", Json.ofTimestamp w.startsAt), ("ends_at", Json.ofTimestamp w.endsAt)]

/-- A conference. -/
structure Conference where
  id : String
  talk : Talk
  seats : Nat
  window : Window
  hostId : String
  status : Status
  createdAt : Timestamp
  updatedAt : Timestamp
  /-- When it was withdrawn, if it was. -/
  deletedAt : Option Timestamp
  deriving DecidableEq, Repr, Inhabited

namespace Conference

/-- The name of this kind of record. -/
def kind : String := "Conference"

/-- Whether the conference has not been withdrawn. -/
def isLive (c : Conference) : Bool :=
  c.deletedAt.isNone

/-- Whether the conference is live and approved, and so takes up its window. -/
def isBooked (c : Conference) : Bool :=
  c.isLive && c.status == .approved

/--
Reads the members of a conference; whether its end is after its start is not looked at. Without a
time of its own it was made now.
-/
def read (now : Timestamp) (json : Json) : Check.Checked Conference :=
  build <$> Check.required json "id" Check.text <*> Check.required json "title" Check.text
    <*> Check.required json "description" Check.text
    <*> Check.required json "speaker_name" Check.text
    <*> Check.required json "speaker_title" Check.text
    <*> Check.required json "target_audience" Check.text
    <*> Check.optional json "prerequisites" none (Check.nullable Check.text)
    <*> Check.required json "seats" Check.positive
    <*> Check.required json "starts_at" Check.timestamp
    <*> Check.required json "ends_at" Check.timestamp
    <*> Check.required json "host_id" Check.text
    <*> Check.optional json "status" .pending (Check.choice Status.words)
    <*> Check.optional json "created_at" now Check.timestamp
    <*> Check.optional json "updated_at" now Check.timestamp
    <*> Check.optional json "deleted_at" none (Check.nullable Check.timestamp)
where
  /-- The conference that consists of these members. -/
  build (id title description speakerName speakerTitle targetAudience : String)
      (prerequisites : Option String) (seats : Int) (startsAt endsAt : Timestamp)
      (hostId : String) (status : Status) (createdAt updatedAt : Timestamp)
      (deletedAt : Option Timestamp) : Conference :=
    ⟨id, ⟨title, description, speakerName, speakerTitle, targetAudience, prerequisites⟩,
      seats.toNat, ⟨startsAt, endsAt⟩, hostId, status, createdAt, updatedAt, deletedAt⟩

/-- A conference as a record. -/
def toJson (c : Conference) : Json :=
  .obj <| [("id", .str c.id)] ++ c.talk.members ++ [("seats", .int c.seats)] ++ c.window.members ++
    [("host_id", .str c.hostId), ("status", .str c.status.word),
      ("created_at", Json.ofTimestamp c.createdAt), ("updated_at", Json.ofTimestamp c.updatedAt),
      ("deleted_at", Json.ofTimestamp? c.deletedAt)]

end Conference

end Symposium
