import Symposium.Event
import Symposium.Failure
import Symposium.Page.Order

/-!
# Announcing events

An event is handed to the handlers that were subscribed to its kind, in the order in which they were
subscribed. The first one that fails ends this; what was written down until then stays.
-/

namespace Symposium

/-- What is written down when events are announced. -/
structure Journal where
  /-- Every event that was announced. -/
  published : List Event
  /-- The timelines of all conferences. -/
  timeline : List Entry
  deriving Inhabited

namespace Journal

/-- Nothing was announced yet. -/
def empty : Journal := ⟨[], []⟩

/-- The journal with an event written down. -/
def record (event : Event) (journal : Journal) : Journal :=
  { journal with published := journal.published ++ [event] }

/-- The journal with an entry added to the timelines. -/
def enter (entry : Entry) (journal : Journal) : Journal :=
  { journal with timeline := journal.timeline ++ [entry] }

/-- The entries of a conference. -/
def entriesOf (journal : Journal) (conferenceId : String) : List Entry :=
  journal.timeline.filter (·.conferenceId == conferenceId)

/-- What entries are sorted by; those of the same time stay in the order they were made in. -/
def timeKey (entry : Entry) : Page.SortKey :=
  ⟨entry.time.instant, ""⟩

/-- The timeline of a conference in order of time. -/
def timelineOf (journal : Journal) (conferenceId : String) : Except Failure (List Entry) :=
  let entries := journal.entriesOf conferenceId
  if Timestamp.allComparable (entries.map (·.time)) then .ok (Page.sortRows timeKey false entries)
  else .error .incomparable

end Journal

/-- A handler of the events of one kind. What it writes down before it fails stays. -/
structure Subscription where
  kind : Event.Kind
  handle : Event → Journal → Except Failure Unit × Journal

/-- All subscriptions, in the order in which they were made. -/
abbrev Bus := List Subscription

namespace Subscription

/-- Writes down every event of a kind. -/
def recorder (kind : Event.Kind) : Subscription :=
  ⟨kind, fun event journal => (.ok (), journal.record event)⟩

/-- Enters every event of a kind on the timeline of its conference. -/
def chronicler (kind : Event.Kind) : Subscription :=
  ⟨kind, fun event journal => (.ok (), match event.entry? with
    | some entry => journal.enter entry
    | none => journal)⟩

/-- Fails at every event of a kind. -/
def failing (kind : Event.Kind) : Subscription :=
  ⟨kind, fun _ journal => (.error .handlerFailed, journal)⟩

end Subscription

namespace Bus

/-- The bus of an office: every event is written down and entered on a timeline. -/
def standard : Bus :=
  Event.Kind.all.map Subscription.recorder ++ Event.Kind.all.map Subscription.chronicler

/-- The bus with one more subscription. -/
def subscribe (bus : Bus) (subscription : Subscription) : Bus :=
  bus ++ [subscription]

/-- Hands an event to its handlers: how that ended, and what is written down then. -/
def publish (event : Event) : Bus → Journal → Except Failure Unit × Journal
  | [], journal => (.ok (), journal)
  | s :: bus, journal =>
    if s.kind = event.kind then
      match s.handle event journal with
      | (.ok (), journal) => publish event bus journal
      | (.error failure, journal) => (.error failure, journal)
    else publish event bus journal

end Bus

end Symposium
