import Symposium.Bus
import Symposium.FeedbackBook
import Symposium.IdSource
import Symposium.Roll
import Symposium.Visibility

/-!
# The office

The office keeps the programme, the roll and the feedback book, announces what changes and hands out
ids. This module holds what its operations share: loading a conference, showing it, looking whether
a window is free, and announcing a change.
-/

namespace Symposium

/-- How an office works. -/
structure Policy where
  /-- The most rows that a page may have. -/
  pageLimit : Int
  /-- The most conflicts that are named when a window is not free. -/
  reportLimit : Int
  /-- Whether it is looked whether a window is free before the programme is asked to take a row. -/
  checksWindows : Bool
  /-- Whether a user has to be admitted before the roll is asked to take a registration. -/
  checksAdmission : Bool
  deriving DecidableEq, Repr, Inhabited

namespace Policy

/-- The policy with these limits that checks everything. -/
def checking (pageLimit reportLimit : Int) : Policy :=
  ⟨pageLimit, reportLimit, true, true⟩

/-- The usual policy. -/
def standard : Policy :=
  checking 20 10

end Policy

/-- An office and all that it keeps. -/
structure Office where
  policy : Policy
  programme : Programme
  roll : Roll
  feedback : FeedbackBook
  journal : Journal
  bus : Bus
  ids : IdSource

namespace Office

/-- An office that has nothing to keep yet. -/
def start (policy : Policy) (ids : IdSource) : Office where
  policy
  programme := .empty
  roll := .empty
  feedback := .empty
  journal := .empty
  bus := .standard
  ids

/-- A conference as a reader gets to see it. -/
def card (office : Office) (c : Conference) : Card :=
  .ofConference c (office.roll.count c.id)

/-- The live conference with an id. -/
def load (office : Office) (id : String) : Except Failure Conference :=
  match office.programme.find? id with
  | some c => .ok c
  | none => .error (.refused (.conferenceNotFound id))

/-- The live conference with an id, if the principal may see it. -/
def loadVisible (office : Office) (principal : Principal) (id : String) :
    Except Failure Conference := do
  let c ← office.load id
  principal.checkView c
  return c

/-- The booked conferences that overlap a window, as many as are named in a report. -/
def conflicts (office : Office) (window : Window) (except : Option String) :
    Except Failure (List Conference) :=
  office.programme.conflicting window except office.policy.reportLimit

/-- Refuses a window that is not free, if the policy has it looked at. -/
def checkFree (office : Office) (window : Window) (except : Option String) :
    Except Failure Unit :=
  if office.policy.checksWindows then do
    let conflicts ← office.conflicts window except
    Failure.require conflicts.isEmpty (.timeWindowConflict (conflicts.map Clash.ofConference))
  else .ok ()

/-- Announces an event; the answer is lost if a handler fails. -/
def announce {α : Type} (office : Office) (event : Event) (answer : α) :
    Except Failure α × Office :=
  let (result, journal) := office.bus.publish event office.journal
  (result.map fun _ => answer, { office with journal })

/-- What is loaded is the live conference that has the id. -/
theorem load_eq_ok_iff {office : Office} {id : String} {c : Conference} :
    office.load id = .ok c ↔ office.programme.find? id = some c := by
  rw [load]
  split <;> simp_all

end Office

end Symposium
