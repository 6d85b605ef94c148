import Symposium.Lifecycle
import Symposium.Office.Change

/-!
# Scheduling

Proposals, edits, decisions and withdrawals of conferences, and how conferences are read. The
programme has the last word: a row that it does not take after all is reported like one that did not
pass its review.
-/

namespace Symposium.Office

/-- The listing in which an active proposal of a host is found. -/
def activeProposals (hostId : String) : Query where
  page := ⟨none, none, 1⟩
  status := .pending
  hostId := some hostId
  startsBefore := none
  startsAfter := none
  includePast := false
  sortBy := .created
  descending := true
  title := none

/-- Refuses a further proposal of a host who has one that is pending and not over. -/
def checkActive (office : Office) (hostId : String) (now : Timestamp) : Except Failure Unit := do
  let page ← office.programme.list (activeProposals hostId) now
  match page.rows.head? with
  | none => return ()
  | some c => .error (.refused (.userHasActiveProposal c))

/-- Drafts a proposal, which somebody has to make. -/
def draftProposal (principal : Principal) (proposal : Proposal) : Except Failure Draft :=
  match principal.id with
  | none => .error (.refused .nobodyProposes)
  | some hostId => .ok (.proposal hostId proposal)

/-- Reviews a proposal: it lies in the future, is the only active one, and its window is free. -/
def reviewProposal (office : Office) (hostId : String) (proposal : Proposal) (now : Timestamp) :
    Except Failure Change := do
  proposal.window.checkFuture now
  office.checkActive hostId now
  office.checkFree proposal.window none
  return .propose hostId proposal now

/-- Adds the conference that was proposed, under a new id. -/
def commitProposal (office : Office) (hostId : String) (proposal : Proposal) (time : Timestamp) :
    Except Failure Outcome × Office :=
  match office.ids.draw with
  | (none, ids) => (.error (.refused (.noConferenceId hostId)), { office with ids })
  | (some id, ids) =>
    match office.programme.add (proposal.toConference id hostId time) with
    | .error failure => (.error failure, { office with ids })
    | .ok programme =>
      { office with programme, ids }.announce ⟨time, id, .proposed (some hostId)⟩ (.created id)

/-- Drafts an edit, which is the host's business only. -/
def draftEdit (office : Office) (principal : Principal) (id : String) (edit : Edit) :
    Except Failure Draft := do
  let row ← office.load id
  Failure.require (principal.isUser row.hostId) (.notYourConference id)
  return .edit row edit

/-- Reviews an edit: it is allowed now, and a window that moves is free. -/
def reviewEdit (office : Office) (row : Conference) (edit : Edit) (now : Timestamp) :
    Except Failure Change := do
  row.checkEdit edit now
  if edit.movesWindow then office.checkFree (edit.applyTo row).window (some row.id)
  return .edit (edit.applyTo row) edit.sentNames now

/-- Drafts a decision, which is the business of coordinators. -/
def draftDecision (office : Office) (principal : Principal) (id : String) (status : Status) :
    Except Failure Draft := do
  principal.checkUnrestricted
  let row ← office.load id
  return .decision principal.id row status

/-- Reviews a decision: it is allowed now, and the window of an approval is free. -/
def reviewDecision (office : Office) (actorId : Option String) (row : Conference)
    (status : Status) (now : Timestamp) : Except Failure Change := do
  row.checkDecision status now
  if status = .approved then office.checkFree row.window (some row.id)
  return .decide actorId row.status { row with status } now

/-- How it is reported that the programme did not take a row. -/
def unwritten (id : String) : Failure → Failure
  | .violated (.notFound _) => .refused (.conferenceNotFound id)
  | .violated (.overlap conflicts) =>
    .refused (.timeWindowConflict (conflicts.map Clash.ofConference))
  | failure => failure

/-- Writes the row of a conference and announces what is new about it. -/
def commitRow (office : Office) (row : Conference) (news : Event.News) (time : Timestamp) :
    Except Failure Outcome × Office :=
  match office.programme.update row time with
  | .error failure => (.error (unwritten row.id failure), office)
  | .ok programme =>
    { office with programme }.announce ⟨time, row.id, news⟩
      (.changed (office.card (Programme.stamped row time)))

/-- Drafts a withdrawal, which is the business of the host and of coordinators. -/
def draftWithdrawal (office : Office) (principal : Principal) (id : String) :
    Except Failure Draft := do
  let row ← office.load id
  Failure.require (principal.oversees row) (.notYourConference id)
  return .withdrawal principal.id id

/-- Withdraws a conference. -/
def commitWithdrawal (office : Office) (actorId : Option String) (id : String)
    (now : Timestamp) : Except Failure Outcome × Office :=
  match office.programme.withdraw id now with
  | .error failure => (.error (unwritten id failure), office)
  | .ok programme => { office with programme }.announce ⟨now, id, .deleted actorId⟩ .done

/-- Shows a conference. -/
def get (office : Office) (principal : Principal) (id : String) : Except Failure Card :=
  (office.loadVisible principal id).map office.card

/-- Shows a page of the conferences that fit a query. -/
def list (office : Office) (principal : Principal) (query : Query) (now : Timestamp) :
    Except Failure (Page Card) := do
  Failure.ofRefusal (query.page.check office.policy.pageLimit)
  let query ← principal.scope query
  let page ← office.programme.list query now
  return page.map office.card

/-- Shows what happened to a conference, even after it was withdrawn. -/
def timeline (office : Office) (principal : Principal) (id : String) :
    Except Failure (List Entry) :=
  match office.programme.get? id with
  | none => .error (.refused (.conferenceNotFound id))
  | some row => do
    Failure.require (principal.oversees row) (.notYourConference id)
    office.journal.timelineOf id

end Symposium.Office
