import Symposium.Office.Change

/-!
# Seating

A user is admitted to a conference that they can see and do not host, before it ends, once, as long
as a seat is left and no other conference of theirs overlaps it. The first rule that is broken is
reported. The roll has the last word.
-/

namespace Symposium.Office

/--
The conference to which a principal is to be admitted, which they can see and do not host; nothing
if nobody has to be admitted.
-/
def approach (office : Office) (principal : Principal) (id : String) :
    Except Failure (Option Conference) :=
  if office.policy.checksAdmission then do
    let row ← office.loadVisible principal id
    Failure.require (!principal.isUser row.hostId) .hostCannotRegister
    return some row
  else .ok none

/-- Drafts a seat. -/
def draftSeat (office : Office) (principal : Principal) (id : String) : Except Failure Draft :=
  (office.approach principal id).map (.seat principal.id id)

/-- The conferences at which a user has a seat and that overlap a window. -/
def clashesFor (office : Office) (userId : Option String) (window : Window) :
    Except Failure (List Conference) :=
  match userId with
  | none => .ok []
  | some userId => office.roll.conflicting office.programme userId window

/-- Admits a user to a conference that is not over and where they do not have a seat yet. -/
def admission (office : Office) (userId : Option String) (row : Conference) (now : Timestamp) :
    Except Failure Unit := do
  let ahead ← now.isBefore row.window.endsAt
  Failure.require ahead .conferenceEnded
  Failure.require (!userId.any (office.roll.has row.id)) .alreadyRegistered
  let taken := office.roll.count row.id
  Failure.require (taken < row.seats) (.conferenceFull (some (row.seats, taken)))
  let conflicts ← office.clashesFor userId row.window
  Failure.require conflicts.isEmpty (.conflictingRegistrations (conflicts.map Clash.ofConference))

/-- Admits a user to a conference, if they have to be admitted. -/
def enter (office : Office) (userId : Option String) (row : Option Conference)
    (now : Timestamp) : Except Failure Unit :=
  match row with
  | none => .ok ()
  | some row => office.admission userId row now

/-- Reviews a seat. -/
def reviewSeat (office : Office) (userId : Option String) (id : String)
    (row : Option Conference) (now : Timestamp) : Except Failure Change :=
  (office.enter userId row now).map fun _ => .register userId id

/-- How it is reported that the roll did not take a registration. -/
def unseated (id : String) : Failure → Failure
  | .violated (.notFound _) => .refused (.conferenceNotFound id)
  | .violated (.registeredTwice _) => .refused .alreadyRegistered
  | .violated (.full _) => .refused (.conferenceFull none)
  | .violated (.overlap conflicts) =>
    .refused (.conflictingRegistrations (conflicts.map Clash.ofConference))
  | failure => failure

/-- What is wrong with a registration of nobody. -/
def nobodysRegistration : Failure :=
  .invalid Registration.kind [⟨[.member "user_id"], .notText, .null⟩]

/-- Takes the seat. -/
def commitSeat (office : Office) (userId : Option String) (id : String) (now : Timestamp) :
    Except Failure Outcome × Office :=
  match userId with
  | none => (.error nobodysRegistration, office)
  | some userId =>
    match office.roll.add office.programme ⟨id, userId, now⟩ with
    | .error failure => (.error (unseated id failure), office)
    | .ok roll => { office with roll }.announce ⟨now, id, .registered userId⟩ .done

/-- Shows a page of those who take part in a conference, to its host and to coordinators. -/
def participants (office : Office) (principal : Principal) (id : String)
    (request : Page.Request) : Except Failure (Page Participant) := do
  Failure.ofRefusal (request.check office.policy.pageLimit)
  let row ← office.loadVisible principal id
  Failure.require (principal.oversees row) (.notYourConference id)
  let page ← office.roll.pageOf id request
  return page.map Participant.ofRegistration

/-- Shows a page of the conferences at which a user has a seat, to them and to coordinators. -/
def conferencesOf (office : Office) (principal : Principal) (userId : String)
    (includePast : Bool) (request : Page.Request) (now : Timestamp) :
    Except Failure (Page Card) := do
  Failure.ofRefusal (request.check office.policy.pageLimit)
  Failure.require (!principal.isRestricted || principal.isUser userId)
    (.notYourRegistrations userId)
  let page ← office.roll.conferencePage office.programme userId includePast request now
  return page.map office.card

end Symposium.Office
