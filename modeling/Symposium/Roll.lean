import Symposium.Programme
import Symposium.Registration

/-!
# The roll

The roll keeps every seat that was taken. It takes a registration only for a live conference with a
seat left, once for each user, and only if the user has no seat at an overlapping live conference.
-/

namespace Symposium

/-- All registrations, in the order in which they were made. -/
abbrev Roll := Table Registration.key

namespace Roll

/-- Whether a user holds a seat at a conference. -/
def has (roll : Roll) (conferenceId userId : String) : Bool :=
  roll.contains (conferenceId, userId)

/-- The registrations for a conference. -/
def seatsOf (roll : Roll) (conferenceId : String) : List Registration :=
  roll.rows.filter (·.conferenceId == conferenceId)

/-- How many seats are taken at a conference. -/
def count (roll : Roll) (conferenceId : String) : Nat :=
  (roll.seatsOf conferenceId).length

/-- The live conferences at which a user holds a seat. -/
def conferencesOf (roll : Roll) (programme : Programme) (userId : String) : List Conference :=
  (roll.rows.filter (·.userId == userId)).filterMap fun r => programme.find? r.conferenceId

/-- The live conferences at which a user holds a seat and that overlap a window. -/
def conflicting (roll : Roll) (programme : Programme) (userId : String) (window : Window) :
    Except Failure (List Conference) :=
  Programme.overlappingInOrder window (roll.conferencesOf programme userId)

/-- Takes a registration. -/
def add (roll : Roll) (programme : Programme) (r : Registration) : Except Failure Roll :=
  match programme.find? r.conferenceId with
  | none => .error (.violated (.notFound r.conferenceId))
  | some c =>
    if roll.has r.conferenceId r.userId then
      .error (.violated (.registeredTwice r.conferenceId))
    else if c.seats ≤ roll.count r.conferenceId then
      .error (.violated (.full r.conferenceId))
    else do
      let conflicts ← roll.conflicting programme r.userId c.window
      if conflicts.isEmpty then return roll.put r else .error (.violated (.overlap conflicts))

/-- The key of a registration in the list of participants. -/
def userKey (r : Registration) : Page.SortKey :=
  .ofId r.userId

/-- The page of the registrations for a conference, in order of the users. -/
def pageOf (roll : Roll) (conferenceId : String) (request : Page.Request) :
    Except Failure (Page Registration) := do
  let place ← Failure.ofRefusal (request.place (some ∘ Page.SortKey.ofId))
  return Page.cut userKey false place request.limit (roll.seatsOf conferenceId)

/-- The page of the live conferences at which a user holds a seat, in order of their starts. -/
def conferencePage (roll : Roll) (programme : Programme) (userId : String) (includePast : Bool)
    (request : Page.Request) (now : Timestamp) : Except Failure (Page Conference) := do
  let rows ← Failure.keep (fun c => c.window.isListed includePast now)
    (roll.conferencesOf programme userId)
  programme.pageByStart request false rows

end Roll

end Symposium
