import Symposium.Failure
import Symposium.Query

/-!
# Visibility

Approved conferences are public. Any other one is seen by its host, by coordinators and by the
system, and a listing of others is narrowed to what the principal hosts. Main statement: who is not
restricted sees every conference.
-/

namespace Symposium.Principal

/-- Whether the principal may see a conference. -/
def sees (principal : Principal) (c : Conference) : Bool :=
  c.status == .approved || !principal.isRestricted || principal.isUser c.hostId

/-- Whether the principal may see who takes part in a conference and what happened to it. -/
def oversees (principal : Principal) (c : Conference) : Bool :=
  !principal.isRestricted || principal.isUser c.hostId

/-- Refuses to show a conference that the principal may not see. -/
def checkView (principal : Principal) (c : Conference) : Except Failure Unit :=
  Failure.require (principal.sees c) (.notYourConference c.id)

/--
The query, narrowed to what the principal hosts if it is not about approved conferences. Asking for
somebody else's is refused rather than narrowed.
-/
def scope (principal : Principal) (query : Query) : Except Failure Query :=
  if query.status = .approved || !principal.isRestricted then .ok query
  else
    match query.hostId with
    | none => .ok { query with hostId := principal.id }
    | some hostId =>
      if principal.isUser hostId then .ok query else .error (.refused (.notYourProposals hostId))

/-- Whoever oversees a conference sees it. -/
theorem sees_of_oversees {principal : Principal} {c : Conference}
    (h : principal.oversees c = true) : principal.sees c = true := by
  simp only [oversees, Bool.or_eq_true] at h
  simp only [sees, Bool.or_eq_true]
  rcases h with h | h
  · exact .inl (.inr h)
  · exact .inr h

/-- Everybody but plain users sees everything. -/
theorem sees_of_not_isRestricted {principal : Principal} (h : principal.isRestricted = false)
    (c : Conference) : principal.sees c = true := by
  simp [sees, h]

/-- The check is passed by those who see the conference. -/
theorem checkView_eq_ok_iff {principal : Principal} {c : Conference} :
    principal.checkView c = .ok () ↔ principal.sees c = true :=
  Failure.require_eq_ok_iff

end Symposium.Principal
