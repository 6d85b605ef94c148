import Symposium.Edit
import Symposium.Office

/-!
# Operations and changes

An operation goes through three stages. It is drafted: what it is about is loaded and the right to
it is checked. The draft is reviewed: the rules that depend on the time and on other rows are
checked. The change that comes out of it is committed: one row is written and the change is
announced. Other operations may come in between, so each stage works on what the one before it saw.
-/

namespace Symposium

/-- What a principal can ask the office to do. -/
inductive Operation where
  | propose (proposal : Proposal)
  | edit (id : String) (edit : Edit)
  | decide (id : String) (status : Status)
  | withdraw (id : String)
  | register (id : String)
  /-- A comment that is no text is refused when the row is made. -/
  | giveFeedback (id : String) (comment : Option String)
  | removeFeedback (id : String)
  deriving DecidableEq, Repr, Inhabited

/-- An operation with what it is about. -/
inductive Draft where
  | proposal (hostId : String) (proposal : Proposal)
  | edit (row : Conference) (edit : Edit)
  | decision (actorId : Option String) (row : Conference) (status : Status)
  | withdrawal (actorId : Option String) (id : String)
  /-- A seat; the conference was loaded if the user has to be admitted. -/
  | seat (userId : Option String) (id : String) (row : Option Conference)
  | feedback (userId : String) (row : Conference) (comment : Option String)
  | removal (id : String)
  deriving DecidableEq, Repr, Inhabited

/-- A change that passed its review and is to be committed. -/
inductive Change where
  | propose (hostId : String) (proposal : Proposal) (time : Timestamp)
  /-- The row with its new values. -/
  | edit (row : Conference) (changedFields : List String) (time : Timestamp)
  /-- The row with its new status. -/
  | decide (actorId : Option String) (previous : Status) (row : Conference) (time : Timestamp)
  | withdraw (actorId : Option String) (id : String)
  | register (userId : Option String) (id : String)
  | giveFeedback (userId id : String) (comment : Option String) (time : Timestamp)
  | removeFeedback (id : String)
  deriving DecidableEq, Repr, Inhabited

/-- What an operation that was carried out answers. -/
inductive Outcome where
  | created (id : String)
  | changed (card : Card)
  | done
  deriving DecidableEq, Repr, Inhabited

/-- Refuses a principal who is restricted. -/
def Principal.checkUnrestricted (principal : Principal) : Except Failure Unit :=
  match principal.role with
  | none => .ok ()
  | some role => Failure.require role.coordinates (.forbiddenRole role)

/-- The check is passed by everybody but plain users. -/
theorem Principal.checkUnrestricted_eq_ok_iff {principal : Principal} :
    principal.checkUnrestricted = .ok () ↔ principal.isRestricted = false := by
  obtain ⟨id, role⟩ := principal
  cases role with
  | none => simp [checkUnrestricted, isRestricted, isSystem]
  | some role =>
    cases role <;>
      simp [checkUnrestricted, isRestricted, isSystem, isCoordinator, Role.coordinates,
        Failure.require]

end Symposium
