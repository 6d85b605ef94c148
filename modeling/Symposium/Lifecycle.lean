import Symposium.Edit
import Symposium.Failure

/-!
# The lifecycle of a conference

A conference is decided about once, while it is pending, and approved only before it starts. It can
be edited until it ends unless it was rejected; its window moves only while it is pending, and only
into the future. Main statements: the only decisions that pass are approvals and rejections of
pending conferences.
-/

namespace Symposium

/-- Refuses a window that starts before now, and one that does not end after it starts. -/
def Window.checkFuture (window : Window) (now : Timestamp) : Except Failure Unit := do
  let started ← window.startsAt.isBefore now
  Failure.require (!started) (.timeAlreadyPassed window.startsAt)
  let ordered ← window.startsAt.isBefore window.endsAt
  Failure.require ordered (.endTimeBeforeStart window)

namespace Status

/-- Whether a conference of the one status may be given the other. -/
def mayBecome : Status → Status → Bool
  | pending, approved => true
  | pending, rejected => true
  | _, _ => false

/-- A decision is only made about what is pending, and it is one way or the other. -/
theorem mayBecome_iff {a b : Status} :
    a.mayBecome b = true ↔ a = .pending ∧ b ≠ .pending := by
  cases a <;> cases b <;> decide

end Status

namespace Conference

/--
Refuses a decision about a conference that is not pending, and an approval after its start.
Whether the window is free is not looked at.
-/
def checkDecision (c : Conference) (target : Status) (now : Timestamp) : Except Failure Unit := do
  Failure.require (c.status.mayBecome target) (.invalidStatusTransition c.status target)
  if target = .approved then
    let started ← c.window.startsAt.isBefore now
    Failure.require (!started) (.updatePastConferenceStatus c.window.startsAt)

/-- Refuses an edit of a conference that is over or rejected, or a move that must not be. -/
def checkEdit (c : Conference) (edit : Edit) (now : Timestamp) : Except Failure Unit := do
  let ahead ← now.isBefore c.window.endsAt
  Failure.require ahead .updatePastConference
  Failure.require (c.status != .rejected) .updateRejectedConference
  if edit.movesWindow then
    Failure.require (c.status != .approved) .updateApprovedTimeWindow
    (edit.applyTo c).window.checkFuture now

end Conference

end Symposium
