import Symposium.Json.Misfit
import Symposium.Logging
import Symposium.Refusal.Report
import Symposium.Timeline

/-!
# Failures

All that can go wrong with a call: it is refused, a value in it is not valid or of no use, the store
does not take a row, timestamps with and without an offset meet, a clock is moved too far, a value
is too deep to be shown, or somebody who was told of the change fails.
-/

namespace Symposium

/-- Why a store does not take a row or does not find one. -/
inductive Violation where
  | notFound (id : String)
  /-- The row overlaps these conferences. -/
  | overlap (conflicts : List Conference)
  /-- No seat is left. -/
  | full (conferenceId : String)
  | registeredTwice (conferenceId : String)
  | feedbackTwice (conferenceId : String)
  deriving DecidableEq, Repr, Inhabited

/-- Why a call was not carried out, or not to its end. -/
inductive Failure where
  | refused (refusal : Refusal)
  /-- A value that should be a record of this kind has these faults. -/
  | invalid (kind : String) (findings : List Check.Finding)
  | violated (violation : Violation)
  /-- A timestamp with an offset and one without cannot be put in order. -/
  | incomparable
  /-- A handler of an event failed. -/
  | handlerFailed
  /-- A value names no status. -/
  | unknownStatus (value : Json)
  /-- A word is refused as the name of a level of a log. -/
  | badLevel (error : Logging.LevelError)
  /-- A moment is not written to a log. -/
  | badMoment (error : Logging.MomentError)
  /-- The clock is moved too far. -/
  | unreachable (cause : Timestamp.Unreachable)
  /-- An operation does not take a value. -/
  | misfit (cause : Misfit)
  /-- A report is not made as it was asked for. -/
  | misused (cause : Refusal.Report.Misuse)
  /-- The values of a payload stand too deep in each other to be shown. -/
  | tooDeep

namespace Violation

/-- The name of a violation. -/
def name : Violation → String
  | notFound _ => "RecordNotFound"
  | overlap _ => "OverlapViolation"
  | full _ => "CapacityViolation"
  | registeredTwice _ => "DuplicateRegistration"
  | feedbackTwice _ => "DuplicateFeedback"

/-- What a violation says. -/
def message : Violation → String
  | notFound id => id
  | overlap conflicts =>
    "time window overlaps " ++ toString conflicts.length ++ " conference(s)"
  | full id => id
  | registeredTwice id => id
  | feedbackTwice id => id

/-- Everything about a violation. -/
def toJson (violation : Violation) : Json :=
  .obj <| [("error", .str violation.name), ("message", .str violation.message)] ++
    match violation with
    | overlap conflicts => [("conflicts", .arr (conflicts.map fun c => .str c.id))]
    | _ => []

end Violation

namespace Failure

/-- A failure of which there is a name and a message. -/
def named (name message : String) : Json :=
  .obj [("error", .str name), ("message", .str message)]

/-- Everything about a failure. -/
def toJson (failure : Failure) (freshTrace : String) : Json :=
  match failure with
  | refused refusal => (refusal.report freshTrace).toJson
  | invalid kind findings =>
    .obj [("error", .str "ValidationError"), ("model", .str kind),
      ("detail", .arr (findings.map Check.Finding.toJson))]
  | violated violation => violation.toJson
  | incomparable =>
    named "TypeError" "can't compare offset-naive and offset-aware datetimes"
  | handlerFailed => named "RuntimeError" "handler failed"
  | unknownStatus value =>
    named "ValueError" (value.display ++ " is not a valid ConferenceStatus")
  | badLevel error => named error.name error.message
  | badMoment error => named error.name error.message
  | unreachable cause => named "OverflowError" cause.message
  | misfit cause => named cause.name cause.message
  | misused cause => named "TypeError" cause.message
  | tooDeep => named "ValueError" "Maximum serialization depth exceeded"

/-- A record of a kind, or what is wrong with the value that should be one. -/
def ofRecord {α : Type} (kind : String) (read : Json → Check.Checked α) (json : Json) :
    Except Failure α :=
  (Check.record kind read json).toExcept.mapError (invalid kind)

/-- The outcome of a comparison. -/
def ofComparison {α : Type} : Option α → Except Failure α
  | some a => .ok a
  | none => .error incomparable

/-- Goes on if the condition holds, and refuses otherwise. -/
def require (condition : Bool) (refusal : Refusal) : Except Failure Unit :=
  if condition then .ok () else .error (refused refusal)

/-- A result whose failure is a refusal. -/
def ofRefusal {α : Type} (result : Except Refusal α) : Except Failure α :=
  result.mapError refused

/-- Whether both conditions hold; the second is looked at only if the first does. -/
def both (a b : Except Failure Bool) : Except Failure Bool :=
  match a with
  | .ok true => b
  | a => a

/-- The rows that pass a test, which itself may fail. -/
def keep {α : Type} (test : α → Except Failure Bool) : List α → Except Failure (List α)
  | [] => .ok []
  | a :: rest => do
    let passes ← test a
    let kept ← keep test rest
    return if passes then a :: kept else kept

/-- A requirement is passed exactly if its condition holds. -/
theorem require_eq_ok_iff {condition : Bool} {refusal : Refusal} :
    require condition refusal = .ok () ↔ condition = true := by
  cases condition <;> simp [require]

/-- Tests that both come to a result are combined as Booleans are. -/
theorem both_ok (a b : Bool) : both (.ok a) (.ok b) = .ok (a && b) := by
  cases a <;> rfl

/-- A test that comes to a result for every row keeps the rows that pass it. -/
theorem keep_of_total {α : Type} {test : α → Except Failure Bool} {passes : α → Bool}
    {rows : List α} (h : ∀ row ∈ rows, test row = .ok (passes row)) :
    keep test rows = .ok (rows.filter passes) := by
  induction rows with
  | nil => rfl
  | cons row rows ih =>
    have hrow := h row (by simp)
    have ih := ih fun r hr => h r (by simp [hr])
    rw [keep, hrow, ih]
    cases hp : passes row <;> simp [hp, bind, Except.bind, pure, Except.pure]

end Failure

/-- Whether the first timestamp is strictly before the second. -/
def Timestamp.isBefore (a b : Timestamp) : Except Failure Bool :=
  Failure.ofComparison (a.before? b)

/-- With offsets, timestamps are compared as instants and the comparison never fails. -/
theorem Timestamp.isBefore_of_aware {a b : Timestamp} (ha : a.isAware) (hb : b.isAware) :
    a.isBefore b = .ok (decide (a.instant < b.instant)) := by
  rw [isBefore, before?_of_aware ha hb]
  rfl

/-- Whether two windows overlap. -/
def Window.overlaps (a b : Window) : Except Failure Bool :=
  Failure.ofComparison (a.overlaps? b)

/-- A conference, read from a record; it ends after it starts. -/
def Conference.ofJson (now : Timestamp) (json : Json) : Except Failure Conference := do
  let c ← Failure.ofRecord kind (read now) json
  if ← c.window.startsAt.isBefore c.window.endsAt then
    return c
  else
    .error (.invalid kind [⟨[], .inconsistent "ends_at must be after starts_at", json⟩])

/-- An entry as a record, if it can be shown. -/
def Entry.shown (entry : Entry) : Except Failure Json :=
  if entry.isShowable then .ok entry.toJson else .error .tooDeep

/-- Entries as records, if all of them can be shown. -/
def Entry.allShown (entries : List Entry) : Except Failure Json :=
  (entries.mapM shown).map .arr

/-- The status that a value names. -/
def Status.ofJson (json : Json) : Except Failure Status :=
  match json.text?.bind fun word => words.lookup word with
  | some status => .ok status
  | none => .error (.unknownStatus json)

end Symposium
