import Symposium.Proposal
import Symposium.Text.Order

/-!
# Edits

A change of some members of a conference: what was not sent stays as it is. Prerequisites can be
taken away by sending null, nothing else can. Main statements: the names of the sent members are
sorted, an edit changes nothing but what it names, and applying it again changes nothing more.
-/

namespace Symposium

/-- New values for the members of a conference that were sent. -/
structure Edit where
  title : Option String
  description : Option String
  speakerName : Option String
  speakerTitle : Option String
  targetAudience : Option String
  /-- Absent, taken away, or replaced. -/
  prerequisites : Option (Option String)
  startsAt : Option Timestamp
  endsAt : Option Timestamp
  deriving DecidableEq, Repr, Inhabited

namespace Edit

/-- The name of this kind of record. -/
def kind : String := "ConferenceUpdate"

/-- A member that may be absent but not null. -/
def present {α : Type} (name : String) : Option (Option α) → Except Check.Fault (Option α)
  | some none => .error (.inconsistent (name ++ " cannot be null"))
  | some (some a) => .ok (some a)
  | none => .ok none

/-- Reads the members of an edit. -/
def read (json : Json) : Check.Checked Edit :=
  (build <$> Check.sent json "title" (Check.nullable Proposal.readLine)
    <*> Check.sent json "description" (Check.nullable Proposal.readDescription)
    <*> Check.sent json "speaker_name" (Check.nullable Proposal.readLine)
    <*> Check.sent json "speaker_title" (Check.nullable Proposal.readLine)
    <*> Check.sent json "target_audience" (Check.nullable Proposal.readAudience)
    <*> Check.sent json "prerequisites" Proposal.readPrerequisites
    <*> Check.sent json "starts_at" (Check.nullable Check.awareTimestamp)
    <*> Check.sent json "ends_at" (Check.nullable Check.awareTimestamp)).andThen
      (Check.ofExcept json)
where
  /-- The edit that consists of these members, unless one of them must not be null but is. -/
  build (title description speakerName speakerTitle targetAudience : Option (Option String))
      (prerequisites : Option (Option String)) (startsAt endsAt : Option (Option Timestamp)) :
      Except Check.Fault Edit := do
    let title ← present "title" title
    let description ← present "description" description
    let speakerName ← present "speaker_name" speakerName
    let speakerTitle ← present "speaker_title" speakerTitle
    let targetAudience ← present "target_audience" targetAudience
    let startsAt ← present "starts_at" startsAt
    let endsAt ← present "ends_at" endsAt
    return ⟨title, description, speakerName, speakerTitle, targetAudience, prerequisites, startsAt,
      endsAt⟩

/-- An edit as a record; what was not sent is null. -/
def toJson (edit : Edit) : Json :=
  .obj [("title", Json.ofText? edit.title), ("description", Json.ofText? edit.description),
    ("speaker_name", Json.ofText? edit.speakerName),
    ("speaker_title", Json.ofText? edit.speakerTitle),
    ("target_audience", Json.ofText? edit.targetAudience),
    ("prerequisites", Json.ofText? edit.prerequisites.join),
    ("starts_at", Json.ofTimestamp? edit.startsAt), ("ends_at", Json.ofTimestamp? edit.endsAt)]

/-- Every member by name in the order of the names, and whether it was sent. -/
def sentMembers (edit : Edit) : List (String × Bool) :=
  [("description", edit.description.isSome), ("ends_at", edit.endsAt.isSome),
    ("prerequisites", edit.prerequisites.isSome), ("speaker_name", edit.speakerName.isSome),
    ("speaker_title", edit.speakerTitle.isSome), ("starts_at", edit.startsAt.isSome),
    ("target_audience", edit.targetAudience.isSome), ("title", edit.title.isSome)]

/-- The names of the members that were sent, in order. -/
def sentNames (edit : Edit) : List String :=
  (edit.sentMembers.filter (·.2)).map (·.1)

/-- Whether a new start or a new end was sent. -/
def movesWindow (edit : Edit) : Bool :=
  edit.startsAt.isSome || edit.endsAt.isSome

/-- The talk with the new values in place. -/
def applyToTalk (edit : Edit) (talk : Talk) : Talk where
  title := edit.title.getD talk.title
  description := edit.description.getD talk.description
  speakerName := edit.speakerName.getD talk.speakerName
  speakerTitle := edit.speakerTitle.getD talk.speakerTitle
  targetAudience := edit.targetAudience.getD talk.targetAudience
  prerequisites := edit.prerequisites.getD talk.prerequisites

/-- The window with the new values in place. -/
def applyToWindow (edit : Edit) (window : Window) : Window where
  startsAt := edit.startsAt.getD window.startsAt
  endsAt := edit.endsAt.getD window.endsAt

/-- The conference with the new values in place. -/
def applyTo (edit : Edit) (c : Conference) : Conference :=
  { c with talk := edit.applyToTalk c.talk, window := edit.applyToWindow c.window }

/-- The names of the sent members are in order. -/
theorem pairwise_sentNames (edit : Edit) :
    edit.sentNames.Pairwise fun a b => Text.before a b = true := by
  have names : edit.sentMembers.map (·.1) = ["description", "ends_at", "prerequisites",
      "speaker_name", "speaker_title", "starts_at", "target_audience", "title"] := rfl
  have sorted : (edit.sentMembers.map (·.1)).Pairwise fun a b => Text.before a b = true := by
    rw [names]
    decide
  exact sorted.sublist (List.filter_sublist.map _)

/-- A value that was sent stays when it is put in once more. -/
theorem getD_idem {α : Type} (sent : Option α) (a : α) : sent.getD (sent.getD a) = sent.getD a := by
  cases sent <;> rfl

/-- A second application changes nothing. -/
theorem applyTo_applyTo (edit : Edit) (c : Conference) :
    edit.applyTo (edit.applyTo c) = edit.applyTo c := by
  simp [applyTo, applyToTalk, applyToWindow, getD_idem]

/-- An edit that sends neither end leaves the window alone. -/
theorem applyToWindow_of_not_movesWindow {edit : Edit} (h : edit.movesWindow = false)
    (w : Window) : edit.applyToWindow w = w := by
  simp only [movesWindow, Bool.or_eq_false_iff, Option.isSome_eq_false_iff,
    Option.isNone_iff_eq_none] at h
  simp [applyToWindow, h.1, h.2]

end Edit

end Symposium
