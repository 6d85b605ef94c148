import Mathlib.Tactic.Common
import Symposium.Failure

/-!
# What readers accept

Inversion of the readers of records: each lemma says exactly when a reader finds nothing wrong, and
what it then gives. A record of several members is fine exactly if each member is, whatever is
reported when some are not.
-/

namespace Symposium

namespace Check

variable {α β : Type}

namespace Checked

/-- A reader that is applied to another one is fine exactly if both are. -/
lemma seq_eq_fine_iff {f : Checked (α → β)} {x : Checked α} {b : β} :
    f <*> x = .fine b ↔ ∃ g a, f = .fine g ∧ x = .fine a ∧ g a = b := by
  show f.apply (fun _ => x) = .fine b ↔ _
  cases f with
  | fine g =>
    cases x with
    | fine a => simp [apply, map]
    | faulty findings => simp [apply, map]
  | faulty findings =>
    cases x with
    | fine a => simp [apply]
    | faulty more => simp [apply]

/-- A further check is fine exactly if it is so for what was read. -/
lemma andThen_eq_fine_iff {x : Checked α} {next : α → Checked β} {b : β} :
    x.andThen next = .fine b ↔ ∃ a, x = .fine a ∧ next a = .fine b := by
  cases x with
  | fine a => simp [andThen]
  | faulty findings => simp [andThen]

/-- Where something was read does not matter to what was read. -/
lemma under_eq_fine_iff {key : Key} {x : Checked α} {a : α} :
    x.under key = .fine a ↔ x = .fine a := by
  cases x with
  | fine b => rfl
  | faulty findings => simp [under]

end Checked

variable {json : Json} {name : String} {read : Json → Checked α} {a : α}

/-- A required member is fine if it is there and its reader is. -/
lemma required_eq_fine_iff :
    required json name read = .fine a ↔ ∃ value, json.get? name = some value ∧
      read value = .fine a := by
  rw [required]
  cases json.get? name with
  | none => simp
  | some value => simp [Checked.under_eq_fine_iff]

/-- An optional member is fine if it is not there, or it is and its reader is. -/
lemma optional_eq_fine_iff {absent : α} :
    optional json name absent read = .fine a ↔ json.get? name = none ∧ absent = a ∨
      ∃ value, json.get? name = some value ∧ read value = .fine a := by
  rw [optional]
  cases json.get? name with
  | none => simp
  | some value => simp [Checked.under_eq_fine_iff]

/-- A required member that is there is read as its value. -/
lemma required_of_get? (json : Json) (name : String) {value : Json}
    (hmember : json.get? name = some value) (h : read value = .fine a) :
    required json name read = .fine a :=
  required_eq_fine_iff.2 ⟨value, hmember, h⟩

/-- A member that is there is not replaced by what would count if it were absent. -/
lemma optional_of_get? (json : Json) (name : String) (absent : α) {value : Json}
    (hmember : json.get? name = some value) (h : read value = .fine a) :
    optional json name absent read = .fine a :=
  optional_eq_fine_iff.2 (.inr ⟨value, hmember, h⟩)

/-- What is given for a member that was sent was read. -/
lemma exists_of_sent {sent? : Option α} (h : sent json name read = .fine sent?) :
    ∀ a ∈ sent?, ∃ value, read value = .fine a := by
  intro a ha
  rcases optional_eq_fine_iff.1 h with ⟨_, rfl⟩ | ⟨value, _, hread⟩
  · cases ha
  · obtain ⟨b, hb, rfl⟩ := Checked.map_eq_fine_iff.1 hread
    cases ha
    exact ⟨value, hb⟩

/-- What is given instead of null was read. -/
lemma exists_of_nullable {a? : Option α} (h : nullable read json = .fine a?) :
    ∀ a ∈ a?, ∃ value, read value = .fine a := by
  intro a ha
  rw [nullable.eq_def] at h
  split at h
  · cases h
    cases ha
  · obtain ⟨b, hb, rfl⟩ := Checked.map_eq_fine_iff.1 h
    cases ha
    exact ⟨_, hb⟩

/-- A text between bounds is one whose length lies between them. -/
lemma boundedText_eq_fine_iff {least most : Nat} {s : String} :
    boundedText least most json = .fine s ↔
      json = .str s ∧ least ≤ s.length ∧ s.length ≤ most := by
  rw [boundedText, Checked.andThen_eq_fine_iff]
  constructor
  · rintro ⟨t, htext, h⟩
    rw [text.eq_def] at htext
    split at htext
    case h_2 => cases htext
    case h_1 =>
      cases htext
      split at h
      case isTrue => cases h
      case isFalse hshort =>
        split at h
        case isTrue => cases h
        case isFalse hlong =>
          cases h
          exact ⟨rfl, Nat.le_of_not_lt hshort, Nat.le_of_not_lt hlong⟩
  · rintro ⟨rfl, hleast, hmost⟩
    refine ⟨s, rfl, ?_⟩
    rw [if_neg (Nat.not_lt.2 hleast), if_neg (Nat.not_lt.2 hmost)]

/-- A positive number is a number above zero. -/
lemma positive_eq_fine_iff {n : Int} :
    positive json = .fine n ↔ integer json = .fine n ∧ 0 < n := by
  rw [positive, Checked.andThen_eq_fine_iff]
  constructor
  · rintro ⟨m, hm, h⟩
    split at h
    case isTrue hpos =>
      cases h
      exact ⟨hm, hpos⟩
    case isFalse => cases h
  · rintro ⟨hn, hpos⟩
    exact ⟨n, hn, if_pos hpos⟩

/-- A result is fine exactly if it is no fault. -/
lemma ofExcept_eq_fine_iff {result : Except Fault α} :
    ofExcept json result = .fine a ↔ result = .ok a := by
  cases result with
  | ok b => simp [ofExcept]
  | error fault => simp [ofExcept, Checked.refuse]

end Check

/-- A value is read as a record exactly if it is an object whose members are fine. -/
lemma Failure.ofRecord_eq_ok_iff {α : Type} {kind : String} {json : Json}
    {read : Json → Check.Checked α} {a : α} :
    ofRecord kind read json = .ok a ↔
      (∃ members, json = .obj members) ∧ read json = .fine a := by
  have hexcept {x : Check.Checked α} :
      x.toExcept.mapError (invalid kind) = .ok a ↔ x = .fine a := by
    cases x with
    | fine b =>
      simp [Check.Checked.toExcept, Except.mapError]
    | faulty findings =>
      simp [Check.Checked.toExcept, Except.mapError]
  rw [ofRecord, hexcept]
  cases json with
  | obj members => simp [Check.record]
  | _ => simp [Check.record, Check.Checked.refuse]

end Symposium
