import Symposium.Check.Fault

/-!
# Checked values

The members of a record are checked one after the other and all their faults are reported together:
the findings of the first member come before those of the second. Main statement: a value that is
used in another way is fine exactly if it was.
-/

namespace Symposium.Check

/-- A value that passed its checks, or everything that is wrong with it. -/
inductive Checked (α : Type) where
  | fine (value : α)
  | faulty (findings : List Finding)

namespace Checked

variable {α β : Type}

/-- The same findings about a value that is used in another way. -/
def map (f : α → β) : Checked α → Checked β
  | fine a => fine (f a)
  | faulty findings => faulty findings

/-- A checked function at a checked value; the findings of both are kept. -/
def apply : Checked (α → β) → (Unit → Checked α) → Checked β
  | fine f, a => (a ()).map f
  | faulty findings, a =>
    match a () with
    | fine _ => faulty findings
    | faulty more => faulty (findings ++ more)

instance : Functor Checked := ⟨map, fun a => map fun _ => a⟩

instance : Pure Checked := ⟨fine⟩

instance : Seq Checked := ⟨apply⟩

/-- A further check of a value that passed the checks so far. -/
def andThen (checked : Checked α) (next : α → Checked β) : Checked β :=
  match checked with
  | fine a => next a
  | faulty findings => faulty findings

/-- All findings as seen from further out. -/
def under (key : Key) : Checked α → Checked α
  | fine a => fine a
  | faulty findings => faulty (findings.map (Finding.under key))

/-- The one finding about a value itself. -/
def refuse (fault : Fault) (value : Json) : Checked α :=
  faulty [⟨[], fault, value⟩]

/-- The value or the findings. -/
def toExcept : Checked α → Except (List Finding) α
  | fine a => .ok a
  | faulty findings => .error findings

/-- A value that is used in another way is fine exactly if it was. -/
theorem map_eq_fine_iff {f : α → β} {x : Checked α} {b : β} :
    f <$> x = fine b ↔ ∃ a, x = fine a ∧ f a = b := by
  show x.map f = fine b ↔ _
  cases x with
  | fine a => simp [map]
  | faulty findings => simp [map]

end Checked

end Symposium.Check
