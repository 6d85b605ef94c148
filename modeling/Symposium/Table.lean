/-!
# Tables

A table holds rows under keys, at most one row under each. A row that is put under a known key takes
the place of the old one, any other row comes last. Main statements: a row that was put is found
under its key, and no other key is affected.
-/

namespace Symposium

/-- Rows in the order in which their keys came, no two of them with the same key. -/
structure Table {α κ : Type} (key : α → κ) where
  rows : List α
  distinct : (rows.map key).Nodup

namespace Table

variable {α κ : Type} {key : α → κ}

/-- The table without rows. -/
def empty : Table key := ⟨[], .nil⟩

instance : Inhabited (Table key) := ⟨empty⟩

/-- Tables with the same rows are the same, whatever the proofs that their keys differ. -/
theorem ext {s t : Table key} (h : s.rows = t.rows) : s = t := by
  obtain ⟨rows, _⟩ := s
  obtain ⟨_, _⟩ := t
  cases h
  rfl

variable [DecidableEq κ]

/-- The row under a key. -/
def get? (k : κ) (table : Table key) : Option α :=
  table.rows.find? (key · = k)

/-- Whether there is a row under a key. -/
def contains (k : κ) (table : Table key) : Bool :=
  (table.get? k).isSome

/-- Rows with one put under its key. -/
def putRow (key : α → κ) (row : α) : List α → List α
  | [] => [row]
  | other :: rows => if key other = key row then row :: rows else other :: putRow key row rows

/-- A row that is put takes the place of its key, or comes last if the key is new. -/
theorem map_putRow (row : α) (rows : List α) :
    (putRow key row rows).map key =
      if key row ∈ rows.map key then rows.map key else rows.map key ++ [key row] := by
  induction rows with
  | nil => simp [putRow]
  | cons other rows ih =>
    by_cases h : key other = key row
    · simp [putRow, h]
    · have h' : ¬ key row = key other := fun e => h e.symm
      simp only [putRow, h, if_false, List.map_cons, ih, List.mem_cons, h', false_or]
      split <;> simp

/-- Putting a row keeps the keys different. -/
theorem nodup_putRow {row : α} {rows : List α} (h : (rows.map key).Nodup) :
    ((putRow key row rows).map key).Nodup := by
  rw [map_putRow]
  split
  · exact h
  · rename_i hnot
    refine List.nodup_append.2 ⟨h, by simp, fun a ha b hb => ?_⟩
    rintro rfl
    rw [List.mem_singleton.1 hb] at ha
    exact hnot ha

/-- The table with a row put under its key. -/
def put (row : α) (table : Table key) : Table key :=
  ⟨putRow key row table.rows, nodup_putRow table.distinct⟩

/-- Among rows of which one was put, a key finds that one or what it found before. -/
theorem find?_putRow (k : κ) (row : α) (rows : List α) :
    (putRow key row rows).find? (key · = k) =
      if key row = k then some row else rows.find? (key · = k) := by
  induction rows with
  | nil => by_cases h : key row = k <;> simp [putRow, h]
  | cons other rows ih =>
    by_cases h : key other = key row
    · by_cases hk : key row = k
      · simp [putRow, h, hk]
      · simp [putRow, h, hk]
    · rw [putRow, if_neg h]
      by_cases hk : key other = k
      · have : key row ≠ k := fun e => h (hk.trans e.symm)
        simp [hk, this]
      · simp [hk, ih]

/-- In a table, a key gets the row that was put under it or what it got before. -/
theorem get?_put (k : κ) (row : α) (table : Table key) :
    (table.put row).get? k = if key row = k then some row else table.get? k :=
  find?_putRow k row table.rows

/-- The row that was put is the one under its key. -/
theorem get?_put_self (row : α) (table : Table key) :
    (table.put row).get? (key row) = some row := by
  simp [get?_put]

/-- Other keys get what they got before. -/
theorem get?_put_of_ne {k : κ} {row : α} (h : key row ≠ k) (table : Table key) :
    (table.put row).get? k = table.get? k := by
  simp [get?_put, h]

/-- A row that is got under a key has that key. -/
theorem key_of_get? {k : κ} {table : Table key} {row : α} (h : table.get? k = some row) :
    key row = k := by
  simpa using List.find?_some h

/-- What is got from a table is one of its rows. -/
theorem mem_of_get? {k : κ} {table : Table key} {row : α} (h : table.get? k = some row) :
    row ∈ table.rows :=
  List.mem_of_find?_eq_some h

/-- Among rows with different keys, every row is found by its own. -/
theorem find?_of_mem {rows : List α} (h : (rows.map key).Nodup) {row : α} (hrow : row ∈ rows) :
    rows.find? (key · = key row) = some row := by
  induction rows with
  | nil => cases hrow
  | cons other rows ih =>
    have hnodup := List.nodup_cons.1 h
    rcases List.mem_cons.1 hrow with rfl | hrow
    · simp
    · have hne : key other ≠ key row := fun e =>
        hnodup.1 (e ▸ List.mem_map_of_mem hrow)
      simp [hne, ih hnodup.2 hrow]

/-- A row is in the table exactly if it is found under its key. -/
theorem mem_rows_iff {table : Table key} {row : α} :
    row ∈ table.rows ↔ table.get? (key row) = some row :=
  ⟨find?_of_mem table.distinct, mem_of_get?⟩

/-- After a row is put, the rows are that one and those with other keys. -/
theorem mem_rows_put {table : Table key} {row other : α} :
    other ∈ (table.put row).rows ↔ other = row ∨ (other ∈ table.rows ∧ key other ≠ key row) := by
  rw [mem_rows_iff, get?_put]
  by_cases h : key row = key other
  · simp only [h, if_true, Option.some.injEq, ne_eq, not_true_eq_false, and_false, or_false]
    exact eq_comm
  · have h' : key other ≠ key row := fun e => h e.symm
    have hne : other ≠ row := by rintro rfl; exact h rfl
    simp [h, h', hne, mem_rows_iff]

end Table

end Symposium
