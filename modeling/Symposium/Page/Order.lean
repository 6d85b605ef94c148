import Symposium.Text.Order

/-!
# The order of rows

Rows are sorted by keys, which are put in order by rank and among equal ranks by id. Sorting is
stable in both directions. Main statements: keys are totally ordered, sorting permutes the rows, and
sorted rows are in order.
-/

namespace Symposium.Page

/-- What a row is sorted by. -/
structure SortKey where
  rank : Int
  id : String
  deriving DecidableEq, Repr, Inhabited

namespace SortKey

/-- Whether the first key comes strictly before the second. -/
def before (a b : SortKey) : Bool :=
  a.rank < b.rank || (a.rank == b.rank && Text.before a.id b.id)

/-- The key of a row that is sorted by id alone. -/
def ofId (id : String) : SortKey :=
  ⟨0, id⟩

/-- No key is before itself. -/
theorem before_irrefl (a : SortKey) : a.before a = false := by
  simp [before, Text.before_irrefl]

/-- Keys are put in order transitively. -/
theorem before_trans {a b c : SortKey} (hab : a.before b = true) (hbc : b.before c = true) :
    a.before c = true := by
  simp only [before, Bool.or_eq_true, decide_eq_true_eq, Bool.and_eq_true, beq_iff_eq] at *
  rcases hab with hab | ⟨hab, tab⟩ <;> rcases hbc with hbc | ⟨hbc, tbc⟩
  · exact .inl (by omega)
  · exact .inl (by omega)
  · exact .inl (by omega)
  · exact .inr ⟨by omega, Text.before_trans tab tbc⟩

/-- Of two different keys one is before the other, as the id decides between equal weights. -/
theorem before_total {a b : SortKey} (hab : a.before b = false) (hba : b.before a = false) :
    a = b := by
  simp only [before, Bool.or_eq_false_iff, decide_eq_false_iff_not, Bool.and_eq_false_imp,
    beq_iff_eq] at hab hba
  have hrank : a.rank = b.rank := by omega
  have hid : a.id = b.id := Text.before_total (hab.2 hrank) (hba.2 hrank.symm)
  obtain ⟨ra, ia⟩ := a
  obtain ⟨rb, ib⟩ := b
  simp_all

/-- The order of keys goes one way only. -/
theorem not_before_of_before {a b : SortKey} (h : a.before b = true) : b.before a = false := by
  cases hba : b.before a with
  | false => rfl
  | true => simpa [before_irrefl] using before_trans h hba

/-- Whether the first key comes strictly before the second in a direction. -/
def precedes (descending : Bool) (a b : SortKey) : Bool :=
  if descending then b.before a else a.before b

/-- In neither direction a key precedes itself. -/
theorem precedes_irrefl (descending : Bool) (a : SortKey) : precedes descending a a = false := by
  cases descending <;> exact before_irrefl a

/-- Either direction is transitive. -/
theorem precedes_trans {descending : Bool} {a b c : SortKey}
    (hab : precedes descending a b = true) (hbc : precedes descending b c = true) :
    precedes descending a c = true := by
  cases descending with
  | false => exact before_trans hab hbc
  | true => exact before_trans hbc hab

/-- Either direction tells different keys apart. -/
theorem precedes_total {descending : Bool} {a b : SortKey}
    (hab : precedes descending a b = false) (hba : precedes descending b a = false) : a = b := by
  cases descending with
  | false => exact before_total hab hba
  | true => exact (before_total hab hba).symm

/-- Turning the direction turns the order around. -/
theorem precedes_not (descending : Bool) (a b : SortKey) :
    precedes (!descending) a b = precedes descending b a := by
  cases descending <;> rfl

end SortKey

variable {α : Type}

/-- Puts a row in front of the first one that it does not have to follow. -/
def insertRow (key : α → SortKey) (descending : Bool) (row : α) : List α → List α
  | [] => [row]
  | other :: rows =>
    if SortKey.precedes descending (key other) (key row) then
      other :: insertRow key descending row rows
    else row :: other :: rows

/-- Rows sorted by their keys; those with equal keys stay in the order they were in. -/
def sortRows (key : α → SortKey) (descending : Bool) : List α → List α
  | [] => []
  | row :: rows => insertRow key descending row (sortRows key descending rows)

/-- Inserting a row adds it and nothing else. -/
theorem insertRow_perm (key : α → SortKey) (descending : Bool) (row : α) (rows : List α) :
    (insertRow key descending row rows).Perm (row :: rows) := by
  induction rows with
  | nil => exact .refl _
  | cons other rows ih =>
    rw [insertRow]
    split
    · exact (ih.cons other).trans (.swap row other rows)
    · exact .refl _

/-- Sorting keeps the rows and how often each of them occurs. -/
theorem sortRows_perm (key : α → SortKey) (descending : Bool) (rows : List α) :
    (sortRows key descending rows).Perm rows := by
  induction rows with
  | nil => exact .refl _
  | cons row rows ih => exact (insertRow_perm key descending row _).trans (ih.cons row)

/-- Whether no row has to come after a later one. -/
def Sorted (key : α → SortKey) (descending : Bool) (rows : List α) : Prop :=
  rows.Pairwise fun a b => SortKey.precedes descending (key b) (key a) = false

/-- A row is inserted at its place. -/
theorem sorted_insertRow {key : α → SortKey} {descending : Bool} {row : α} {rows : List α}
    (h : Sorted key descending rows) :
    Sorted key descending (insertRow key descending row rows) := by
  induction rows with
  | nil => simp [insertRow, Sorted]
  | cons other rows ih =>
    have hrows := List.pairwise_cons.1 h
    rw [insertRow]
    split
    · rename_i hlt
      -- the row goes in behind `other`, which so precedes all that is left
      refine List.pairwise_cons.2 ⟨fun r hr => ?_, ih hrows.2⟩
      rcases List.mem_cons.1 ((insertRow_perm ..).mem_iff.1 hr) with rfl | hr
      · cases hback : SortKey.precedes descending (key r) (key other) with
        | false => rfl
        | true =>
          simpa [SortKey.precedes_irrefl] using SortKey.precedes_trans hlt hback
      · exact hrows.1 r hr
    · rename_i hge
      have hge : SortKey.precedes descending (key other) (key row) = false := by simpa using hge
      -- the row goes in before `other`; a row that preceded it would precede `other`, too
      refine List.pairwise_cons.2 ⟨fun r hr => ?_, h⟩
      rcases List.mem_cons.1 hr with rfl | hr
      · exact hge
      · cases hback : SortKey.precedes descending (key r) (key row) with
        | false => rfl
        | true =>
          have hr := hrows.1 r hr
          cases hrow : SortKey.precedes descending (key row) (key other) with
          | false =>
            rw [SortKey.precedes_total hge hrow] at hr
            rw [hr] at hback
            cases hback
          | true =>
            rw [SortKey.precedes_trans hback hrow] at hr
            cases hr

/-- Sorted rows are in order. -/
theorem sorted_sortRows (key : α → SortKey) (descending : Bool) (rows : List α) :
    Sorted key descending (sortRows key descending rows) := by
  induction rows with
  | nil => exact .nil
  | cons row rows ih => exact sorted_insertRow ih

end Symposium.Page
