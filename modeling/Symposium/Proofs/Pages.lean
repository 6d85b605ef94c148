import Mathlib.Tactic.Common
import Symposium.Page.Cut

/-!
# Pages of a listing

Rows with different keys have one order, so sorting the rows beyond a cursor gives the part of the
listing that lies beyond it. Main statements: what is cut out of a listing at its start, after one
of its rows and before one of its rows.
-/

namespace Symposium.Page

variable {α : Type} {key : α → SortKey} {descending : Bool} {rows listed front back : List α}
  {row : α} {limit : Nat}

namespace SortKey

/-- Keys made of ids are in the order of the ids. -/
lemma before_ofId {a b : String} : before (ofId a) (ofId b) = Text.before a b := by
  simp [before, ofId]

/-- A direction goes one way only. -/
lemma not_precedes_of_precedes {a b : SortKey} (h : precedes descending a b = true) :
    precedes descending b a = false := by
  cases descending with
  | false => exact not_before_of_before h
  | true => exact not_before_of_before h

end SortKey

/-- Whether every row comes strictly before all later ones. -/
def Ordered (key : α → SortKey) (descending : Bool) (rows : List α) : Prop :=
  rows.Pairwise fun a b => SortKey.precedes descending (key a) (key b) = true

/-- Rows that are in order stay as they are when they are sorted. -/
lemma sortRows_of_sorted (h : Sorted key descending rows) :
    sortRows key descending rows = rows := by
  induction rows with
  | nil => rfl
  | cons row rows ih =>
    obtain ⟨hrow, hrows⟩ := List.pairwise_cons.1 h
    rw [sortRows, ih hrows]
    cases rows with
    | nil => rfl
    | cons other rows =>
      rw [insertRow, hrow other List.mem_cons_self]
      rfl

/-- Rows with different keys are strictly in order once they are sorted. -/
lemma ordered_sortRows (hkeys : (rows.map key).Nodup) :
    Ordered key descending (sortRows key descending rows) := by
  have hperm := (sortRows_perm key descending rows).map key
  have hdistinct := List.pairwise_map.1 (hperm.nodup_iff.2 hkeys)
  refine ((sorted_sortRows key descending rows).and hdistinct).imp ?_
  rintro a b ⟨hback, hne⟩
  cases hfirst : SortKey.precedes descending (key a) (key b) with
  | true => rfl
  | false => exact absurd (SortKey.precedes_total hfirst hback) hne

namespace Ordered

/-- Rows that are strictly in order have different keys. -/
lemma nodup_keys (h : Ordered key descending rows) : (rows.map key).Nodup := by
  refine List.pairwise_map.2 (h.imp fun {a b} hab heq => ?_)
  rw [heq, SortKey.precedes_irrefl] at hab
  cases hab

/-- There is one order of rows that are strictly in order. -/
lemma sortRows_eq (h : Ordered key descending listed) (hperm : listed.Perm rows) :
    sortRows key descending rows = listed := by
  -- both lists are strictly in order, and such an order is antisymmetric
  have hkeys : (rows.map key).Nodup := (hperm.map key).nodup_iff.1 h.nodup_keys
  have hsame := (sortRows_perm key descending rows).trans hperm.symm
  refine hsame.eq_of_pairwise ?_ (ordered_sortRows hkeys) h
  intro a b _ _ hab hba
  rw [SortKey.not_precedes_of_precedes hab] at hba
  cases hba

/-- The other direction is the reverse order. -/
lemma reverse (h : Ordered key descending rows) : Ordered key (!descending) rows.reverse := by
  refine List.pairwise_reverse.2 (h.imp fun {a b} hab => ?_)
  rw [SortKey.precedes_not]
  exact hab

/-- The rows beyond a row of the listing are those that follow it. -/
lemma filter_after (h : Ordered key descending (front ++ row :: back)) :
    (front ++ row :: back).filter (isBeyond key descending (key row)) = back := by
  obtain ⟨_, hrest, hcross⟩ := List.pairwise_append.1 h
  obtain ⟨hback, _⟩ := List.pairwise_cons.1 hrest
  have hfront : front.filter (isBeyond key descending (key row)) = [] := by
    rw [List.filter_eq_nil_iff]
    intro a ha hbeyond
    rw [isBeyond, SortKey.not_precedes_of_precedes (hcross a ha row List.mem_cons_self)] at hbeyond
    cases hbeyond
  have hrow : ¬ isBeyond key descending (key row) row = true := by
    rw [isBeyond, SortKey.precedes_irrefl]
    exact Bool.false_ne_true
  rw [List.filter_append, hfront, List.filter_cons_of_neg hrow, List.nil_append,
    List.filter_eq_self]
  exact hback

end Ordered

/-- Sorting what lies beyond a row of the listing gives the part of the listing that follows it. -/
lemma sortRows_beyond (hkeys : (rows.map key).Nodup)
    (hlisted : sortRows key descending rows = front ++ row :: back) :
    sortRows key descending (rows.filter (isBeyond key descending (key row))) = back := by
  have hordered : Ordered key descending (sortRows key descending rows) := ordered_sortRows hkeys
  rw [hlisted] at hordered
  obtain ⟨_, hrest, _⟩ := List.pairwise_append.1 hordered
  apply Ordered.sortRows_eq (List.pairwise_cons.1 hrest).2
  have hperm := (sortRows_perm key descending rows).filter (isBeyond key descending (key row))
  rwa [hlisted, hordered.filter_after] at hperm

/-- The listing in the other direction is the listing from its end. -/
lemma sortRows_not (hkeys : (rows.map key).Nodup) :
    sortRows key (!descending) rows = (sortRows key descending rows).reverse :=
  (ordered_sortRows hkeys).reverse.sortRows_eq
    ((List.reverse_perm _).trans (sortRows_perm key descending rows))

/-- The page of the rows that lie ahead of a reader. -/
def pageAhead (idOf : α → String) (limit : Nat) (rest : List α) : Page α :=
  ofRows idOf (decide (limit < rest.length)) (rest.take limit)

/-- The page of the rows that lie behind a reader, who is given the nearest first. -/
def pageBehind (idOf : α → String) (limit : Nat) (rest : List α) : Page α :=
  ofRows idOf (decide (limit < rest.length)) (rest.take limit).reverse

/-- Without a cursor, the page is what lies ahead of everything. -/
lemma cut_start :
    cut key descending .start limit rows =
      pageAhead (fun r => (key r).id) limit (sortRows key descending rows) := by
  rw [cut, takeRows_of_nonneg (Int.natCast_nonneg limit)]
  rfl

/-- Whatever a cursor was made of, the page after it shows what lies beyond it. -/
lemma cut_after_cursor {cursor : SortKey} :
    cut key descending (.after cursor) limit rows =
      pageAhead (fun r => (key r).id) limit
        (sortRows key descending (rows.filter (isBeyond key descending cursor))) := by
  rw [cut, takeRows_of_nonneg (Int.natCast_nonneg limit)]
  rfl

/-- After one of its rows, a listing goes on with what follows this row. -/
lemma cut_after (hkeys : (rows.map key).Nodup)
    (hlisted : sortRows key descending rows = front ++ row :: back) :
    cut key descending (.after (key row)) limit rows =
      pageAhead (fun r => (key r).id) limit back := by
  rw [cut_after_cursor, sortRows_beyond hkeys hlisted]

/-- Before one of its rows, a listing ends with what precedes this row. -/
lemma cut_before (hkeys : (rows.map key).Nodup)
    (hlisted : sortRows key descending rows = front ++ row :: back) :
    cut key descending (.before (key row)) limit rows =
      pageBehind (fun r => (key r).id) limit front.reverse := by
  -- read from its end, the listing goes on with what precedes the row
  have hreversed : sortRows key (!descending) rows = back.reverse ++ row :: front.reverse := by
    rw [sortRows_not hkeys, hlisted]
    simp
  rw [cut, sortRows_beyond hkeys hreversed, takeRows_of_nonneg (Int.natCast_nonneg limit)]
  rfl

end Symposium.Page
