import Mathlib.Order.RelClasses
import Symposium.Proofs.Pages
import Symposium.Proofs.Sorting

/-!
# Keys of whatever values

The keys of a loose listing are lists of values, and two of them need not be put in order. If those
of some kind are, then each has a `weight` in a linear order that says how. Main statements: keys
that consist of an integer and a text are put in order like the keys of rows, and rows with keys of
different weights are sorted strictly, in one way only.
-/

namespace Symposium.Page

/-- Keys are totally ordered by rank and id. -/
instance : IsStrictTotalOrder SortKey fun a b => a.before b = true where
  trichotomous a b := by
    intro hab hba
    exact SortKey.before_total (Bool.eq_false_iff.2 hab) (Bool.eq_false_iff.2 hba)
  irrefl a := by
    rw [SortKey.before_irrefl]
    exact Bool.false_ne_true
  trans _ _ _ := SortKey.before_trans

instance : LinearOrder SortKey :=
  linearOrderOfSTO fun a b => a.before b = true

/-- The order of keys as an order relation. -/
lemma SortKey.lt_iff {a b : SortKey} : a < b ↔ a.before b = true :=
  Iff.rfl

namespace Loose

variable {κ : Type} [LinearOrder κ] {weight : List Json → κ} {known : List Json → Prop}
  {byRank descending : Bool} {rows listed : List Row}

/-- Whether the first key comes strictly before the second in a direction, by their weights. -/
def precedes (weight : List Json → κ) (descending : Bool) (a b : List Json) : Bool :=
  if descending then decide (weight b < weight a) else decide (weight a < weight b)

/-- Whether keys of some kind are all put in order, and as their weights are. -/
def Weighs (weight : List Json → κ) (known : List Json → Prop) : Prop :=
  ∀ a b, known a → known b → ∀ less,
    Json.orderedItems? less a b = .ok (precedes weight (!less) a b)

/-- Whether every row comes strictly before all later ones. -/
def Ordered (weight : List Json → κ) (byRank descending : Bool) (rows : List Row) : Prop :=
  rows.Pairwise fun a b => precedes weight descending (a.key byRank) (b.key byRank) = true

/-- Turning the direction turns the order around. -/
lemma precedes_not (a b : List Json) :
    precedes weight (!descending) a b = precedes weight descending b a := by
  cases descending <;> rfl

/-- A direction goes one way only. -/
lemma not_precedes_of_precedes {a b : List Json} (h : precedes weight descending a b = true) :
    precedes weight descending b a = false := by
  cases descending with
  | false => exact decide_eq_false (lt_asymm (of_decide_eq_true h))
  | true => exact decide_eq_false (lt_asymm (of_decide_eq_true h))

namespace Ordered

/-- The other direction is the reverse order. -/
lemma reverse (h : Ordered weight byRank descending rows) :
    Ordered weight byRank (!descending) rows.reverse := by
  refine List.pairwise_reverse.2 (h.imp fun {a b} hab => ?_)
  rw [precedes_not]
  exact hab

/-- There is one order of rows that are strictly in order. -/
lemma eq_of_perm (h : Ordered weight byRank descending rows)
    (h' : Ordered weight byRank descending listed) (hperm : rows.Perm listed) : rows = listed := by
  refine hperm.eq_of_pairwise ?_ h h'
  intro a b _ _ hab hba
  rw [not_precedes_of_precedes hab] at hba
  cases hba

/-- Rows that are strictly in order have different weights. -/
lemma nodup_weights (h : Ordered weight byRank descending rows) :
    (rows.map fun row => weight (row.key byRank)).Nodup := by
  refine List.pairwise_map.2 (h.imp fun {a b} hab heq => ?_)
  have hirrefl := hab
  rw [precedes, heq] at hirrefl
  simp at hirrefl

end Ordered

/-- Rows whose keys have different weights are sorted strictly. -/
lemma exists_ordered (weighs : Weighs weight known) (hknown : ∀ row ∈ rows, known (row.key byRank))
    (hdistinct : (rows.map fun row => weight (row.key byRank)).Nodup) (descending : Bool) :
    ∃ sorted, sortRows (fun a b => Json.orderedItems? true (a.key byRank) (b.key byRank))
        descending rows = .ok sorted ∧ sorted.Perm rows ∧
      Ordered weight byRank descending sorted := by
  have hweighed : WeighedBy (fun a b => Json.orderedItems? true (a.key byRank) (b.key byRank))
      (fun row => weight (row.key byRank)) rows := fun a ha b hb =>
    weighs _ _ (hknown a ha) (hknown b hb) true
  obtain ⟨sorted, hsorted, hperm, hrising⟩ := exists_sortRows hweighed descending
  refine ⟨sorted, hsorted, hperm, ?_⟩
  have hne := List.pairwise_map.1 ((hperm.map _).nodup_iff.2 hdistinct)
  cases descending with
  | false =>
    refine (hrising.and hne).imp fun {a b} hab => ?_
    exact decide_eq_true (lt_of_le_of_ne hab.1 hab.2)
  | true =>
    refine ((List.pairwise_reverse.1 hrising).and hne).imp fun {a b} hab => ?_
    exact decide_eq_true (lt_of_le_of_ne hab.1 hab.2.symm)

/-- The weight of a key that consists of an integer and a text. -/
def plainWeight : List Json → SortKey
  | [.int rank, .str id] => ⟨rank, id⟩
  | _ => default

/-- The sizes of integers are put in order as they are. -/
lemma exists_size?_int : ∃ unit : Nat, 0 < unit ∧ ∀ n, (Json.int n).size? = some (0, n * unit) := by
  have hpos : ∀ exponent, 0 < Nat.pow 2 exponent := fun _ => Nat.pow_pos Nat.two_pos
  exact ⟨_, hpos 1074, fun _ => rfl⟩

/-- Ranks that are integers and ids that are texts are put in order like the keys of rows. -/
lemma weighs_plainWeight : Weighs plainWeight fun key => ∃ rank id, key = [.int rank, .str id] := by
  rintro _ _ ⟨m, s, rfl⟩ ⟨n, t, rfl⟩ less
  -- sizes of integers are multiples of one unit, so they are in the order of the integers
  obtain ⟨unit, hunit, hsize⟩ := exists_size?_int
  have hunit : (0 : Int) < unit := Int.natCast_pos.2 hunit
  have hsame : m * (unit : Int) = n * unit ↔ m = n := Int.mul_eq_mul_right_iff (by omega)
  have hranks : Json.alike (.int m) (.int n) = decide (m = n) := by
    rw [Bool.eq_iff_iff]
    simp [Json.alike, hsize, hsame]
  have hless : ∀ m n : Int, Json.isLess (.int m) (.int n) = decide (m < n) := by
    intro m n
    have hlt : m * (unit : Int) < n * unit ↔ m < n := Int.mul_lt_mul_right hunit
    rw [Bool.eq_iff_iff]
    simp [Json.isLess, hsize, hlt]
  have hprecedes : precedes plainWeight (!less) [.int m, .str s] [.int n, .str t] =
      if less then SortKey.before ⟨m, s⟩ ⟨n, t⟩ else SortKey.before ⟨n, t⟩ ⟨m, s⟩ := by
    cases less <;> simp [precedes, plainWeight, SortKey.lt_iff]
  have hnumbers : Json.ordered? less (.int m) (.int n) =
      .ok (if less then decide (m < n) else decide (n < m)) := by
    rw [← hless, ← hless]
    rfl
  have htexts : Json.ordered? less (.str s) (.str t) =
      .ok (if less then Text.before s t else Text.before t s) := rfl
  have hids : Json.alike (.str s) (.str t) = (s == t) := rfl
  rw [Json.orderedItems?, hranks, Json.orderedItems?, hids, Json.orderedItems?, hprecedes,
    hnumbers, htexts]
  -- ids are looked at only between equal ranks
  by_cases hrank : m = n
  · subst hrank
    by_cases hid : s = t
    · subst hid
      simp [SortKey.before, Text.before_irrefl]
    · simp [SortKey.before, hid]
  · have hranks : (m == n) = false ∧ (n == m) = false :=
      ⟨beq_eq_false_iff_ne.2 hrank, beq_eq_false_iff_ne.2 (Ne.symm hrank)⟩
    simp [SortKey.before, hrank, hranks.1, hranks.2]

end Loose

end Symposium.Page
