import Mathlib.Data.List.Chain
import Mathlib.Order.Lattice
import Symposium.Page.Loose

/-!
# Sorting by halving

A loose listing is sorted by a run of rows that are taken as they are, turned round if they fall,
and by the rows after it, each of which is put at a place that is found by halving. It is enough
that the rows which are compared have a `weight` in some linear order that tells how each comparison
ends. Main statements: the place of a row is after all rows that are not greater, so putting it
there keeps the rows rising, and sorting succeeds and gives the same rows in order.
-/

namespace Symposium.Page.Loose

variable {α κ : Type} [LinearOrder κ] {isLess : α → α → Except Misfit Bool} {weight : α → κ}
  {known rows : List α} {row : α}

/-- Whether some rows are always put in order, and as their weights are. -/
def WeighedBy (isLess : α → α → Except Misfit Bool) (weight : α → κ) (known : List α) : Prop :=
  ∀ a ∈ known, ∀ b ∈ known, isLess a b = .ok (decide (weight a < weight b))

/-- Whether no row is greater than a later one. -/
def Rising (weight : α → κ) (rows : List α) : Prop :=
  rows.Pairwise fun a b => weight a ≤ weight b

/-- The rows up to a place are not greater than the one at it, and those from there on not less. -/
lemma Rising.around (h : Rising weight rows) {i : Nat} {other : α}
    (hother : rows[i]? = some other) :
    (∀ a ∈ rows.take (i + 1), weight a ≤ weight other) ∧
      ∀ a ∈ rows.drop i, weight other ≤ weight a := by
  obtain ⟨hi, rfl⟩ := List.getElem?_eq_some_iff.1 hother
  have hdrop := List.drop_eq_getElem_cons hi
  rw [Rising, ← List.take_append_drop i rows, List.pairwise_append, hdrop,
    List.pairwise_cons] at h
  obtain ⟨_, ⟨hlater, _⟩, hearlier⟩ := h
  constructor
  · intro a ha
    rw [List.take_succ_eq_append_getElem hi] at ha
    obtain ha | ha := List.mem_append.1 ha
    · exact hearlier a ha _ List.mem_cons_self
    · rw [List.mem_singleton.1 ha]
  · intro a ha
    rw [hdrop] at ha
    obtain rfl | ha := List.mem_cons.1 ha
    · exact le_rfl
    · exact hlater a ha

/-- The place that is found is after all rows that are not greater, and before all that are. -/
lemma exists_placeOf (hless : WeighedBy isLess weight known) (hrising : Rising weight rows)
    (hrow : row ∈ known) (hrows : rows ⊆ known) {least most : Nat} (hmost : most ≤ rows.length)
    (hbelow : ∀ a ∈ rows.take least, weight a ≤ weight row)
    (habove : ∀ a ∈ rows.drop most, weight row < weight a) (hle : least ≤ most) :
    ∃ place, placeOf isLess row rows least most = .ok place ∧
      (∀ a ∈ rows.take place, weight a ≤ weight row) ∧
      ∀ a ∈ rows.drop place, weight row < weight a := by
  fun_induction placeOf isLess row rows least most with
  | case1 least most hlt middle hnone =>
    have hmiddle := List.getElem?_eq_none_iff.1 hnone
    omega
  | case2 least most hlt middle other hother ihbelow ihabove =>
    obtain ⟨hupto, hfrom⟩ := hrising.around hother
    rw [hless row hrow other (hrows (List.mem_of_getElem? hother))]
    by_cases hbefore : weight row < weight other
    · rw [decide_eq_true hbefore]
      refine ihbelow (by omega) hbelow (fun a ha => ?_) (by omega)
      exact lt_of_lt_of_le hbefore (hfrom a ha)
    · rw [decide_eq_false hbefore]
      refine ihabove hmost (fun a ha => ?_) habove (by omega)
      exact (hupto a ha).trans (not_lt.1 hbefore)
  | case3 least most hge =>
    obtain rfl : least = most := by omega
    exact ⟨least, rfl, hbelow, habove⟩

/-- A row that is put among rising rows leaves them rising. -/
lemma exists_putRow (hless : WeighedBy isLess weight known) (hrising : Rising weight rows)
    (hrow : row ∈ known) (hrows : rows ⊆ known) :
    ∃ put, putRow isLess rows row = .ok put ∧ Rising weight put ∧ put.Perm (row :: rows) := by
  have hnone : ∀ a ∈ rows.take 0, weight a ≤ weight row := by simp
  obtain ⟨place, hplace, hupto, hfrom⟩ :=
    exists_placeOf hless hrising hrow hrows le_rfl hnone (by simp) (Nat.zero_le _)
  refine ⟨rows.take place ++ row :: rows.drop place, ?_, ?_, ?_⟩
  · rw [putRow, hplace]
    rfl
  · rw [Rising, ← List.take_append_drop place rows, List.pairwise_append] at hrising
    obtain ⟨hfront, hback, hacross⟩ := hrising
    refine List.pairwise_append.2 ⟨hfront, List.pairwise_cons.2 ⟨?_, hback⟩, ?_⟩
    · exact fun a ha => (hfrom a ha).le
    · intro a ha b hb
      obtain rfl | hb := List.mem_cons.1 hb
      · exact hupto a ha
      · exact hacross a ha b hb
  · refine List.perm_middle.trans ?_
    rw [List.take_append_drop]

/-- Rows that are put one after the other are all there in the end, and in order. -/
lemma exists_foldlM_putRow (hless : WeighedBy isLess weight known) (rest : List α)
    (hrest : rest ⊆ known) (hrising : Rising weight rows) (hrows : rows ⊆ known) :
    ∃ sorted, rest.foldlM (putRow isLess) rows = .ok sorted ∧ Rising weight sorted ∧
      sorted.Perm (rows ++ rest) := by
  induction rest generalizing rows with
  | nil => exact ⟨rows, rfl, hrising, by rw [List.append_nil]⟩
  | cons row rest ih =>
    obtain ⟨hrow, hrest⟩ := List.cons_subset.1 hrest
    obtain ⟨put, hput, hrising, hperm⟩ := exists_putRow hless hrising hrow hrows
    have hknown : put ⊆ known := by
      intro a ha
      obtain rfl | ha := List.mem_cons.1 (hperm.mem_iff.1 ha)
      · exact hrow
      · exact hrows ha
    obtain ⟨sorted, hsorted, hrising, hperm'⟩ := ih hrest hrising hknown
    refine ⟨sorted, ?_, hrising, ?_⟩
    · rw [List.foldlM_cons, hput]
      exact hsorted
    · exact (hperm'.trans (hperm.append_right rest)).trans List.perm_middle.symm

/-- Each row of a run is not less than the one before it, or each is less. -/
lemma exists_runLength (hless : WeighedBy isLess weight known) (falling : Bool)
    (hrows : rows ⊆ known) :
    ∃ count, runLength isLess falling rows = .ok count ∧
      (rows.take count).IsChain fun a b => decide (weight b < weight a) = falling := by
  fun_induction runLength isLess falling rows with
  | case1 a b rows ih =>
    obtain ⟨ha, hrest⟩ := List.cons_subset.1 hrows
    obtain ⟨count, hcount, hrun⟩ := ih hrest
    rw [hless b (hrest List.mem_cons_self) a ha]
    -- the run goes on as long as the rows keep falling, or keep not falling
    by_cases hstep : decide (weight b < weight a) = falling
    · refine ⟨1 + count, ?_, ?_⟩
      · simp only [hcount, hstep, beq_self_eq_true, if_true, bind, Except.bind, pure, Except.pure]
      · rw [Nat.add_comm, List.take_succ_cons]
        refine List.isChain_cons.2 ⟨fun c hc => ?_, hrun⟩
        cases count with
        | zero => cases hc
        | succ count =>
          cases hc
          exact hstep
    · refine ⟨1, ?_, .singleton a⟩
      simp only [beq_eq_false_iff_ne.2 hstep, bind, Except.bind, pure, Except.pure,
        Bool.false_eq_true, if_false]
  | case2 rows hshort =>
    refine ⟨rows.length, rfl, ?_⟩
    rw [List.take_length]
    match rows, hshort with
    | [], _ => exact .nil
    | [a], _ => exact .singleton a
    | a :: b :: rows, hshort => exact absurd rfl (hshort a b rows)

/-- A run rises, if it is turned round where it falls. -/
lemma rising_run {falling : Bool}
    (h : rows.IsChain fun a b => decide (weight b < weight a) = falling) :
    Rising weight (if falling = true then rows.reverse else rows) := by
  cases falling with
  | false =>
    have hrun : rows.IsChain fun a b => weight a ≤ weight b :=
      h.imp fun a b hstep => not_lt.1 (of_decide_eq_false hstep)
    have : IsTrans α fun a b => weight a ≤ weight b := ⟨fun _ _ _ => le_trans⟩
    exact hrun.pairwise
  | true =>
    have hrun : rows.IsChain fun a b => weight b < weight a :=
      h.imp fun a b hstep => of_decide_eq_true hstep
    have : IsTrans α fun a b => weight b < weight a := ⟨fun _ _ _ hab hbc => hbc.trans hab⟩
    exact List.pairwise_reverse.2 (hrun.pairwise.imp le_of_lt)

/-- Sorting succeeds, and gives the same rows in order. -/
theorem exists_sortRising (hless : WeighedBy isLess weight rows) :
    ∃ sorted, sortRising isLess rows = .ok sorted ∧ Rising weight sorted ∧ sorted.Perm rows := by
  match rows, hless with
  | [], _ => exact ⟨[], rfl, .nil, .refl _⟩
  | [a], _ => exact ⟨[a], rfl, List.pairwise_singleton _ a, .refl _⟩
  | a :: b :: rows, hless =>
    have hfirst := hless b (by simp) a (by simp)
    obtain ⟨count, hcount, hchain⟩ :=
      exists_runLength hless (decide (weight b < weight a)) (List.Subset.refl _)
    have hrising := rising_run hchain
    -- a falling run is turned around
    generalize hrun : (if decide (weight b < weight a) = true then
      ((a :: b :: rows).take count).reverse else (a :: b :: rows).take count) = run at hrising
    have hperm : run.Perm ((a :: b :: rows).take count) := by
      rw [← hrun]
      split
      · exact List.reverse_perm _
      · exact .refl _
    have hknown : run ⊆ a :: b :: rows := fun c hc =>
      List.mem_of_mem_take (hperm.mem_iff.1 hc)
    obtain ⟨sorted, hsorted, hrising, hall⟩ := exists_foldlM_putRow hless
      ((a :: b :: rows).drop count) (List.drop_subset _ _) hrising hknown
    refine ⟨sorted, ?_, hrising, ?_⟩
    · simp only [sortRising, hfirst, hcount, bind, Except.bind, hrun]
      exact hsorted
    · refine hall.trans ((hperm.append_right _).trans ?_)
      rw [List.take_append_drop]

/-- Sorting in a direction succeeds, and gives the same rows in order. -/
theorem exists_sortRows (hless : WeighedBy isLess weight rows) (descending : Bool) :
    ∃ sorted, sortRows isLess descending rows = .ok sorted ∧ sorted.Perm rows ∧
      Rising weight (if descending = true then sorted.reverse else sorted) := by
  cases descending with
  | false =>
    obtain ⟨sorted, hsorted, hrising, hperm⟩ := exists_sortRising hless
    exact ⟨sorted, hsorted, hperm, hrising⟩
  | true =>
    have hreversed : WeighedBy isLess weight rows.reverse := fun a ha b hb =>
      hless a (List.mem_reverse.1 ha) b (List.mem_reverse.1 hb)
    obtain ⟨sorted, hsorted, hrising, hperm⟩ := exists_sortRising hreversed
    refine ⟨sorted.reverse, ?_, ?_, ?_⟩
    · simp only [sortRows, hsorted, if_true]
      rfl
    · exact (List.reverse_perm sorted).trans (hperm.trans (List.reverse_perm rows))
    · simpa only [if_true, List.reverse_reverse] using hrising

end Symposium.Page.Loose
