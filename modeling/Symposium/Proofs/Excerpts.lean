import Mathlib.Data.List.DropRight
import Symposium.Proofs.Members
import Symposium.Proofs.Weights

/-!
# Pages are excerpts of one listing

A page is cut out of the rows that lie beyond a cursor, after these were sorted in the direction
away from it. If all rows have different keys there is one listing of them, and what is sorted so is
the part of it beyond the cursor, read from the cursor on. Main statement: whether the keys are
ranks with ids or whatever values that are put in order, a page shows the first rows of the part
after its cursor or the last rows of the part before it, in the order of the listing, and so it does
not depend on the order in which the rows came.
-/

namespace Symposium.Page

variable {α κ ι ε : Type}

/-- Whether a page shows these rows, out of a part of a listing. -/
structure IsExcerpt (idOf : α → String) (limit : Nat) (part shown : List α) (page : Page α) :
    Prop where
  rows_eq : page.rows = shown
  hasMore_iff : page.info.hasMore = true ↔ limit < part.length
  firstId_eq : page.info.firstId = shown.head?.map idOf
  lastId_eq : page.info.lastId = shown.getLast?.map idOf
  firstId_none_iff : page.info.firstId = none ↔ page.rows = []
  lastId_none_iff : page.info.lastId = none ↔ page.rows = []

/--
Whether requests are answered by excerpts of a listing. A request names the row that the page
follows or the one that it precedes, or neither; two rows are refused, and if nothing is known of
the row there is nothing on the page.
-/
structure Excerpts (ask : Option ι → Option ι → Except ε (Page α)) (refusal : ι → ι → ε)
    (keyOf : ι → Option κ) (key : α → κ) (precedes : κ → κ → Bool) (idOf : α → String)
    (limit : Nat) (listed : List α) : Prop where
  both : ∀ afterId beforeId, ask (some afterId) (some beforeId) = .error (refusal afterId beforeId)
  start : ∃ page, ask none none = .ok page ∧
    IsExcerpt idOf limit listed (listed.take limit) page
  unknown : ∀ id, keyOf id = none →
    ask (some id) none = .ok .empty ∧ ask none (some id) = .ok .empty
  after : ∀ id cursor, keyOf id = some cursor → ∃ page, ask (some id) none = .ok page ∧
    let part := listed.filter fun row => precedes cursor (key row)
    IsExcerpt idOf limit part (part.take limit) page
  before : ∀ id cursor, keyOf id = some cursor → ∃ page, ask none (some id) = .ok page ∧
    let part := listed.filter fun row => precedes (key row) cursor
    IsExcerpt idOf limit part (part.rtake limit) page

section Excerpts

variable {idOf : α → String} {limit : Nat} {part shown listed : List α} {page page' : Page α}

/-- A page made of a part of the rows tells whether it is the whole part. -/
lemma isExcerpt_ofRows (idOf : α → String) (limit : Nat) (part shown : List α) :
    IsExcerpt idOf limit part shown (ofRows idOf (decide (limit < part.length)) shown) where
  rows_eq := rfl
  hasMore_iff := decide_eq_true_iff
  firstId_eq := rfl
  lastId_eq := rfl
  firstId_none_iff := by simp [ofRows]
  lastId_none_iff := by simp [ofRows]

/-- An excerpt is all that there is to say about a page. -/
lemma IsExcerpt.eq_ofRows (h : IsExcerpt idOf limit part shown page) :
    page = ofRows idOf (decide (limit < part.length)) shown := by
  obtain ⟨rows, hasMore, firstId, lastId⟩ := page
  have hmore : hasMore = decide (limit < part.length) :=
    Bool.eq_iff_iff.2 (h.hasMore_iff.trans decide_eq_true_iff.symm)
  have hrows : rows = shown := h.rows_eq
  have hfirst : firstId = shown.head?.map idOf := h.firstId_eq
  have hlast : lastId = shown.getLast?.map idOf := h.lastId_eq
  rw [hrows, hmore, hfirst, hlast]
  rfl

/-- What is answered by excerpts of one listing is the same. -/
lemma Excerpts.eq {ask ask' : Option ι → Option ι → Except ε (Page α)} {refusal : ι → ι → ε}
    {keyOf : ι → Option κ} {key : α → κ} {precedes : κ → κ → Bool}
    (h : Excerpts ask refusal keyOf key precedes idOf limit listed)
    (h' : Excerpts ask' refusal keyOf key precedes idOf limit listed) : ask = ask' := by
  funext afterId beforeId
  cases afterId with
  | none =>
    cases beforeId with
    | none =>
      obtain ⟨page, hask, hpage⟩ := h.start
      obtain ⟨page', hask', hpage'⟩ := h'.start
      rw [hask, hask', hpage.eq_ofRows, hpage'.eq_ofRows]
    | some id =>
      cases hkey : keyOf id with
      | none => rw [(h.unknown id hkey).2, (h'.unknown id hkey).2]
      | some cursor =>
        obtain ⟨page, hask, hpage⟩ := h.before id cursor hkey
        obtain ⟨page', hask', hpage'⟩ := h'.before id cursor hkey
        rw [hask, hask', hpage.eq_ofRows, hpage'.eq_ofRows]
  | some id =>
    cases beforeId with
    | none =>
      cases hkey : keyOf id with
      | none => rw [(h.unknown id hkey).1, (h'.unknown id hkey).1]
      | some cursor =>
        obtain ⟨page, hask, hpage⟩ := h.after id cursor hkey
        obtain ⟨page', hask', hpage'⟩ := h'.after id cursor hkey
        rw [hask, hask', hpage.eq_ofRows, hpage'.eq_ofRows]
    | some other => rw [h.both, h'.both]

end Excerpts

section Cut

variable {key : α → SortKey} {descending : Bool} {rows listed : List α} {limit : Nat}

/-- The answer to a request for a page that is cut out of rows. -/
def answer (key : α → SortKey) (descending : Bool) (keyOf : String → Option SortKey) (limit : Nat)
    (rows : List α) (afterId beforeId : Option String) : Except Refusal (Page α) :=
  (Request.place ⟨afterId, beforeId, limit⟩ keyOf).map fun place =>
    cut key descending place limit rows

/-- Whatever a cursor was made of, the page before it shows the end of what lies before it. -/
lemma cut_before_cursor {cursor : SortKey} :
    cut key descending (.before cursor) limit rows =
      pageBehind (fun r => (key r).id) limit
        (sortRows key (!descending) (rows.filter (isBeyond key (!descending) cursor))) := by
  rw [cut, takeRows_of_nonneg (Int.natCast_nonneg limit)]
  rfl

/-- Pages that are cut out of rows with different keys are excerpts of their listing. -/
lemma excerpts_answer (h : Ordered key descending listed) (hperm : listed.Perm rows)
    (keyOf : String → Option SortKey) (limit : Nat) :
    Excerpts (answer key descending keyOf limit rows) .invalidPagination keyOf key
      (SortKey.precedes descending) (fun row => (key row).id) limit listed where
  both _ _ := rfl
  start := by
    refine ⟨_, congrArg Except.ok cut_start, ?_⟩
    rw [h.sortRows_eq hperm]
    exact isExcerpt_ofRows ..
  unknown id hkey := by
    simp only [answer, Request.place, hkey]
    exact ⟨rfl, rfl⟩
  after id cursor hkey := by
    have hpart : Ordered key descending (listed.filter (isBeyond key descending cursor)) :=
      h.filter _
    refine ⟨cut key descending (.after cursor) limit rows, ?_, ?_⟩
    · simp only [answer, Request.place, hkey]
      rfl
    · rw [cut_after_cursor, hpart.sortRows_eq (hperm.filter _)]
      exact isExcerpt_ofRows ..
  before id cursor hkey := by
    have hpart : Ordered key (!descending)
        (listed.reverse.filter (isBeyond key (!descending) cursor)) := h.reverse.filter _
    have hsame := (List.reverse_perm listed).trans hperm
    refine ⟨cut key descending (.before cursor) limit rows, ?_, ?_⟩
    · simp only [answer, Request.place, hkey]
      rfl
    -- what lies before a cursor lies beyond it the other way around
    · have hbefore : isBeyond key (!descending) cursor =
          fun row => SortKey.precedes descending (key row) cursor :=
        funext fun row => SortKey.precedes_not descending cursor (key row)
      rw [cut_before_cursor, hpart.sortRows_eq (hsame.filter _), List.filter_reverse, hbefore,
        pageBehind, List.length_reverse, ← List.rtake_eq_reverse_take_reverse]
      exact isExcerpt_ofRows ..

end Cut

namespace Loose

variable {byRank descending downwards backward : Bool} {keyOf : Json → Option (List Json)}
  {cursor : Json} {limit : Nat} {rows candidates listed part : List Row} {idOf : Row → String}

/-- A cursor that is given. -/
abbrev Cursor := { cursor : Json // cursor ≠ .null }

/-- The page of candidates: they are sorted, and the first ones are taken. -/
def finish (byRank downwards backward : Bool) (limit : Nat) (candidates : List Row) :
    Except Failure (Page Row) := do
  let isLess := fun (a b : Row) => Json.orderedItems? true (a.key byRank) (b.key byRank)
  let sorted ← (sortRows isLess downwards candidates).mapError .misfit
  let (taken, hasMore) := takeRows limit sorted
  let shown := if backward then taken.reverse else taken
  return ⟨shown, ← infoOf hasMore shown⟩

/-- Without a cursor, the page is taken from the start. -/
lemma page_start :
    page byRank descending keyOf ⟨.null, .null, .ok limit⟩ rows =
      finish byRank (descending != false) false limit rows :=
  rfl

/-- With one cursor, the page is taken from the rows beyond it. -/
lemma page_after (hgiven : cursor ≠ .null) :
    page byRank descending keyOf ⟨cursor, .null, .ok limit⟩ rows =
      match keyOf cursor with
      | none => .ok .empty
      | some key => (beyond byRank (descending != false) key rows).mapError .misfit >>=
          finish byRank (descending != false) false limit := by
  cases cursor with
  | null => exact absurd rfl hgiven
  | _ => rfl

/-- With the other cursor, the page is taken from the rows beyond it the other way and turned. -/
lemma page_before (hgiven : cursor ≠ .null) :
    page byRank descending keyOf ⟨.null, cursor, .ok limit⟩ rows =
      match keyOf cursor with
      | none => .ok .empty
      | some key => (beyond byRank (descending != true) key rows).mapError .misfit >>=
          finish byRank (descending != true) true limit := by
  cases cursor with
  | null => exact absurd rfl hgiven
  | _ => rfl

/-- Two cursors at once are refused, whatever they say. -/
lemma page_both {other : Json} (hgiven : cursor ≠ .null) (hother : other ≠ .null) :
    page byRank descending keyOf ⟨cursor, other, .ok limit⟩ rows =
      .error (.refused (.invalidPagination cursor.displayAlone other.displayAlone)) := by
  cases cursor with
  | null => exact absurd rfl hgiven
  | _ =>
    cases other with
    | null => exact absurd rfl hother
    | _ => rfl

/-- A page says of rows whose ids are texts which of them are the first and the last. -/
lemma infoOf_eq (hasMore : Bool) (htexts : ∀ row ∈ rows, row.id = .str (idOf row)) :
    infoOf hasMore rows = .ok ⟨hasMore, rows.head?.map idOf, rows.getLast?.map idOf⟩ := by
  have htext {row? : Option Row} (hrow : ∀ row ∈ row?, row ∈ rows) :
      Check.nullable Check.text ((row?.map Row.id).getD .null) = .fine (row?.map idOf) := by
    cases row? with
    | none => rfl
    | some row =>
      rw [Option.map_some, Option.getD_some, htexts row (hrow row rfl)]
      rfl
  refine Failure.ofRecord_eq_ok_iff.2 ⟨⟨_, rfl⟩, ?_⟩
  rw [Info.read, Check.optional_of_get? _ "has_more" false rfl rfl,
    Check.optional_of_get? _ "first_id" none rfl (htext fun _ => List.mem_of_mem_head?),
    Check.optional_of_get? _ "last_id" none rfl (htext fun _ => List.mem_of_mem_getLast?)]
  rfl

section Weights

variable {κ : Type} [LinearOrder κ] {weight : List Json → κ} {known : List Json → Prop}

/-- A test that always succeeds keeps the rows that pass it. -/
lemma filterM_eq_ok {f : Row → Except Misfit Bool} {passes : Row → Bool}
    (h : ∀ row ∈ rows, f row = .ok (passes row)) : rows.filterM f = .ok (rows.filter passes) := by
  have haux : ∀ kept, rows.filterAuxM f kept = .ok ((rows.filter passes).reverse ++ kept) := by
    induction rows with
    | nil => exact fun kept => rfl
    | cons row rows ih =>
      obtain ⟨hrow, hrows⟩ := List.forall_mem_cons.1 h
      intro kept
      rw [List.filterAuxM, hrow]
      show rows.filterAuxM f (cond (passes row) (row :: kept) kept) = _
      rw [ih hrows]
      cases hpasses : passes row with
      | false => rw [List.filter_cons_of_neg (Bool.eq_false_iff.1 hpasses), cond_false]
      | true => simp [List.filter_cons_of_pos hpasses]
  rw [List.filterM, haux]
  show Except.ok ((rows.filter passes).reverse ++ []).reverse = _
  rw [List.append_nil, List.reverse_reverse]

/-- What lies beyond a cursor is found if its key is put in order with those of the rows. -/
lemma beyond_eq {key : List Json} (weighs : Weighs weight known) (hkey : known key)
    (hknown : ∀ row ∈ rows, known (row.key byRank)) (downwards : Bool) :
    beyond byRank downwards key rows =
      .ok (rows.filter fun row => precedes weight downwards key (row.key byRank)) := by
  refine filterM_eq_ok fun row hrow => ?_
  rw [weighs _ _ (hknown row hrow) hkey, precedes_not]

/-- The candidates are shown in the one order that they have, from the cursor on. -/
lemma finish_eq (weighs : Weighs weight known) (hknown : ∀ row ∈ rows, known (row.key byRank))
    (htexts : ∀ row ∈ rows, row.id = .str (idOf row))
    (hpart : Ordered weight byRank downwards part) (hperm : part.Perm rows) (backward : Bool)
    (limit : Nat) :
    finish byRank downwards backward limit rows =
      .ok (ofRows idOf (decide (limit < part.length))
        (if backward then (part.take limit).reverse else part.take limit)) := by
  obtain ⟨sorted, hsorted, hsame, hordered⟩ := exists_ordered weighs hknown
    ((hperm.map _).nodup_iff.1 hpart.nodup_weights) downwards
  obtain rfl := hordered.eq_of_perm hpart (hsame.trans hperm.symm)
  have hshown : ∀ row ∈ if backward then (sorted.take limit).reverse else sorted.take limit,
      row.id = .str (idOf row) := by
    intro row hrow
    refine htexts row (hsame.mem_iff.1 (List.mem_of_mem_take (i := limit) ?_))
    cases backward with
    | false => exact hrow
    | true => exact List.mem_reverse.1 hrow
  simp only [finish, hsorted, takeRows_of_nonneg (Int.natCast_nonneg limit), Int.toNat_natCast,
    infoOf_eq _ hshown, Except.mapError, bind, Except.bind]
  rfl

/-- The page at a cursor shows the part of a listing beyond it, from the cursor on. -/
lemma beyond_bind_finish {key : List Json} (weighs : Weighs weight known) (hkey : known key)
    (hknown : ∀ row ∈ rows, known (row.key byRank))
    (htexts : ∀ row ∈ rows, row.id = .str (idOf row))
    (hlisted : Ordered weight byRank downwards listed) (hperm : listed.Perm rows)
    (hpart : part = listed.filter fun row => precedes weight downwards key (row.key byRank))
    (backward : Bool) (limit : Nat) :
    ((beyond byRank downwards key rows).mapError .misfit >>=
        finish byRank downwards backward limit) =
      .ok (ofRows idOf (decide (limit < part.length))
        (if backward then (part.take limit).reverse else part.take limit)) := by
  rw [beyond_eq weighs hkey hknown, hpart]
  refine finish_eq weighs (fun row hrow => ?_) (fun row hrow => ?_) (hlisted.filter _)
    (hperm.filter _) backward limit
  · exact hknown row (List.mem_of_mem_filter hrow)
  · exact htexts row (List.mem_of_mem_filter hrow)

/-- The answer to a request for a page of a loose listing, by cursors that are given or not. -/
def answer (byRank descending : Bool) (keyOf : Json → Option (List Json)) (limit : Nat)
    (rows : List Row) (afterId beforeId : Option Cursor) : Except Failure (Page Row) :=
  page byRank descending keyOf
    ⟨afterId.elim .null Subtype.val, beforeId.elim .null Subtype.val, .ok limit⟩ rows

/-- Pages of a loose listing of rows with different keys are excerpts of it. -/
lemma excerpts_answer (weighs : Weighs weight known)
    (hknown : ∀ row ∈ rows, known (row.key byRank))
    (hcursors : ∀ id cursor, keyOf id = some cursor → known cursor)
    (htexts : ∀ row ∈ rows, row.id = .str (idOf row))
    (h : Ordered weight byRank descending listed) (hperm : listed.Perm rows) (limit : Nat) :
    Excerpts (answer byRank descending keyOf limit rows)
      (fun afterId beforeId =>
        .refused (.invalidPagination afterId.1.displayAlone beforeId.1.displayAlone))
      (fun id => keyOf id.1) (Row.key byRank) (precedes weight descending) idOf limit listed where
  both afterId beforeId := page_both afterId.2 beforeId.2
  start := by
    have hfinish := finish_eq weighs hknown htexts h hperm false limit
    refine ⟨_, ?_, isExcerpt_ofRows ..⟩
    rw [answer, Option.elim_none, page_start, Bool.bne_false, hfinish]
    rfl
  unknown id hkey := by
    constructor
    · rw [answer, Option.elim_none, Option.elim_some, page_after id.2, hkey]
    · rw [answer, Option.elim_none, Option.elim_some, page_before id.2, hkey]
  after id cursor hkey := by
    have hpage :=
      beyond_bind_finish weighs (hcursors _ _ hkey) hknown htexts h hperm rfl false limit
    refine ⟨_, ?_, isExcerpt_ofRows ..⟩
    rw [answer, Option.elim_none, Option.elim_some, page_after id.2, hkey, Bool.bne_false]
    exact hpage
  before id cursor hkey := by
    -- what lies before the cursor is read from its end
    have hpart :
        (listed.filter fun row => precedes weight descending (row.key byRank) cursor).reverse =
          listed.reverse.filter fun row =>
            precedes weight (!descending) cursor (row.key byRank) := by
      simp only [precedes_not, List.filter_reverse]
    have hpage := beyond_bind_finish weighs (hcursors _ _ hkey) hknown htexts h.reverse
      ((List.reverse_perm listed).trans hperm) hpart true limit
    rw [List.length_reverse, if_pos rfl, ← List.rtake_eq_reverse_take_reverse] at hpage
    refine ⟨_, ?_, isExcerpt_ofRows ..⟩
    rw [answer, Option.elim_none, Option.elim_some, page_before id.2, hkey, Bool.bne_true]
    exact hpage

end Weights

end Loose

/--
If all rows have different keys there is one listing of them in each direction, and every page is an
excerpt of it: the first rows of the part after a cursor, or the last ones of the part before it.
This is so for keys that consist of a rank and an id, and for keys of whatever values if all those
in question are put in order. The order in which the rows come is of no importance.
-/
theorem pages_are_excerpts :
    (∀ (α : Type) (key : α → SortKey) (descending : Bool) (keyOf : String → Option SortKey)
      (limit : Nat) (rows : List α), (rows.map key).Nodup →
        ∃ listed, listed.Perm rows ∧ Ordered key descending listed ∧
          Excerpts (answer key descending keyOf limit rows) .invalidPagination keyOf key
            (SortKey.precedes descending) (fun row => (key row).id) limit listed ∧
          ∀ shuffled, shuffled.Perm rows →
            answer key descending keyOf limit shuffled = answer key descending keyOf limit rows) ∧
    ∀ (κ : Type) [LinearOrder κ] (weight : List Json → κ) (known : List Json → Prop)
      (byRank descending : Bool) (keyOf : Json → Option (List Json)) (idOf : Loose.Row → String)
      (limit : Nat) (rows : List Loose.Row), Loose.Weighs weight known →
      (∀ row ∈ rows, known (row.key byRank)) →
      (∀ id cursor, keyOf id = some cursor → known cursor) →
      (∀ row ∈ rows, row.id = .str (idOf row)) →
      (rows.map fun row => weight (row.key byRank)).Nodup →
        ∃ listed, listed.Perm rows ∧ Loose.Ordered weight byRank descending listed ∧
          Excerpts (Loose.answer byRank descending keyOf limit rows)
            (fun afterId beforeId =>
              .refused (.invalidPagination afterId.1.displayAlone beforeId.1.displayAlone))
            (fun id => keyOf id.1) (Loose.Row.key byRank) (Loose.precedes weight descending) idOf
            limit listed ∧
          ∀ shuffled, shuffled.Perm rows →
            Loose.answer byRank descending keyOf limit shuffled =
              Loose.answer byRank descending keyOf limit rows := by
  constructor
  · intro α key descending keyOf limit rows hkeys
    have hperm := sortRows_perm key descending rows
    have hordered : Ordered key descending (sortRows key descending rows) := ordered_sortRows hkeys
    have hexcerpts := excerpts_answer hordered hperm keyOf limit
    refine ⟨_, hperm, hordered, hexcerpts, fun shuffled hshuffled => ?_⟩
    exact (excerpts_answer hordered (hperm.trans hshuffled.symm) keyOf limit).eq hexcerpts
  · intro κ _ weight known byRank descending keyOf idOf limit rows weighs hknown hcursors htexts
      hdistinct
    obtain ⟨listed, _, hperm, hordered⟩ :=
      Loose.exists_ordered weighs hknown hdistinct descending
    have hexcerpts := Loose.excerpts_answer weighs hknown hcursors htexts hordered hperm limit
    refine ⟨listed, hperm, hordered, hexcerpts, fun shuffled hshuffled => ?_⟩
    have hknown' : ∀ row ∈ shuffled, known (row.key byRank) :=
      fun row hrow => hknown row (hshuffled.mem_iff.1 hrow)
    have htexts' : ∀ row ∈ shuffled, row.id = .str (idOf row) :=
      fun row hrow => htexts row (hshuffled.mem_iff.1 hrow)
    exact (Loose.excerpts_answer weighs hknown' hcursors htexts' hordered
      (hperm.trans hshuffled.symm) limit).eq hexcerpts

/-- Three talks with ranks are read from the last one, one at a time, from either kind of rows. -/
theorem pages_are_excerpts_of_three :
    let talks : List (Int × String) := [(3, "c"), (1, "a"), (2, "b")]
    let key : Int × String → SortKey := fun (rank, id) => ⟨rank, id⟩
    let keyOf : String → Option SortKey := fun id => (talks.find? (·.2 == id)).map key
    let rows : List Loose.Row := talks.map fun (rank, id) => ⟨.int rank, .str id⟩
    let looseKeyOf : Json → Option (List Json) := fun id =>
      id.text?.bind fun id => (talks.find? (·.2 == id)).map fun (rank, id) => [.int rank, .str id]
    (∃ listed, listed.Perm talks ∧ Ordered key true listed ∧
      Excerpts (answer key true keyOf 1 talks) .invalidPagination keyOf key
        (SortKey.precedes true) (fun row => (key row).id) 1 listed) ∧
    ∃ listed, listed.Perm rows ∧ Loose.Ordered Loose.plainWeight true true listed ∧
      Excerpts (Loose.answer true true looseKeyOf 1 rows)
        (fun afterId beforeId =>
          .refused (.invalidPagination afterId.1.displayAlone beforeId.1.displayAlone))
        (fun id => looseKeyOf id.1) (Loose.Row.key true) (Loose.precedes Loose.plainWeight true)
        (fun row => row.id.text?.getD "") 1 listed := by
  intro talks key keyOf rows looseKeyOf
  constructor
  · obtain ⟨listed, hperm, hordered, hexcerpts, _⟩ :=
      pages_are_excerpts.1 _ key true keyOf 1 talks (by decide)
    exact ⟨listed, hperm, hordered, hexcerpts⟩
  · have hknown : ∀ row ∈ rows, ∃ rank id, row.key true = [.int rank, .str id] := by
      intro row hrow
      obtain ⟨⟨rank, id⟩, _, rfl⟩ := List.mem_map.1 hrow
      exact ⟨rank, id, rfl⟩
    have htexts : ∀ row ∈ rows, row.id = .str (row.id.text?.getD "") := by
      intro row hrow
      obtain ⟨⟨rank, id⟩, _, rfl⟩ := List.mem_map.1 hrow
      rfl
    have hcursors : ∀ id cursor, looseKeyOf id = some cursor →
        ∃ rank id, cursor = [.int rank, .str id] := by
      intro id cursor hcursor
      obtain ⟨text, _, hfound⟩ := Option.bind_eq_some_iff.1 hcursor
      obtain ⟨⟨rank, id⟩, _, rfl⟩ := Option.map_eq_some_iff.1 hfound
      exact ⟨rank, id, rfl⟩
    obtain ⟨listed, hperm, hordered, hexcerpts, _⟩ := pages_are_excerpts.2 _ Loose.plainWeight
      (fun key => ∃ rank id, key = [.int rank, .str id]) true true looseKeyOf
      (fun row => row.id.text?.getD "") 1 rows Loose.weighs_plainWeight hknown hcursors htexts
      (by decide)
    exact ⟨listed, hperm, hordered, hexcerpts⟩

end Symposium.Page
