import Symposium.Proofs.Pages

/-!
# Walks through a listing

A reader walks through a listing page by page: forward, each page after the last row of the page
before, or backward, each page before the first row of the page after, until there are no more rows.
Main statement: if every page is cut out of the listing, each walk ends and shows what lies ahead of
the reader, and a reader who turns round sees the page before again.
-/

namespace Symposium.Page

variable {α β : Type}

/-- The pages that a reader is given who goes on from each page while there is more. -/
inductive Walk (ask : Option String → Except Failure (Page β)) (next : Info → Option String) :
    Option String → List (Page β) → Prop where
  | last {cursor page} :
    ask cursor = .ok page →
    page.info.hasMore = false →
    Walk ask next cursor [page]
  | more {cursor page pages} :
    ask cursor = .ok page →
    page.info.hasMore = true →
    Walk ask next (next page.info) pages →
    Walk ask next cursor (page :: pages)

section Walk

variable {ask : Option String → Except Failure (Page β)} {next : Info → Option String}
  {cursor : Option String} {pages other : List (Page β)} {page : List α → Page β} {rest : List α}
  {limit : Nat}

/-- A walk is determined by where it starts. -/
lemma Walk.unique (h : Walk ask next cursor pages) (hother : Walk ask next cursor other) :
    other = pages := by
  induction h generalizing other with
  | last hask hlast =>
    cases hother with
    | last hask' _ =>
      cases hask.symm.trans hask'
      rfl
    | more hask' hmore _ =>
      cases hask.symm.trans hask'
      rw [hlast] at hmore
      cases hmore
  | more hask hmore _ ih =>
    cases hother with
    | last hask' hlast =>
      cases hask.symm.trans hask'
      rw [hlast] at hmore
      cases hmore
    | more hask' _ hrest =>
      cases hask.symm.trans hask'
      rw [ih hrest]

/-- The page of some rows and, as long as there are more than fit, the pages of the others. -/
def pagesOf (page : List α → Page β) (limit : Nat) (rest : List α) : List (Page β) :=
  if 0 < limit ∧ limit < rest.length then page rest :: pagesOf page limit (rest.drop limit)
  else [page rest]
termination_by rest.length
decreasing_by
  rw [List.length_drop]
  omega

/-- The pages of a listing begin with the page of its rows. -/
lemma exists_pagesOf_eq (page : List α → Page β) (limit : Nat) (rest : List α) :
    ∃ others, pagesOf page limit rest = page rest :: others := by
  rw [pagesOf]
  split
  · exact ⟨_, rfl⟩
  · exact ⟨[], rfl⟩

/-- A reader with some rows ahead is given their pages, if each page leads on to the next. -/
lemma walk_pagesOf (hlimit : 0 < limit)
    (hmore : ∀ rest, (page rest).info.hasMore = decide (limit < rest.length))
    (Ahead : List α → Prop)
    (hnext : ∀ rest, Ahead rest → limit < rest.length →
      Ahead (rest.drop limit) ∧ ask (next (page rest).info) = .ok (page (rest.drop limit)))
    (hrest : Ahead rest) (hask : ask cursor = .ok (page rest)) :
    Walk ask next cursor (pagesOf page limit rest) := by
  fun_induction pagesOf page limit rest generalizing cursor with
  | case1 rest hlong ih =>
    obtain ⟨hahead, hgo⟩ := hnext rest hrest hlong.2
    refine .more hask ?_ (ih hahead hgo)
    rw [hmore, decide_eq_true hlong.2]
  | case2 rest hshort =>
    have hle : ¬ limit < rest.length := fun hlt => hshort ⟨hlimit, hlt⟩
    refine .last hask ?_
    rw [hmore, decide_eq_false hle]

/-- Pages that begin with the nearest rows show all rows. -/
lemma flatMap_pagesOf {display : α → β} (hlimit : 0 < limit)
    (hrows : ∀ rest, (page rest).rows = (rest.take limit).map display) (rest : List α) :
    (pagesOf page limit rest).flatMap Page.rows = rest.map display := by
  fun_induction pagesOf page limit rest with
  | case1 rest _ ih =>
    rw [List.flatMap_cons, ih, hrows, ← List.map_append, List.take_append_drop]
  | case2 rest hshort =>
    have hle : rest.length ≤ limit := by omega
    rw [List.flatMap_singleton, hrows, List.take_of_length_le hle]

/-- Pages that end with the nearest rows show all rows, if each is put in front of the others. -/
lemma flatMap_reverse_pagesOf {display : α → β} (hlimit : 0 < limit)
    (hrows : ∀ rest, (page rest).rows = (rest.take limit).reverse.map display) (rest : List α) :
    (pagesOf page limit rest).reverse.flatMap Page.rows = rest.reverse.map display := by
  fun_induction pagesOf page limit rest with
  | case1 rest _ ih =>
    rw [List.reverse_cons, List.flatMap_append, ih, List.flatMap_singleton, hrows,
      ← List.map_append, ← List.reverse_append, List.take_append_drop]
  | case2 rest hshort =>
    have hle : rest.length ≤ limit := by omega
    rw [List.reverse_singleton, List.flatMap_singleton, hrows, List.take_of_length_le hle]

/-- Two pages in a row are those of some rows and of the rows that follow these. -/
lemma exists_of_pagesOf_eq {seen : List (Page β)} {p q : Page β}
    (h : pagesOf page limit rest = seen ++ p :: q :: pages) :
    ∃ n, 0 < limit ∧ limit < (rest.drop n).length ∧ p = page (rest.drop n) ∧
      q = page ((rest.drop n).drop limit) := by
  induction seen generalizing rest with
  | nil =>
    rw [pagesOf] at h
    split at h
    · next hlong =>
      obtain ⟨others, hothers⟩ := exists_pagesOf_eq page limit (rest.drop limit)
      rw [hothers] at h
      cases h
      exact ⟨0, hlong.1, hlong.2, rfl, rfl⟩
    · cases h
  | cons first seen ih =>
    rw [pagesOf] at h
    split at h
    · obtain ⟨n, hlimit, hlong, hp, hq⟩ := ih (List.cons.inj h).2
      have hdrop : (rest.drop limit).drop n = rest.drop (limit + n) := List.drop_drop
      rw [hdrop] at hlong hp hq
      exact ⟨limit + n, hlimit, hlong, hp, hq⟩
    · have hnil := (List.cons.inj h).2
      cases seen <;> cases hnil

end Walk

/-- The last of the rows that fit on a page, and those that do not. -/
lemma exists_take_eq {rest : List α} {limit : Nat} (hlimit : 0 < limit)
    (hlong : limit < rest.length) :
    ∃ init row, rest.take limit = init ++ [row] ∧ rest = init ++ row :: rest.drop limit := by
  obtain hnil | ⟨init, row, hconcat⟩ := List.eq_nil_or_concat (rest.take limit)
  · have hlength := congrArg List.length hnil
    rw [List.length_take, List.length_nil] at hlength
    omega
  · rw [List.concat_eq_append] at hconcat
    refine ⟨init, row, hconcat, ?_⟩
    calc rest = rest.take limit ++ rest.drop limit := (List.take_append_drop limit rest).symm
      _ = init ++ row :: rest.drop limit := by rw [hconcat, List.append_assoc]; rfl

/-- A walk from the start of a listing. -/
abbrev Forward (ask : Request → Except Failure (Page β)) (limit : Nat) : List (Page β) → Prop :=
  Walk (fun cursor => ask ⟨cursor, none, limit⟩) Info.lastId none

/-- A walk back from a row, the pages in the order in which the reader gets them. -/
abbrev Backward (ask : Request → Except Failure (Page β)) (limit : Nat) (id : String) :
    List (Page β) → Prop :=
  Walk (fun cursor => ask ⟨none, cursor, limit⟩) Info.firstId (some id)

/-- Every page that a reader can ask for is cut out of a listing. -/
structure Answers (ask : Request → Except Failure (Page β)) (limit : Nat) (idOf : α → String)
    (display : α → β) (listed : List α) : Prop where
  start : ask ⟨none, none, limit⟩ = .ok ((pageAhead idOf limit listed).map display)
  after {front row back} : listed = front ++ row :: back →
    ask ⟨some (idOf row), none, limit⟩ = .ok ((pageAhead idOf limit back).map display)
  before {front row back} : listed = front ++ row :: back →
    ask ⟨none, some (idOf row), limit⟩ = .ok ((pageBehind idOf limit front.reverse).map display)

/-- A listing can be read page by page, in both directions. -/
structure Paged (ask : Request → Except Failure (Page β)) (limit : Nat) (idOf : α → String)
    (display : α → β) (listed : List α) : Prop where
  ends : ∃! pages, Forward ask limit pages
  shows : ∀ pages, Forward ask limit pages → pages.flatMap Page.rows = listed.map display
  endsBack : ∀ front row back, listed = front ++ row :: back →
    ∃! pages, Backward ask limit (idOf row) pages
  showsBack : ∀ front row back pages, listed = front ++ row :: back →
    Backward ask limit (idOf row) pages → pages.reverse.flatMap Page.rows = front.map display
  turns : ∀ seen p q pages, Forward ask limit (seen ++ p :: q :: pages) →
    ∃ page, ask ⟨none, q.info.firstId, limit⟩ = .ok page ∧ page.rows = p.rows

namespace Answers

variable {ask : Request → Except Failure (Page β)} {limit : Nat} {idOf : α → String}
  {display : α → β} {listed front back : List α} {row : α}

/-- What is answered page by page ahead is a walk through the listing. -/
lemma forward (h : Answers ask limit idOf display listed) (hlimit : 0 < limit) :
    Forward ask limit
      (pagesOf (fun rest => (pageAhead idOf limit rest).map display) limit listed) := by
  -- the rows ahead of the reader are always the last rows of the listing
  refine walk_pagesOf hlimit (fun _ => rfl) (fun rest => ∃ front, listed = front ++ rest) ?_
    ⟨[], rfl⟩ h.start
  rintro rest ⟨front, hlisted⟩ hlong
  obtain ⟨init, row, htake, hrest⟩ := exists_take_eq hlimit hlong
  have hsplit : listed = (front ++ init) ++ row :: rest.drop limit := by
    rw [hlisted, List.append_assoc, ← hrest]
  have hlast : ((pageAhead idOf limit rest).map display).info.lastId = some (idOf row) := by
    simp [Page.map, pageAhead, ofRows, htake]
  rw [hlast]
  refine ⟨⟨front ++ rest.take limit, ?_⟩, h.after hsplit⟩
  rw [hlisted, List.append_assoc, List.take_append_drop]

/-- What is answered page by page behind a row is a walk back to the start. -/
lemma backward (h : Answers ask limit idOf display listed) (hlimit : 0 < limit)
    (hlisted : listed = front ++ row :: back) :
    Backward ask limit (idOf row)
      (pagesOf (fun rest => (pageBehind idOf limit rest).map display) limit front.reverse) := by
  -- the rows behind the reader are always the first rows of the listing, the nearest first
  refine walk_pagesOf hlimit (fun _ => rfl) (fun rest => ∃ back, listed = rest.reverse ++ back) ?_
    ⟨row :: back, by rw [hlisted, List.reverse_reverse]⟩ (h.before hlisted)
  rintro rest ⟨back, hlisted⟩ hlong
  obtain ⟨init, row, htake, hrest⟩ := exists_take_eq hlimit hlong
  have hsplit : listed = (rest.drop limit).reverse ++ row :: (init.reverse ++ back) := by
    calc listed = rest.reverse ++ back := hlisted
      _ = (init ++ row :: rest.drop limit).reverse ++ back := by rw [← hrest]
      _ = (rest.drop limit).reverse ++ row :: (init.reverse ++ back) := by simp
  have hfirst : ((pageBehind idOf limit rest).map display).info.firstId = some (idOf row) := by
    simp [Page.map, pageBehind, ofRows, htake]
  rw [hfirst]
  refine ⟨⟨_, hsplit⟩, ?_⟩
  have hbefore := h.before hsplit
  rwa [List.reverse_reverse] at hbefore

/-- Before the first row of a page, the listing ends with the page that was seen before. -/
lemma turns (h : Answers ask limit idOf display listed) {seen pages : List (Page β)}
    {p q : Page β}
    (hpages : pagesOf (fun rest => (pageAhead idOf limit rest).map display) limit listed =
      seen ++ p :: q :: pages) :
    ∃ page, ask ⟨none, q.info.firstId, limit⟩ = .ok page ∧ page.rows = p.rows := by
  obtain ⟨n, hlimit, hlong, rfl, rfl⟩ := exists_of_pagesOf_eq hpages
  generalize hrest : listed.drop n = rest at hlong
  cases hnext : rest.drop limit with
  | nil =>
    have hlength := congrArg List.length hnext
    rw [List.length_drop, List.length_nil] at hlength
    omega
  | cons row more =>
    have hsplit : listed = (listed.take n ++ rest.take limit) ++ row :: more := by
      rw [← hnext, List.append_assoc, List.take_append_drop, ← hrest, List.take_append_drop]
    have hfirst : ((pageAhead idOf limit (row :: more)).map display).info.firstId =
        some (idOf row) := by
      simp [Page.map, pageAhead, ofRows, List.head?_take, Nat.ne_of_gt hlimit]
    rw [hfirst]
    refine ⟨_, h.before hsplit, ?_⟩
    -- the page before is full, so the nearest rows are all its rows
    have hlength : (rest.take limit).reverse.length = limit := by
      rw [List.length_reverse, List.length_take, Nat.min_eq_left (Nat.le_of_lt hlong)]
    have hnearest : (listed.take n ++ rest.take limit).reverse.take limit =
        (rest.take limit).reverse := by
      rw [List.reverse_append, List.take_left' hlength]
    show List.map display (List.reverse _) = List.map display (rest.take limit)
    rw [hnearest, List.reverse_reverse]

/-- If every page is cut out of a listing, the listing can be read page by page. -/
theorem paged (h : Answers ask limit idOf display listed) (hlimit : 0 < limit) :
    Paged ask limit idOf display listed where
  ends := ⟨_, h.forward hlimit, fun _ hother => (h.forward hlimit).unique hother⟩
  shows := by
    intro pages hpages
    rw [(h.forward hlimit).unique hpages]
    exact flatMap_pagesOf hlimit (fun _ => rfl) listed
  endsBack := by
    intro front row back hlisted
    exact ⟨_, h.backward hlimit hlisted, fun _ hother => (h.backward hlimit hlisted).unique hother⟩
  showsBack := by
    intro front row back pages hlisted hpages
    rw [(h.backward hlimit hlisted).unique hpages,
      flatMap_reverse_pagesOf hlimit (fun _ => rfl) front.reverse, List.reverse_reverse]
  turns := by
    intro seen p q pages hpages
    exact h.turns ((h.forward hlimit).unique hpages).symm

end Answers

end Symposium.Page
