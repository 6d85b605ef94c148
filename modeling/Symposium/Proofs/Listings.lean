import Symposium.Proofs.Clocks
import Symposium.Proofs.Visits
import Symposium.Proofs.Walks

/-!
# Listings

The listings of an office are read page by page. The rows of each have different keys, as its store
keeps one row under each id, and their starts can be put in order, as the clock has always had an
offset. Main statement: whatever has happened, a reader to whom a listing is allowed can read it
page by page with any limit, forward and backward, and is shown the rows that it asks for in order.
-/

namespace Symposium

namespace Page

variable {α β : Type} {key : α → SortKey} {descending : Bool} {rows : List α} {limit : Nat}
  {ask : Request → Except Failure (Page β)} {display : α → β}

/-- What a request that is made by way of the rows means. -/
inductive Means (key : α → SortKey) (rows : List α) (limit : Nat) : Request → Place → Prop where
  | start :
    Means key rows limit ⟨none, none, limit⟩ .start
  | after {row} :
    row ∈ rows →
    Means key rows limit ⟨some (key row).id, none, limit⟩ (.after (key row))
  | before {row} :
    row ∈ rows →
    Means key rows limit ⟨none, some (key row).id, limit⟩ (.before (key row))

namespace Means

variable {request : Request} {place : Place}

/-- A request with a meaning passes the check of its limit and its cursors. -/
lemma check (h : Means key rows limit request place) {most : Int} (hlimit : 0 < limit)
    (hmost : (limit : Int) ≤ most) :
    Failure.ofRefusal (request.check most) = .ok () := by
  have hleast : leastLimit ≤ (limit : Int) := by
    rw [leastLimit]
    omega
  cases h <;> simp [Request.check, hleast, hmost, Failure.ofRefusal, Except.mapError]

/-- A request is placed where it means. -/
lemma place_eq (h : Means key rows limit request place) (keyOf : String → Option SortKey)
    (hkey : ∀ row ∈ rows, keyOf (key row).id = some (key row)) :
    Failure.ofRefusal (request.place keyOf) = .ok place := by
  cases h with
  | start => rfl
  | after hrow => simp [Request.place, hkey _ hrow, Failure.ofRefusal, Except.mapError]
  | before hrow => simp [Request.place, hkey _ hrow, Failure.ofRefusal, Except.mapError]

/-- A request with a meaning has the limit that it is meant to have. -/
lemma limit_eq (h : Means key rows limit request place) : request.limit = limit := by
  cases h <;> rfl

/-- A request means the same among more rows. -/
lemma mono {more : List α} (h : Means key rows limit request place) (hrows : rows ⊆ more) :
    Means key more limit request place := by
  cases h with
  | start => exact .start
  | after hrow => exact .after (hrows hrow)
  | before hrow => exact .before (hrows hrow)

end Means

/-- If every request is answered by a cut of the same rows, pages are cut out of their listing. -/
lemma answers_of_cut (hkeys : (rows.map key).Nodup)
    (hask : ∀ request place, Means key rows limit request place →
      ask request = .ok ((cut key descending place limit rows).map display)) :
    Answers ask limit (fun r => (key r).id) display (sortRows key descending rows) where
  start := by rw [hask _ _ .start, cut_start]
  after := by
    intro front row back hlisted
    have hrow : row ∈ rows := by
      rw [← (sortRows_perm key descending rows).mem_iff, hlisted]
      exact List.mem_append_right front List.mem_cons_self
    rw [hask _ _ (.after hrow), cut_after hkeys hlisted]
  before := by
    intro front row back hlisted
    have hrow : row ∈ rows := by
      rw [← (sortRows_perm key descending rows).mem_iff, hlisted]
      exact List.mem_append_right front List.mem_cons_self
    rw [hask _ _ (.before hrow), cut_before hkeys hlisted]

/-- Rows of some kind, each of them once and in order. -/
structure Lists (key : α → SortKey) (descending : Bool) (kind : α → Prop) (listed : List α) :
    Prop where
  ordered : Ordered key descending listed
  mem_iff : ∀ row, row ∈ listed ↔ kind row

/-- What is read page by page if every request is answered by a cut of the same rows. -/
theorem exists_paged {kind : α → Prop} {idOf : α → String} (rows : List α)
    (hid : ∀ row, idOf row = (key row).id) (hids : (rows.map idOf).Nodup)
    (hkind : ∀ row, row ∈ rows ↔ kind row) (hlimit : 0 < limit)
    (hask : ∀ request place, Means key rows limit request place →
      ask request = .ok ((cut key descending place limit rows).map display)) :
    ∃ listed, Lists key descending kind listed ∧ Paged ask limit idOf display listed := by
  obtain rfl : idOf = fun row => (key row).id := funext hid
  have hkeys : (rows.map key).Nodup := List.pairwise_map.2 <|
    (List.pairwise_map.1 hids).imp fun hne hkey => hne (congrArg SortKey.id hkey)
  refine ⟨sortRows key descending rows, ⟨ordered_sortRows hkeys, ?_⟩,
    (answers_of_cut hkeys hask).paged hlimit⟩
  intro row
  rw [(sortRows_perm key descending rows).mem_iff, hkind]

end Page

/-- A test that tells whether rows are of some kind keeps those that are. -/
lemma Failure.exists_keep {α : Type} {test : α → Except Failure Bool} {kind : α → Prop}
    (rows : List α)
    (h : ∀ row ∈ rows, ∃ found, test row = .ok found ∧ (found = true ↔ kind row)) :
    ∃ kept, keep test rows = .ok kept ∧ kept.Sublist rows ∧
      ∀ row, row ∈ kept ↔ row ∈ rows ∧ kind row := by
  -- the kind is a proposition, and the test decides it only among the rows
  classical
  refine ⟨rows.filter fun row => decide (kind row), keep_of_total fun row hrow => ?_,
    List.filter_sublist, fun row => by simp⟩
  obtain ⟨found, htest, hfound⟩ := h row hrow
  rw [htest, Except.ok.injEq, Bool.eq_iff_iff, hfound, decide_eq_true_iff]

/-- With offsets, a window is listed if it is not over or past ones are asked for. -/
lemma Window.exists_isListed {window : Window} {now : Timestamp} (hwindow : window.isAware = true)
    (hnow : now.isAware = true) (includePast : Bool) :
    ∃ found, window.isListed includePast now = .ok found ∧
      (found = true ↔ includePast = true ∨ now.instant < window.endsAt.instant) := by
  cases includePast with
  | true => exact ⟨true, rfl, by simp⟩
  | false =>
    have hends : window.endsAt.isAware = true := (Bool.and_eq_true_iff.1 hwindow).2
    exact ⟨_, Timestamp.isBefore_of_aware hnow hends, by simp⟩

namespace Query

/-- What conferences are sorted by that fit a query. -/
def key (query : Query) : Conference → Page.SortKey :=
  match query.sortBy with
  | .created => Programme.idKey
  | .start => Programme.startKey

/-- The key of a conference has its id. -/
lemma id_eq_key (query : Query) (c : Conference) : c.id = (query.key c).id := by
  unfold key
  cases query.sortBy <;> rfl

/-- What a query asks of a conference. -/
structure Matches (query : Query) (now : Timestamp) (c : Conference) : Prop where
  status : c.status = query.status
  listed : query.includePast = true ∨ now.instant < c.window.endsAt.instant
  title : ∀ part ∈ query.title, Text.containsFolded part c.talk.title = true
  host : ∀ hostId ∈ query.hostId, hostId = c.hostId
  latest : ∀ bound ∈ query.startsBefore, c.window.startsAt.instant < bound.instant
  earliest : ∀ bound ∈ query.startsAfter, bound.instant < c.window.startsAt.instant

/-- Whether the bounds of a query have offsets, as all have that are read. -/
structure IsAware (query : Query) : Prop where
  before : ∀ bound ∈ query.startsBefore, bound.isAware = true
  after : ∀ bound ∈ query.startsAfter, bound.isAware = true

variable {query : Query} {now startsAt : Timestamp} {c : Conference}

/-- With offsets, a start fits if it is before the bound that was given. -/
lemma IsAware.exists_fitsLatest (h : query.IsAware) (hstart : startsAt.isAware = true) :
    ∃ found, query.fitsLatest startsAt = .ok found ∧
      (found = true ↔ ∀ bound ∈ query.startsBefore, startsAt.instant < bound.instant) := by
  cases hbound : query.startsBefore with
  | none => exact ⟨true, by simp [fitsLatest, hbound], by simp⟩
  | some bound =>
    refine ⟨decide (startsAt.instant < bound.instant), ?_, by simp⟩
    simp only [fitsLatest, hbound]
    exact Timestamp.isBefore_of_aware hstart (h.before bound hbound)

/-- With offsets, a start fits if it is after the bound that was given. -/
lemma IsAware.exists_fitsEarliest (h : query.IsAware) (hstart : startsAt.isAware = true) :
    ∃ found, query.fitsEarliest startsAt = .ok found ∧
      (found = true ↔ ∀ bound ∈ query.startsAfter, bound.instant < startsAt.instant) := by
  cases hbound : query.startsAfter with
  | none => exact ⟨true, by simp [fitsEarliest, hbound], by simp⟩
  | some bound =>
    refine ⟨decide (bound.instant < startsAt.instant), ?_, by simp⟩
    simp only [fitsEarliest, hbound]
    exact Timestamp.isBefore_of_aware (h.after bound hbound) hstart

/-- With offsets, a conference fits exactly if it matches the query. -/
lemma IsAware.exists_fits (h : query.IsAware) (hnow : now.isAware = true)
    (hc : c.window.isAware = true) :
    ∃ found, query.fits now c = .ok found ∧ (found = true ↔ query.Matches now c) := by
  have hstart : c.window.startsAt.isAware = true := (Bool.and_eq_true_iff.1 hc).1
  obtain ⟨listed, hlisted, listed_iff⟩ := Window.exists_isListed hc hnow query.includePast
  obtain ⟨latest, hlatest, latest_iff⟩ := h.exists_fitsLatest hstart
  obtain ⟨earliest, hearliest, earliest_iff⟩ := h.exists_fitsEarliest hstart
  refine ⟨_, by rw [fits, hlisted, hlatest, hearliest, Failure.both_ok, Failure.both_ok,
    Failure.both_ok, Failure.both_ok], ?_⟩
  simp only [Bool.and_eq_true, listed_iff, latest_iff, earliest_iff, beq_iff_eq, fitsTitle,
    fitsHost, Option.all_eq_true]
  constructor
  · rintro ⟨hstatus, hlisted, ⟨htitle, hhost⟩, hlatest, hearliest⟩
    exact ⟨hstatus, hlisted, htitle, hhost, hlatest, hearliest⟩
  · rintro ⟨hstatus, hlisted, htitle, hhost, hlatest, hearliest⟩
    exact ⟨hstatus, hlisted, ⟨htitle, hhost⟩, hlatest, hearliest⟩

end Query

/-- Nobody has two seats at one conference. -/
lemma Roll.nodup_users (roll : Roll) (id : String) :
    ((roll.seatsOf id).map Registration.userId).Nodup := by
  have hkeys := List.pairwise_map.1 roll.distinct
  refine List.pairwise_map.2 (List.pairwise_filter.2 (hkeys.imp fun {r s} hne hr hs huser => ?_))
  rw [beq_iff_eq] at hr hs
  exact hne (Prod.ext (hr.trans hs.symm) huser)

/-- No conference is among those of a user twice. -/
lemma Roll.nodup_conferencesOf (roll : Roll) (programme : Programme) (userId : String) :
    ((roll.conferencesOf programme userId).map Conference.id).Nodup := by
  -- two seats of one user are at different conferences
  have hkeys := List.pairwise_map.1 roll.distinct
  refine List.pairwise_map.2 (List.pairwise_filterMap.2 (List.pairwise_filter.2 ?_))
  refine hkeys.imp fun {r s} hne hr hs c hc d hd hid => ?_
  rw [beq_iff_eq] at hr hs
  have hc := (Programme.find?_eq_some_iff_mem.1 hc).2.1
  have hd := (Programme.find?_eq_some_iff_mem.1 hd).2.1
  exact hne (Prod.ext (hc.symm.trans (hid.trans hd)) (hr.trans hs.symm))

namespace Programme

variable {programme : Programme} {rows known : List Conference} {request : Page.Request}
  {place : Page.Place} {limit : Nat}

/-- Whatever page is asked for, the starts that are compared have offsets if all windows have. -/
lemma allComparable_comparedStarts (request : Page.Request) (hrows : rows ⊆ programme.rows)
    (aware : ∀ c ∈ programme.rows, c.window.isAware = true) :
    Timestamp.allComparable (programme.comparedStarts request rows) = true := by
  have hstart {c : Conference} (hc : c ∈ programme.rows) : c.window.startsAt.isAware = true :=
    (Bool.and_eq_true_iff.1 (aware c hc)).1
  have hstarts : ∀ t ∈ rows.map (·.window.startsAt), t.isAware = true := by
    intro t ht
    obtain ⟨c, hc, rfl⟩ := List.mem_map.1 ht
    exact hstart (hrows hc)
  apply Timestamp.allComparable_of_aware
  unfold comparedStarts
  cases request.afterId.or request.beforeId with
  | none => exact hstarts
  | some id =>
    cases hget : programme.get? id with
    | none =>
      simp only [hget]
      exact List.forall_mem_nil _
    | some cursor =>
      simp only [hget]
      exact List.forall_mem_cons.2 ⟨hstart (Table.mem_of_get? hget), hstarts⟩

/-- In order of their starts, a page of conferences with offsets is a cut at any conference. -/
lemma pageByStart_eq_ok (descending : Bool) (hrows : rows ⊆ programme.rows)
    (aware : ∀ c ∈ programme.rows, c.window.isAware = true)
    (means : Page.Means startKey programme.rows limit request place) :
    programme.pageByStart request descending rows =
      .ok (Page.cut startKey descending place limit rows) := by
  have hplace := means.place_eq programme.startKeyOf fun c hc => by
    have hget : programme.get? (startKey c).id = some c := Table.mem_rows_iff.1 hc
    rw [startKeyOf, hget]
    rfl
  refine Failure.bind_eq_ok_iff.2 ⟨place, hplace, ?_⟩
  rw [if_pos (allComparable_comparedStarts request hrows aware), means.limit_eq]
  rfl

/-- A page by ids that is asked for with a meaning is the cut at that place. -/
lemma pageById_eq_ok (descending : Bool) (means : Page.Means idKey known limit request place) :
    pageById request descending rows = .ok (Page.cut idKey descending place limit rows) := by
  have hplace := means.place_eq (some ∘ Page.SortKey.ofId) fun _ _ => rfl
  rw [pageById, means.limit_eq]
  exact Failure.bind_eq_ok_iff.2 ⟨place, hplace, rfl⟩

end Programme

namespace Principal

variable {principal : Principal} {query narrowed : Query}

/-- A query that is narrowed only names another host, whatever page is asked for. -/
lemma exists_hostId_of_scope (h : principal.scope query = .ok narrowed) :
    ∃ hostId, narrowed = { query with hostId } ∧ ∀ page,
      principal.scope { query with page } = .ok { query with hostId, page } := by
  rw [scope] at h
  simp only [scope]
  split at h
  · next hopen =>
    cases h
    refine ⟨query.hostId, rfl, fun page => ?_⟩
    rw [if_pos hopen]
  -- a plain user is narrowed to their own proposals, or asks for these anyway
  · next hnarrow =>
    split at h
    · cases h
      refine ⟨principal.id, rfl, fun page => ?_⟩
      rw [if_neg hnarrow]
    · next hostId hhost =>
      split at h
      · next huser =>
        cases h
        refine ⟨query.hostId, rfl, fun page => ?_⟩
        rw [if_neg hnarrow, hhost]
        exact if_pos huser
      · cases h

end Principal

namespace Office

variable {office : Office} {principal : Principal} {limit : Nat} {id : String}

/-- The participants are paged in order of their ids. -/
lemma participants_paged {row : Conference} (hfind : office.programme.find? id = some row)
    (hoversees : principal.oversees row = true) (hlimit : 0 < limit)
    (hmost : (limit : Int) ≤ office.policy.pageLimit) :
    ∃ listed, Page.Lists Roll.userKey false
        (fun r => r ∈ office.roll.rows ∧ r.conferenceId = id) listed ∧
      Page.Paged (office.participants principal id) limit Registration.userId
        Participant.ofRegistration listed := by
  refine Page.exists_paged (office.roll.seatsOf id) (fun _ => rfl) (office.roll.nodup_users id) ?_
    hlimit ?_
  · intro r
    simp [Roll.seatsOf]
  · intro request place means
    have hpage : office.roll.pageOf id request =
        .ok (Page.cut Roll.userKey false place limit (office.roll.seatsOf id)) := by
      have hplace := means.place_eq (some ∘ Page.SortKey.ofId) fun _ _ => rfl
      rw [Roll.pageOf, means.limit_eq]
      exact Failure.bind_eq_ok_iff.2 ⟨place, hplace, rfl⟩
    have hload := loadVisible_eq_ok_iff.2 ⟨hfind, Principal.sees_of_oversees hoversees⟩
    refine Failure.bind_eq_ok_iff.2 ⟨(), means.check hlimit hmost, ?_⟩
    refine Failure.bind_eq_ok_iff.2 ⟨row, hload, ?_⟩
    refine Failure.bind_eq_ok_iff.2 ⟨(), Failure.require_eq_ok_iff.2 hoversees, ?_⟩
    exact Failure.bind_eq_ok_iff.2 ⟨_, hpage, rfl⟩

/-- The feedback that is left is paged in order of its ids. -/
lemma notes_paged {row : Conference} (hfind : office.programme.find? id = some row)
    (hsees : principal.sees row = true) (hlimit : 0 < limit)
    (hmost : (limit : Int) ≤ office.policy.pageLimit) :
    ∃ listed, Page.Lists FeedbackBook.idKey false
        (fun f => f ∈ office.feedback.rows ∧ f.conferenceId = id ∧ f.isLive = true) listed ∧
      Page.Paged (office.notes principal id) limit Feedback.id Feedback.Note.ofFeedback listed := by
  have hids : ((office.feedback.notesOn id).map Feedback.id).Nodup :=
    office.feedback.distinct.sublist (List.filter_sublist.map Feedback.id)
  refine Page.exists_paged (office.feedback.notesOn id) (fun _ => rfl) hids ?_ hlimit ?_
  · intro f
    simp [FeedbackBook.notesOn]
  · intro request place means
    have hpage : office.feedback.pageOn id request =
        .ok (Page.cut FeedbackBook.idKey false place limit (office.feedback.notesOn id)) := by
      have hplace := means.place_eq (some ∘ Page.SortKey.ofId) fun _ _ => rfl
      rw [FeedbackBook.pageOn, means.limit_eq]
      exact Failure.bind_eq_ok_iff.2 ⟨place, hplace, rfl⟩
    refine Failure.bind_eq_ok_iff.2 ⟨(), means.check hlimit hmost, ?_⟩
    refine Failure.bind_eq_ok_iff.2 ⟨row, loadVisible_eq_ok_iff.2 ⟨hfind, hsees⟩, ?_⟩
    exact Failure.bind_eq_ok_iff.2 ⟨_, hpage, rfl⟩

/-- The conferences of a user are paged in order of their starts. -/
lemma conferencesOf_paged {userId : String} {includePast : Bool} {now : Timestamp}
    (aware : ∀ c ∈ office.programme.rows, c.window.isAware = true) (hnow : now.isAware = true)
    (hallowed : principal.isRestricted = false ∨ principal.id = some userId) (hlimit : 0 < limit)
    (hmost : (limit : Int) ≤ office.policy.pageLimit) :
    ∃ listed, Page.Lists Programme.startKey false
        (fun c => office.programme.find? c.id = some c ∧ office.roll.has c.id userId = true ∧
          (includePast = true ∨ now.instant < c.window.endsAt.instant)) listed ∧
      Page.Paged (fun request => office.conferencesOf principal userId includePast request now)
        limit Conference.id office.card listed := by
  have hrow {c : Conference} (hc : c ∈ office.roll.conferencesOf office.programme userId) :
      c ∈ office.programme.rows :=
    (Programme.find?_eq_some_iff_mem.1 (Roll.mem_conferencesOf_iff.1 hc).1).1
  obtain ⟨rows, hkeep, hsublist, hmem⟩ := Failure.exists_keep
    (office.roll.conferencesOf office.programme userId) fun c hc =>
      Window.exists_isListed (aware c (hrow hc)) hnow includePast
  have hids : (rows.map Conference.id).Nodup :=
    (office.roll.nodup_conferencesOf office.programme userId).sublist (hsublist.map Conference.id)
  refine Page.exists_paged rows (fun _ => rfl) hids ?_ hlimit ?_
  · intro c
    rw [hmem, Roll.mem_conferencesOf_iff, and_assoc]
  -- whatever the page, the same rows are kept and cut
  · intro request place means
    have hrows : rows ⊆ office.programme.rows := fun c hc => hrow (hsublist.subset hc)
    have hpage := Programme.pageByStart_eq_ok false hrows aware (means.mono hrows)
    have hright : (!principal.isRestricted || principal.isUser userId) = true := by
      rw [Bool.or_eq_true, Bool.not_eq_true', Principal.isUser_iff]
      exact hallowed
    refine Failure.bind_eq_ok_iff.2 ⟨(), means.check hlimit hmost, ?_⟩
    refine Failure.bind_eq_ok_iff.2 ⟨(), Failure.require_eq_ok_iff.2 hright, ?_⟩
    refine Failure.bind_eq_ok_iff.2 ⟨_, Failure.bind_eq_ok_iff.2 ⟨rows, hkeep, hpage⟩, rfl⟩

/-- A page of a listing is cut out of the rows that fit, at any row of the programme. -/
lemma list_eq_cut {query narrowed : Query} {now : Timestamp}
    (aware : ∀ c ∈ office.programme.rows, c.window.isAware = true) (hnow : now.isAware = true)
    (hquery : query.IsAware) (hscope : principal.scope query = .ok narrowed) (hlimit : 0 < limit)
    (hmost : (limit : Int) ≤ office.policy.pageLimit) :
    ∃ rows, (rows.map Conference.id).Nodup ∧
      (∀ c, c ∈ rows ↔ c ∈ office.programme.rows ∧ c.isLive = true ∧ narrowed.Matches now c) ∧
      ∀ request place, Page.Means query.key office.programme.rows limit request place →
        office.list principal { query with page := request } now =
          .ok ((Page.cut query.key query.descending place limit rows).map office.card) := by
  obtain ⟨hostId, rfl, hpaged⟩ := principal.exists_hostId_of_scope hscope
  have hrow {c : Conference} (hc : c ∈ office.programme.live) : c ∈ office.programme.rows :=
    (List.mem_filter.1 hc).1
  have hbounds : Query.IsAware { query with hostId } := ⟨hquery.before, hquery.after⟩
  obtain ⟨rows, hkeep, hsublist, hmem⟩ := Failure.exists_keep office.programme.live fun c hc =>
    hbounds.exists_fits hnow (aware c (hrow hc))
  have hids : (rows.map Conference.id).Nodup := by
    have hsublist := hsublist.trans List.filter_sublist
    exact office.programme.distinct.sublist (hsublist.map Conference.id)
  have hrows : rows ⊆ office.programme.rows := fun c hc => hrow (hsublist.subset hc)
  refine ⟨rows, hids, ?_, ?_⟩
  · intro c
    rw [hmem, Programme.live, List.mem_filter, and_assoc]
  · intro request place means
    have hpage : office.programme.list { query with hostId, page := request } now =
        .ok (Page.cut query.key query.descending place limit rows) := by
      refine Failure.bind_eq_ok_iff.2 ⟨rows, hkeep, ?_⟩
      -- the programme has one way of paging for each of the two orders
      cases hsort : query.sortBy with
      | created =>
        have hkey : query.key = Programme.idKey := by rw [Query.key, hsort]
        rw [hkey] at means ⊢
        exact Programme.pageById_eq_ok query.descending means
      | start =>
        have hkey : query.key = Programme.startKey := by rw [Query.key, hsort]
        rw [hkey] at means ⊢
        exact Programme.pageByStart_eq_ok query.descending hrows aware means
    refine Failure.bind_eq_ok_iff.2 ⟨(), means.check hlimit hmost, ?_⟩
    refine Failure.bind_eq_ok_iff.2 ⟨_, hpaged request, ?_⟩
    exact Failure.bind_eq_ok_iff.2 ⟨_, hpage, rfl⟩

/-- What matches a query is paged in the order and the direction that it asks for. -/
lemma list_paged {query narrowed : Query} {now : Timestamp}
    (aware : ∀ c ∈ office.programme.rows, c.window.isAware = true) (hnow : now.isAware = true)
    (hquery : query.IsAware) (hscope : principal.scope query = .ok narrowed) (hlimit : 0 < limit)
    (hmost : (limit : Int) ≤ office.policy.pageLimit) :
    ∃ listed, Page.Lists query.key query.descending
        (fun c => c ∈ office.programme.rows ∧ c.isLive = true ∧ narrowed.Matches now c) listed ∧
      Page.Paged (fun request => office.list principal { query with page := request } now) limit
        Conference.id office.card listed := by
  obtain ⟨rows, hids, hmem, hcut⟩ := list_eq_cut aware hnow hquery hscope hlimit hmost
  refine Page.exists_paged rows query.id_eq_key hids hmem hlimit ?_
  intro request place means
  exact hcut request place (means.mono fun c hc => ((hmem c).1 hc).1)

/-- Visits one after the other, at times that have an offset, are such a run. -/
lemma awareRun_serveAll (office : Office) (visits : List Visit)
    (aware : ∀ t ∈ visits.flatMap Visit.readings, t.isAware = true) :
    Traffic.AwareRun (.quiet office) (.quiet (office.serveAll visits)) := by
  refine office.steps_serveAll visits fun visit hvisit now hnow _ t t' hstep _ => ?_
  exact ⟨now, aware now (List.mem_flatMap_of_mem hvisit hnow), hstep⟩

/-- Visits of which no operation brings a time without an offset are such a run. -/
lemma readRun_serveAll (office : Office) (visits : List Visit)
    (aware : ∀ visit ∈ visits, ∀ t ∈ visit.operation.times, t.isAware = true) :
    Traffic.ReadRun (.quiet office) (.quiet (office.serveAll visits)) := by
  refine office.steps_serveAll visits fun visit hvisit now _ _ t t' hstep hdrafts => ?_
  refine ⟨⟨now, hstep⟩, fun d hd => ?_⟩
  rw [(hdrafts d hd).times_eq]
  exact aware visit hvisit

/--
However the operations overtook each other, with a clock that always had an offset: each listing
that is allowed can be read page by page with any limit, and shows the rows that it asks for once
each and in order.
-/
theorem listings_are_paged (start : Office) (hempty : start.programme = .empty) (t : Traffic)
    (hrun : Traffic.AwareRun (.quiet start) t) (principal : Principal) (now : Timestamp)
    (hnow : now.isAware = true) (limit : Nat) (hlimit : 0 < limit)
    (hmost : (limit : Int) ≤ t.office.policy.pageLimit) :
    (∀ query narrowed : Query, query.IsAware → principal.scope query = .ok narrowed →
      ∃ listed, Page.Lists query.key query.descending
          (fun c => c ∈ t.office.programme.rows ∧ c.isLive = true ∧ narrowed.Matches now c)
          listed ∧
        Page.Paged (fun request => t.office.list principal { query with page := request } now)
          limit Conference.id t.office.card listed) ∧
    (∀ id row, t.office.programme.find? id = some row → principal.oversees row = true →
      ∃ listed, Page.Lists Roll.userKey false
          (fun r => r ∈ t.office.roll.rows ∧ r.conferenceId = id) listed ∧
        Page.Paged (t.office.participants principal id) limit Registration.userId
          Participant.ofRegistration listed) ∧
    (∀ userId includePast, principal.isRestricted = false ∨ principal.id = some userId →
      ∃ listed, Page.Lists Programme.startKey false
          (fun c => t.office.programme.find? c.id = some c ∧
            t.office.roll.has c.id userId = true ∧
            (includePast = true ∨ now.instant < c.window.endsAt.instant)) listed ∧
        Page.Paged
          (fun request => t.office.conferencesOf principal userId includePast request now)
          limit Conference.id t.office.card listed) ∧
    ∀ id row, t.office.programme.find? id = some row → principal.sees row = true →
      ∃ listed, Page.Lists FeedbackBook.idKey false
          (fun f => f ∈ t.office.feedback.rows ∧ f.conferenceId = id ∧ f.isLive = true) listed ∧
        Page.Paged (t.office.notes principal id) limit Feedback.id Feedback.Note.ofFeedback
          listed := by
  have aware := (hrun.aware hempty).rows
  refine ⟨?_, ?_, ?_, ?_⟩
  · intro query narrowed hquery hscope
    exact list_paged aware hnow hquery hscope hlimit hmost
  · intro id row hfind hoversees
    exact participants_paged hfind hoversees hlimit hmost
  · intro userId includePast hallowed
    exact conferencesOf_paged aware hnow hallowed hlimit hmost
  · intro id row hfind hsees
    exact notes_paged hfind hsees hlimit hmost

/-- Three talks are proposed, the last to start first, and one is approved and gets a guest. -/
def series : List Visit :=
  let visit (userId : String) (role : Role) (operation : Operation) : Visit :=
    ⟨⟨some userId, some role⟩, operation, .hour 0, .hour 0⟩
  let propose (userId : String) (window : Window) : Visit :=
    visit userId .user (.propose ⟨default, 2, window⟩)
  [propose "alice" (.hours 13 15), propose "bob" (.hours 11 13), propose "cleo" (.hours 9 11),
    visit "root" .admin (.decide (IdSource.numbered 1) .approved),
    visit "ann" .user (.register (IdSource.numbered 1))]

/-- Asks for the pending talks in order of their starts. -/
def pendingTalks : Query where
  page := ⟨none, none, 2⟩
  status := .pending
  hostId := none
  startsBefore := none
  startsAfter := none
  includePast := false
  sortBy := .start
  descending := false
  title := none

/-- What a coordinator reads one row at a time. -/
theorem listings_are_paged_of_series :
    let office := (start .standard (.scripted [])).serveAll series
    let root : Principal := ⟨some "root", some .admin⟩
    let talk := IdSource.numbered 1
    (∃ pending, Page.Paged
      (fun request => office.list root { pendingTalks with page := request } (.hour 1)) 1
      Conference.id office.card pending) ∧
    (∃ guests, Page.Paged (office.participants root talk) 1 Registration.userId
      Participant.ofRegistration guests) ∧
    (∃ visited, Page.Paged
      (fun request => office.conferencesOf root "ann" false request (.hour 1)) 1
      Conference.id office.card visited) ∧
    ∃ notes, Page.Paged (office.notes root talk) 1 Feedback.id Feedback.Note.ofFeedback notes := by
  intro office root talk
  have hrun := awareRun_serveAll (start .standard (.scripted [])) series (by decide)
  obtain ⟨row, hfind⟩ : ∃ row, office.programme.find? talk = some row :=
    Option.isSome_iff_exists.1 rfl
  obtain ⟨hlist, hparticipants, hconferences, hnotes⟩ := listings_are_paged _ rfl _ hrun root
    (.hour 1) rfl 1 (by decide) (by decide)
  obtain ⟨pending, _, hpending⟩ := hlist pendingTalks pendingTalks ⟨nofun, nofun⟩ rfl
  obtain ⟨guests, _, hguests⟩ := hparticipants talk row hfind rfl
  obtain ⟨visited, _, hvisited⟩ := hconferences "ann" false (.inl rfl)
  obtain ⟨notes, _, hshown⟩ := hnotes talk row hfind
    (Principal.sees_of_not_isRestricted rfl row)
  exact ⟨⟨pending, hpending⟩, ⟨guests, hguests⟩, ⟨visited, hvisited⟩, ⟨notes, hshown⟩⟩

end Office

end Symposium
