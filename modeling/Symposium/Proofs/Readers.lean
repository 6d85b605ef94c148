import Symposium.Proofs.History
import Symposium.Proofs.Listings

/-!
# Readers

A reader walks through a listing of conferences while the office goes on working: conferences come,
change, leave the listing and are withdrawn, the one that the cursor names among them. What the rows
are sorted by is fixed all the same, as ids never change and windows are fixed by decisions. Main
statement: whatever happens between the pages, a reader is shown no conference twice, all in order,
and none is left out that was there each time.
-/

namespace Symposium

namespace Query

/-- What cards are sorted by of conferences that fit a query. -/
def cardKey (query : Query) (card : Card) : Page.SortKey :=
  match query.sortBy with
  | .created => .ofId card.id
  | .start => ⟨card.window.startsAt.instant, card.id⟩

/-- Whether what a conference is sorted by is fixed. -/
def Fixes (query : Query) (c : Conference) : Prop :=
  query.sortBy = .start → c.status ≠ .pending

variable {query narrowed : Query} {before after : Conference} {now : Timestamp}

/-- The key of a card is that of its conference. -/
lemma cardKey_card (query : Query) (office : Office) (c : Conference) :
    query.cardKey (office.card c) = query.key c := by
  unfold cardKey key
  cases query.sortBy <;> rfl

/-- The key of a card has its id. -/
lemma id_eq_cardKey (query : Query) (card : Card) : card.id = (query.cardKey card).id := by
  unfold cardKey
  cases query.sortBy <;> rfl

/-- What is fixed about the key of a conference stays so. -/
lemma Fixes.follows (h : query.Fixes before) (hfollows : before.Follows now after) :
    query.Fixes after ∧ query.key after = query.key before := by
  have hid : after.id = before.id := congrArg Conference.Origin.id hfollows.origin
  unfold Fixes key at *
  cases hsort : query.sortBy with
  | created => exact ⟨nofun, congrArg Page.SortKey.ofId hid⟩
  | start =>
    obtain ⟨hstatus, hwindow⟩ := hfollows.decided (h hsort)
    refine ⟨fun _ => hstatus ▸ h hsort, ?_⟩
    show Programme.startKey after = Programme.startKey before
    rw [Programme.startKey, hwindow, hid]
    rfl

end Query

namespace Page

variable {α : Type} {key : α → SortKey} {descending : Bool} {rows : List α} {k : SortKey}

/-- What follows the last row follows all rows. -/
lemma Ordered.precedes_of_getLast? (h : Ordered key descending rows)
    (hlast : ∀ row ∈ rows.getLast?, SortKey.precedes descending (key row) k = true) :
    ∀ row ∈ rows, SortKey.precedes descending (key row) k = true := by
  obtain rfl | ⟨init, last, rfl⟩ := rows.eq_nil_or_concat
  · exact nofun
  · rw [List.concat_eq_append] at h hlast ⊢
    have hlast := hlast last List.getLast?_concat
    obtain ⟨_, _, hcross⟩ := List.pairwise_append.1 h
    intro row hrow
    obtain hrow | hrow := List.mem_append.1 hrow
    · exact SortKey.precedes_trans (hcross row hrow last List.mem_cons_self) hlast
    · rwa [List.mem_singleton.1 hrow]

end Page

namespace Office

variable {office : Office} {visit : Visit}

/-- A visit whose times have offsets leaves windows with offsets. -/
lemma aware_serve (h : ∀ c ∈ office.programme.rows, c.window.isAware = true)
    (hvisit : ∀ t ∈ visit.readings, t.isAware = true) :
    ∀ c ∈ (office.serve visit).2.programme.rows, c.window.isAware = true := by
  have hrun := awareRun_serveAll office [visit] (by simpa using hvisit)
  exact (hrun.keeps (Traffic.aware_quiet h)).rows

/-- An operation leaves every row as it is, or one that follows it in its place. -/
lemma Performs.follows {principal : Principal} {operation : Operation}
    {checkedAt writtenAt : Timestamp} {result : Except Failure Outcome × Office}
    (performs : Performs office principal checkedAt writtenAt operation result)
    (orderly : office.Orderly) (sound : office.programme.Sound) {before : Conference}
    (hbefore : before ∈ office.programme.rows) :
    ∃ now, ∃ after ∈ result.2.programme.rows, before.Follows now after := by
  cases performs with
  | proposed _ _ _ _ hdraw => exact ⟨checkedAt, follows_put_of_new orderly hdraw hbefore⟩
  | edited hfind _ hallowed _ =>
    obtain ⟨_, _, live⟩ := Programme.find?_eq_some_iff_mem.1 hfind
    exact ⟨_, follows_put_of_find hfind (.of_edit live hallowed) hbefore⟩
  | decided _ hfind hallowed _ =>
    obtain ⟨hrow, _, live⟩ := Programme.find?_eq_some_iff_mem.1 hfind
    have hfollows := Conference.Follows.of_decision live (sound.ordered _ hrow) hallowed
    exact ⟨_, follows_put_of_find hfind hfollows hbefore⟩
  | withdrawn hfind _ =>
    obtain ⟨_, _, live⟩ := Programme.find?_eq_some_iff_mem.1 hfind
    exact ⟨_, follows_put_of_find hfind (.of_withdrawal live) hbefore⟩
  | _ => exact ⟨checkedAt, before, hbefore, .refl⟩

/-- What was decided about a conference stays so during an operation, and so does its window. -/
lemma Performs.decided_stays {principal : Principal} {operation : Operation}
    {checkedAt writtenAt : Timestamp} {result : Except Failure Outcome × Office}
    (performs : Performs office principal checkedAt writtenAt operation result)
    (orderly : office.Orderly) (sound : office.programme.Sound) {before : Conference}
    (hbefore : before ∈ office.programme.rows) (hdecided : before.status ≠ .pending) :
    ∃ after ∈ result.2.programme.rows, after.origin = before.origin ∧
      after.status = before.status ∧ after.window = before.window := by
  obtain ⟨_, after, hafter, hfollows⟩ := performs.follows orderly sound hbefore
  exact ⟨after, hafter, hfollows.origin, hfollows.decided hdecided⟩

/-- A page of a listing shows the first of the rows that lie beyond the row of its cursor. -/
lemma list_ahead {principal : Principal} {query narrowed : Query} {now : Timestamp} {limit : Nat}
    {cursor : Option Conference} (aware : ∀ c ∈ office.programme.rows, c.window.isAware = true)
    (hnow : now.isAware = true) (hquery : query.IsAware)
    (hscope : principal.scope query = .ok narrowed) (hlimit : 0 < limit)
    (hmost : (limit : Int) ≤ office.policy.pageLimit)
    (hcursor : ∀ last ∈ cursor, last ∈ office.programme.rows) :
    ∃ ahead, Page.Lists query.key query.descending
        (fun c => (office.programme.find? c.id = some c ∧ narrowed.Matches now c) ∧
          ∀ last ∈ cursor, Page.SortKey.precedes query.descending (query.key last) (query.key c))
        ahead ∧
      office.list principal { query with page := ⟨cursor.map Conference.id, none, limit⟩ } now =
        .ok ((Page.pageAhead Conference.id limit ahead).map office.card) := by
  obtain ⟨rows, hids, hmem, hcut⟩ := list_eq_cut aware hnow hquery hscope hlimit hmost
  -- rows with different ids have different keys
  have hkeys : (rows.map query.key).Nodup := by
    rw [funext query.id_eq_key] at hids
    exact List.pairwise_map.2 ((List.pairwise_map.1 hids).imp fun hne hkey =>
      hne (congrArg Page.SortKey.id hkey))
  have hfits : ∀ c, c ∈ rows ↔ office.programme.find? c.id = some c ∧ narrowed.Matches now c := by
    intro c
    rw [hmem, Programme.find?_eq_some_iff_mem]
    constructor
    · rintro ⟨hrow, live, hmatches⟩
      exact ⟨⟨hrow, rfl, live⟩, hmatches⟩
    · rintro ⟨⟨hrow, _, live⟩, hmatches⟩
      exact ⟨hrow, live, hmatches⟩
  have hidOf : Conference.id = fun c => (query.key c).id := funext query.id_eq_key
  cases cursor with
  | none =>
    refine ⟨Page.sortRows query.key query.descending rows,
      ⟨Page.ordered_sortRows hkeys, fun c => ?_⟩, ?_⟩
    · rw [(Page.sortRows_perm _ _ _).mem_iff, hfits]
      simp
    · show office.list principal { query with page := ⟨none, none, limit⟩ } now = _
      rw [hcut _ _ .start, Page.cut_start, hidOf]
  | some last =>
    have hlast := hcursor last rfl
    -- what lies beyond the cursor is a part of the rows, in the same order
    have hbeyond := List.filter_sublist (l := rows)
      (p := Page.isBeyond query.key query.descending (query.key last))
    refine ⟨Page.sortRows query.key query.descending
      (rows.filter (Page.isBeyond query.key query.descending (query.key last))),
      ⟨Page.ordered_sortRows (hkeys.sublist (hbeyond.map query.key)), fun c => ?_⟩, ?_⟩
    · rw [(Page.sortRows_perm _ _ _).mem_iff, List.mem_filter, hfits]
      simp [Page.isBeyond]
    · show office.list principal { query with page := ⟨some last.id, none, limit⟩ } now = _
      rw [query.id_eq_key last, hcut _ _ (.after hlast), Page.cut_after_cursor, hidOf]

end Office

/-- A page as a reader got it, with the office in which it was asked for and the time. -/
structure Sight where
  office : Office
  now : Timestamp
  page : Page Card

/-- An office, and what somebody has read in it so far, the latest first. -/
structure Reading where
  office : Office
  sights : List Sight

namespace Reading

/-- The conferences that a reader was shown, in the order in which they were. -/
def shown (reading : Reading) : List Card :=
  reading.sights.reverse.flatMap fun sight => sight.page.rows

/-- Which cursor comes next: none at first, then the last row of the page before. -/
inductive Continues : List Sight → Option String → Prop where
  | first :
    Continues [] none
  | next {sight sights id} :
    sight.page.info.lastId = some id →
    Continues (sight :: sights) (some id)

/-- Somebody visits the office, or the reader asks for the next page of a query. -/
inductive Step (principal : Principal) (query : Query) (limit : Nat) :
    Reading → Reading → Prop where
  | visit {office sights visit} :
    (∀ t ∈ Office.Visit.readings visit, t.isAware = true) →
    Step principal query limit ⟨office, sights⟩ ⟨(office.serve visit).2, sights⟩
  | read {office sights cursor now page} :
    Continues sights cursor →
    now.isAware = true →
    office.list principal { query with page := ⟨cursor, none, limit⟩ } now = .ok page →
    Step principal query limit ⟨office, sights⟩ ⟨office, ⟨office, now, page⟩ :: sights⟩

/-- Any number of visits and pages. -/
abbrev Run (principal : Principal) (query : Query) (limit : Nat) : Reading → Reading → Prop :=
  Relation.ReflTransGen (Step principal query limit)

/-- What is known of an office in which somebody reads. -/
structure Works (query : Query) (reading : Reading) : Prop where
  orderly : reading.office.Orderly
  sound : reading.office.programme.Sound
  aware : ∀ c ∈ reading.office.programme.rows, c.window.isAware = true
  /-- The keys of the rows that were there to be read are those that they have now. -/
  fixed : ∀ sight ∈ reading.sights, ∀ c ∈ sight.office.programme.rows, query.Fixes c →
    ∃ row ∈ reading.office.programme.rows, query.Fixes row ∧ query.key row = query.key c

/-- What is known of the pages that were read. -/
structure Shows (query narrowed : Query) (reading : Reading) : Prop where
  lastId : ∀ sight ∈ reading.sights,
    sight.page.info.lastId = sight.page.rows.getLast?.map Card.id
  stored : ∀ sight ∈ reading.sights, ∀ card ∈ sight.page.rows,
    ∃ c ∈ sight.office.programme.rows, query.Fixes c ∧ query.cardKey card = query.key c
  ordered : Page.Ordered query.cardKey query.descending reading.shown
  /-- What was there each time was shown, or it lies beyond the last page. -/
  complete : ∀ key : Page.SortKey,
    (∀ sight ∈ reading.sights, ∃ c, sight.office.programme.find? key.id = some c ∧
      narrowed.Matches sight.now c ∧ query.key c = key) →
    key ∈ reading.shown.map query.cardKey ∨
      (∀ sight ∈ reading.sights.head?, sight.page.info.hasMore = true) ∧
        ∀ card ∈ reading.shown, Page.SortKey.precedes query.descending (query.cardKey card) key

variable {principal : Principal} {query narrowed : Query} {limit : Nat} {reading later : Reading}
  {office : Office} {sights : List Sight} {sight : Sight} {cursor : Option String}
  {now : Timestamp} {page : Page Card}

/-- What is shown grows by the page that is read. -/
lemma shown_cons (office : Office) (sight : Sight) (sights : List Sight) :
    shown ⟨office, sight :: sights⟩ = shown ⟨office, sights⟩ ++ sight.page.rows := by
  simp [shown]

/-- What is known of the office is kept by visits between two pages. -/
lemma Works.visit (h : Works query ⟨office, sights⟩) {visit : Office.Visit}
    (hvisit : ∀ t ∈ visit.readings, t.isAware = true) :
    Works query ⟨(office.serve visit).2, sights⟩ where
  orderly := Office.serve_of_kept Traffic.kept_orderly h.orderly visit
  sound := Office.serve_of_kept Traffic.kept_sound h.sound visit
  aware := Office.aware_serve h.aware hvisit
  fixed := by
    intro sight hsight c hc hfixes
    obtain ⟨row, hrow, hfixes, hkey⟩ := h.fixed sight hsight c hc hfixes
    obtain ⟨now, after, hafter, hfollows⟩ :=
      (Office.Performs.of_serve office visit).follows h.orderly h.sound hrow
    obtain ⟨hfixes, hsame⟩ := hfixes.follows hfollows
    exact ⟨after, hafter, hfixes, hsame.trans hkey⟩

/-- Reading a page leaves the office as it is, and its keys are those of now. -/
lemma Works.read (h : Works query ⟨office, sights⟩) (now : Timestamp) (page : Page Card) :
    Works query ⟨office, ⟨office, now, page⟩ :: sights⟩ where
  orderly := h.orderly
  sound := h.sound
  aware := h.aware
  fixed := List.forall_mem_cons.2 ⟨fun c hc hfixes => ⟨c, hc, hfixes, rfl⟩, h.fixed⟩

/-- The cursor that comes next names a row of the programme, whose key is that of the last card. -/
lemma Shows.exists_cursor (h : Shows query narrowed ⟨office, sights⟩)
    (hworks : Works query ⟨office, sights⟩) (hcontinues : Continues sights cursor) :
    ∃ last : Option Conference, (∀ c ∈ last, c ∈ office.programme.rows) ∧
      last.map Conference.id = cursor ∧
      (shown ⟨office, sights⟩).getLast?.map query.cardKey = last.map query.key := by
  cases hcontinues with
  | first =>
    refine ⟨none, fun c hc => ?_, rfl, rfl⟩
    cases hc
  | @next sight sights id hid =>
    have hlast := h.lastId sight List.mem_cons_self
    rw [hid] at hlast
    obtain ⟨card, hcard, rfl⟩ := Option.map_eq_some_iff.1 hlast.symm
    obtain ⟨c, hc, hfixes, hstored⟩ :=
      h.stored sight List.mem_cons_self card (List.mem_of_getLast? hcard)
    obtain ⟨row, hrow, _, hkey⟩ := hworks.fixed sight List.mem_cons_self c hc hfixes
    have hkey : query.key row = query.cardKey card := hkey.trans hstored.symm
    refine ⟨some row, ?_, ?_, ?_⟩
    · rintro _ ⟨⟩
      exact hrow
    · rw [Option.map_some, query.id_eq_key, hkey, ← query.id_eq_cardKey]
    · rw [shown_cons, List.getLast?_append, hcard, Option.some_or, Option.map_some, Option.map_some,
        hkey]

/-- Whether a conference is there to be read and lies beyond all that was shown. -/
def Awaits (query narrowed : Query) (reading : Reading) (now : Timestamp) (c : Conference) : Prop :=
  (reading.office.programme.find? c.id = some c ∧ narrowed.Matches now c) ∧
    ∀ card ∈ reading.shown,
      Page.SortKey.precedes query.descending (query.cardKey card) (query.key c) = true

/-- The next page shows the first of the conferences that lie beyond all that was shown. -/
lemma Shows.exists_ahead (h : Shows query narrowed ⟨office, sights⟩)
    (hworks : Works query ⟨office, sights⟩) (hquery : query.IsAware)
    (hscope : principal.scope query = .ok narrowed) (hlimit : 0 < limit)
    (hmost : (limit : Int) ≤ office.policy.pageLimit) (hcontinues : Continues sights cursor)
    (hnow : now.isAware = true) :
    ∃ ahead, Page.Lists query.key query.descending (Awaits query narrowed ⟨office, sights⟩ now)
        ahead ∧
      office.list principal { query with page := ⟨cursor, none, limit⟩ } now =
        .ok ((Page.pageAhead Conference.id limit ahead).map office.card) := by
  obtain ⟨last, hlast, rfl, hkey⟩ := h.exists_cursor hworks hcontinues
  obtain ⟨ahead, hlists, hlist⟩ :=
    Office.list_ahead hworks.aware hnow hquery hscope hlimit hmost hlast
  refine ⟨ahead, ⟨hlists.ordered, fun c => ?_⟩, hlist⟩
  rw [hlists.mem_iff, Awaits, and_congr_right_iff]
  intro _
  constructor
  · intro hbeyond
    apply h.ordered.precedes_of_getLast?
    intro card hcard
    rw [hcard] at hkey
    obtain ⟨row, rfl, hrow⟩ := Option.map_eq_some_iff.1 hkey.symm
    exact hrow ▸ hbeyond row rfl
  · intro hbeyond row hrow
    obtain rfl : last = some row := hrow
    obtain ⟨card, hcard, hcardKey⟩ := Option.map_eq_some_iff.1 hkey
    exact hcardKey ▸ hbeyond card (List.mem_of_getLast? hcard)

/-- What does not fit on the next page lies beyond all that does. -/
lemma mem_take_or_beyond {ahead : List Conference}
    (hordered : Page.Ordered query.key query.descending ahead) {c : Conference} (hc : c ∈ ahead) :
    c ∈ ahead.take limit ∨ limit < ahead.length ∧ ∀ a ∈ ahead.take limit,
      Page.SortKey.precedes query.descending (query.key a) (query.key c) = true := by
  have hparts : ahead = ahead.take limit ++ ahead.drop limit := (List.take_append_drop ..).symm
  obtain ⟨_, _, hcross⟩ := List.pairwise_append.1 (hparts ▸ hordered)
  rw [hparts] at hc
  cases List.mem_append.1 hc with
  | inl htaken => exact .inl htaken
  | inr hleft =>
    have hlong := List.length_pos_of_mem hleft
    rw [List.length_drop] at hlong
    exact .inr ⟨by omega, fun a ha => hcross a ha c hleft⟩

/-- What lies ahead comes after all that was shown, in order. -/
lemma Shows.ordered_ahead (h : Shows query narrowed ⟨office, sights⟩) {ahead : List Conference}
    (hlists : Page.Lists query.key query.descending (Awaits query narrowed ⟨office, sights⟩ now)
      ahead) :
    Page.Ordered query.cardKey query.descending
      (shown ⟨office, sights⟩ ++ (ahead.take limit).map office.card) := by
  have hfirst := hlists.ordered.sublist (List.take_sublist limit ahead)
  refine List.pairwise_append.2 ⟨h.ordered, List.pairwise_map.2 (hfirst.imp ?_), ?_⟩
  · intro a b hab
    rwa [query.cardKey_card, query.cardKey_card]
  · intro card hcard other hother
    obtain ⟨c, hc, rfl⟩ := List.mem_map.1 hother
    rw [query.cardKey_card]
    exact ((hlists.mem_iff c).1 (List.mem_of_mem_take hc)).2 card hcard

/-- What is known of the pages is kept when the next one is read. -/
lemma Shows.read (h : Shows query narrowed ⟨office, sights⟩) {ahead : List Conference}
    (hfixes : ∀ now c, narrowed.Matches now c → query.Fixes c)
    (hlists : Page.Lists query.key query.descending (Awaits query narrowed ⟨office, sights⟩ now)
      ahead) :
    Shows query narrowed ⟨office,
      ⟨office, now, (Page.pageAhead Conference.id limit ahead).map office.card⟩ :: sights⟩ := by
  have hshown : shown ⟨office, ⟨office, now,
      (Page.pageAhead Conference.id limit ahead).map office.card⟩ :: sights⟩ =
      shown ⟨office, sights⟩ ++ (ahead.take limit).map office.card := shown_cons _ _ _
  refine ⟨List.forall_mem_cons.2 ⟨?_, h.lastId⟩, List.forall_mem_cons.2 ⟨?_, h.stored⟩, ?_, ?_⟩
  · show (ahead.take limit).getLast?.map Conference.id =
      ((ahead.take limit).map office.card).getLast?.map Card.id
    rw [List.getLast?_map, Option.map_map]
    rfl
  · intro card hcard
    obtain ⟨c, hc, rfl⟩ := List.mem_map.1 hcard
    obtain ⟨⟨hfind, hmatches⟩, _⟩ := (hlists.mem_iff c).1 (List.mem_of_mem_take hc)
    exact ⟨c, Programme.mem_of_find? hfind, hfixes now c hmatches, query.cardKey_card office c⟩
  · rw [hshown]
    exact h.ordered_ahead hlists
  · intro key hkey
    obtain ⟨⟨c, hfind, hmatches, rfl⟩, hbefore⟩ := List.forall_mem_cons.1 hkey
    rw [hshown, List.map_append, List.mem_append]
    obtain hseen | ⟨_, hbeyond⟩ := h.complete _ hbefore
    · exact .inl (.inl hseen)
    rw [← query.id_eq_key] at hfind
    have hc : c ∈ ahead := (hlists.mem_iff c).2 ⟨⟨hfind, hmatches⟩, hbeyond⟩
    obtain htaken | ⟨hmore, hcross⟩ := mem_take_or_beyond hlists.ordered hc
    · refine .inl (.inr (List.mem_map.2 ⟨office.card c, List.mem_map_of_mem htaken, ?_⟩))
      exact query.cardKey_card office c
    · refine .inr ⟨?_, List.forall_mem_append.2 ⟨hbeyond, ?_⟩⟩
      · rintro _ ⟨⟩
        exact decide_eq_true hmore
      · intro card hcard
        obtain ⟨a, ha, rfl⟩ := List.mem_map.1 hcard
        rw [query.cardKey_card]
        exact hcross a ha

/-- What is listed is of the status that was asked for, whoever asks. -/
lemma fixes_of_matches (hscope : principal.scope query = .ok narrowed)
    (hsettled : query.sortBy = .start → query.status ≠ .pending) (now : Timestamp)
    (c : Conference) (h : narrowed.Matches now c) : query.Fixes c := by
  obtain ⟨hostId, rfl, _⟩ := principal.exists_hostId_of_scope hscope
  intro hsort
  exact h.status ▸ hsettled hsort

/-- Of a new office there is nothing to know yet. -/
lemma works_of_new (hnew : office.IsNew) : Works query ⟨office, []⟩ where
  orderly := hnew.orderly
  sound := hnew.programme ▸ Programme.sound_empty
  aware := by
    show ∀ c ∈ office.programme.rows, c.window.isAware = true
    rw [hnew.programme]
    exact List.forall_mem_nil _
  fixed := List.forall_mem_nil _

/-- Before the first page nothing was shown. -/
lemma shows_of_new (query narrowed : Query) (office : Office) :
    Shows query narrowed ⟨office, []⟩ where
  lastId := List.forall_mem_nil _
  stored := List.forall_mem_nil _
  ordered := .nil
  complete := by
    intro key _
    refine .inr ⟨?_, List.forall_mem_nil _⟩
    intro sight hsight
    cases hsight

/-- What is known of readings stays so, whatever happens between the pages. -/
lemma Run.holds {start : Office} (hnew : start.IsNew) (hquery : query.IsAware)
    (hsettled : query.sortBy = .start → query.status ≠ .pending)
    (hscope : principal.scope query = .ok narrowed) (hlimit : 0 < limit)
    (hmost : (limit : Int) ≤ start.policy.pageLimit)
    (hrun : Run principal query limit ⟨start, []⟩ reading) :
    Works query reading ∧ Shows query narrowed reading ∧
      (limit : Int) ≤ reading.office.policy.pageLimit := by
  induction hrun with
  | refl => exact ⟨works_of_new hnew, shows_of_new query narrowed start, hmost⟩
  | tail _ hstep ih =>
    obtain ⟨hworks, hshows, hmost⟩ := ih
    cases hstep with
    | @visit office _ visit hvisit =>
      refine ⟨hworks.visit hvisit, ⟨hshows.lastId, hshows.stored, hshows.ordered,
        hshows.complete⟩, ?_⟩
      exact (Office.Performs.of_serve office visit).policy_eq.symm ▸ hmost
    | read hcontinues hnow hlist =>
      obtain ⟨ahead, hlists, hpage⟩ :=
        hshows.exists_ahead hworks hquery hscope hlimit hmost hcontinues hnow
      obtain rfl := Except.ok.inj (hpage.symm.trans hlist)
      exact ⟨hworks.read _ _, hshows.read (fixes_of_matches hscope hsettled) hlists, hmost⟩

/-- Visits without a page between them are a run. -/
lemma run_serveAll (principal : Principal) (query : Query) (limit : Nat) (office : Office)
    (sights : List Sight) (visits : List Office.Visit)
    (aware : ∀ t ∈ visits.flatMap Office.Visit.readings, t.isAware = true) :
    Run principal query limit ⟨office, sights⟩ ⟨office.serveAll visits, sights⟩ := by
  induction visits generalizing office with
  | nil => exact .refl
  | cons visit visits ih =>
    obtain ⟨hfirst, hrest⟩ := List.forall_mem_append.1 aware
    exact .head (.visit hfirst) (ih (office.serve visit).2 hrest)

/-- One conference has one key, whenever it was there to be read. -/
lemma Works.key_eq (h : Works query reading) {sight other : Sight} {c d : Conference}
    (hsight : sight ∈ reading.sights) (hc : c ∈ sight.office.programme.rows)
    (hcFixes : query.Fixes c) (hother : other ∈ reading.sights)
    (hd : d ∈ other.office.programme.rows) (hdFixes : query.Fixes d) (hid : c.id = d.id) :
    query.key c = query.key d := by
  obtain ⟨row, hrow, _, hkey⟩ := h.fixed sight hsight c hc hcFixes
  obtain ⟨later, hlater, _, hlaterKey⟩ := h.fixed other hother d hd hdFixes
  have hsame : row.id = later.id := by
    rw [query.id_eq_key row, hkey, query.id_eq_key later, hlaterKey, ← query.id_eq_key, hid,
      ← query.id_eq_key]
  rw [← hkey, ← hlaterKey, Table.eq_of_key_eq hrow hlater hsame]

/-- Each card that was shown is that of a row that was there then. -/
lemma Shows.exists_stored (h : Shows query narrowed reading) {card : Card}
    (hcard : card ∈ reading.shown) :
    ∃ sight ∈ reading.sights, ∃ c ∈ sight.office.programme.rows, query.Fixes c ∧
      query.cardKey card = query.key c := by
  obtain ⟨sight, hsight, hcard⟩ := List.mem_flatMap.1 hcard
  rw [List.mem_reverse] at hsight
  exact ⟨sight, hsight, h.stored sight hsight card hcard⟩

/-- Cards of one conference have the same key, so none comes before the other. -/
lemma Shows.nodup (h : Shows query narrowed reading) (hworks : Works query reading) :
    (reading.shown.map Card.id).Nodup := by
  refine List.pairwise_map.2 (h.ordered.imp_of_mem fun {a b} ha hb hab hid => ?_)
  obtain ⟨sight, hsight, c, hc, hcFixes, hcKey⟩ := h.exists_stored ha
  obtain ⟨other, hother, d, hd, hdFixes, hdKey⟩ := h.exists_stored hb
  have hsame : c.id = d.id := by
    rw [query.id_eq_key, ← hcKey, ← query.id_eq_cardKey, hid, query.id_eq_cardKey, hdKey,
      ← query.id_eq_key]
  rw [hcKey, hdKey, hworks.key_eq hsight hc hcFixes hother hd hdFixes hsame,
    Page.SortKey.precedes_irrefl] at hab
  cases hab

/-- What was there each time has been shown when a page says that there is no more. -/
lemma Shows.mem_shown (h : Shows query narrowed reading) (hworks : Works query reading)
    (hfixes : ∀ now c, narrowed.Matches now c → query.Fixes c) {last : Sight}
    (hlast : last ∈ reading.sights.head?) (hover : last.page.info.hasMore = false) {id : String}
    (hmatches : ∀ sight ∈ reading.sights, ∃ c, sight.office.programme.find? id = some c ∧
      narrowed.Matches sight.now c) :
    id ∈ reading.shown.map Card.id := by
  have hmem := List.mem_of_head? hlast
  obtain ⟨c, hfind, hc⟩ := hmatches last hmem
  obtain ⟨hrow, rfl, _⟩ := Programme.find?_eq_some_iff_mem.1 hfind
  have hthere : ∀ sight ∈ reading.sights, ∃ d,
      sight.office.programme.find? (query.key c).id = some d ∧ narrowed.Matches sight.now d ∧
        query.key d = query.key c := by
    intro sight hsight
    obtain ⟨d, hfind, hd⟩ := hmatches sight hsight
    obtain ⟨hrow', hid, _⟩ := Programme.find?_eq_some_iff_mem.1 hfind
    refine ⟨d, query.id_eq_key c ▸ hfind, hd, ?_⟩
    exact hworks.key_eq hsight hrow' (hfixes _ d hd) hmem hrow (hfixes _ c hc) hid
  obtain hshown | ⟨hmore, _⟩ := h.complete (query.key c) hthere
  · obtain ⟨card, hcard, hkey⟩ := List.mem_map.1 hshown
    refine List.mem_map.2 ⟨card, hcard, ?_⟩
    rw [query.id_eq_cardKey, hkey, ← query.id_eq_key]
  · rw [hmore last hlast] at hover
    cases hover

end Reading

/-- A page that is not the last one has a last row. -/
lemma Page.exists_lastId {α β : Type} {idOf : α → String} {display : α → β} {limit : Nat}
    {rest : List α} (hlimit : 0 < limit)
    (hmore : ((pageAhead idOf limit rest).map display).info.hasMore = true) :
    ∃ id, ((pageAhead idOf limit rest).map display).info.lastId = some id := by
  obtain ⟨init, row, htake, _⟩ := exists_take_eq hlimit (of_decide_eq_true hmore)
  exact ⟨idOf row, by simp [Page.map, pageAhead, ofRows, htake]⟩

namespace Office

/--
Whatever happens in an office between the pages that somebody reads, of conferences that are sorted
by id or were decided about: none is shown twice, all are shown in order, what could be read each
time is shown once when a page says that there is no more, and the next page can always be read.
-/
theorem walks_stay_in_order (start : Office) (hnew : start.IsNew) (principal : Principal)
    (query narrowed : Query) (hquery : query.IsAware)
    (hsettled : query.sortBy = .start → query.status ≠ .pending)
    (hscope : principal.scope query = .ok narrowed) (limit : Nat) (hlimit : 0 < limit)
    (hmost : (limit : Int) ≤ start.policy.pageLimit) (reading : Reading)
    (hrun : Reading.Run principal query limit ⟨start, []⟩ reading) :
    (reading.shown.map Card.id).Nodup ∧
    (reading.shown.Pairwise fun a b =>
      Page.SortKey.precedes query.descending (query.cardKey a) (query.cardKey b) = true) ∧
    (∀ last ∈ reading.sights.head?, last.page.info.hasMore = false → ∀ id,
      (∀ sight ∈ reading.sights, ∃ c, sight.office.programme.find? id = some c ∧
        narrowed.Matches sight.now c) →
      (reading.shown.map Card.id).count id = 1) ∧
    ∀ cursor now, Reading.Continues reading.sights cursor → now.isAware = true →
      ∃ page,
        reading.office.list principal { query with page := ⟨cursor, none, limit⟩ } now =
          .ok page ∧
        (page.info.hasMore = true → ∃ id, page.info.lastId = some id) := by
  obtain ⟨hworks, hshows, hmost⟩ := hrun.holds hnew hquery hsettled hscope hlimit hmost
  have hnodup := hshows.nodup hworks
  refine ⟨hnodup, hshows.ordered, ?_, ?_⟩
  · intro last hlast hover id hmatches
    have hfixes := Reading.fixes_of_matches hscope hsettled
    rw [hnodup.count, if_pos (hshows.mem_shown hworks hfixes hlast hover hmatches)]
  · intro cursor now hcontinues hnow
    obtain ⟨ahead, _, hpage⟩ :=
      hshows.exists_ahead hworks hquery hscope hlimit hmost hcontinues hnow
    exact ⟨_, hpage, Page.exists_lastId hlimit⟩

/-- Asks for the approved talks in order of their starts. -/
def approvedTalks : Query :=
  { pendingTalks with status := .approved }

/-- The talks of the series are all approved. -/
def approvedSeries : List Visit :=
  let approve (id : String) : Visit :=
    ⟨⟨some "root", some .admin⟩, .decide id .approved, .hour 0, .hour 0⟩
  series ++ [approve (IdSource.numbered 2), approve (IdSource.numbered 3)]

/-- The first talk is withdrawn after a guest has read of it, who goes on with the two others. -/
theorem walks_stay_in_order_of_withdrawal :
    let ann : Principal := ⟨some "ann", some .user⟩
    let talk := IdSource.numbered
    let office := (start .standard (.scripted [])).serveAll approvedSeries
    let later := (office.serve ⟨⟨some "cleo", some .user⟩, .withdraw (talk 3), .hour 1, .hour 1⟩).2
    ∃ first second third : Page Card,
      office.list ann { approvedTalks with page := ⟨none, none, 1⟩ } (.hour 1) = .ok first ∧
      later.list ann { approvedTalks with page := ⟨some (talk 3), none, 1⟩ } (.hour 1) =
        .ok second ∧
      later.list ann { approvedTalks with page := ⟨some (talk 2), none, 1⟩ } (.hour 1) =
        .ok third ∧
      ((first.rows ++ second.rows ++ third.rows).map Card.id).Nodup ∧
      ((first.rows ++ second.rows ++ third.rows).map Card.id).count (talk 1) = 1 := by
  intro ann talk office later
  obtain ⟨first, hfirst, hfirstId⟩ : ∃ page,
      office.list ann { approvedTalks with page := ⟨none, none, 1⟩ } (.hour 1) = .ok page ∧
        page.info.lastId = some (talk 3) := ⟨_, rfl, rfl⟩
  obtain ⟨second, hsecond, hsecondId⟩ : ∃ page,
      later.list ann { approvedTalks with page := ⟨some (talk 3), none, 1⟩ } (.hour 1) =
        .ok page ∧ page.info.lastId = some (talk 2) := ⟨_, rfl, rfl⟩
  obtain ⟨third, hthird, hover⟩ : ∃ page,
      later.list ann { approvedTalks with page := ⟨some (talk 2), none, 1⟩ } (.hour 1) =
        .ok page ∧ page.info.hasMore = false := ⟨_, rfl, rfl⟩
  have hvisits := Reading.run_serveAll ann approvedTalks 1 (start .standard (.scripted [])) []
    approvedSeries (by decide)
  have hrun : Reading.Run ann approvedTalks 1 ⟨start .standard (.scripted []), []⟩
      ⟨later, [⟨later, .hour 1, third⟩, ⟨later, .hour 1, second⟩, ⟨office, .hour 1, first⟩]⟩ :=
    (((hvisits.tail (.read .first rfl hfirst)).tail (.visit (by decide))).tail
      (.read (.next hfirstId) rfl hsecond)).tail (.read (.next hsecondId) rfl hthird)
  have matching (c : Conference) (hstatus : c.status = .approved)
      (hends : (Timestamp.hour 1).instant < c.window.endsAt.instant) :
      approvedTalks.Matches (.hour 1) c :=
    ⟨hstatus, .inr hends, nofun, nofun, nofun, nofun⟩
  have hbefore : ∃ c, office.programme.find? (talk 1) = some c ∧
      approvedTalks.Matches (.hour 1) c := ⟨_, rfl, matching _ rfl (by decide)⟩
  have hafter : ∃ c, later.programme.find? (talk 1) = some c ∧
      approvedTalks.Matches (.hour 1) c := ⟨_, rfl, matching _ rfl (by decide)⟩
  obtain ⟨hnodup, _, hcount, _⟩ := walks_stay_in_order _ isNew_start ann approvedTalks
    approvedTalks ⟨nofun, nofun⟩ nofun rfl 1 (by decide) (by decide) _ hrun
  have hall := hcount _ rfl hover (talk 1) <| List.forall_mem_cons.2 ⟨hafter,
    List.forall_mem_cons.2 ⟨hafter, List.forall_mem_singleton.2 hbefore⟩⟩
  simp only [Reading.shown_cons] at hnodup hall
  exact ⟨first, second, third, hfirst, hsecond, hthird, hnodup, hall⟩

end Office

end Symposium
