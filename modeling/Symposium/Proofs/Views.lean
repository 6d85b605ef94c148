import Symposium.Proofs.Listings

/-!
# What is shown one by one and in listings

Whether somebody may see a conference is checked row by row when one is asked for, and is made a
condition of the query when they are listed. The two agree, except that a query that names no host
is not narrowed for somebody who is restricted and is no user. Main statement: in every state that
is reached a listing shows what is shown one by one exactly outside this case, and it never leaves
out any of it.
-/

namespace Symposium

namespace Failure

/-- A combined test is passed exactly if both are. -/
lemma both_eq_ok_true_iff {a b : Except Failure Bool} :
    both a b = .ok true ↔ a = .ok true ∧ b = .ok true := by
  cases a with
  | error e => simp [both]
  | ok passes => cases passes <;> simp [both]

/-- What is kept is a row that passes the test. -/
lemma of_mem_keep {α : Type} {test : α → Except Failure Bool} {rows kept : List α} {row : α}
    (h : keep test rows = .ok kept) (hrow : row ∈ kept) : row ∈ rows ∧ test row = .ok true := by
  obtain ⟨passes, hpasses, rfl⟩ := exists_passes_of_keep h
  obtain ⟨hmem, hpass⟩ := List.mem_filter.1 hrow
  exact ⟨hmem, (hpasses row hmem).trans (congrArg Except.ok hpass)⟩

end Failure

namespace Page

variable {α : Type} {key : α → SortKey} {descending : Bool} {place : Place} {limit : Int}
  {rows : List α} {row : α}

/-- What lies within a bound is a row. -/
lemma mem_of_mem_upTo {bound : Int} (h : row ∈ upTo bound rows) : row ∈ rows := by
  unfold upTo at h
  split at h <;> exact List.mem_of_mem_take h

/-- What is taken is a row. -/
lemma mem_of_mem_takeRows (h : row ∈ (takeRows limit rows).1) : row ∈ rows :=
  mem_of_mem_upTo (mem_of_mem_upTo h)

/-- A request that passes its check has a limit above zero and within the bound. -/
lemma Request.exists_limit {request : Request} {most : Int}
    (h : Failure.ofRefusal (request.check most) = .ok ()) :
    ∃ limit : Nat, request.limit = limit ∧ 0 < limit ∧ (limit : Int) ≤ most := by
  have hcheck : request.check most = .ok () := by
    cases hcheck : request.check most with
    | error refusal =>
      rw [hcheck] at h
      cases h
    | ok => rfl
  unfold check at hcheck
  split at hcheck
  · cases hcheck
  · split at hcheck
    · next hlimit =>
      rw [leastLimit] at hlimit
      exact ⟨request.limit.toNat, by omega, by omega, by omega⟩
    · cases hcheck

/-- What a page shows is a row. -/
lemma mem_of_mem_cut (h : row ∈ (cut key descending place limit rows).rows) : row ∈ rows := by
  cases place with
  | start => exact (sortRows_perm ..).mem_iff.1 (mem_of_mem_takeRows h)
  | nowhere => cases h
  | after cursor =>
    have hrow := (sortRows_perm ..).mem_iff.1 (mem_of_mem_takeRows h)
    exact (List.mem_filter.1 hrow).1
  | before cursor =>
    have hrow := (sortRows_perm ..).mem_iff.1 (mem_of_mem_takeRows (List.mem_reverse.1 h))
    exact (List.mem_filter.1 hrow).1

end Page

namespace Query

variable {query : Query} {now : Timestamp} {c : Conference}

/-- What fits a query has the status and the host that it asks for. -/
lemma of_fits (h : query.fits now c = .ok true) :
    c.status = query.status ∧ query.fitsHost c.hostId = true := by
  obtain ⟨hstatus, h⟩ := Failure.both_eq_ok_true_iff.1 h
  obtain ⟨_, h⟩ := Failure.both_eq_ok_true_iff.1 h
  obtain ⟨htexts, _⟩ := Failure.both_eq_ok_true_iff.1 h
  exact ⟨by simpa using hstatus, (Bool.and_eq_true_iff.1 (Except.ok.inj htexts)).2⟩

/-- A host fits if it is the one asked for, or none is. -/
lemma fitsHost_iff {hostId : String} :
    query.fitsHost hostId = true ↔ ∀ host ∈ query.hostId, host = hostId := by
  simp [fitsHost, Option.all_eq_true]

end Query

namespace Programme

variable {programme : Programme} {rows : List Conference} {request : Page.Request}
  {descending : Bool} {page : Page Conference} {c : Conference}

/-- What a page in order of the starts shows is a row. -/
lemma mem_of_pageByStart (h : programme.pageByStart request descending rows = .ok page)
    (hc : c ∈ page.rows) : c ∈ rows := by
  obtain ⟨place, _, h⟩ := Failure.bind_eq_ok_iff.1 h
  split at h
  · cases h
    exact Page.mem_of_mem_cut hc
  · cases h

/-- What a page in order of the ids shows is a row. -/
lemma mem_of_pageById (h : pageById request descending rows = .ok page) (hc : c ∈ page.rows) :
    c ∈ rows := by
  obtain ⟨place, _, h⟩ := Failure.bind_eq_ok_iff.1 h
  cases h
  exact Page.mem_of_mem_cut hc

/-- What is listed is live and fits the query. -/
lemma of_mem_list {query : Query} {now : Timestamp} (h : programme.list query now = .ok page)
    (hc : c ∈ page.rows) : programme.find? c.id = some c ∧ query.fits now c = .ok true := by
  obtain ⟨rows, hfitting, h⟩ := Failure.bind_eq_ok_iff.1 h
  have hc : c ∈ rows := by
    cases hsort : query.sortBy with
    | created =>
      rw [hsort] at h
      exact mem_of_pageById h hc
    | start =>
      rw [hsort] at h
      exact mem_of_pageByStart h hc
  obtain ⟨hlive, hfits⟩ := Failure.of_mem_keep hfitting hc
  obtain ⟨hrow, live⟩ := List.mem_filter.1 hlive
  exact ⟨find?_eq_some_iff_mem.2 ⟨hrow, rfl, live⟩, hfits⟩

end Programme

namespace Principal

variable {principal : Principal} {query narrowed : Query} {c : Conference}

/-- Restricted to what is their own, but no user who could own anything. -/
def IsAnonymous (principal : Principal) : Prop :=
  principal.isRestricted = true ∧ principal.id = none

/-- One sees what is approved, what is one's own, and everything if one is not restricted. -/
lemma sees_iff :
    principal.sees c = true ↔
      c.status = .approved ∨ principal.isRestricted = false ∨ principal.id = some c.hostId := by
  simp [sees, isUser_iff, or_assoc]

/-- Who is restricted only sees what is approved, apart from what they host. -/
lemma approved_of_sees (hsees : principal.sees c = true)
    (hrestricted : principal.isRestricted = true) (hguest : principal.id ≠ some c.hostId) :
    c.status = .approved := by
  obtain happroved | hunrestricted | hhost := sees_iff.1 hsees
  · exact happroved
  · exact absurd (hrestricted.symm.trans hunrestricted) (by decide)
  · exact absurd hhost hguest

/-- How a query is narrowed, if it is not refused. -/
inductive Scopes (principal : Principal) (query : Query) : Query → Prop where
  | asked :
    query.status = .approved ∨ principal.isRestricted = false →
    Scopes principal query query
  | own :
    query.status ≠ .approved →
    principal.isRestricted = true →
    Scopes principal query { query with hostId := principal.id }
  | named {hostId} :
    query.hostId = some hostId →
    principal.id = some hostId →
    Scopes principal query query

/-- A query that is let through is scoped to what its principal may ask for. -/
lemma Scopes.of_scope (h : principal.scope query = .ok narrowed) :
    Scopes principal query narrowed := by
  rw [scope] at h
  split at h
  · next hopen =>
    cases h
    rw [Bool.or_eq_true, decide_eq_true_iff, Bool.not_eq_true'] at hopen
    exact .asked hopen
  · next hnarrow =>
    rw [Bool.or_eq_true, not_or, decide_eq_true_iff, Bool.not_eq_true', Bool.not_eq_false]
      at hnarrow
    split at h
    · cases h
      exact .own hnarrow.1 hnarrow.2
    · next hostId hquery =>
      split at h
      · next huser =>
        cases h
        exact .named hquery (isUser_iff.1 huser)
      · cases h

/-- Who is not anonymous sees what fits a query that was narrowed. -/
lemma Scopes.sees (h : Scopes principal query narrowed) (hstatus : c.status = narrowed.status)
    (hhost : narrowed.fitsHost c.hostId = true)
    (hknown : ¬ principal.IsAnonymous ∨ query.status = .approved) : principal.sees c = true := by
  rw [sees_iff]
  cases h with
  | asked hopen =>
    cases hopen with
    | inl happroved => exact .inl (hstatus.trans happroved)
    | inr hunrestricted => exact .inr (.inl hunrestricted)
  | own hpending hrestricted =>
    cases hid : principal.id with
    | none => exact absurd ⟨hrestricted, hid⟩ (hknown.resolve_right hpending)
    | some id => exact .inr (.inr (congrArg some (Query.fitsHost_iff.1 hhost id hid)))
  | named hquery huser =>
    have hhost := Query.fitsHost_iff.1 hhost _ hquery
    exact .inr (.inr (huser.trans (congrArg some hhost)))

/-- A query that was narrowed still asks for all that the principal sees. -/
lemma Scopes.matches {now : Timestamp} (hscopes : Scopes principal query narrowed)
    (hsees : principal.sees c = true) (h : query.Matches now c) : narrowed.Matches now c := by
  cases hscopes with
  | asked _ => exact h
  | named _ _ => exact h
  | own hpending hrestricted =>
    refine ⟨h.status, h.listed, h.title, fun id hid => ?_, h.latest, h.earliest⟩
    obtain happroved | hunrestricted | hhost := sees_iff.1 hsees
    · exact absurd (h.status.symm.trans happroved) hpending
    · exact absurd (hrestricted.symm.trans hunrestricted) (by decide)
    · exact Option.some.inj (hid.symm.trans hhost)

end Principal

namespace Office

variable {office : Office} {principal : Principal} {query narrowed : Query} {now : Timestamp}
  {page : Page Card} {card : Card} {id : String}

/-- What one gets is the card of a live conference that one sees. -/
lemma get_eq_ok_iff :
    office.get principal id = .ok card ↔
      ∃ c, office.programme.find? id = some c ∧ principal.sees c = true ∧ office.card c = card := by
  simp only [get, Failure.map_eq_ok_iff, loadVisible_eq_ok_iff, and_assoc]

/-- A listing is one of cards of live conferences that fit the narrowed query. -/
lemma of_list (h : office.list principal query now = .ok page) :
    Failure.ofRefusal (query.page.check office.policy.pageLimit) = .ok () ∧
      ∃ narrowed, principal.scope query = .ok narrowed ∧ ∀ card ∈ page.rows, ∃ c,
        office.programme.find? c.id = some c ∧ narrowed.fits now c = .ok true ∧
          office.card c = card := by
  obtain ⟨_, hcheck, h⟩ := Failure.bind_eq_ok_iff.1 h
  obtain ⟨narrowed, hscope, h⟩ := Failure.bind_eq_ok_iff.1 h
  obtain ⟨rows, hlist, h⟩ := Failure.bind_eq_ok_iff.1 h
  cases h
  refine ⟨hcheck, narrowed, hscope, fun card hcard => ?_⟩
  obtain ⟨c, hc, rfl⟩ := List.mem_map.1 hcard
  obtain ⟨hfind, hfits⟩ := Programme.of_mem_list hlist hc
  exact ⟨c, hfind, hfits, rfl⟩

/-- What is listed is shown one by one exactly to those who are known, unless it is public. -/
lemma shown_iff (h : office.list principal query now = .ok page) :
    (∀ card ∈ page.rows, office.get principal card.id = .ok card) ↔
      (principal.IsAnonymous → query.status = .approved ∨ page.rows = []) := by
  obtain ⟨_, narrowed, hscope, hrows⟩ := of_list h
  have hscopes := Principal.Scopes.of_scope hscope
  constructor
  · intro hget hanonymous
    -- a first card is that of a conference that is public, as the principal hosts none
    cases hpage : page.rows with
    | nil => exact .inr rfl
    | cons card cards =>
      have hcard : card ∈ page.rows := hpage ▸ List.mem_cons_self
      obtain ⟨c, hfind, hfits, rfl⟩ := hrows card hcard
      obtain ⟨found, hfound, hsees, _⟩ := get_eq_ok_iff.1 (hget _ hcard)
      obtain rfl := Option.some.inj (hfind.symm.trans hfound)
      have hstatus : c.status = query.status := by
        obtain ⟨hostId, rfl, _⟩ := principal.exists_hostId_of_scope hscope
        exact (Query.of_fits hfits).1
      obtain ⟨hrestricted, hid⟩ := hanonymous
      have hguest : principal.id ≠ some c.hostId := by
        rw [hid]
        exact nofun
      exact .inl (hstatus.symm.trans (Principal.approved_of_sees hsees hrestricted hguest))
  · intro hknown card hcard
    obtain ⟨c, hfind, hfits, rfl⟩ := hrows card hcard
    obtain ⟨hstatus, hhost⟩ := Query.of_fits hfits
    have hknown : ¬ principal.IsAnonymous ∨ query.status = .approved := by
      by_cases hanonymous : principal.IsAnonymous
      · refine .inr ((hknown hanonymous).resolve_right fun hnil => ?_)
        rw [hnil] at hcard
        exact absurd hcard List.not_mem_nil
      · exact .inl hanonymous
    exact get_eq_ok_iff.2 ⟨c, hfind, hscopes.sees hstatus hhost hknown, rfl⟩

/-- Who walks through a listing that is allowed comes across all that is shown one by one. -/
lemma exists_forward (aware : ∀ c ∈ office.programme.rows, c.window.isAware = true)
    (hnow : now.isAware = true) (hquery : query.IsAware)
    (h : office.list principal query now = .ok page) :
    ∃ limit : Nat, query.page.limit = limit ∧ ∃ pages,
      Page.Forward (fun request => office.list principal { query with page := request } now) limit
        pages ∧
      ∀ id c card, office.programme.find? id = some c → query.Matches now c →
        office.get principal id = .ok card → card ∈ pages.flatMap Page.rows := by
  obtain ⟨hcheck, narrowed, hscope, _⟩ := of_list h
  obtain ⟨limit, hlimit, hpos, hmost⟩ := Page.Request.exists_limit hcheck
  obtain ⟨listed, hlists, hpaged⟩ := list_paged aware hnow hquery hscope hpos hmost
  obtain ⟨pages, hpages, _⟩ := hpaged.ends
  refine ⟨limit, hlimit, pages, hpages, ?_⟩
  intro id c card hfind hmatches hget
  obtain ⟨found, hfound, hsees, rfl⟩ := get_eq_ok_iff.1 hget
  obtain rfl := Option.some.inj (hfind.symm.trans hfound)
  obtain ⟨hrow, _, live⟩ := Programme.find?_eq_some_iff_mem.1 hfind
  have hmatches := (Principal.Scopes.of_scope hscope).matches hsees hmatches
  rw [hpaged.shows pages hpages]
  exact List.mem_map_of_mem ((hlists.mem_iff c).2 ⟨hrow, live, hmatches⟩)

/--
However the operations overtook each other, with a clock that always had an offset: a listing shows
exactly what is shown one by one to the same principal, but to somebody who is anonymous only if it
is public or empty; and the walk through it leaves out nothing that fits and is shown one by one.
-/
theorem listings_match_views_iff (start : Office) (hempty : start.programme = .empty) (t : Traffic)
    (hrun : Traffic.AwareRun (.quiet start) t) (principal : Principal) (query : Query)
    (hquery : query.IsAware) (now : Timestamp) (hnow : now.isAware = true) (page : Page Card)
    (hlist : t.office.list principal query now = .ok page) :
    ((∀ card ∈ page.rows, t.office.get principal card.id = .ok card) ↔
      (principal.IsAnonymous → query.status = .approved ∨ page.rows = [])) ∧
    ∃ limit : Nat, query.page.limit = limit ∧ ∃ pages,
      Page.Forward (fun request => t.office.list principal { query with page := request } now)
        limit pages ∧
      ∀ id c card, t.office.programme.find? id = some c → query.Matches now c →
        t.office.get principal id = .ok card → card ∈ pages.flatMap Page.rows :=
  ⟨shown_iff hlist, exists_forward (hrun.aware hempty).rows hnow hquery hlist⟩

/-- One talk is proposed. -/
def proposedTalk : List Visit :=
  [⟨⟨some "alice", some .user⟩, .propose ⟨default, 2, .hours 13 15⟩, .hour 0, .hour 0⟩]

/-- Its host is shown the same talk one by one and in the listing of pending talks. -/
theorem listings_match_views_iff_of_host :
    let office := (start .standard (.scripted [])).serveAll proposedTalk
    let alice : Principal := ⟨some "alice", some .user⟩
    ∃ page, office.list alice pendingTalks (.hour 1) = .ok page ∧
      (page.rows.map Card.id = [IdSource.numbered 1]) ∧
      ∀ card ∈ page.rows, office.get alice card.id = .ok card := by
  intro office alice
  obtain ⟨page, hlist, hids⟩ : ∃ page, office.list alice pendingTalks (.hour 1) = .ok page ∧
      page.rows.map Card.id = [IdSource.numbered 1] := ⟨_, rfl, rfl⟩
  have hrun := awareRun_serveAll (start .standard (.scripted [])) proposedTalk (by decide)
  obtain ⟨hshown, _⟩ := listings_match_views_iff _ rfl _ hrun alice pendingTalks ⟨nofun, nofun⟩
    (.hour 1) rfl page hlist
  exact ⟨page, hlist, hids, hshown.2 fun hanonymous => nomatch hanonymous.2⟩

/-- Somebody anonymous is shown the pending talk in a listing and is refused to see it alone. -/
theorem listing_shows_unseen :
    let office := (start .standard (.scripted [])).serveAll proposedTalk
    let nobody : Principal := ⟨none, some .user⟩
    Traffic.AwareRun (.quiet (start .standard (.scripted []))) (.quiet office) ∧
      ∃ page, office.list nobody pendingTalks (.hour 1) = .ok page ∧
        ∃ card ∈ page.rows, office.get nobody card.id ≠ .ok card := by
  intro office nobody
  refine ⟨awareRun_serveAll _ proposedTalk (by decide), _, rfl, _, List.mem_cons_self, ?_⟩
  intro hget
  cases hget

end Office

end Symposium
