import Mathlib.Data.List.Induction
import Mathlib.Data.List.Nodup
import Symposium.Proofs.Listings
import Symposium.Proofs.Origins

/-!
# Listings in order of creation

The order of creation looks at ids alone. If ids rise as they are made and the clock never goes
back, a conference that is proposed comes last in every respect: by its id, by the time at which it
was made, and because it was not there before. Neither its id nor this time is ever changed. Main
statement: a listing in order of creation shows conferences in the order in which they were made,
and turned round in the reverse order.
-/

namespace Symposium

namespace IdSource

variable {source : IdSource} {earlier later : String}

/-- Whether each id that was made comes after those that were made before. -/
def Rises (source : IdSource) : Prop :=
  ∀ n < source.drawn, ∀ m < n, ∀ later ∈ source.stream n, ∀ earlier ∈ source.stream m,
    Text.before earlier later = true

instance (source : IdSource) : Decidable source.Rises :=
  inferInstanceAs (Decidable (∀ n < source.drawn, ∀ m < n, ∀ later ∈ source.stream n,
    ∀ earlier ∈ source.stream m, Text.before earlier later = true))

/-- A source rises if it does so after a draw, as its stream is the same. -/
lemma Rises.of_draw (h : source.draw.2.Rises) : source.Rises :=
  fun n hn => h n (Nat.lt_succ_of_lt hn)

/-- In a source that rises, what is drawn comes after all that was made. -/
lemma Rises.before_of_draw (h : source.draw.2.Rises) (hmade : source.HasMade earlier)
    (hdraw : source.draw.1 = some later) : Text.before earlier later = true := by
  obtain ⟨m, hm, hearlier⟩ := hmade
  exact h source.drawn (Nat.lt_succ_self _) m hm later hdraw earlier hearlier

end IdSource

namespace Page

variable {α : Type} {key : α → SortKey} {descending : Bool} {rows listed : List α}

/-- There is one way to list some rows strictly in order. -/
lemma Ordered.eq_of_mem_iff (h : Ordered key descending rows)
    (hlisted : Ordered key descending listed) (hmem : ∀ row, row ∈ listed ↔ row ∈ rows) :
    listed = rows := by
  have nodup {rows : List α} (h : Ordered key descending rows) : rows.Nodup :=
    List.Nodup.of_map key h.nodup_keys
  have hperm : listed.Perm rows := (List.perm_ext_iff_of_nodup (nodup hlisted) (nodup h)).2 hmem
  exact (hlisted.sortRows_eq hperm).symm.trans (h.sortRows_eq (.refl rows))

end Page

namespace Principal

variable {principal : Principal} {query narrowed : Query}

/-- A query is narrowed in the same way in both directions. -/
lemma scope_turned (h : principal.scope query = .ok narrowed) (descending : Bool) :
    principal.scope { query with descending } = .ok { narrowed with descending } := by
  rw [scope] at h ⊢
  split at h
  · next hopen =>
    cases h
    exact if_pos hopen
  · next hnarrow =>
    rw [if_neg hnarrow]
    split at h
    · next hhost =>
      cases h
      simp only [hhost]
    · next hostId hhost =>
      split at h
      · next huser =>
        cases h
        simp only [hhost]
        exact if_pos huser
      · cases h

end Principal

/-- What a query asks for does not depend on its direction. -/
lemma Query.matches_turned {query : Query} {now : Timestamp} {c : Conference} (descending : Bool) :
    Matches { query with descending } now c ↔ query.Matches now c :=
  ⟨fun h => ⟨h.status, h.listed, h.title, h.host, h.latest, h.earliest⟩,
    fun h => ⟨h.status, h.listed, h.title, h.host, h.latest, h.earliest⟩⟩

/-- A window can only be compared with a clock that has an offset if it has one itself. -/
lemma Window.isAware_now_of_checkFuture {window : Window} {now : Timestamp}
    (h : window.checkFuture now = .ok ()) (aware : window.startsAt.isAware = true) :
    now.isAware = true := by
  have hstart := (Timestamp.before?_eq_some_iff.1 (checkFuture_eq_ok_iff.1 h).1).1
  rwa [Timestamp.comparable, aware, beq_iff_eq, eq_comm] at hstart

namespace Office

variable {office start : Office} {visits : List Visit} {visit : Visit} {a b : Conference.Origin}
  {now : Timestamp}

/-- What never changes about the conferences, in the order in which these came. -/
def origins (office : Office) : List Conference.Origin :=
  office.programme.rows.map Conference.origin

/-- A visit draws one id at most. -/
lemma ids_serve (office : Office) (visit : Visit) :
    (office.serve visit).2.ids = office.ids ∨ (office.serve visit).2.ids = office.ids.draw.2 := by
  obtain ⟨principal, operation, checkedAt, writtenAt⟩ := visit
  have performs := Performs.of_serve office ⟨principal, operation, checkedAt, writtenAt⟩
  dsimp only at performs
  generalize office.serve ⟨principal, operation, checkedAt, writtenAt⟩ = result at performs ⊢
  cases performs with
  | refused hids => exact hids
  | proposed _ _ _ _ _ => exact .inr rfl
  | commented _ _ _ _ _ _ _ _ => exact .inr rfl
  | _ => exact .inl rfl

/-- If the ids rise after a visit, they did so before. -/
lemma rises_of_serve (h : (office.serve visit).2.ids.Rises) : office.ids.Rises := by
  cases office.ids_serve visit with
  | inl hids => rwa [hids] at h
  | inr hids =>
    rw [hids] at h
    exact h.of_draw

/-- What becomes of the origins in a visit. -/
inductive Enters (office : Office) (visit : Visit) (later : Office) : Prop where
  | nothing :
    later.origins = office.origins →
    Enters office visit later
  | proposal {proposal hostId id} :
    visit.operation = .propose proposal →
    proposal.window.checkFuture visit.checkedAt = .ok () →
    office.ids.draw.1 = some id →
    later.ids = office.ids.draw.2 →
    later.origins = office.origins ++ [⟨id, hostId, proposal.seats, visit.checkedAt⟩] →
    Enters office visit later

/-- A row that is rewritten keeps its place, and one with an id that was just drawn comes last. -/
lemma enters_serve (made : ∀ o ∈ office.origins, office.ids.HasMade o.id)
    (rises : (office.serve visit).2.ids.Rises) :
    office.Enters visit (office.serve visit).2 := by
  have rewritten {row old : Conference} (hfind : office.programme.find? old.id = some old)
      (horigin : old.origin = row.origin) :
      (Table.put row office.programme).rows.map Conference.origin = office.origins :=
    Table.map_rows_put (Programme.mem_of_find? hfind)
      (congrArg Conference.Origin.id horigin) horigin
  obtain ⟨principal, operation, checkedAt, writtenAt⟩ := visit
  have performs := Performs.of_serve office ⟨principal, operation, checkedAt, writtenAt⟩
  dsimp only at performs
  generalize office.serve ⟨principal, operation, checkedAt, writtenAt⟩ = result at performs rises ⊢
  cases performs with
  | refused _ => exact .nothing rfl
  | @proposed proposal hostId id _ hfuture _ _ hdraw =>
    refine @Enters.proposal _ _ _ proposal hostId id rfl hfuture hdraw rfl ?_
    -- a rising source draws an id that comes after those of all rows
    have hnew : ∀ c ∈ office.programme.rows, c.id ≠ id := by
      rintro c hc rfl
      have hbefore := rises.before_of_draw (made _ (List.mem_map_of_mem hc)) hdraw
      rw [show c.origin.id = c.id from rfl, Text.before_irrefl] at hbefore
      cases hbefore
    exact (congrArg (List.map Conference.origin) (Table.rows_put_of_new hnew)).trans
      List.map_append
  | edited hfind _ _ _ => exact .nothing (rewritten hfind rfl)
  | decided _ hfind _ _ => exact .nothing (rewritten hfind rfl)
  | withdrawn hfind _ => exact .nothing (rewritten hfind rfl)
  | registered _ _ _ _ => exact .nothing rfl
  | commented _ _ _ _ _ _ _ _ => exact .nothing rfl
  | removed _ _ => exact .nothing rfl

/-- Whether a conference was there after some of the visits when another one was not. -/
def MadeFirst (start : Office) (visits : List Visit) (earlier later : String) : Prop :=
  ∃ past rest, visits = past ++ rest ∧
    (start.serveAll past).programme.contains earlier = true ∧
    (start.serveAll past).programme.contains later = false

/-- What was made first was so, whatever happens then. -/
lemma MadeFirst.concat {earlier later : String} (h : start.MadeFirst visits earlier later) :
    start.MadeFirst (visits ++ [visit]) earlier later := by
  obtain ⟨past, rest, rfl, hthere, hnot⟩ := h
  exact ⟨past, rest ++ [visit], List.append_assoc past rest [visit], hthere, hnot⟩

/-- The one conference comes before the other in every respect. -/
structure Precedes (start : Office) (visits : List Visit) (a b : Conference.Origin) : Prop where
  ids : Text.before a.id b.id = true
  times : b.createdAt.before? a.createdAt = some false
  first : start.MadeFirst visits a.id b.id

/-- What came before in every respect does so, whatever happens then. -/
lemma Precedes.concat (h : start.Precedes visits a b) : start.Precedes (visits ++ [visit]) a b :=
  ⟨h.ids, h.times, h.first.concat⟩

/-- The ids were made, the times were read off the clock, and each conference precedes the next. -/
structure Chronological (start : Office) (visits : List Visit) : Prop where
  made : ∀ o ∈ (start.serveAll visits).origins, (start.serveAll visits).ids.HasMade o.id
  dated : ∀ o ∈ (start.serveAll visits).origins,
    o.createdAt ∈ visits.flatMap Visit.readings ∧ o.createdAt.isAware = true
  ordered : (start.serveAll visits).origins.Pairwise (start.Precedes visits)

/-- Whether no time is before an earlier one, which takes that all of them can be put in order. -/
def NeverGoesBack (times : List Timestamp) : Prop :=
  times.Pairwise fun s t => t.before? s = some false

instance (times : List Timestamp) : Decidable (NeverGoesBack times) :=
  inferInstanceAs (Decidable (times.Pairwise fun s t => t.before? s = some false))

namespace Chronological

/-- An empty programme is in order. -/
lemma nil (hempty : start.programme = .empty) : start.Chronological [] := by
  have hnone : (start.serveAll []).origins = [] := by
    show start.programme.rows.map Conference.origin = []
    rw [hempty]
    rfl
  refine ⟨?_, ?_, ?_⟩
  · rw [hnone]
    exact List.forall_mem_nil _
  · rw [hnone]
    exact List.forall_mem_nil _
  · rw [hnone]
    exact .nil

/-- One visit, at a time that is not before the others, keeps everything in order. -/
lemma concat (h : start.Chronological visits)
    (times : ∀ t ∈ visit.operation.times, t.isAware = true)
    (clock : ∀ t ∈ visits.flatMap Visit.readings, visit.checkedAt.before? t = some false)
    (rises : (start.serveAll (visits ++ [visit])).ids.Rises) :
    start.Chronological (visits ++ [visit]) := by
  obtain ⟨made, dated, ordered⟩ := h
  have hlater := start.serveAll_concat visits visit
  have hmore {t : Timestamp} (ht : t ∈ visits.flatMap Visit.readings) :
      t ∈ (visits ++ [visit]).flatMap Visit.readings := by
    rw [List.flatMap_append]
    exact List.mem_append_left _ ht
  rw [hlater] at rises
  have enters := enters_serve made rises
  rw [← hlater] at enters
  cases enters with
  -- without a new conference, only the visits are more
  | nothing horigins =>
    refine ⟨?_, ?_, ?_⟩
    · rw [horigins, hlater]
      intro o ho
      cases ids_serve (start.serveAll visits) visit with
      | inl hids => exact hids ▸ made o ho
      | inr hids => exact hids ▸ (made o ho).draw
    · rw [horigins]
      exact fun o ho => ⟨hmore (dated o ho).1, (dated o ho).2⟩
    · rw [horigins]
      exact ordered.imp .concat
  | @proposal proposal hostId id hpropose hfuture hdraw hids horigins =>
    rw [hpropose] at times
    have haware := Window.isAware_now_of_checkFuture hfuture (times _ List.mem_cons_self)
    have hrises : (start.serveAll visits).ids.draw.2.Rises := by
      rw [← hids, hlater]
      exact rises
    have hbefore {o : Conference.Origin} (ho : o ∈ (start.serveAll visits).origins) :
        Text.before o.id id = true :=
      hrises.before_of_draw (made o ho) hdraw
    refine ⟨?_, ?_, ?_⟩
    · rw [horigins, hids]
      refine List.forall_mem_append.2 ⟨fun o ho => (made o ho).draw, ?_⟩
      exact List.forall_mem_singleton.2 (IdSource.hasMade_of_draw hdraw)
    · rw [horigins]
      refine List.forall_mem_append.2 ⟨fun o ho => ⟨hmore (dated o ho).1, (dated o ho).2⟩, ?_⟩
      refine List.forall_mem_singleton.2 ⟨?_, haware⟩
      simp [Visit.readings]
    · rw [horigins]
      refine List.pairwise_append.2 ⟨ordered.imp .concat, List.pairwise_singleton _ _, ?_⟩
      intro o ho last hlast
      obtain rfl := List.mem_singleton.1 hlast
      -- the id rises, the clock does not go back, and the row was not there before the visit
      refine ⟨hbefore ho, clock _ (dated o ho).1, visits, [visit], rfl, ?_, ?_⟩
      · obtain ⟨c, hc, rfl⟩ := List.mem_map.1 ho
        exact Option.isSome_iff_exists.2 ⟨c, Table.mem_rows_iff.1 hc⟩
      · rw [Table.contains_eq_false_iff]
        rintro c hc rfl
        have hself := hbefore (List.mem_map_of_mem hc)
        rw [show c.origin.id = c.id from rfl, Text.before_irrefl] at hself
        cases hself

end Chronological

/-- From empty stores, under a clock that never goes back and ids that rise, all is in order. -/
lemma chronological_serveAll (hempty : start.programme = .empty)
    (times : ∀ visit ∈ visits, ∀ t ∈ visit.operation.times, t.isAware = true)
    (clock : NeverGoesBack (visits.flatMap Visit.readings))
    (rises : (start.serveAll visits).ids.Rises) : start.Chronological visits := by
  induction visits using List.reverseRecOn with
  | nil => exact .nil hempty
  | append_singleton visits visit ih =>
    obtain ⟨hpast, hlast⟩ := List.forall_mem_append.1 times
    rw [NeverGoesBack, List.flatMap_append, List.flatMap_singleton] at clock
    obtain ⟨hbefore, _, hcross⟩ := List.pairwise_append.1 clock
    have hrises : (start.serveAll visits).ids.Rises := by
      rw [serveAll_concat] at rises
      exact rises_of_serve rises
    refine (ih hpast hbefore hrises).concat (hlast visit List.mem_cons_self) ?_ rises
    intro t ht
    exact hcross t ht visit.checkedAt List.mem_cons_self

/-- Where there are no conferences, it does not matter when they are listed. -/
lemma list_of_empty (hempty : office.programme.rows = []) (principal : Principal) (query : Query)
    (now seen : Timestamp) :
    office.list principal query now = office.list principal query seen := by
  simp only [list, Programme.list, Programme.fitting, Programme.live, hempty]
  rfl

/-- At a time without an offset nothing was made, so any other time does as well. -/
lemma Chronological.exists_aware (h : start.Chronological visits)
    (hnow : ∀ t ∈ visits.flatMap Visit.readings, now.before? t = some false)
    (principal : Principal) :
    ∃ seen, seen.isAware = true ∧
      (∀ query, (start.serveAll visits).list principal query now =
        (start.serveAll visits).list principal query seen) ∧
      ∀ c ∈ (start.serveAll visits).programme.rows, ∀ query : Query,
        query.Matches now c ↔ query.Matches seen c := by
  cases hrows : (start.serveAll visits).programme.rows with
  | nil =>
    refine ⟨.hour 0, rfl, fun query => list_of_empty hrows principal query now _, ?_⟩
    exact List.forall_mem_nil _
  | cons c rows =>
    have hc : c ∈ (start.serveAll visits).programme.rows := hrows ▸ List.mem_cons_self
    obtain ⟨hread, hmade⟩ := h.dated c.origin (List.mem_map_of_mem hc)
    have hcomparable := (Timestamp.before?_eq_some_iff.1 (hnow _ hread)).1
    rw [Timestamp.comparable, hmade, beq_iff_eq] at hcomparable
    exact ⟨now, hcomparable, fun _ => rfl, fun _ _ _ => Iff.rfl⟩

/-- A listing in order of creation is a listing by ids, in both directions. -/
lemma list_created_paged {principal : Principal} {query narrowed : Query} {limit : Nat}
    (aware : ∀ c ∈ office.programme.rows, c.window.isAware = true) (hnow : now.isAware = true)
    (hquery : query.IsAware) (hsort : query.sortBy = .created)
    (hscope : principal.scope query = .ok narrowed) (hlimit : 0 < limit)
    (hmost : (limit : Int) ≤ office.policy.pageLimit) (descending : Bool) :
    ∃ listed, Page.Lists Programme.idKey descending
        (fun c => c ∈ office.programme.rows ∧ c.isLive = true ∧ narrowed.Matches now c) listed ∧
      Page.Paged (fun page => office.list principal { query with page, descending } now) limit
        Conference.id office.card listed := by
  have hbounds : Query.IsAware { query with descending } := ⟨hquery.before, hquery.after⟩
  obtain ⟨listed, ⟨hordered, hmem⟩, hpaged⟩ := list_paged aware hnow hbounds
    (Principal.scope_turned hscope descending) hlimit hmost
  have hkey : Query.key { query with descending } = Programme.idKey := by
    simp only [Query.key, hsort]
  rw [hkey] at hordered
  refine ⟨listed, ⟨hordered, fun c => ?_⟩, hpaged⟩
  rw [hmem, Query.matches_turned]

/-- The rows stand in the order of their ids, so what is listed by ids is what fits of them. -/
lemma Chronological.pairwise_listed {kind : Conference → Prop} {listed : List Conference}
    (h : start.Chronological visits)
    (hlisted : Page.Lists Programme.idKey false
      (fun c => c ∈ (start.serveAll visits).programme.rows ∧ kind c) listed) :
    listed.Pairwise fun a b => start.Precedes visits a.origin b.origin := by
  classical
  have ordered := List.pairwise_map.1 h.ordered
  have hrows : Page.Ordered Programme.idKey false
      ((start.serveAll visits).programme.rows.filter fun c => decide (kind c)) :=
    (ordered.imp fun {a b} hab => Page.SortKey.before_ofId.trans hab.ids).filter _
  rw [hrows.eq_of_mem_iff hlisted.ordered fun c => by
    rw [hlisted.mem_iff, List.mem_filter, decide_eq_true_iff]]
  exact ordered.filter _

/--
From empty stores, under a clock that never goes back and ids that rise as they are made: read page
by page with any limit, a listing in order of creation shows the conferences that are asked for in
the order in which they were made, at times that do not go back either, and turned round it shows
them in exactly the reverse order.
-/
theorem listings_follow_creation (start : Office) (hempty : start.programme = .empty)
    (visits : List Visit)
    (times : ∀ visit ∈ visits, ∀ t ∈ visit.operation.times, t.isAware = true)
    (rises : (start.serveAll visits).ids.Rises) (now : Timestamp)
    (clock : NeverGoesBack (visits.flatMap Visit.readings ++ [now])) (principal : Principal)
    (query narrowed : Query) (hquery : query.IsAware) (hsort : query.sortBy = .created)
    (hscope : principal.scope query = .ok narrowed) (limit : Nat) (hlimit : 0 < limit)
    (hmost : (limit : Int) ≤ start.policy.pageLimit) :
    let office := start.serveAll visits
    ∃ listed,
      (∀ c, c ∈ listed ↔
        c ∈ office.programme.rows ∧ c.isLive = true ∧ narrowed.Matches now c) ∧
      listed.Pairwise (fun a b => start.MadeFirst visits a.id b.id ∧
        b.createdAt.before? a.createdAt = some false) ∧
      Page.Paged
        (fun page => office.list principal { query with page, descending := false } now) limit
        Conference.id office.card listed ∧
      Page.Paged
        (fun page => office.list principal { query with page, descending := true } now) limit
        Conference.id office.card listed.reverse := by
  intro office
  obtain ⟨hclock, _, hcross⟩ := List.pairwise_append.1 clock
  have chronological := chronological_serveAll hempty times hclock rises
  have aware := ((start.readRun_serveAll visits times).aware hempty).rows
  rw [← policy_serveAll start visits] at hmost
  obtain ⟨seen, hseen, hlist, hmatches⟩ := chronological.exists_aware
    (fun t ht => hcross t ht now (List.mem_singleton_self now)) principal
  have paged := list_created_paged aware hseen hquery hsort hscope hlimit hmost
  obtain ⟨listed, hlisted, hforward⟩ := paged false
  obtain ⟨turned, hturned, hbackward⟩ := paged true
  have hreverse : turned = listed.reverse :=
    hlisted.ordered.reverse.eq_of_mem_iff hturned.ordered fun c => by
      rw [hturned.mem_iff, List.mem_reverse, hlisted.mem_iff]
  simp only [office, hlist]
  refine ⟨listed, fun c => ?_, ?_, hforward, hreverse ▸ hbackward⟩
  · rw [hlisted.mem_iff]
    exact and_congr_right fun hc => and_congr_right fun _ => (hmatches c hc narrowed).symm
  · exact (chronological.pairwise_listed hlisted).imp fun hab => ⟨hab.first, hab.times⟩

/-- What a coordinator reads of the pending talks, those that were proposed last first. -/
theorem listings_follow_creation_of_series :
    let start := Office.start .standard (.scripted [])
    let root : Principal := ⟨some "root", some .admin⟩
    let query : Query := { pendingTalks with sortBy := .created }
    let talk (n : Nat) (hostId : String) (window : Window) : Conference :=
      Proposal.toConference ⟨default, 2, window⟩ (IdSource.numbered n) hostId (.hour 0)
    (start.serveAll series).ids.Rises ∧ NeverGoesBack (series.flatMap Visit.readings ++ [.hour 1]) ∧
      ∃ listed : List Conference, talk 2 "bob" (.hours 11 13) ∈ listed ∧
        talk 3 "cleo" (.hours 9 11) ∈ listed ∧
        listed.Pairwise (fun a b => start.MadeFirst series a.id b.id ∧
          b.createdAt.before? a.createdAt = some false) ∧
        Page.Paged
          (fun page => (start.serveAll series).list root
            { query with page, descending := true } (.hour 1))
          1 Conference.id (start.serveAll series).card listed.reverse := by
  intro start root query talk
  have rises : (start.serveAll series).ids.Rises := by decide
  have clock : NeverGoesBack (series.flatMap Visit.readings ++ [.hour 1]) := by decide
  obtain ⟨listed, hmem, hordered, _, hpaged⟩ := listings_follow_creation start rfl series
    (by decide) rises (.hour 1) clock root query query ⟨nofun, nofun⟩ rfl rfl 1 (by decide)
    (by decide)
  have pending (n : Nat) (hostId : String) (window : Window)
      (hfind : (start.serveAll series).programme.find? (talk n hostId window).id =
        some (talk n hostId window))
      (hahead : (Timestamp.hour 1).instant < window.endsAt.instant) :
      talk n hostId window ∈ listed := by
    obtain ⟨hrow, _, hlive⟩ := Programme.find?_eq_some_iff_mem.1 hfind
    refine (hmem (talk n hostId window)).2 ⟨hrow, hlive, ?_⟩
    exact ⟨rfl, .inr hahead, nofun, nofun, nofun, nofun⟩
  have second := pending 2 "bob" (.hours 11 13) (by decide +kernel) (by decide)
  have third := pending 3 "cleo" (.hours 9 11) (by decide +kernel) (by decide)
  exact ⟨rises, clock, listed, second, third, hordered, hpaged⟩

end Office

end Symposium
