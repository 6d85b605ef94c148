import Symposium.Proofs.Conflicts
import Symposium.Proofs.Visits

/-!
# Which conflicts are named

A window that is not free is refused twice over: by the review, which names the first conferences in
the way, and by the programme, which names whatever is in the way of the row. The second happens
only if a booking comes in between. The windows were compared when this is decided, so that they
overlap means that they share an instant. Main statement: what the review names is always the
beginning of all that is in the way, and what the programme names is so exactly if it is short
enough and happens to be in order.
-/

namespace Symposium

namespace Failure

/-- Whether a failure that names conflicts names such ones. -/
def Names (fit : List Clash → Prop) (failure : Failure) : Prop :=
  ∀ clashes, failure = .refused (.timeWindowConflict clashes) → fit clashes

end Failure

/-- Ordered windows that were compared are found to overlap exactly if they share an instant. -/
lemma Window.eq_true_iff_meets {a b : Window} {found : Bool} (oa : a.isOrdered = true)
    (ob : b.isOrdered = true) (h : a.overlaps? b = some found) : found = true ↔ a.Meets b := by
  -- the start of the one was compared with the end of the other, which goes with its start
  have hcomparable : a.startsAt.comparable b.startsAt = true := by
    have hend := (isOrdered_iff.1 ob).1
    have hfirst : a.startsAt.comparable b.endsAt = true := by
      unfold overlaps? at h
      split at h
      · cases h
      · next hbefore => exact (Timestamp.before?_eq_some_iff.1 hbefore).1
      · next hbefore => exact (Timestamp.before?_eq_some_iff.1 hbefore).1
    simp only [Timestamp.comparable, beq_iff_eq] at hend hfirst ⊢
    exact hfirst.trans hend.symm
  obtain ⟨found', hfound, hmeets⟩ := exists_overlaps? oa ob hcomparable
  obtain rfl := Option.some.inj (h.symm.trans hfound)
  exact hmeets

/-- What clashes are sorted by in order of their starts. -/
def Clash.startKey (clash : Clash) : Page.SortKey :=
  ⟨clash.window.startsAt.instant, clash.id⟩

/-- Clashes are in order of their starts exactly if their conferences are. -/
lemma Clash.ordered_map_ofConference {conferences : List Conference} :
    Page.Ordered startKey false (conferences.map ofConference) ↔
      Page.Ordered Programme.startKey false conferences :=
  List.pairwise_map

namespace Programme

variable {programme : Programme} {window : Window} {except : Option String} {c : Conference}
  {found : List Conference} {limit : Int} {clashes : List Clash}

/-- Whether a conference takes up a part of a window and is not the one that is left out. -/
structure IsInTheWay (programme : Programme) (window : Window) (except : Option String)
    (c : Conference) : Prop where
  mem : c ∈ programme.rows
  live : c.isLive = true
  approved : c.status = .approved
  ne : except ≠ some c.id
  meets : c.window.Meets window

/-- At least one and at most so many conferences are named: the first ones that are in the way. -/
structure NamesFirst (programme : Programme) (window : Window) (except : Option String)
    (limit : Int) (clashes : List Clash) : Prop where
  nonempty : clashes ≠ []
  bounded : (clashes.length : Int) ≤ limit
  first : ∃ all, Page.Ordered startKey false all ∧
    (∀ c, c ∈ all ↔ programme.IsInTheWay window except c) ∧
    clashes = (all.take limit.toNat).map Clash.ofConference

/-- All conferences that are in the way are named, in the order in which their ids came. -/
structure NamesAll (programme : Programme) (window : Window) (except : Option String)
    (clashes : List Clash) : Prop where
  nonempty : clashes ≠ []
  all : ∃ found : List Conference, found.Sublist programme.rows ∧
    (∀ c, c ∈ found ↔ programme.IsInTheWay window except c) ∧
    clashes = found.map Clash.ofConference

/-- The first ones are named by naming all exactly if these are few enough and in order. -/
lemma NamesAll.namesFirst_iff (h : programme.NamesAll window except clashes) :
    programme.NamesFirst window except limit clashes ↔
      (clashes.length : Int) ≤ limit ∧ Page.Ordered Clash.startKey false clashes := by
  constructor
  · rintro ⟨_, hbounded, all, hordered, _, rfl⟩
    refine ⟨hbounded, Clash.ordered_map_ofConference.2 ?_⟩
    exact hordered.sublist (List.take_sublist limit.toNat all)
  · rintro ⟨hbounded, hordered⟩
    obtain ⟨hne, found, _, hmem, rfl⟩ := h
    refine ⟨hne, hbounded, found, Clash.ordered_map_ofConference.1 hordered, hmem, ?_⟩
    rw [List.length_map] at hbounded
    rw [List.take_of_length_le (by omega)]

section Overlapping

variable (hfound : overlapping window (programme.booked except) = .ok found)

include hfound

/-- If the overlap is found out at all, each comparison comes to a result. -/
lemma exists_overlaps?_of_overlapping :
    ∀ c ∈ programme.booked except, ∃ overlaps, c.window.overlaps? window = some overlaps := by
  intro c hc
  obtain ⟨passes, hpasses, _⟩ := Failure.exists_passes_of_keep hfound
  exact ⟨passes c, Window.overlaps_eq_ok_iff.1 (hpasses c hc)⟩

/-- What is found to overlap is, once sorted, what is in the way in order of the starts. -/
lemma sortRows_overlapping :
    Page.sortRows startKey false found = inTheWay window (programme.booked except) := by
  have hinOrder := overlappingInOrder_eq (exists_overlaps?_of_overlapping hfound)
  rw [overlappingInOrder, hfound] at hinOrder
  exact Except.ok.inj hinOrder

/-- What is found to overlap is found in the order of the rows. -/
lemma sublist_of_overlapping : found.Sublist programme.rows := by
  obtain ⟨passes, _, rfl⟩ := Failure.exists_passes_of_keep hfound
  exact List.filter_sublist.trans List.filter_sublist

/-- What is found to overlap an ordered window is what is in the way of it. -/
lemma Sound.mem_overlapping_iff (hsound : programme.Sound) (hordered : window.isOrdered = true) :
    c ∈ found ↔ programme.IsInTheWay window except c := by
  rw [← (Page.sortRows_perm startKey false found).mem_iff, sortRows_overlapping hfound,
    mem_inTheWay_iff]
  have hmeets (hbooked : c ∈ programme.booked except) :
      c.window.overlaps? window = some true ↔ c.window.Meets window := by
    obtain ⟨overlaps, hoverlaps⟩ := exists_overlaps?_of_overlapping hfound c hbooked
    have hmem := (mem_booked_iff.1 hbooked).1
    rw [hoverlaps, Option.some.injEq]
    exact Window.eq_true_iff_meets (hsound.ordered c hmem) hordered hoverlaps
  constructor
  · rintro ⟨hbooked, hoverlaps⟩
    obtain ⟨hmem, htaken, hne⟩ := mem_booked_iff.1 hbooked
    obtain ⟨hlive, happroved⟩ := Bool.and_eq_true_iff.1 htaken
    exact ⟨hmem, hlive, beq_iff_eq.1 happroved, hne, (hmeets hbooked).1 hoverlaps⟩
  · rintro ⟨hmem, hlive, happroved, hne, hshared⟩
    have htaken : c.isBooked = true := Bool.and_eq_true_iff.2 ⟨hlive, beq_iff_eq.2 happroved⟩
    have hbooked := mem_booked_iff.2 ⟨hmem, htaken, hne⟩
    exact ⟨hbooked, (hmeets hbooked).2 hshared⟩

/-- The programme names all that is in the way. -/
lemma Sound.namesAll (hsound : programme.Sound) (hordered : window.isOrdered = true)
    (hne : found ≠ []) : programme.NamesAll window except (found.map Clash.ofConference) where
  nonempty := fun hnil => hne (List.map_eq_nil_iff.1 hnil)
  all := ⟨found, sublist_of_overlapping hfound,
    fun _ => hsound.mem_overlapping_iff hfound hordered, rfl⟩

/-- A report that is not empty names the first ones that are in the way. -/
lemma Sound.namesFirst (hsound : programme.Sound) (hordered : window.isOrdered = true)
    (hlimit : 1 ≤ limit) (hne : Page.upTo limit (Page.sortRows startKey false found) ≠ []) :
    programme.NamesFirst window except limit
      ((Page.upTo limit (Page.sortRows startKey false found)).map Clash.ofConference) := by
  rw [Page.upTo_of_nonneg (by omega)] at hne ⊢
  refine ⟨fun hnil => hne (List.map_eq_nil_iff.1 hnil), ?_, _, ?_, fun c => ?_, rfl⟩
  · rw [List.length_map, List.length_take]
    omega
  · rw [sortRows_overlapping hfound]
    exact ordered_inTheWay window (programme.nodup_ids_booked except)
  · rw [(Page.sortRows_perm startKey false found).mem_iff]
    exact hsound.mem_overlapping_iff hfound hordered

end Overlapping

end Programme

/-- The window that a draft is to take, and the conference that is left out when this is checked. -/
def Draft.booking? : Draft → Option (Window × Option String)
  | .proposal _ asked => some (asked.window, none)
  | .edit row changes => some ((changes.applyTo row).window, some row.id)
  | .decision _ row _ => some (row.window, some row.id)
  | _ => none

/-- The window that a change takes, and the conference that is left out when this is checked. -/
def Change.booking? : Change → Option (Window × Option String)
  | .propose _ proposal _ => some (proposal.window, none)
  | .edit row _ _ => some (row.window, some row.id)
  | .decide _ _ row _ => some (row.window, some row.id)
  | _ => none

/-- Whether no handler fails in the way in which a window is refused. -/
def Bus.NamesNothing (bus : Bus) : Prop :=
  ∀ s ∈ bus, ∀ event journal clashes,
    (s.handle event journal).1 ≠ .error (.refused (.timeWindowConflict clashes))

/-- Handlers that never fail name no clashes. -/
lemma Bus.NeverFails.namesNothing {bus : Bus} (never : bus.NeverFails) : bus.NamesNothing := by
  intro s hs event journal clashes hfails
  cases (never s hs event journal).symm.trans hfails

namespace Failure.Names

open Failure (Only)

variable {fit : List Clash → Prop} {window : Window} {now : Timestamp}

/-- A refusal of another kind names no clashes. -/
lemma of_ne {refusal : Refusal} (h : ∀ clashes, refusal ≠ .timeWindowConflict clashes) :
    Names fit (.refused refusal) :=
  fun clashes hsame => absurd (Failure.refused.inj hsame) (h clashes)

/-- A comparison that fails names no clashes. -/
lemma ofComparison {α : Type} {found : Option α} :
    Only (Names fit) (Failure.ofComparison found) :=
  Only.ofComparison fun _ hsame => nomatch hsame

/-- A conference that is not there is no clash. -/
lemma load {office : Office} {id : String} : Only (Names fit) (office.load id) := by
  unfold Office.load
  split
  · exact Only.ok
  · exact Only.error (of_ne nofun)

/-- A conference that is hidden is no clash. -/
lemma loadVisible {office : Office} {principal : Principal} {id : String} :
    Only (Names fit) (office.loadVisible principal id) :=
  Only.bind load fun _ _ => Only.bind (Only.require (of_ne nofun)) fun _ _ => Only.ok

/-- Who may not do something is told of no clashes. -/
lemma checkUnrestricted {principal : Principal} :
    Only (Names fit) principal.checkUnrestricted := by
  unfold Principal.checkUnrestricted
  split
  · exact Only.ok
  · exact Only.require (of_ne nofun)

/-- A window that lies behind or ends before it starts is refused without clashes. -/
lemma checkFuture : Only (Names fit) (window.checkFuture now) := by
  refine Only.bind ofComparison fun _ _ => Only.bind (Only.require (of_ne nofun)) fun _ _ => ?_
  exact Only.bind ofComparison fun _ _ => Only.require (of_ne nofun)

/-- An edit that comes too late is refused without clashes. -/
lemma checkEdit {row : Conference} {edit : Edit} : Only (Names fit) (row.checkEdit edit now) := by
  refine Only.bind ofComparison fun _ _ => Only.bind (Only.require (of_ne nofun)) fun _ _ => ?_
  refine Only.bind (Only.require (of_ne nofun)) fun _ _ => ?_
  split
  · exact Only.bind (Only.require (of_ne nofun)) fun _ _ => checkFuture
  · exact Only.ok

/-- A decision that cannot be made is refused without clashes. -/
lemma checkDecision {row : Conference} {status : Status} :
    Only (Names fit) (row.checkDecision status now) := by
  refine Only.bind (Only.require (of_ne nofun)) fun _ _ => ?_
  split
  · exact Only.bind ofComparison fun _ _ => Only.require (of_ne nofun)
  · exact Only.ok

/-- A query fails without naming clashes. -/
lemma fits {query : Query} {c : Conference} : Only (Names fit) (query.fits now c) := by
  refine Only.ok.both (Only.both ?_ (Only.ok.both (Only.both ?_ ?_)))
  · unfold Window.isListed
    split
    · exact Only.ok
    · exact ofComparison
  · unfold Query.fitsLatest
    split
    · exact Only.ok
    · exact ofComparison
  · unfold Query.fitsEarliest
    split
    · exact Only.ok
    · exact ofComparison

/-- A second active proposal is refused with the first one, which is no clash. -/
lemma checkActive {office : Office} {hostId : String} :
    Only (Names fit) (office.checkActive hostId now) := by
  have hlist : Only (Names fit) (office.programme.list (Office.activeProposals hostId) now) :=
    (Only.keep fun _ => fits).bind fun _ _ => Only.ok
  refine hlist.bind fun page _ => ?_
  split
  · exact Only.ok
  · exact Only.error (of_ne nofun)

/-- Handlers that name nothing are all that can fail at an announcement. -/
lemma announce {α : Type} {office : Office} {event : Event} {answer : α}
    (hbus : office.bus.NamesNothing) : Only (Names fit) (office.announce event answer).1 := by
  refine Only.map fun failure hfailure => ?_
  have hpublish : office.bus.publish event office.journal =
      (.error failure, (office.bus.publish event office.journal).2) := Prod.ext hfailure rfl
  obtain ⟨done, failing, rest, before, hfilter, _, hfails⟩ := Bus.exists_failing hpublish
  have hmem : failing ∈ office.bus := by
    have hmem : failing ∈ office.bus.filter (·.kind = event.kind) := by simp [hfilter]
    exact (List.mem_filter.1 hmem).1
  rintro clashes rfl
  exact absurd (congrArg Prod.fst hfails) (hbus failing hmem event before clashes)

end Failure.Names

namespace Office

open Failure (Only Names)

variable {office : Office} {now : Timestamp} {window : Window} {except : Option String}

/-- Nobody is told of conflicts before the rules are checked. -/
lemma draft_names {fit : List Clash → Prop} (principal : Principal) (operation : Operation) :
    Only (Names fit) (office.draft principal operation) := by
  cases operation with
  | propose proposal =>
    show Only (Names fit) (draftProposal principal proposal)
    unfold draftProposal
    split
    · exact Only.error (.of_ne nofun)
    · exact Only.ok
  | edit id edit =>
    refine Only.bind Names.load fun _ _ => ?_
    exact Only.bind (Only.require (.of_ne nofun)) fun _ _ => Only.ok
  | decide id status =>
    exact Only.bind Names.checkUnrestricted fun _ _ => Only.bind Names.load fun _ _ => Only.ok
  | withdraw id =>
    refine Only.bind Names.load fun _ _ => ?_
    exact Only.bind (Only.require (.of_ne nofun)) fun _ _ => Only.ok
  | register id =>
    apply Only.map
    unfold approach
    split
    · refine Only.bind Names.loadVisible fun _ _ => ?_
      exact Only.bind (Only.require (.of_ne nofun)) fun _ _ => Only.ok
    · exact Only.ok
  | giveFeedback id comment =>
    show Only (Names fit) (office.draftFeedback principal id comment)
    unfold draftFeedback
    split
    · exact Only.error (.of_ne (by simp))
    · refine Only.bind (Only.require (.of_ne (by simp))) fun _ _ => ?_
      refine Only.bind Names.loadVisible fun _ _ => ?_
      exact Only.bind (Only.require (.of_ne (by simp))) fun _ _ => Only.ok
  | removeFeedback id => exact Names.checkUnrestricted.map

/-- A window that is not free is refused with the first conferences in the way. -/
lemma checkFree_names (hsound : office.programme.Sound) (hordered : window.isOrdered = true)
    (hlimit : 1 ≤ office.policy.reportLimit) :
    Only (Names (office.programme.NamesFirst window except office.policy.reportLimit))
      (office.checkFree window except) := by
  unfold checkFree
  split
  case isFalse => exact Only.ok
  case isTrue =>
    have hreport : Only (Names (office.programme.NamesFirst window except
        office.policy.reportLimit)) (office.conflicts window except) :=
      ((Only.keep fun _ => Names.ofComparison).map).map
    refine hreport.bind fun conflicts hconflicts => ?_
    obtain ⟨sorted, hsorted, rfl⟩ := Failure.map_eq_ok_iff.1 hconflicts
    obtain ⟨found, hfound, rfl⟩ := Failure.map_eq_ok_iff.1 hsorted
    have hfirst := hsound.namesFirst hfound hordered hlimit
    generalize Page.upTo _ _ = reported at hfirst
    cases reported with
    | nil => exact Only.ok
    | cons c rest =>
      refine Only.error fun clashes hsame => ?_
      cases hsame
      exact hfirst (List.cons_ne_nil c rest)

/-- The review of a window that is to be taken names the first conferences in the way. -/
lemma review_names {d : Draft} (hsound : office.programme.Sound)
    (hrow : ∀ c ∈ d.row?, c.window.isOrdered = true) (hlimit : 1 ≤ office.policy.reportLimit)
    (hbooking : d.booking? = some (window, except)) :
    Only (Names (office.programme.NamesFirst window except office.policy.reportLimit))
      (office.review now d) := by
  cases d with
  | proposal hostId proposal =>
    cases hbooking
    refine Names.checkFuture.bind fun _ hfuture => Names.checkActive.bind fun _ _ => ?_
    have hordered := (Window.checkFuture_eq_ok_iff.1 hfuture).2
    exact (checkFree_names hsound hordered hlimit).bind fun _ _ => Only.ok
  | edit row edit =>
    cases hbooking
    refine Names.checkEdit.bind fun _ hallowed => Only.when (fun hmoves => ?_) Only.ok
    have hfuture := ((Conference.checkEdit_eq_ok_iff.1 hallowed).2.2 hmoves).2
    exact checkFree_names hsound (Window.checkFuture_eq_ok_iff.1 hfuture).2 hlimit
  | decision actorId row status =>
    cases hbooking
    refine Names.checkDecision.bind fun _ _ => Only.when (fun _ => ?_) Only.ok
    exact checkFree_names hsound (hrow row rfl) hlimit
  | _ => cases hbooking

/-- A row that is not taken is refused with all conferences in the way. -/
lemma commitRow_names {row : Conference} {news : Event.News} (hsound : office.programme.Sound)
    (hordered : row.window.isOrdered = true) (hbus : office.bus.NamesNothing) :
    Only (Names (office.programme.NamesAll row.window (some row.id)))
      (office.commitRow row news now).1 := by
  have hupdate : Only (fun failure => Names (office.programme.NamesAll row.window (some row.id))
      (unwritten row.id failure)) (office.programme.update row now) := by
    unfold Programme.update
    split
    · exact Only.error (.of_ne nofun)
    · refine Only.map ?_
      unfold Programme.checkOverlap
      split
      · refine Only.bind (Only.keep fun c => ?_) fun found hfound => ?_
        · exact Only.ofComparison fun _ hsame => nomatch hsame
        · cases found with
          | nil => exact Only.ok
          | cons c rest =>
            refine Only.error fun clashes hsame => ?_
            cases hsame
            -- the row itself is left out by its id, so all that is named is in its way
            exact hsound.namesAll hfound hordered (List.cons_ne_nil c rest)
      · exact Only.ok
  unfold commitRow
  split
  · next failure hfailure => exact Only.error (hupdate failure hfailure)
  · exact Names.announce hbus

/-- The commit of a window that is taken names all conferences in the way. -/
lemma commit_names {change : Change} (hsound : office.programme.Sound)
    (hwindow : ∀ w ∈ change.window?, w.isOrdered = true) (hbus : office.bus.NamesNothing)
    (hbooking : change.booking? = some (window, except)) :
    Only (Names (office.programme.NamesAll window except)) (office.commit now change).1 := by
  cases change with
  | propose hostId proposal time =>
    show Only _ (office.commitProposal hostId proposal time).1
    unfold commitProposal
    split
    · exact Only.error (.of_ne nofun)
    · next id ids _ =>
      have hpending : (proposal.toConference id hostId time).status = .pending := rfl
      rw [Programme.add_of_pending hpending]
      exact Names.announce hbus
  | edit row changedFields time =>
    cases hbooking
    exact commitRow_names hsound (hwindow row.window rfl) hbus
  | decide actorId previous row time =>
    cases hbooking
    exact commitRow_names hsound (hwindow row.window rfl) hbus
  | _ => cases hbooking

/--
In every state that is reached, whichever operations overtake each other: nobody is told of
conflicts before the rules are checked, a review names the first conferences that are in the way,
and a commit names all of them, which are the first ones exactly if they are few enough and in
order.
-/
theorem conflicts_are_named_iff {start : Office} {t : Traffic} (hempty : start.programme = .empty)
    (hrun : Traffic.Run (.quiet start) t) (hlimit : 1 ≤ t.office.policy.reportLimit)
    (hbus : t.office.bus.NamesNothing) (now : Timestamp) (clashes : List Clash) :
    let programme := t.office.programme
    let limit := t.office.policy.reportLimit
    (∀ principal operation, t.office.draft principal operation ≠
      .error (.refused (.timeWindowConflict clashes))) ∧
    (∀ d ∈ t.drafts, ∀ window except, d.booking? = some (window, except) →
      t.office.review now d = .error (.refused (.timeWindowConflict clashes)) →
        programme.NamesFirst window except limit clashes) ∧
    ∀ change ∈ t.changes, ∀ window except, change.booking? = some (window, except) →
      (t.office.commit now change).1 = .error (.refused (.timeWindowConflict clashes)) →
        programme.NamesAll window except clashes ∧
          (programme.NamesFirst window except limit clashes ↔
            (clashes.length : Int) ≤ limit ∧ Page.Ordered Clash.startKey false clashes) := by
  intro programme limit
  have hstart : start.programme.Sound := by
    rw [hempty]
    exact Programme.sound_empty
  obtain ⟨hsound, hdrafts, hchanges⟩ := Traffic.kept_sound.run hstart hrun
  refine ⟨?_, ?_, ?_⟩
  · intro principal operation hrefused
    have hnone : Only (Names fun _ => False) (t.office.draft principal operation) :=
      draft_names principal operation
    exact hnone _ hrefused clashes rfl
  · intro d hd window except hbooking hrefused
    exact review_names hsound (hdrafts d hd) hlimit hbooking _ hrefused clashes rfl
  · intro change hchange window except hbooking hrefused
    have hall := commit_names hsound (hchanges change hchange) hbus hbooking _ hrefused clashes rfl
    exact ⟨hall, hall.namesFirst_iff⟩

/-- Three proposals, the first of which overlaps both of the others, that do not overlap. -/
def rivals : Office :=
  (start (.checking 20 1) (.scripted [])).afterAll
    [.propose "alice" (.hours 1 10), .propose "bob" (.hours 6 7), .propose "dan" (.hours 2 3)]

/--
While the first of the rivals is to be approved, the others are. One approval of the first was
loaded before, and another one was reviewed as well.
-/
def overtaken : Traffic :=
  let row : Conference :=
    ⟨IdSource.numbered 1, default, 2, .hours 1 10, "alice", .pending, .hour 0, .hour 0, none⟩
  ⟨rivals.afterAll [.approve (IdSource.numbered 2), .approve (IdSource.numbered 3)],
    [.decision (some "root") row .approved],
    [.decide (some "root") .pending { row with status := .approved } (.hour 0)]⟩

/-- The approvals that overtake each other are a run from a new office. -/
lemma run_overtaken : Traffic.Run (.quiet (start (.checking 20 1) (.scripted []))) overtaken := by
  have hrivals : Traffic.Run (.quiet (start (.checking 20 1) (.scripted []))) (.quiet rivals) :=
    run_afterAll _ _
  have hothers := rivals.run_afterAll
    [.approve (IdSource.numbered 2), .approve (IdSource.numbered 3)]
  have hdraft : rivals.draft ⟨some "root", some .admin⟩
      (.decide (IdSource.numbered 1) .approved) = .ok (overtaken.drafts.head (by decide)) := rfl
  have hreview : rivals.review (.hour 0) (overtaken.drafts.head (by decide)) =
      .ok (overtaken.changes.head (by decide)) := rfl
  refine (((hrivals.tail (.draft hdraft)).tail (.draft hdraft)).tail
    (Traffic.StepAt.review_head hreview).step).trans ?_
  exact hothers.besides overtaken.drafts overtaken.changes

/-- What is named of the rivals that were approved, in the order in which they were proposed. -/
def rivalClashes : List Clash :=
  [⟨IdSource.numbered 2, "", .hours 6 7⟩, ⟨IdSource.numbered 3, "", .hours 2 3⟩]

/-- The approval that is still to be reviewed names the earlier rival, the other one names both. -/
theorem conflicts_are_named_iff_of_rivals :
    let programme := overtaken.office.programme
    programme.NamesFirst (.hours 1 10) (some (IdSource.numbered 1)) 1 (rivalClashes.drop 1) ∧
      programme.NamesAll (.hours 1 10) (some (IdSource.numbered 1)) rivalClashes := by
  intro programme
  have never : overtaken.office.bus.NeverFails := Bus.chroniclesOnce_standard.never
  constructor
  · exact (conflicts_are_named_iff rfl run_overtaken (by decide) never.namesNothing (.hour 0)
      (rivalClashes.drop 1)).2.1 _ List.mem_cons_self _ _ rfl rfl
  · exact ((conflicts_are_named_iff rfl run_overtaken (by decide) never.namesNothing (.hour 0)
      rivalClashes).2.2 _ List.mem_cons_self _ _ rfl rfl).1

/--
The approval that was reviewed before is refused when it is written, and the rivals that are named
then are more than may be named, and not in order.
-/
theorem late_conflicts_are_misnamed :
    Traffic.Run (.quiet (start (.checking 20 1) (.scripted []))) overtaken ∧
      ∃ change ∈ overtaken.changes,
        change.booking? = some (.hours 1 10, some (IdSource.numbered 1)) ∧
        (overtaken.office.commit (.hour 0) change).1 =
          .error (.refused (.timeWindowConflict rivalClashes)) ∧
        ¬ overtaken.office.programme.NamesFirst (.hours 1 10) (some (IdSource.numbered 1))
            overtaken.office.policy.reportLimit rivalClashes ∧
        ¬ Page.Ordered Clash.startKey false rivalClashes := by
  refine ⟨run_overtaken, _, List.mem_cons_self, rfl, rfl, ?_, ?_⟩
  · intro hfirst
    exact absurd hfirst.bounded (by decide)
  · show ¬ List.Pairwise _ _
    decide

end Office

end Symposium
