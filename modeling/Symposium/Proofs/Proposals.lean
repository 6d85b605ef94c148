import Symposium.Proofs.ActiveProposals
import Symposium.Proofs.Listings
import Symposium.Proofs.Requirements
import Symposium.Proofs.Validity

/-!
# What it takes to propose

A proposal is refused by the first of five rules that is broken, and the last of these, that an id
can be made, is looked at when everything else is settled. Whether a host has an active proposal is
found out by way of a listing: its first page, read from the end, has one row, so it is empty
exactly if nothing is listed and shows the latest of what is. Main statement: a proposal that breaks
no rule becomes one pending row with what was asked for, and nothing else changes.
-/

namespace Symposium

/-- Whether a conference is the latest active one of a host, if there are any. -/
def Programme.IsLatest (programme : Programme) (hostId : String) (now : Int)
    (latest : Conference) : Prop :=
  ∀ c ∈ programme.rows, c.IsActive hostId now →
    (latest ∈ programme.rows ∧ latest.IsActive hostId now) ∧
      (c = latest ∨ Text.before c.id latest.id = true)

/-- Conferences with different ids have different keys in the order in which they were made. -/
lemma Programme.nodup_idKeys {rows : List Conference} (hids : (rows.map Conference.id).Nodup) :
    (rows.map idKey).Nodup :=
  List.pairwise_map.2 <|
    (List.pairwise_map.1 hids).imp fun hne hkey => hne (congrArg Page.SortKey.id hkey)

/-- Where the last row comes first, the rows after it have lesser ids. -/
lemma Programme.before_of_precedes {a b : Conference}
    (h : Page.SortKey.precedes true (idKey a) (idKey b) = true) : Text.before b.id a.id = true :=
  Page.SortKey.before_ofId.symm.trans h

namespace Office

variable {office : Office} {hostId : String} {proposal : Proposal} {now : Timestamp}
  {latest c : Conference}

/-- The active conferences of a host are the live ones that the listing asks for. -/
lemma isActive_iff_matches (hlive : c.isLive = true) :
    c.IsActive hostId now.instant ↔ (activeProposals hostId).Matches now c := by
  constructor
  · intro h
    refine ⟨h.pending, .inr h.ahead, nofun, ?_, nofun, nofun⟩
    rintro _ ⟨⟩
    exact h.host.symm
  · intro h
    refine ⟨hlive, h.status, (h.host hostId rfl).symm, ?_⟩
    exact h.listed.resolve_left Bool.false_ne_true

/-- The check for an active proposal looks at the last row of a listing of them. -/
lemma exists_checkActive_eq (aware : ∀ c ∈ office.programme.rows, c.window.isAware = true)
    (hnow : now.isAware = true) (hostId : String) :
    ∃ listed, Page.Ordered Programme.idKey true listed ∧
      (∀ c, c ∈ listed ↔ c ∈ office.programme.rows ∧ c.IsActive hostId now.instant) ∧
      office.checkActive hostId now = match listed.head? with
        | none => .ok ()
        | some c => .error (.refused (.userHasActiveProposal c)) := by
  have hbounds : (activeProposals hostId).IsAware := ⟨nofun, nofun⟩
  -- the rows that are kept are the active ones, as no comparison fails
  obtain ⟨kept, hkept, hsublist, hmem⟩ := Failure.exists_keep office.programme.live fun c hc =>
    hbounds.exists_fits hnow (aware c (List.mem_filter.1 hc).1)
  have hrows : kept.Sublist office.programme.rows := hsublist.trans List.filter_sublist
  have hids : (kept.map Conference.id).Nodup :=
    (hrows.map Conference.id).nodup office.programme.distinct
  refine ⟨_, Page.ordered_sortRows (Programme.nodup_idKeys hids), fun c => ?_, ?_⟩
  · rw [(Page.sortRows_perm ..).mem_iff, hmem, Programme.live, List.mem_filter]
    constructor
    · rintro ⟨⟨hrow, hlive⟩, hmatches⟩
      exact ⟨hrow, (isActive_iff_matches hlive).2 hmatches⟩
    · rintro ⟨hrow, hactive⟩
      exact ⟨⟨hrow, hactive.live⟩, (isActive_iff_matches hactive.live).1 hactive⟩
  -- one row is asked for, the one with the greatest id
  · have hmeans : Page.Means Programme.idKey [] (1 : Nat) ⟨none, none, (1 : Nat)⟩ .start := .start
    have hpage : Programme.pageById ⟨none, none, (1 : Nat)⟩ true kept =
        .ok (Page.cut Programme.idKey true .start (1 : Nat) kept) :=
      Programme.pageById_eq_ok true hmeans
    have hlist : office.programme.list (activeProposals hostId) now =
        .ok (Page.cut Programme.idKey true .start (1 : Nat) kept) :=
      Failure.bind_eq_ok_iff.2 ⟨kept, hkept, hpage⟩
    rw [checkActive, hlist, Page.cut_start]
    generalize Page.sortRows Programme.idKey true kept = listed
    cases listed with
    | nil => rfl
    | cons latest earlier => rfl

/-- A host who has active proposals is told of the latest one. -/
lemma checkActive_enforces (aware : ∀ c ∈ office.programme.rows, c.window.isAware = true)
    (hnow : now.isAware = true) (hostId : String) :
    ∃ latest, office.programme.IsLatest hostId now.instant latest ∧
      Rule.Enforces
        [⟨∃ c ∈ office.programme.rows, c.IsActive hostId now.instant,
          .userHasActiveProposal latest⟩] ()
        (office.checkActive hostId now) := by
  obtain ⟨listed, hordered, hmem, hcheck⟩ := exists_checkActive_eq aware hnow hostId
  rw [hcheck]
  cases listed with
  | nil =>
    have hnone : ∀ c ∈ office.programme.rows, ¬ c.IsActive hostId now.instant :=
      fun c hc hactive => List.not_mem_nil ((hmem c).2 ⟨hc, hactive⟩)
    refine ⟨default, fun c hc hactive => absurd hactive (hnone c hc), .passed ?_⟩
    refine Rule.allKept_cons.2 ⟨?_, Rule.allKept_nil⟩
    rintro ⟨c, hc, hactive⟩
    exact hnone c hc hactive
  | cons latest earlier =>
    have hlatest := (hmem latest).1 List.mem_cons_self
    refine ⟨latest, fun c hc hactive => ⟨hlatest, ?_⟩, .here ⟨latest, hlatest⟩⟩
    obtain rfl | hearlier := List.mem_cons.1 ((hmem c).2 ⟨hc, hactive⟩)
    · exact .inl rfl
    · have hprecedes := (List.pairwise_cons.1 hordered).1 c hearlier
      exact .inr (Programme.before_of_precedes hprecedes)

/-- The rules of a proposal that depend on the programme, in their order. -/
def bookingRules (office : Office) (hostId : String) (proposal : Proposal) (now : Timestamp)
    (latest : Conference) : List Rule :=
  proposal.window.futureRules now ++
    [⟨∃ c ∈ office.programme.rows, c.IsActive hostId now.instant, .userHasActiveProposal latest⟩,
      office.freeRule proposal.window none]

/-- The rules of a proposal, in their order. -/
def proposalRules (office : Office) (hostId : String) (proposal : Proposal) (now : Timestamp)
    (latest : Conference) : List Rule :=
  office.bookingRules hostId proposal now latest ++
    [⟨office.ids.draw.1 = none, .noConferenceId hostId⟩]

/--
The review of a proposal refuses by the first of its rules that is broken, for the latest active
proposal of the host.
-/
lemma reviewProposal_enforces (regular : office.programme.IsRegular) (detects : office.Detects)
    (aware : proposal.window.isAware = true) (hnow : now.isAware = true) (hostId : String) :
    ∃ latest, office.programme.IsLatest hostId now.instant latest ∧
      Rule.Enforces (office.bookingRules hostId proposal now latest)
        (.propose hostId proposal now) (office.reviewProposal hostId proposal now) := by
  obtain ⟨latest, hlatest, hactive⟩ := checkActive_enforces regular.aware hnow hostId
  refine ⟨latest, hlatest, (Window.checkFuture_enforces aware hnow).bind fun hfuture => ?_⟩
  have hcompares := regular.compares aware (Window.isOrdered_of_allKept aware hfuture)
  have hfree := detects.checkFree_enforces hcompares none
  exact hactive.bind fun _ => hfree.map fun _ => Change.propose hostId proposal now

/--
Whether a result is that of a proposal: there is a pending row with what was asked for, the last one
if its id is new, and one more entry. The row can be read again, and nothing else has changed but
the source of ids.
-/
def Proposed (office : Office) (hostId : String) (proposal : Proposal) (now : Timestamp)
    (result : Except Failure Outcome × Office) : Prop :=
  ∃ id ids row, office.ids.draw = (some id, ids) ∧
    row = ⟨id, proposal.talk, proposal.seats, proposal.window, hostId, .pending, now, now, none⟩ ∧
    (office.programme.get? id = none →
      (office.programme.put row).rows = office.programme.rows ++ [row]) ∧
    (now.IsZoned → ∀ clock, Conference.ofJson clock row.toJson = .ok row) ∧
    Announced { office with programme := office.programme.put row, ids } (.created id)
      ⟨id, .proposed, some hostId, now, []⟩ result

/-- A proposal that passed its review is written if an id can be made. -/
lemma proposed_commit {id : String} {ids : IdSource} (never : office.bus.NeverFails)
    (valid : proposal.IsValid) (ordered : proposal.window.isOrdered = true)
    (hdraw : office.ids.draw = (some id, ids)) (hostId : String) :
    office.Proposed hostId proposal now (office.commit now (.propose hostId proposal now)) := by
  have hadd : office.programme.add (proposal.toConference id hostId now) =
      .ok (office.programme.put (proposal.toConference id hostId now)) :=
    Programme.add_of_pending rfl
  refine ⟨id, ids, _, hdraw, rfl, fun hnew => ?_, fun zoned clock => ?_, ?_⟩
  · refine Table.rows_put_of_new fun other hother hsame => ?_
    rw [← show other.id = id from hsame, Table.mem_rows_iff.1 hother] at hnew
    cases hnew
  · exact Conference.ofJson_toJson (.of_proposal valid ordered zoned id hostId) clock
  · simp only [commit, commitProposal, hdraw, hadd]
    apply announced_announce _ rfl
    exact never

/-- A proposal that passed its review is refused if no id can be made, and written otherwise. -/
lemma commit_proposal_cases (never : office.bus.NeverFails) (valid : proposal.IsValid)
    (ordered : proposal.window.isOrdered = true)
    (hkept : Rule.AllKept (office.bookingRules hostId proposal now latest)) :
    let rules := office.proposalRules hostId proposal now latest
    let result := office.commit now (.propose hostId proposal now)
    (∃ refusal ids, Rule.First rules refusal ∧
        result = (.error (.refused refusal), { office with ids }) ∧
        (ids = office.ids ∨ office.ids.draw = (none, ids))) ∨
      Rule.AllKept rules ∧ office.Proposed hostId proposal now result := by
  intro rules result
  cases hdraw : office.ids.draw with
  | mk drawn ids =>
    cases drawn with
    | none =>
      refine .inl ⟨_, ids, .after hkept (.here (congrArg Prod.fst hdraw)), ?_, .inr rfl⟩
      simp only [result, commit, commitProposal, hdraw]
    | some id =>
      have hids : Rule.AllKept [⟨office.ids.draw.1 = none, .noConferenceId hostId⟩] := by
        rw [Rule.allKept_cons, hdraw]
        exact ⟨Option.some_ne_none id, Rule.allKept_nil⟩
      exact .inr ⟨Rule.allKept_append.2 ⟨hkept, hids⟩,
        proposed_commit never valid ordered hdraw hostId⟩

/--
After any run, who makes a valid proposal is told the first of the rules that is broken, where the
latest active proposal is named if there is one, and nothing changes, unless an id was to be made
and could not be; if none is, the proposal becomes a row.
-/
theorem proposals_become_rows {start : Office} {t : Traffic} (hempty : start.programme = .empty)
    (hrun : Traffic.AwareRun (.quiet start) t) (detects : t.office.Detects)
    (never : t.office.bus.NeverFails) (principal : Principal) (hostId : String)
    (hnamed : principal.id = some hostId) (proposal : Proposal) (hread : proposal.IsRead)
    (now : Timestamp) (hnow : now.isAware = true) :
    let result := t.office.perform principal (.propose proposal) now
    ∃ latest, t.office.programme.IsLatest hostId now.instant latest ∧
      ((∃ refusal ids,
          Rule.First (t.office.proposalRules hostId proposal now latest) refusal ∧
          result = (.error (.refused refusal), { t.office with ids }) ∧
          (ids = t.office.ids ∨ t.office.ids.draw = (none, ids))) ∨
        Rule.AllKept (t.office.proposalRules hostId proposal now latest) ∧
          t.office.Proposed hostId proposal now result) := by
  intro result
  have regular := hrun.isRegular hempty
  have valid := hread.isValid
  have aware : proposal.window.isAware = true :=
    Bool.and_eq_true_iff.2 ⟨valid.startsAt.aware, valid.endsAt.aware⟩
  have hcheck : t.office.check principal (.propose proposal) now =
      t.office.reviewProposal hostId proposal now := by
    simp only [check, draft, draftProposal, hnamed]
    rfl
  obtain ⟨latest, hlatest, henforces⟩ :=
    reviewProposal_enforces regular detects aware hnow hostId
  rw [← hcheck] at henforces
  refine ⟨latest, hlatest, ?_⟩
  obtain ⟨refusal, hfirst, hrefused⟩ | ⟨hkept, hcommit⟩ := perform_cases henforces
  · exact .inl ⟨refusal, t.office.ids, hfirst.append _, hrefused, .inl rfl⟩
  · obtain ⟨hfuture, _⟩ := Rule.allKept_append.1 hkept
    have ordered := Window.isOrdered_of_allKept aware hfuture
    rw [show result = _ from hcommit]
    exact commit_proposal_cases never valid ordered hkept

/-- A proposal for the time of a talk that is pending only is accepted from another host. -/
theorem proposals_become_rows_of_series :
    let office := (start .standard (.scripted [])).serveAll series
    let proposal : Proposal := ⟨.onProofs, 2, .hours 9 11⟩
    office.Proposed "dan" proposal (.hour 1)
      (office.perform ⟨some "dan", some .user⟩ (.propose proposal) (.hour 1)) := by
  intro office proposal
  have hrun := awareRun_serveAll (start .standard (.scripted [])) series (by decide)
  have hread : proposal.IsRead :=
    ⟨.obj [("title", .str "Proofs"), ("description", .str "How they are written"),
      ("speaker_name", .str "Ann"), ("speaker_title", .str "Prover"),
      ("target_audience", .str "Everybody"), ("seats", .int 2),
      ("starts_at", .str "1970-01-01T09:00:00Z"), ("ends_at", .str "1970-01-01T11:00:00Z")], rfl⟩
  obtain ⟨latest, _, ⟨refusal, ids, _, hrefused, _⟩ | ⟨_, hproposed⟩⟩ := proposals_become_rows rfl
    hrun ⟨rfl, by decide⟩ Bus.chroniclesOnce_standard.never ⟨some "dan", some .user⟩ "dan" rfl
    proposal hread (.hour 1) rfl
  · have hok : (office.perform ⟨some "dan", some .user⟩ (.propose proposal) (.hour 1)).1 =
        .ok (.created (IdSource.numbered 4)) := rfl
    cases hok.symm.trans (congrArg Prod.fst hrefused)
  · exact hproposed

end Office

end Symposium
