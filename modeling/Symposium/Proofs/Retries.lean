import Mathlib.Data.List.Nodup
import Symposium.Proofs.ActiveProposals
import Symposium.Proofs.Grants

/-!
# Doing it again

Each operation is kept from being carried out twice in its own way: by the active proposal that is
found, by the status, by what is not live any more, by the seat or the feedback that is there
already. An edit may be repeated, as it leaves the row alone that it has made: the window that it
moves to was compared with the other conferences only. Main statement: an operation that is repeated
at once is refused and changes nothing, but for an edit, which succeeds and is only announced again.
-/

namespace Symposium

namespace Office

variable {office changed later : Office} {principal : Principal} {operation : Operation}
  {checkedAt writtenAt now : Timestamp} {event? : Option Event} {answer outcome : Outcome}
  {hostId userId : String} {row : Conference} {failure : Failure}

/-- A host may make a proposal exactly if no live conference fits the listing of active ones. -/
lemma checkActive_eq_ok_iff :
    office.checkActive hostId now = .ok () ↔
      ∀ c ∈ office.programme.live, (activeProposals hostId).fits now c = .ok false := by
  rw [← Failure.keep_eq_nil_iff]
  constructor
  · intro h
    obtain ⟨page, hlist, hnone⟩ := Failure.bind_eq_ok_iff.1 h
    obtain ⟨rows, hfitting, hcut⟩ := Failure.bind_eq_ok_iff.1 hlist
    cases hcut
    have hempty : rows = [] := by
      apply Page.eq_nil_of_cut_start Nat.one_pos
      split at hnone
      · next hhead => exact List.head?_eq_none_iff.1 hhead
      · cases hnone
    exact hempty ▸ hfitting
  · intro hnone
    exact Failure.bind_eq_ok_iff.2 ⟨_, Failure.bind_eq_ok_iff.2 ⟨[], hnone, rfl⟩, rfl⟩

/-- The one conference that fits the listing of active ones is named when a proposal is refused. -/
lemma checkActive_eq_error (hrow : row ∈ office.programme.live)
    (hfits : (activeProposals hostId).fits now row = .ok true)
    (hothers : ∀ c ∈ office.programme.live, c ≠ row →
      (activeProposals hostId).fits now c = .ok false) :
    office.checkActive hostId now = .error (.refused (.userHasActiveProposal row)) := by
  have hkept : office.programme.fitting (activeProposals hostId) now =
      .ok (office.programme.live.filter (· == row)) := by
    refine Failure.keep_of_total fun c hc => ?_
    by_cases hsame : c = row
    · rw [hsame, hfits, beq_self_eq_true]
    · rw [hothers c hc hsame, beq_eq_false_iff_ne.2 hsame]
  have hnodup : office.programme.live.Nodup :=
    (List.Nodup.of_map Conference.id office.programme.distinct).filter Conference.isLive
  rw [List.filter_beq, List.count_eq_one_of_mem hnodup hrow] at hkept
  simp only [checkActive, Programme.list, hkept, bind, Except.bind]
  rfl

/-- How an operation is refused where it was carried out just before, with the answer given then. -/
inductive RefusesAgain (office : Office) : Operation → Outcome → Refusal → Prop where
  | proposed {proposal row} :
    office.programme.find? row.id = some row →
    RefusesAgain office (.propose proposal) (.created row.id) (.userHasActiveProposal row)
  | decided {id status card} :
    RefusesAgain office (.decide id status) (.changed card) (.invalidStatusTransition status status)
  | withdrawn {id} :
    RefusesAgain office (.withdraw id) .done (.conferenceNotFound id)
  | registered {id} :
    RefusesAgain office (.register id) .done .alreadyRegistered
  | commented {id comment feedbackId} :
    RefusesAgain office (.giveFeedback id comment) (.created feedbackId) .feedbackAlreadyGiven
  | removed {id} :
    RefusesAgain office (.removeFeedback id) .done (.feedbackNotFound id)

section Again

/-- A host who has just made a proposal has an active one. -/
lemma check_propose_again {proposal : Proposal} {id : String}
    (hhost : principal.id = some hostId) (hfuture : proposal.window.checkFuture now = .ok ())
    (hactive : office.checkActive hostId now = .ok ())
    (hput : later.programme = office.programme.put (proposal.toConference id hostId now)) :
    later.check principal (.propose proposal) now =
      .error (.refused (.userHasActiveProposal (proposal.toConference id hostId now))) := by
  obtain ⟨hahead, hordered⟩ := Window.checkFuture_eq_ok_iff.1 hfuture
  have hfits : (activeProposals hostId).fits now (proposal.toConference id hostId now) =
      .ok true := by
    have hopen : now.isBefore proposal.window.endsAt = .ok true :=
      Failure.ofComparison_eq_ok_iff.2 (Window.before?_endsAt hordered hahead)
    simp [Query.fits, activeProposals, Window.isListed, Query.fitsTitle, Query.fitsHost,
      Query.fitsLatest, Query.fitsEarliest, Proposal.toConference, Failure.both, hopen]
  have hagain : later.checkActive hostId now =
      .error (.refused (.userHasActiveProposal (proposal.toConference id hostId now))) := by
    refine checkActive_eq_error ?_ hfits fun c hc hne => ?_
    · rw [hput]
      exact Programme.mem_live_iff.2 (Programme.find?_put_of_live rfl)
    · rw [hput, Programme.mem_live_iff, Programme.find?_put_iff] at hc
      obtain ⟨hsame, _⟩ | ⟨_, hfind⟩ := hc
      · exact absurd hsame hne
      · exact checkActive_eq_ok_iff.1 hactive c (Programme.mem_live_iff.2 hfind)
  simp only [check, draft, draftProposal, hhost, review, reviewProposal, bind, Except.bind,
    hfuture, hagain]

/-- A conference that was decided about is not pending. -/
lemma check_decide_again {id : String} {status : Status}
    (hright : principal.isRestricted = false) (hfind : later.programme.find? id = some row)
    (hstatus : row.status = status) :
    later.check principal (.decide id status) now =
      .error (.refused (.invalidStatusTransition status status)) := by
  have hrole := Principal.checkUnrestricted_eq_ok_iff.2 hright
  have hload : later.load id = .ok row := load_eq_ok_iff.2 hfind
  have hcheck : row.checkDecision status now =
      .error (.refused (.invalidStatusTransition status status)) := by
    rw [Conference.checkDecision, hstatus]
    cases status <;> rfl
  simp only [check, draft, draftDecision, hrole, hload, review, reviewDecision, bind, Except.bind,
    pure, Except.pure, hcheck]

/-- A conference that was withdrawn is not found. -/
lemma check_withdraw_again {id : String} (hfind : later.programme.find? id = none) :
    later.check principal (.withdraw id) now = .error (.refused (.conferenceNotFound id)) := by
  simp only [check, draft, draftWithdrawal, load, hfind, bind, Except.bind]

/-- Who has a seat is not admitted again, and the roll would not take the registration. -/
lemma register_again (hid : principal.id = some userId)
    (hfind : later.programme.find? row.id = some row) (hseat : later.roll.has row.id userId = true)
    (hadmission : later.policy.checksAdmission = true →
      principal.sees row = true ∧ userId ≠ row.hostId ∧
        checkedAt.before? row.window.endsAt = some true) :
    later.commitChecked writtenAt (later.check principal (.register row.id) checkedAt) =
      (.error (.refused .alreadyRegistered), later) := by
  -- without a check of admission, the roll itself finds the seat taken
  cases hpolicy : later.policy.checksAdmission with
  | false =>
    have hadd : later.roll.add later.programme ⟨row.id, userId, writtenAt⟩ =
        .error (.violated (.registeredTwice row.id)) := by
      simp only [Roll.add, hfind, hseat, if_true]
    rw [check_register hid hfind fun h => by rw [hpolicy] at h; cases h]
    show later.commitSeat (some userId) row.id writtenAt = _
    simp only [commitSeat, hadd]
    rfl
  | true =>
    obtain ⟨hsees, hguest, hahead⟩ := hadmission hpolicy
    have hload : later.loadVisible principal row.id = .ok row :=
      loadVisible_eq_ok_iff.2 ⟨hfind, hsees⟩
    have hopen : checkedAt.isBefore row.window.endsAt = .ok true :=
      Failure.ofComparison_eq_ok_iff.2 hahead
    have hcheck : later.check principal (.register row.id) checkedAt =
        .error (.refused .alreadyRegistered) := by
      simp [check, draft, draftSeat, approach, hpolicy, hload, isUser_eq_false hid hguest, review,
        reviewSeat, enter, admission, hid, hopen, hseat, Failure.require, bind, Except.bind, pure,
        Except.pure, Except.map]
    rw [hcheck]
    rfl

/-- Who has given feedback that is not removed does not give it again. -/
lemma check_giveFeedback_again {comment : Option String} (hid : principal.id = some userId)
    (hseat : later.roll.has row.id userId = true)
    (hfind : later.programme.find? row.id = some row) (hsees : principal.sees row = true)
    (hguest : userId ≠ row.hostId) (hended : checkedAt.before? row.window.endsAt = some false)
    (hsaid : later.feedback.has row.id userId = true) :
    later.check principal (.giveFeedback row.id comment) checkedAt =
      .error (.refused .feedbackAlreadyGiven) := by
  have hload : later.loadVisible principal row.id = .ok row :=
    loadVisible_eq_ok_iff.2 ⟨hfind, hsees⟩
  have hover : checkedAt.isBefore row.window.endsAt = .ok false :=
    Failure.ofComparison_eq_ok_iff.2 hended
  simp [check, draft, draftFeedback, hid, hseat, hload, isUser_eq_false hid hguest, review,
    reviewFeedback, hover, hsaid, Failure.require, bind, Except.bind, pure, Except.pure]

/-- A feedback that was removed is not found. -/
lemma remove_again {id : String} (hright : principal.isRestricted = false)
    (hfind : later.feedback.find? id = none) :
    later.commitChecked writtenAt (later.check principal (.removeFeedback id) checkedAt) =
      (.error (.refused (.feedbackNotFound id)), later) := by
  have hrole := Principal.checkUnrestricted_eq_ok_iff.2 hright
  have hcheck : later.check principal (.removeFeedback id) checkedAt = .ok (.removeFeedback id) :=
    Failure.bind_eq_ok_iff.2 ⟨_, Failure.map_eq_ok_iff.2 ⟨(), hrole, rfl⟩, rfl⟩
  rw [hcheck]
  show later.commitRemoval id writtenAt = _
  simp only [commitRemoval, FeedbackBook.remove, hfind]

end Again

/-- An operation that was carried out is refused where it has just been, but for an edit. -/
lemma Grants.refused_again
    (h : Grants office principal checkedAt writtenAt operation changed event? answer)
    (hedit : ∀ id edit, operation ≠ .edit id edit) (journal : Journal) :
    let later := { changed with journal }
    ∃ refusal, later.RefusesAgain operation answer refusal ∧
      later.commitChecked writtenAt (later.check principal operation checkedAt) =
        (.error (.refused refusal), later) := by
  intro later
  have of_check {refusal : Refusal}
      (hcheck : later.check principal operation checkedAt = .error (.refused refusal)) :
      later.commitChecked writtenAt (later.check principal operation checkedAt) =
        (.error (.refused refusal), later) := by
    rw [hcheck]
    rfl
  cases h with
  | @proposed proposal hostId id hhost hfuture hactive _ _ =>
    have hfind : later.programme.find? (proposal.toConference id hostId checkedAt).id =
        some (proposal.toConference id hostId checkedAt) :=
      Programme.find?_put_of_live rfl
    exact ⟨_, .proposed hfind, of_check (check_propose_again hhost hfuture hactive rfl)⟩
  | edited _ _ _ _ _ => exact absurd rfl (hedit _ _)
  | @decided row status hright hfind _ _ _ =>
    -- whatever was decided, the row is no longer pending
    have hlive : (Programme.stamped { row with status } checkedAt).isLive = true :=
      (Programme.find?_eq_some_iff_mem.1 hfind).2.2
    exact ⟨_, .decided,
      of_check (check_decide_again hright (Programme.find?_put_of_live hlive) rfl)⟩
  | withdrawn _ _ =>
    exact ⟨_, .withdrawn, of_check (check_withdraw_again (Programme.find?_put_of_not_live rfl))⟩
  | @registered row userId roll hid hfind hadmission hadd =>
    have hseat : later.roll.has row.id userId = true := by
      refine Roll.has_iff.2 ⟨⟨row.id, userId, writtenAt⟩, ?_, rfl, rfl⟩
      show _ ∈ roll.rows
      rw [Roll.rows_of_add hadd]
      exact List.mem_append_right _ List.mem_cons_self
    refine ⟨_, .registered, register_again hid hfind hseat fun hpolicy => ?_⟩
    obtain ⟨hsees, hguest, henter⟩ := hadmission hpolicy
    exact ⟨hsees, hguest, admission_ahead henter⟩
  | @commented row userId comment feedbackId hid hseat hfind hsees hguest hended _ _ =>
    have hsaid : later.feedback.has row.id userId = true := by
      refine List.any_eq_true.2 ⟨⟨feedbackId, row.id, userId, comment, checkedAt, none⟩, ?_, ?_⟩
      · exact Table.mem_rows_put.2 (.inl rfl)
      · simp [Feedback.isOf, Feedback.isLive]
    exact ⟨_, .commented,
      of_check (check_giveFeedback_again hid hseat hfind hsees hguest hended hsaid)⟩
  | @removed f hright _ =>
    have hfind : later.feedback.find? f.id = none := by
      show (Table.get? f.id (office.feedback.put { f with deletedAt := some writtenAt })).filter _ =
        none
      rw [Table.get?_put, if_pos rfl]
      rfl
    exact ⟨_, .removed, remove_again hright hfind⟩

/-- An edit that was carried out is granted again, and leaves the office alone. -/
lemma Grants.edited_again {id : String} {edit : Edit}
    (h : Grants office principal checkedAt writtenAt (.edit id edit) changed event? answer)
    (journal : Journal) :
    Grants { changed with journal } principal checkedAt writtenAt (.edit id edit)
      { changed with journal } event? answer := by
  cases h with
  | @edited row _ hfind hhost hallowed hfree hoverlap =>
    let written := Programme.stamped (edit.applyTo row) checkedAt
    let later : Office := { office with programme := office.programme.put written, journal }
    have hagain : edit.applyTo written = written := by
      have hsame := edit.applyTo_applyTo row
      show Programme.stamped (edit.applyTo (edit.applyTo row)) checkedAt = written
      rw [hsame]
    have hlive : written.isLive = true := (Programme.find?_eq_some_iff_mem.1 hfind).2.2
    have hbooked : later.programme.booked (some row.id) = office.programme.booked (some row.id) :=
      Programme.booked_put (c := written) rfl
    -- the edit found the conference open, and it is so after the edit, too
    obtain ⟨_, hrejected, hmove⟩ := Conference.checkEdit_eq_ok_iff.1 hallowed
    have hallowed' : written.checkEdit edit checkedAt = .ok () := by
      refine Conference.checkEdit_eq_ok_iff.2 ⟨Edit.before?_endsAt_applyTo hallowed, hrejected, ?_⟩
      rw [hagain]
      exact hmove
    have granted : Grants later principal checkedAt writtenAt (.edit row.id edit)
        { later with
          programme := later.programme.put (Programme.stamped (edit.applyTo written) checkedAt) }
        (some ⟨checkedAt, row.id, .updated (some row.hostId) edit.sentNames⟩)
        (.changed (later.card (Programme.stamped (edit.applyTo written) checkedAt))) := by
      refine @Grants.edited later principal checkedAt writtenAt written edit
        (Programme.find?_put_of_live hlive) hhost hallowed' ?_ ?_
      · intro hmoves
        have hsame : later.checkFree written.window (some row.id) =
            office.checkFree written.window (some row.id) := checkFree_congr rfl hbooked
        rw [hagain]
        exact hsame.trans (hfree hmoves)
      · rw [hagain]
        show Programme.checkOverlap (office.programme.put written) written = .ok ()
        rw [Programme.checkOverlap_put rfl]
        exact hoverlap
    -- the row that is put again is the one that is there
    have hput : later.programme.put (Programme.stamped written checkedAt) = later.programme :=
      Table.put_put rfl office.programme
    rw [hagain, hput] at granted
    exact granted

/--
Whoever repeats at once, at the same times, what was carried out, is refused, and nothing changes;
but an edit that is repeated is carried out with the same answer, and nothing changes but the
journal.
-/
theorem retries_change_nothing (office : Office) (visit : Visit) (answer : Outcome)
    (hok : (office.serve visit).1 = .ok answer) :
    let later := (office.serve visit).2
    ((∀ id edit, visit.operation ≠ .edit id edit) →
      ∃ refusal, later.RefusesAgain visit.operation answer refusal ∧
        later.serve visit = (.error (.refused refusal), later)) ∧
    ∀ id edit, visit.operation = .edit id edit → office.bus.NeverFails →
      ∃ journal, later.serve visit = (.ok answer, { later with journal }) := by
  intro later
  obtain ⟨changed, event?, granted, hserve⟩ := Grants.of_ok hok
  obtain ⟨journal, hjournal⟩ := exists_journal_of_conclude changed event? answer
  obtain hlater : later = { changed with journal } := (congrArg Prod.snd hserve).trans hjournal
  constructor
  · intro hedit
    rw [hlater]
    exact granted.refused_again hedit journal
  · intro id edit hoperation never
    rw [hoperation] at granted
    have again := granted.edited_again journal
    rw [← hlater, ← hoperation] at again
    have hnever : later.bus.NeverFails := by
      rw [(Performs.of_serve office visit).bus_eq]
      exact never
    obtain ⟨journal', hconclude⟩ := conclude_of_neverFails hnever event? answer
    exact ⟨journal', again.commitChecked_eq.trans hconclude⟩

/-- Alice asks for a talk twice over, and twice over she lets it end later. -/
theorem retries_change_nothing_of_talk :
    let asks : Visit :=
      ⟨⟨some "alice", some .user⟩, .propose ⟨default, 2, .hours 9 11⟩, .hour 0, .hour 0⟩
    let moves : Visit := ⟨⟨some "alice", some .user⟩,
      .edit (IdSource.numbered 1) { (default : Edit) with endsAt := Timestamp.hour 12 },
      .hour 1, .hour 1⟩
    let asked := ((start .standard (.scripted [])).serve asks).2
    let moved := (asked.serve moves).2
    (∃ refusal, asked.serve asks = (.error (.refused refusal), asked)) ∧
      ∃ answer journal, (asked.serve moves).1 = .ok answer ∧
        moved.serve moves = (.ok answer, { moved with journal }) := by
  intro asks moves asked moved
  constructor
  · obtain ⟨refusal, _, hserve⟩ := (retries_change_nothing (start .standard (.scripted []))
      asks (.created (IdSource.numbered 1)) rfl).1 (fun _ _ hedit => nomatch hedit)
    exact ⟨refusal, hserve⟩
  · have never : asked.bus.NeverFails := Bus.chroniclesOnce_standard.never
    obtain ⟨journal, hserve⟩ := (retries_change_nothing asked moves _ rfl).2 _ _ rfl never
    exact ⟨_, journal, rfl, hserve⟩

end Office

end Symposium
