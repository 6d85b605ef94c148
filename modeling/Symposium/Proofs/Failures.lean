import Symposium.Http.Service
import Symposium.Proofs.Calls

/-!
# What a failure leaves behind

An operation writes once, after everything in it that can go wrong, and tells of it last. So how it
`Concludes` before anybody is told does not depend on the handlers. Main statement: an operation
that fails has written nothing but the use of an id, or it has written all that it would have
written anyway, and the handlers in front of the one that failed have run.
-/

namespace Symposium

/-- Whether a handler leaves the timelines alone. -/
def Subscription.KeepsTimelines (s : Subscription) : Prop :=
  ∀ event journal, (s.handle event journal).2.timeline = journal.timeline

namespace Bus

variable {event : Event} {bus front back : Bus} {journal later : Journal} {failure : Failure}

/-- Whether no handler ever fails. -/
def NeverFails (bus : Bus) : Prop :=
  ∀ s ∈ bus, ∀ event journal, (s.handle event journal).1 = .ok ()

/-- Handlers run to their ends, one after the other. -/
inductive Completes (event : Event) : Bus → Journal → Journal → Prop where
  | nil {start} :
    Completes event [] start start
  | cons {s handlers start next final} :
    s.handle event start = (.ok (), next) →
    Completes event handlers next final →
    Completes event (s :: handlers) start final

/--
If handlers in a row run through, those in front do, and the others go on from what these wrote.
-/
lemma Completes.split (h : Completes event (front ++ back) journal later) :
    ∃ next, Completes event front journal next ∧ Completes event back next later := by
  induction front generalizing journal with
  | nil => exact ⟨journal, .nil, h⟩
  | cons s front ih =>
    cases h with
    | cons hs hrest =>
      obtain ⟨next, hfront, hback⟩ := ih hrest
      exact ⟨next, .cons hs hfront, hback⟩

/-- Handlers that leave the timelines alone leave them alone together. -/
lemma Completes.timeline_eq (h : Completes event bus journal later)
    (keeps : ∀ s ∈ bus, s.KeepsTimelines) : later.timeline = journal.timeline := by
  induction h with
  | nil => rfl
  | @cons s handlers start next final hs _ ih =>
    obtain ⟨hkeep, hkeeps⟩ := List.forall_mem_cons.1 keeps
    have hnext := hkeep event start
    rw [hs] at hnext
    exact (ih hkeeps).trans hnext

/-- One handler among some enters the event, if the others leave the timelines alone. -/
lemma Completes.timeline_of_chronicler {kind : Event.Kind}
    (h : Completes event (front ++ Subscription.chronicler kind :: back) journal later)
    (keeps : ∀ s ∈ front ++ back, s.KeepsTimelines) :
    later.timeline = journal.timeline ++ event.entry?.toList := by
  obtain ⟨hfront, hback⟩ := List.forall_mem_append.1 keeps
  obtain ⟨next, hbefore, hrest⟩ := h.split
  cases hrest with
  | @cons _ _ _ entered _ henters hafter =>
    have hentered : entered.timeline = next.timeline ++ event.entry?.toList := by
      obtain rfl := congrArg Prod.snd henters
      cases hentry : event.entry? with
      | none => simp [Subscription.chronicler, hentry]
      | some entry => simp [Subscription.chronicler, hentry, Journal.enter]
    calc later.timeline = entered.timeline := hafter.timeline_eq hback
      _ = next.timeline ++ event.entry?.toList := hentered
      _ = journal.timeline ++ event.entry?.toList := by rw [hbefore.timeline_eq hfront]

/-- Where no handler fails, an event is published. -/
lemma publish_eq_ok (never : bus.NeverFails) (event : Event) (journal : Journal) :
    ∃ later, bus.publish event journal = (.ok (), later) := by
  induction bus generalizing journal with
  | nil => exact ⟨journal, rfl⟩
  | cons s bus ih =>
    obtain ⟨hs, hbus⟩ := List.forall_mem_cons.1 never
    by_cases hkind : s.kind = event.kind
    · obtain ⟨later, hlater⟩ := ih hbus (s.handle event journal).2
      refine ⟨later, ?_⟩
      have hhandle : s.handle event journal = (.ok (), (s.handle event journal).2) :=
        Prod.ext (hs event journal) rfl
      rw [publish, if_pos hkind, hhandle]
      exact hlater
    · obtain ⟨later, hlater⟩ := ih hbus journal
      refine ⟨later, ?_⟩
      rw [publish, if_neg hkind]
      exact hlater

/-- If an announcement fails, the handlers in front of one that failed have run to their ends. -/
lemma exists_failing (h : bus.publish event journal = (.error failure, later)) :
    ∃ done failing rest before, bus.filter (·.kind = event.kind) = done ++ failing :: rest ∧
      Completes event done journal before ∧
      failing.handle event before = (.error failure, later) := by
  -- each handler that succeeds hands the journal on, so the induction is over any journal
  induction bus generalizing journal with
  | nil => cases h
  | cons s bus ih =>
    by_cases hkind : s.kind = event.kind
    · rw [publish, if_pos hkind] at h
      rw [List.filter_cons_of_pos (by simpa using hkind)]
      split at h
      · next next hs =>
        obtain ⟨done, failing, rest, before, hbus, hdone, hfails⟩ := ih h
        exact ⟨s :: done, failing, rest, before, congrArg (s :: ·) hbus, .cons hs hdone, hfails⟩
      · next failure' last hs =>
        cases h
        exact ⟨[], s, bus.filter (·.kind = event.kind), journal, rfl, .nil, hs⟩
    · rw [publish, if_neg hkind] at h
      rw [List.filter_cons_of_neg (by simpa using hkind)]
      exact ih h

end Bus

namespace Office

variable {office later : Office} {call : Call} {failure : Failure}

/-- The office with other handlers. -/
def under (office : Office) (bus : Bus) : Office :=
  { office with bus }

/-- How a call ends before anybody is told of it, whatever the handlers are. -/
inductive Concludes (office : Office) (call : Call) : Prop where
  | refused (failure ids) :
    (∀ bus, (office.under bus).perform call.principal call.operation call.now =
      (.error failure, { office with bus, ids })) →
    Concludes office call
  /-- The removal of a feedback is not announced. -/
  | removes (feedback) :
    (∀ bus, (office.under bus).perform call.principal call.operation call.now =
      (.ok .done, { office with bus, feedback })) →
    Concludes office call
  | announces (changed : Office) (event entry answer) :
    changed.journal = office.journal →
    event.entry? = some entry →
    (∀ bus, (office.under bus).perform call.principal call.operation call.now =
      (changed.under bus).announce event answer) →
    Concludes office call

/-- No decision that passes its checks makes a conference pending again. -/
lemma ne_pending_of_check {actorId : Option String} {previous : Status} {row : Conference}
    {time : Timestamp}
    (h : office.check call.principal call.operation call.now =
      .ok (.decide actorId previous row time)) : row.status ≠ .pending := by
  obtain ⟨d, _, hreview⟩ := Failure.bind_eq_ok_iff.1 h
  cases Reviewed.of_review hreview with
  | decision hallowed _ => exact (Conference.checkDecision_eq_ok_iff.1 hallowed).2.1

section Commit

variable {change : Change} (hperform : ∀ bus, (office.under bus).perform call.principal
  call.operation call.now = (office.under bus).commit call.now change)

include hperform

/-- A proposal uses an id up and fails, or it is written and announced. -/
lemma concludes_proposal {hostId : String} {proposal : Proposal} {time : Timestamp}
    (hchange : change = .propose hostId proposal time) : office.Concludes call := by
  subst hchange
  cases hdraw : office.ids.draw with
  | mk id? ids =>
    cases id? with
    | none =>
      refine .refused (.refused (.noConferenceId hostId)) ids fun bus => ?_
      rw [hperform]
      simp only [commit, commitProposal, under, hdraw]
    | some id =>
      cases hadd : office.programme.add (proposal.toConference id hostId time) with
      | error failure =>
        refine .refused failure ids fun bus => ?_
        rw [hperform]
        simp only [commit, commitProposal, under, hdraw, hadd]
      | ok programme =>
        refine .announces { office with programme, ids } ⟨time, id, .proposed (some hostId)⟩ _
          (.created id) rfl rfl fun bus => ?_
        rw [hperform]
        simp only [commit, commitProposal, under, hdraw, hadd]

/-- A row is refused, or it is written and announced. -/
lemma concludes_row {row : Conference} {news : Event.News} {time : Timestamp} {entry : Entry}
    (hchange : ∀ other : Office, other.commit call.now change = other.commitRow row news time)
    (hentry : Event.entry? ⟨time, row.id, news⟩ = some entry) : office.Concludes call := by
  cases hupdate : office.programme.update row time with
  | error failure =>
    refine .refused (unwritten row.id failure) office.ids fun bus => ?_
    rw [hperform, hchange]
    simp only [commitRow, under, hupdate]
  | ok programme =>
    refine .announces { office with programme } _ entry
      (.changed (office.card (Programme.stamped row time))) rfl hentry fun bus => ?_
    rw [hperform, hchange]
    simp only [commitRow, under, hupdate]
    rfl

/-- A withdrawal is refused, or it is written and announced. -/
lemma concludes_withdrawal {actorId : Option String} {id : String}
    (hchange : change = .withdraw actorId id) : office.Concludes call := by
  subst hchange
  cases hwithdraw : office.programme.withdraw id call.now with
  | error failure =>
    refine .refused (unwritten id failure) office.ids fun bus => ?_
    rw [hperform]
    simp only [commit, commitWithdrawal, under, hwithdraw]
  | ok programme =>
    refine .announces { office with programme } ⟨call.now, id, .deleted actorId⟩ _ .done rfl rfl
      fun bus => ?_
    rw [hperform]
    simp only [commit, commitWithdrawal, under, hwithdraw]

/-- A registration is refused, or it is added and announced. -/
lemma concludes_seat {userId? : Option String} {id : String}
    (hchange : change = .register userId? id) : office.Concludes call := by
  subst hchange
  cases userId? with
  | none =>
    refine .refused nobodysRegistration office.ids fun bus => ?_
    rw [hperform]
    rfl
  | some userId =>
    cases hadd : office.roll.add office.programme ⟨id, userId, call.now⟩ with
    | error failure =>
      refine .refused (unseated id failure) office.ids fun bus => ?_
      rw [hperform]
      simp only [commit, commitSeat, under, hadd]
    | ok roll =>
      refine .announces { office with roll } ⟨call.now, id, .registered userId⟩ _ .done rfl rfl
        fun bus => ?_
      rw [hperform]
      simp only [commit, commitSeat, under, hadd]

/-- A feedback uses an id up and fails, or it is written and announced. -/
lemma concludes_feedback {userId id : String} {comment? : Option String} {time : Timestamp}
    (hchange : change = .giveFeedback userId id comment? time) : office.Concludes call := by
  subst hchange
  cases hdraw : office.ids.draw with
  | mk feedbackId? ids =>
    cases feedbackId? with
    -- whatever goes wrong after the draw, the id is used up
    | none =>
      refine .refused (.refused (.noFeedbackId id userId)) ids fun bus => ?_
      rw [hperform]
      simp only [commit, commitFeedback, under, hdraw]
    | some feedbackId =>
      cases comment? with
      | none =>
        refine .refused uncommented ids fun bus => ?_
        rw [hperform]
        simp only [commit, commitFeedback, under, hdraw]
      | some comment =>
        cases hadd : office.feedback.add ⟨feedbackId, id, userId, comment, time, none⟩ with
        | error failure =>
          refine .refused (unsaid failure) ids fun bus => ?_
          rw [hperform]
          simp only [commit, commitFeedback, under, hdraw, hadd]
        | ok feedback =>
          refine .announces { office with feedback, ids } ⟨time, id, .commented feedbackId userId⟩ _
            (.created feedbackId) rfl rfl fun bus => ?_
          rw [hperform]
          simp only [commit, commitFeedback, under, hdraw, hadd]

/-- A removal is refused, or it is written and nobody is told. -/
lemma concludes_removal {id : String} (hchange : change = .removeFeedback id) :
    office.Concludes call := by
  subst hchange
  cases hremove : office.feedback.remove id call.now with
  | error failure =>
    refine .refused (.refused (.feedbackNotFound id)) office.ids fun bus => ?_
    rw [hperform]
    simp only [commit, commitRemoval, under, hremove]
  | ok feedback =>
    refine .removes feedback fun bus => ?_
    rw [hperform]
    simp only [commit, commitRemoval, under, hremove]

end Commit

/-- Every call concludes: it is refused, or it writes once and tells of it after that. -/
lemma concludes (office : Office) (call : Call) : office.Concludes call := by
  cases hcheck : office.check call.principal call.operation call.now with
  | error failure => exact .refused failure office.ids fun bus => perform_of_check_error hcheck
  | ok change =>
    have hperform (bus : Bus) :
        (office.under bus).perform call.principal call.operation call.now =
          (office.under bus).commit call.now change := perform_of_check_ok hcheck
    cases change with
    | propose _ _ _ => exact concludes_proposal hperform rfl
    | edit _ _ _ => exact concludes_row hperform (fun _ => rfl) rfl
    | decide _ previous row _ =>
      -- a row that stays pending would be announced without an entry
      have hdecided := ne_pending_of_check hcheck
      cases hstatus : row.status with
      | pending => exact absurd hstatus hdecided
      | approved => exact concludes_row hperform (fun _ => rfl) (by rw [hstatus]; rfl)
      | rejected => exact concludes_row hperform (fun _ => rfl) (by rw [hstatus]; rfl)
    | withdraw _ _ => exact concludes_withdrawal hperform rfl
    | register _ _ => exact concludes_seat hperform rfl
    | giveFeedback _ _ _ _ => exact concludes_feedback hperform rfl
    | removeFeedback _ => exact concludes_removal hperform rfl

/-- A call was refused: whoever is told of events, it writes nothing and at most uses up an id. -/
structure Refuses (office : Office) (call : Call) (failure : Failure) (later : Office) : Prop where
  kept : later = { office with ids := later.ids }
  anyway : ∀ bus, (office.under bus).perform call.principal call.operation call.now =
    (.error failure, later.under bus)

/--
A handler failed when it was told of an event. The handlers of such events that were subscribed
before it have run to their ends, and apart from what is written down about events the office is
the same as if no handler had failed.
-/
structure Interrupts (office : Office) (call : Call) (failure : Failure) (later : Office)
    (event : Event) (done : Bus) (failing : Subscription) (rest : Bus) (before : Journal) :
    Prop where
  handlers : office.bus.filter (·.kind = event.kind) = done ++ failing :: rest
  completed : Bus.Completes event done office.journal before
  failed : failing.handle event before = (.error failure, later.journal)
  written : ∀ bus : Bus, bus.NeverFails → ∃ outcome,
    (office.under bus).perform call.principal call.operation call.now =
      (.ok outcome, { later with bus, journal := (bus.publish event office.journal).2 })
  /-- There is no entry if the timelines were left to handlers after the one that failed. -/
  unentered : (∀ s ∈ done ++ [failing], s.KeepsTimelines) →
    later.journal.timeline = office.journal.timeline
  /-- There is an entry if the handler that enters it comes before the one that failed. -/
  entered : ∀ front back, done = front ++ Subscription.chronicler event.kind :: back →
    (∀ s ∈ front ++ back ++ [failing], s.KeepsTimelines) →
      ∃ entry, event.entry? = some entry ∧
        later.journal.timeline = office.journal.timeline ++ [entry]

/-- Where no handler fails, an announcement does not fail. -/
lemma announce_ne_error {event : Event} {answer : Outcome} (never : office.bus.NeverFails) :
    (office.announce event answer).1 ≠ .error failure := by
  obtain ⟨later, hlater⟩ := Bus.publish_eq_ok never event office.journal
  intro hfailure
  rw [announce, hlater] at hfailure
  cases hfailure

/-- An announcement that fails leaves what its handlers wrote, and all else as it was. -/
lemma announce_eq_error {event : Event} {answer : Outcome}
    (h : office.announce event answer = (.error failure, later)) :
    office.bus.publish event office.journal = (.error failure, later.journal) ∧
      later = { office with journal := later.journal } := by
  obtain ⟨result, journal, hpublish⟩ : ∃ result journal,
      office.bus.publish event office.journal = (result, journal) := ⟨_, _, rfl⟩
  simp only [announce, hpublish, Prod.mk.injEq] at h
  obtain ⟨hresult, rfl⟩ := h
  cases result with
  | error failure' =>
    cases hresult
    exact ⟨hpublish, rfl⟩
  | ok _ => cases hresult

/-- A call that would have been announced is interrupted if it fails. -/
lemma interrupts_of_announce {changed : Office} {event : Event} {entry : Entry} {answer : Outcome}
    (hjournal : changed.journal = office.journal) (hentry : event.entry? = some entry)
    (hall : ∀ bus, (office.under bus).perform call.principal call.operation call.now =
      (changed.under bus).announce event answer)
    (h : (changed.under office.bus).announce event answer = (.error failure, later)) :
    ∃ done failing rest before,
      office.Interrupts call failure later event done failing rest before := by
  obtain ⟨hpublish, hlater⟩ := announce_eq_error h
  obtain ⟨journal, rfl⟩ : ∃ journal, later = { changed with bus := office.bus, journal } :=
    ⟨later.journal, hlater⟩
  have hpublish : office.bus.publish event office.journal = (.error failure, journal) :=
    hjournal ▸ hpublish
  obtain ⟨done, failing, rest, before, hbus, hdone, hfails⟩ := Bus.exists_failing hpublish
  have keeps_failing (hkeeps : failing.KeepsTimelines) :
      journal.timeline = before.timeline := by
    have hsame := hkeeps event before
    rwa [hfails] at hsame
  refine ⟨done, failing, rest, before, hbus, hdone, hfails, ?_, ?_, ?_⟩
  · -- the write was the same, and only what is written down about the event differs
    intro bus never
    obtain ⟨last, hlast⟩ := Bus.publish_eq_ok never event office.journal
    refine ⟨answer, ?_⟩
    rw [hall, announce]
    simp only [under, hjournal, hlast]
    rfl
  · intro keeps
    obtain ⟨hdoneKeeps, hfailing⟩ := List.forall_mem_append.1 keeps
    exact (keeps_failing (hfailing failing List.mem_cons_self)).trans (hdone.timeline_eq hdoneKeeps)
  · intro front back hsplit keeps
    subst hsplit
    obtain ⟨hkeeps, hfailing⟩ := List.forall_mem_append.1 keeps
    refine ⟨entry, hentry, ?_⟩
    calc journal.timeline = before.timeline := keeps_failing (hfailing _ List.mem_cons_self)
      _ = office.journal.timeline ++ event.entry?.toList := hdone.timeline_of_chronicler hkeeps
      _ = office.journal.timeline ++ [entry] := by rw [hentry]; rfl

/--
An operation that fails was refused, or a handler failed after the write. An operation that only
reads leaves the office as it is.
-/
theorem failures_are_clean (office : Office) :
    (∀ (call : Call) (failure : Failure) (later : Office),
      office.perform call.principal call.operation call.now = (.error failure, later) →
        office.Refuses call failure later ∨
          ∃ event done failing rest before,
            office.Interrupts call failure later event done failing rest before) ∧
    ∀ (call : Http.Call) (caller : Http.Caller) (checkedAt writtenAt : Timestamp),
      call.operation? = none → (call.answer office caller checkedAt writtenAt).2 = office := by
  refine ⟨?_, ?_⟩
  · intro call failure later h
    cases office.concludes call with
    | refused failure' ids hall =>
      cases h.symm.trans (hall office.bus)
      exact .inl ⟨rfl, hall⟩
    | removes feedback hall => cases h.symm.trans (hall office.bus)
    | announces changed event entry answer hjournal hentry hall =>
      have hfails := (hall office.bus).symm.trans h
      exact .inr ⟨event, interrupts_of_announce hjournal hentry hall hfails⟩
  · intro call caller checkedAt writtenAt hreads
    exact Http.Call.answer_of_read hreads office caller checkedAt writtenAt

/-- An office with a pending conference, in which a handler fails when it is told of decisions. -/
def troubled : Office :=
  ((start .standard (.scripted [])).after (.propose "alice" (.hours 13 15))).under
    (Bus.standard.subscribe (.failing .decided))

/-- An approval that a handler fails to take in, one of nothing, and a look at the conference. -/
theorem failures_are_clean_of_approvals :
    (∃ event done failing rest before, troubled.Interrupts (.approve (IdSource.numbered 1))
        .handlerFailed (troubled.after (.approve (IdSource.numbered 1))) event done failing rest
        before) ∧
      troubled.Refuses (.approve "nothing") (.refused (.conferenceNotFound "nothing")) troubled ∧
      ((Http.Call.get (IdSource.numbered 1)).answer troubled ⟨"ann", .user⟩ (.hour 0)
        (.hour 0)).2 = troubled := by
  refine ⟨?_, ?_, ?_⟩
  · have hfails := (failures_are_clean troubled).1 (.approve (IdSource.numbered 1)) .handlerFailed
      (troubled.after (.approve (IdSource.numbered 1))) rfl
    cases hfails with
    | inl hrefuses =>
      -- the approval was written
      have hkept := congrArg (fun o : Office => o.programme.rows.map Conference.status)
        hrefuses.kept
      exact absurd hkept (by decide)
    | inr hinterrupts => exact hinterrupts
  · have hfails := (failures_are_clean troubled).1 (.approve "nothing")
      (.refused (.conferenceNotFound "nothing")) troubled rfl
    cases hfails with
    | inl hrefuses => exact hrefuses
    | inr hinterrupts =>
      obtain ⟨event, done, failing, rest, before, h⟩ := hinterrupts
      obtain ⟨outcome, hok⟩ := h.written [] nofun
      cases hok
  · exact (failures_are_clean troubled).2 (.get (IdSource.numbered 1)) ⟨"ann", .user⟩ (.hour 0)
      (.hour 0) rfl

end Office

end Symposium
