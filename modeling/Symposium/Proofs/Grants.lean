import Symposium.Proofs.LostUpdates
import Symposium.Proofs.Visits

/-!
# What it takes to be carried out

`Grants` says what every operation takes, down to the last check of the store, what it leaves and
which event tells of it. Main statements: an operation that succeeds was granted, and one that is
granted is carried out; so what was granted in one office can be granted in another.
-/

namespace Symposium.Office

/-- Tells of an event, if there is one. -/
def conclude (office : Office) (event? : Option Event) (answer : Outcome) :
    Except Failure Outcome × Office :=
  match event? with
  | some event => office.announce event answer
  | none => (.ok answer, office)

/--
An operation of a principal that is checked at one time and written at another is carried out: the
office that it leaves, the event that is told of and the answer.
-/
inductive Grants (office : Office) (principal : Principal) (checkedAt writtenAt : Timestamp) :
    Operation → Office → Option Event → Outcome → Prop where
  | proposed {proposal hostId id} :
    principal.id = some hostId →
    proposal.window.checkFuture checkedAt = .ok () →
    office.checkActive hostId checkedAt = .ok () →
    office.checkFree proposal.window none = .ok () →
    office.ids.draw.1 = some id →
    Grants office principal checkedAt writtenAt (.propose proposal)
      { office with
        programme := office.programme.put (proposal.toConference id hostId checkedAt)
        ids := office.ids.draw.2 }
      (some ⟨checkedAt, id, .proposed (some hostId)⟩) (.created id)
  | edited {row edit} :
    office.programme.find? row.id = some row →
    principal.id = some row.hostId →
    row.checkEdit edit checkedAt = .ok () →
    (edit.movesWindow = true →
      office.checkFree (edit.applyTo row).window (some row.id) = .ok ()) →
    office.programme.checkOverlap (edit.applyTo row) = .ok () →
    Grants office principal checkedAt writtenAt (.edit row.id edit)
      { office with
        programme := office.programme.put (Programme.stamped (edit.applyTo row) checkedAt) }
      (some ⟨checkedAt, row.id, .updated (some row.hostId) edit.sentNames⟩)
      (.changed (office.card (Programme.stamped (edit.applyTo row) checkedAt)))
  | decided {row status} :
    principal.isRestricted = false →
    office.programme.find? row.id = some row →
    row.checkDecision status checkedAt = .ok () →
    (status = .approved → office.checkFree row.window (some row.id) = .ok ()) →
    office.programme.checkOverlap { row with status } = .ok () →
    Grants office principal checkedAt writtenAt (.decide row.id status)
      { office with
        programme := office.programme.put (Programme.stamped { row with status } checkedAt) }
      (some ⟨checkedAt, row.id, .decided principal.id row.status status⟩)
      (.changed (office.card (Programme.stamped { row with status } checkedAt)))
  | withdrawn {row} :
    office.programme.find? row.id = some row →
    principal.oversees row = true →
    Grants office principal checkedAt writtenAt (.withdraw row.id)
      { office with
        programme := office.programme.put
          { row with deletedAt := some writtenAt, updatedAt := writtenAt } }
      (some ⟨writtenAt, row.id, .deleted principal.id⟩) .done
  | registered {row userId roll} :
    principal.id = some userId →
    office.programme.find? row.id = some row →
    (office.policy.checksAdmission = true →
      principal.sees row = true ∧ userId ≠ row.hostId ∧
        office.admission (some userId) row checkedAt = .ok ()) →
    office.roll.add office.programme ⟨row.id, userId, writtenAt⟩ = .ok roll →
    Grants office principal checkedAt writtenAt (.register row.id)
      { office with roll } (some ⟨writtenAt, row.id, .registered userId⟩) .done
  | commented {row userId comment feedbackId} :
    principal.id = some userId →
    office.roll.has row.id userId = true →
    office.programme.find? row.id = some row →
    principal.sees row = true →
    userId ≠ row.hostId →
    checkedAt.before? row.window.endsAt = some false →
    office.feedback.has row.id userId = false →
    office.ids.draw.1 = some feedbackId →
    Grants office principal checkedAt writtenAt (.giveFeedback row.id (some comment))
      { office with
        feedback := office.feedback.put ⟨feedbackId, row.id, userId, comment, checkedAt, none⟩
        ids := office.ids.draw.2 }
      (some ⟨checkedAt, row.id, .commented feedbackId userId⟩) (.created feedbackId)
  | removed {f} :
    principal.isRestricted = false →
    office.feedback.find? f.id = some f →
    Grants office principal checkedAt writtenAt (.removeFeedback f.id)
      { office with feedback := office.feedback.put { f with deletedAt := some writtenAt } }
      none .done

variable {office changed : Office} {principal : Principal} {operation : Operation}
  {checkedAt writtenAt : Timestamp} {event? : Option Event} {answer outcome : Outcome}

/-- Telling of an event writes nothing but the journal. -/
lemma exists_journal_of_conclude (office : Office) (event? : Option Event) (answer : Outcome) :
    ∃ journal, (office.conclude event? answer).2 = { office with journal } := by
  cases event? with
  | none => exact ⟨office.journal, rfl⟩
  | some event => exact ⟨_, rfl⟩

/-- Where no handler fails, a change concludes with its answer, told or not. -/
lemma conclude_of_neverFails (never : office.bus.NeverFails) (event? : Option Event)
    (answer : Outcome) :
    ∃ journal, office.conclude event? answer = (.ok answer, { office with journal }) := by
  cases event? with
  | none => exact ⟨office.journal, rfl⟩
  | some event =>
    obtain ⟨journal, hpublish⟩ := Bus.publish_eq_ok never event office.journal
    refine ⟨journal, ?_⟩
    simp only [conclude, announce, hpublish]
    rfl

/-- What an announcement answers is the answer it was given. -/
lemma eq_of_announce_ok {event : Event} (h : (office.announce event answer).1 = .ok outcome) :
    answer = outcome := by
  obtain ⟨_, _, hsame⟩ := Failure.map_eq_ok_iff.1 h
  exact hsame

/-- A row that was written was taken by the programme. -/
lemma checkOverlap_of_commit {change : Change}
    (h : (office.commit writtenAt change).1 = .ok outcome) :
    ∀ row ∈ change.row?, office.programme.checkOverlap row = .ok () := by
  have htaken {row : Conference} {news : Event.News} {time : Timestamp}
      (h : (office.commitRow row news time).1 = .ok outcome) :
      office.programme.checkOverlap row = .ok () := by
    unfold commitRow at h
    split at h
    · cases h
    · next programme hupdate => exact (Programme.update_eq_ok_iff.1 hupdate).2.1
  intro row hrow
  cases change with
  | edit _ _ _ =>
    cases hrow
    exact htaken h
  | decide _ _ _ _ =>
    cases hrow
    exact htaken h
  | _ => cases hrow

/-- What passes its checks and is carried out was taken by the programme. -/
lemma checkOverlap_of_ok {row : Conference}
    (h : (office.commitChecked writtenAt (office.check principal operation checkedAt)).1 =
      .ok outcome)
    (htarget : operation.target? = some row.id) (hfind : office.programme.find? row.id = some row) :
    ∃ change, Passes office ⟨principal, operation, checkedAt⟩ row change ∧
      ∀ written ∈ change.row?, office.programme.checkOverlap written = .ok () := by
  cases hcheck : office.check principal operation checkedAt with
  | error failure =>
    rw [hcheck] at h
    cases h
  | ok change =>
    rw [hcheck] at h
    obtain ⟨found, hfound, hpasses⟩ : ∃ found, office.programme.find? row.id = some found ∧
        Passes office ⟨principal, operation, checkedAt⟩ found change :=
      Passes.of_check htarget hcheck
    obtain rfl := Option.some.inj (hfind.symm.trans hfound)
    exact ⟨change, hpasses, checkOverlap_of_commit h⟩

/-- An operation that succeeds was granted. -/
theorem Grants.of_ok
    (h : (office.commitChecked writtenAt (office.check principal operation checkedAt)).1 =
      .ok outcome) :
    ∃ changed event?, Grants office principal checkedAt writtenAt operation changed event? outcome ∧
      office.commitChecked writtenAt (office.check principal operation checkedAt) =
        changed.conclude event? outcome := by
  -- what was written passed the constraint of the programme, too
  have htaken {row : Conference} (htarget : operation.target? = some row.id)
      (hfind : office.programme.find? row.id = some row) := checkOverlap_of_ok h htarget hfind
  have performs := Performs.of_commitChecked office principal operation checkedAt writtenAt
  generalize office.commitChecked writtenAt (office.check principal operation checkedAt) = result
    at h performs
  cases performs with
  | refused _ => cases h
  | proposed hhost hfuture hactive hfree hdraw =>
    obtain rfl := eq_of_announce_ok h
    exact ⟨_, _, .proposed hhost hfuture hactive hfree hdraw, rfl⟩
  | edited hfind hhost hallowed hfree =>
    obtain rfl := eq_of_announce_ok h
    obtain ⟨change, hpasses, hoverlap⟩ := htaken rfl hfind
    obtain ⟨rfl, _⟩ := hpasses.of_edit rfl
    exact ⟨_, _, .edited hfind hhost hallowed hfree (hoverlap _ rfl), rfl⟩
  | decided hright hfind hallowed hfree =>
    obtain rfl := eq_of_announce_ok h
    obtain ⟨change, hpasses, hoverlap⟩ := htaken rfl hfind
    obtain ⟨rfl, _⟩ := hpasses.of_decide rfl
    exact ⟨_, _, .decided hright hfind hallowed hfree (hoverlap _ rfl), rfl⟩
  | withdrawn hfind hright =>
    obtain rfl := eq_of_announce_ok h
    exact ⟨_, _, .withdrawn hfind hright, rfl⟩
  | registered hid hfind hadmission hadd =>
    obtain rfl := eq_of_announce_ok h
    exact ⟨_, _, .registered hid hfind hadmission hadd, rfl⟩
  | commented hid hseat hfind hsees hguest hended hfresh hdraw =>
    obtain rfl := eq_of_announce_ok h
    exact ⟨_, _, .commented hid hseat hfind hsees hguest hended hfresh hdraw, rfl⟩
  | removed hright hfind =>
    cases h
    exact ⟨_, _, .removed hright hfind, rfl⟩

section Checks

variable {row : Conference} {userId : String}

/-- A guest is not the host. -/
lemma isUser_eq_false (hid : principal.id = some userId) (hguest : userId ≠ row.hostId) :
    principal.isUser row.hostId = false := by
  simp [Principal.isUser, hid, hguest]

/-- A guest who is admitted passes the checks of a seat. -/
lemma check_register (hid : principal.id = some userId)
    (hfind : office.programme.find? row.id = some row)
    (hadmission : office.policy.checksAdmission = true →
      principal.sees row = true ∧ userId ≠ row.hostId ∧
        office.admission (some userId) row checkedAt = .ok ()) :
    office.check principal (.register row.id) checkedAt = .ok (.register (some userId) row.id) := by
  cases hpolicy : office.policy.checksAdmission with
  | false =>
    have happroach : office.approach principal row.id = .ok none := by
      simp only [approach, hpolicy, Bool.false_eq_true, if_false]
    refine Failure.bind_eq_ok_iff.2 ⟨_, Failure.map_eq_ok_iff.2 ⟨none, happroach, rfl⟩, ?_⟩
    rw [hid]
    rfl
  | true =>
    obtain ⟨hsees, hguest, henter⟩ := hadmission hpolicy
    have hload : office.loadVisible principal row.id = .ok row :=
      loadVisible_eq_ok_iff.2 ⟨hfind, hsees⟩
    have happroach : office.approach principal row.id = .ok (some row) := by
      simp only [approach, hpolicy, if_true, hload, bind, Except.bind, isUser_eq_false hid hguest]
      rfl
    refine Failure.bind_eq_ok_iff.2 ⟨_, Failure.map_eq_ok_iff.2 ⟨some row, happroach, rfl⟩, ?_⟩
    rw [hid]
    exact Failure.map_eq_ok_iff.2 ⟨(), henter, rfl⟩

/-- A guest who took part passes the checks of a first feedback when all is over. -/
lemma check_giveFeedback {comment : Option String} (hid : principal.id = some userId)
    (hseat : office.roll.has row.id userId = true)
    (hfind : office.programme.find? row.id = some row) (hsees : principal.sees row = true)
    (hguest : userId ≠ row.hostId) (hended : checkedAt.before? row.window.endsAt = some false)
    (hfresh : office.feedback.has row.id userId = false) :
    office.check principal (.giveFeedback row.id comment) checkedAt =
      .ok (.giveFeedback userId row.id comment checkedAt) := by
  have hload : office.loadVisible principal row.id = .ok row :=
    loadVisible_eq_ok_iff.2 ⟨hfind, hsees⟩
  have hdraft : office.draft principal (.giveFeedback row.id comment) =
      .ok (.feedback userId row comment) := by
    simp only [draft, draftFeedback, hid, hseat, hload, isUser_eq_false hid hguest, bind,
      Except.bind]
    rfl
  have hreview : office.review checkedAt (.feedback userId row comment) =
      .ok (.giveFeedback userId row.id comment checkedAt) := by
    refine Failure.bind_eq_ok_iff.2 ⟨false, Failure.ofComparison_eq_ok_iff.2 hended, ?_⟩
    refine Failure.bind_eq_ok_iff.2 ⟨(), rfl, Failure.bind_eq_ok_iff.2 ⟨(), ?_, rfl⟩⟩
    rw [hfresh]
    rfl
  exact Failure.bind_eq_ok_iff.2 ⟨_, hdraft, hreview⟩

end Checks

/-- An operation that is granted is carried out. -/
theorem Grants.commitChecked_eq
    (h : Grants office principal checkedAt writtenAt operation changed event? answer) :
    office.commitChecked writtenAt (office.check principal operation checkedAt) =
      changed.conclude event? answer := by
  cases h with
  | @proposed proposal hostId id hhost hfuture hactive hfree hdraw =>
    have hdraft : office.draft principal (.propose proposal) = .ok (.proposal hostId proposal) := by
      simp only [draft, draftProposal, hhost]
    have hreview : office.review checkedAt (.proposal hostId proposal) =
        .ok (.propose hostId proposal checkedAt) :=
      Failure.bind_eq_ok_iff.2 ⟨(), hfuture, Failure.bind_eq_ok_iff.2 ⟨(), hactive,
        Failure.bind_eq_ok_iff.2 ⟨(), hfree, rfl⟩⟩⟩
    have hcheck : office.check principal (.propose proposal) checkedAt =
        .ok (.propose hostId proposal checkedAt) :=
      Failure.bind_eq_ok_iff.2 ⟨_, hdraft, hreview⟩
    -- a proposal is pending, so nothing is in its way
    have hpending : (proposal.toConference id hostId checkedAt).status = .pending := rfl
    have hids : office.ids.draw = (some id, office.ids.draw.2) := Prod.ext hdraw rfl
    rw [hcheck]
    show office.commitProposal hostId proposal checkedAt = _
    unfold commitProposal
    rw [hids]
    simp only [Programme.add_of_pending hpending]
    rfl
  | @edited row edit hfind hhost hallowed hfree hoverlap =>
    have hpasses : Passes office ⟨principal, .edit row.id edit, checkedAt⟩ row _ :=
      .edit rfl hhost hallowed hfree
    rw [hpasses.check_eq hfind]
    exact commitRow_eq hfind hoverlap
  | @decided row status hright hfind hallowed hfree hoverlap =>
    have hpasses : Passes office ⟨principal, .decide row.id status, checkedAt⟩ row _ :=
      .decision rfl hright hallowed hfree
    rw [hpasses.check_eq hfind]
    exact commitRow_eq hfind hoverlap
  | @withdrawn row hfind hright =>
    have hpasses : Passes office ⟨principal, .withdraw row.id, checkedAt⟩ row _ :=
      .withdrawal rfl hright
    have hwithdraw : office.programme.withdraw row.id writtenAt = .ok (office.programme.put
        { row with deletedAt := some writtenAt, updatedAt := writtenAt }) :=
      Programme.withdraw_eq_ok_iff.2 ⟨row, hfind, rfl⟩
    rw [hpasses.check_eq hfind]
    show office.commitWithdrawal principal.id row.id writtenAt = _
    simp only [commitWithdrawal, hwithdraw]
    rfl
  | @registered row userId roll hid hfind hadmission hadd =>
    rw [check_register hid hfind hadmission]
    show office.commitSeat (some userId) row.id writtenAt = _
    simp only [commitSeat, hadd]
    rfl
  | @commented row userId comment feedbackId hid hseat hfind hsees hguest hended hfresh hdraw =>
    rw [check_giveFeedback hid hseat hfind hsees hguest hended hfresh]
    have hadd : office.feedback.add ⟨feedbackId, row.id, userId, comment, checkedAt, none⟩ =
        .ok (office.feedback.put ⟨feedbackId, row.id, userId, comment, checkedAt, none⟩) :=
      FeedbackBook.add_eq_ok_iff.2 ⟨hfresh, rfl⟩
    have hids : office.ids.draw = (some feedbackId, office.ids.draw.2) := Prod.ext hdraw rfl
    show office.commitFeedback userId row.id (some comment) checkedAt = _
    unfold commitFeedback
    rw [hids]
    simp only [hadd]
    rfl
  | @removed f hright hfind =>
    have hcheck : office.check principal (.removeFeedback f.id) checkedAt =
        .ok (.removeFeedback f.id) := by
      have hrole := Principal.checkUnrestricted_eq_ok_iff.2 hright
      exact Failure.bind_eq_ok_iff.2 ⟨_, Failure.map_eq_ok_iff.2 ⟨(), hrole, rfl⟩, rfl⟩
    have hremove : office.feedback.remove f.id writtenAt =
        .ok (office.feedback.put { f with deletedAt := some writtenAt }) :=
      FeedbackBook.remove_eq_ok_iff.2 ⟨f, hfind, rfl⟩
    rw [hcheck]
    show office.commitRemoval f.id writtenAt = _
    simp only [commitRemoval, hremove]
    rfl

/-- No operation changes the handlers. -/
lemma Grants.bus_eq
    (h : Grants office principal checkedAt writtenAt operation changed event? answer) :
    changed.bus = office.bus := by
  cases h <;> rfl

end Symposium.Office
