import Symposium.Office.Perform
import Symposium.Proofs.Stores

/-!
# The three stages of an operation

What each stage of an operation can do, as relations with one constructor for each way it can end
well: `Drafted` for what is loaded and which right is checked, `Reviewed` for the rules that hold at
the time, and `Commits` for what is written and announced. `Commits` also covers a commit that
fails, which writes nothing and at most uses up an id. Every invariant is proved by cases on these
relations: no other proof unfolds a stage to find out what it does.
-/

namespace Symposium.Office

/-- What an operation of a principal is drafted as. -/
inductive Drafted (office : Office) (principal : Principal) : Operation → Draft → Prop where
  | proposal {hostId proposal} :
    principal.id = some hostId →
    Drafted office principal (.propose proposal) (.proposal hostId proposal)
  | edit {id edit row} :
    office.programme.find? id = some row →
    principal.id = some row.hostId →
    Drafted office principal (.edit id edit) (.edit row edit)
  | decision {id status row} :
    principal.isRestricted = false →
    office.programme.find? id = some row →
    Drafted office principal (.decide id status) (.decision principal.id row status)
  | withdrawal {id row} :
    office.programme.find? id = some row →
    principal.oversees row = true →
    Drafted office principal (.withdraw id) (.withdrawal principal.id id)
  | seat {id row} :
    office.policy.checksAdmission = true →
    office.programme.find? id = some row →
    principal.sees row = true →
    principal.id ≠ some row.hostId →
    Drafted office principal (.register id) (.seat principal.id id (some row))
  | anySeat {id} :
    office.policy.checksAdmission = false →
    Drafted office principal (.register id) (.seat principal.id id none)
  | feedback {id comment userId row} :
    principal.id = some userId →
    office.roll.has id userId = true →
    office.programme.find? id = some row →
    principal.sees row = true →
    userId ≠ row.hostId →
    Drafted office principal (.giveFeedback id comment) (.feedback userId row comment)
  | removal {id} :
    principal.isRestricted = false →
    Drafted office principal (.removeFeedback id) (.removal id)

/-- Which change comes out of a draft that is reviewed at a time. -/
inductive Reviewed (office : Office) (now : Timestamp) : Draft → Change → Prop where
  | proposal {hostId proposal} :
    proposal.window.checkFuture now = .ok () →
    office.checkActive hostId now = .ok () →
    office.checkFree proposal.window none = .ok () →
    Reviewed office now (.proposal hostId proposal) (.propose hostId proposal now)
  | edit {row edit} :
    row.checkEdit edit now = .ok () →
    (edit.movesWindow = true →
      office.checkFree (edit.applyTo row).window (some row.id) = .ok ()) →
    Reviewed office now (.edit row edit) (.edit (edit.applyTo row) edit.sentNames now)
  | decision {actorId row status} :
    row.checkDecision status now = .ok () →
    (status = .approved → office.checkFree row.window (some row.id) = .ok ()) →
    Reviewed office now (.decision actorId row status)
      (.decide actorId row.status { row with status } now)
  | withdrawal {actorId id} :
    Reviewed office now (.withdrawal actorId id) (.withdraw actorId id)
  | seat {userId id row} :
    office.enter userId row now = .ok () →
    Reviewed office now (.seat userId id row) (.register userId id)
  | feedback {userId row comment} :
    now.before? row.window.endsAt = some false →
    office.feedback.has row.id userId = false →
    Reviewed office now (.feedback userId row comment) (.giveFeedback userId row.id comment now)
  | removal {id} :
    Reviewed office now (.removal id) (.removeFeedback id)

/-- How a commit ends, and in which office. -/
inductive Commits (office : Office) (now : Timestamp) :
    Change → Except Failure Outcome × Office → Prop where
  | refused {change failure ids} :
    ids = office.ids ∨ ids = office.ids.draw.2 →
    Commits office now change (.error failure, { office with ids })
  | proposed {hostId proposal time id programme} :
    office.ids.draw.1 = some id →
    office.programme.add (proposal.toConference id hostId time) = .ok programme →
    Commits office now (.propose hostId proposal time)
      ({ office with programme, ids := office.ids.draw.2 }.announce
        ⟨time, id, .proposed (some hostId)⟩ (.created id))
  | edited {row changedFields time programme} :
    office.programme.update row time = .ok programme →
    Commits office now (.edit row changedFields time)
      ({ office with programme }.announce ⟨time, row.id, .updated (some row.hostId) changedFields⟩
        (.changed (office.card (Programme.stamped row time))))
  | decided {actorId previous row time programme} :
    office.programme.update row time = .ok programme →
    Commits office now (.decide actorId previous row time)
      ({ office with programme }.announce ⟨time, row.id, .decided actorId previous row.status⟩
        (.changed (office.card (Programme.stamped row time))))
  | withdrawn {actorId id programme} :
    office.programme.withdraw id now = .ok programme →
    Commits office now (.withdraw actorId id)
      ({ office with programme }.announce ⟨now, id, .deleted actorId⟩ .done)
  | registered {userId id roll} :
    office.roll.add office.programme ⟨id, userId, now⟩ = .ok roll →
    Commits office now (.register (some userId) id)
      ({ office with roll }.announce ⟨now, id, .registered userId⟩ .done)
  | commented {userId id comment time feedbackId feedback} :
    office.ids.draw.1 = some feedbackId →
    office.feedback.add ⟨feedbackId, id, userId, comment, time, none⟩ = .ok feedback →
    Commits office now (.giveFeedback userId id (some comment) time)
      ({ office with feedback, ids := office.ids.draw.2 }.announce
        ⟨time, id, .commented feedbackId userId⟩ (.created feedbackId))
  | removed {id feedback} :
    office.feedback.remove id now = .ok feedback →
    Commits office now (.removeFeedback id) (.ok .done, { office with feedback })

variable {office : Office} {principal : Principal} {now : Timestamp}

/-- A conference is loaded to be shown exactly if it is live and the principal sees it. -/
lemma loadVisible_eq_ok_iff {id : String} {row : Conference} :
    office.loadVisible principal id = .ok row ↔
      office.programme.find? id = some row ∧ principal.sees row = true := by
  simp only [loadVisible, Failure.bind_eq_ok_iff, load_eq_ok_iff]
  constructor
  · rintro ⟨_, hfind, _, hsees, h⟩
    cases h
    exact ⟨hfind, Principal.checkView_eq_ok_iff.1 hsees⟩
  · rintro ⟨hfind, hsees⟩
    exact ⟨row, hfind, (), Principal.checkView_eq_ok_iff.2 hsees, rfl⟩

/-- Inversion of drafting. -/
theorem Drafted.of_draft {operation : Operation} {d : Draft}
    (h : office.draft principal operation = .ok d) : Drafted office principal operation d := by
  cases operation with
  | propose proposal =>
    simp only [draft, draftProposal] at h
    split at h
    · cases h
    · next hostId hid =>
      cases h
      exact .proposal hid
  | edit id edit =>
    obtain ⟨row, hrow, h⟩ := Failure.bind_eq_ok_iff.1 h
    obtain ⟨_, hhost, h⟩ := Failure.bind_eq_ok_iff.1 h
    cases h
    exact .edit (load_eq_ok_iff.1 hrow) (Principal.isUser_iff.1 (Failure.require_eq_ok_iff.1 hhost))
  | decide id status =>
    obtain ⟨_, hrole, h⟩ := Failure.bind_eq_ok_iff.1 h
    obtain ⟨row, hrow, h⟩ := Failure.bind_eq_ok_iff.1 h
    cases h
    exact .decision (Principal.checkUnrestricted_eq_ok_iff.1 hrole) (load_eq_ok_iff.1 hrow)
  | withdraw id =>
    obtain ⟨row, hrow, h⟩ := Failure.bind_eq_ok_iff.1 h
    obtain ⟨_, hright, h⟩ := Failure.bind_eq_ok_iff.1 h
    cases h
    exact .withdrawal (load_eq_ok_iff.1 hrow) (Failure.require_eq_ok_iff.1 hright)
  | register id =>
    obtain ⟨row?, happroach, rfl⟩ := Failure.map_eq_ok_iff.1 h
    -- the rights are looked at only if the policy says so
    cases hpolicy : office.policy.checksAdmission with
    | false =>
      simp only [approach, hpolicy, Bool.false_eq_true, if_false] at happroach
      cases happroach
      exact .anySeat hpolicy
    | true =>
      simp only [approach, hpolicy, if_true] at happroach
      obtain ⟨row, hrow, hrest⟩ := Failure.bind_eq_ok_iff.1 happroach
      obtain ⟨_, hguest, hrest⟩ := Failure.bind_eq_ok_iff.1 hrest
      cases hrest
      obtain ⟨hfind, hsees⟩ := loadVisible_eq_ok_iff.1 hrow
      have hguest := Failure.require_eq_ok_iff.1 hguest
      refine .seat hpolicy hfind hsees fun hhost => ?_
      rw [Principal.isUser_iff.2 hhost] at hguest
      cases hguest
  | giveFeedback id comment =>
    simp only [draft, draftFeedback] at h
    split at h
    · cases h
    · next userId hid =>
      obtain ⟨_, hseat, h⟩ := Failure.bind_eq_ok_iff.1 h
      obtain ⟨row, hrow, h⟩ := Failure.bind_eq_ok_iff.1 h
      obtain ⟨_, hguest, h⟩ := Failure.bind_eq_ok_iff.1 h
      cases h
      obtain ⟨hfind, hsees⟩ := loadVisible_eq_ok_iff.1 hrow
      have hguest := Failure.require_eq_ok_iff.1 hguest
      refine .feedback hid (Failure.require_eq_ok_iff.1 hseat) hfind hsees fun hhost => ?_
      rw [Principal.isUser_iff.2 (hhost ▸ hid)] at hguest
      cases hguest
  | removeFeedback id =>
    obtain ⟨_, hrole, rfl⟩ := Failure.map_eq_ok_iff.1 h
    exact .removal (Principal.checkUnrestricted_eq_ok_iff.1 hrole)

/-- Inversion of reviewing. -/
theorem Reviewed.of_review {d : Draft} {change : Change} (h : office.review now d = .ok change) :
    Reviewed office now d change := by
  cases d with
  | proposal hostId proposal =>
    obtain ⟨_, hfuture, h⟩ := Failure.bind_eq_ok_iff.1 h
    obtain ⟨_, hactive, h⟩ := Failure.bind_eq_ok_iff.1 h
    obtain ⟨_, hfree, h⟩ := Failure.bind_eq_ok_iff.1 h
    cases h
    exact .proposal hfuture hactive hfree
  | edit row edit =>
    obtain ⟨_, hallowed, h⟩ := Failure.bind_eq_ok_iff.1 h
    obtain ⟨hfree, h⟩ := Failure.when_eq_ok_iff.1 h
    cases h
    exact .edit hallowed hfree
  | decision actorId row status =>
    obtain ⟨_, hallowed, h⟩ := Failure.bind_eq_ok_iff.1 h
    obtain ⟨hfree, h⟩ := Failure.when_eq_ok_iff.1 h
    cases h
    exact .decision hallowed hfree
  | withdrawal actorId id =>
    cases h
    exact .withdrawal
  | seat userId id row =>
    obtain ⟨_, henter, rfl⟩ := Failure.map_eq_ok_iff.1 h
    exact .seat henter
  | feedback userId row comment =>
    obtain ⟨ahead, hahead, h⟩ := Failure.bind_eq_ok_iff.1 h
    obtain ⟨_, hended, h⟩ := Failure.bind_eq_ok_iff.1 h
    obtain ⟨_, hfresh, h⟩ := Failure.bind_eq_ok_iff.1 h
    cases h
    have hended := Failure.require_eq_ok_iff.1 hended
    have hfresh := Failure.require_eq_ok_iff.1 hfresh
    simp only [Bool.not_eq_true'] at hended hfresh
    subst hended
    exact .feedback (Failure.ofComparison_eq_ok_iff.1 hahead) hfresh
  | removal id =>
    cases h
    exact .removal

/-- A row that the programme takes is put in place of the live one, and this is announced. -/
lemma commitRow_eq {row current : Conference} {news : Event.News}
    (hfind : office.programme.find? row.id = some current)
    (hfree : office.programme.checkOverlap row = .ok ()) :
    office.commitRow row news now =
      announce { office with programme := office.programme.put (Programme.stamped row now) }
        ⟨now, row.id, news⟩ (.changed (office.card (Programme.stamped row now))) := by
  have hupdate : office.programme.update row now =
      .ok (office.programme.put (Programme.stamped row now)) :=
    Programme.update_eq_ok_iff.2 ⟨⟨current, hfind⟩, hfree, rfl⟩
  simp only [commitRow, hupdate]

/-- Inversion of committing. -/
theorem Commits.of_commit (office : Office) (now : Timestamp) (change : Change) :
    Commits office now change (office.commit now change) := by
  cases change with
  | propose hostId proposal time =>
    simp only [commit, commitProposal]
    split
    -- an id was drawn, even if it could not be made
    · next ids hdraw =>
      exact .refused (.inr (congrArg Prod.snd hdraw).symm)
    · next id ids hdraw =>
      obtain rfl : office.ids.draw.2 = ids := congrArg Prod.snd hdraw
      split
      · exact .refused (.inr rfl)
      · next programme hadd =>
        exact .proposed (congrArg Prod.fst hdraw) hadd
  | edit row changedFields time =>
    simp only [commit, commitRow]
    split
    · exact .refused (.inl rfl)
    · next programme hupdate =>
      exact .edited hupdate
  | decide actorId previous row time =>
    simp only [commit, commitRow]
    split
    · exact .refused (.inl rfl)
    · next programme hupdate =>
      exact .decided hupdate
  | withdraw actorId id =>
    simp only [commit, commitWithdrawal]
    split
    · exact .refused (.inl rfl)
    · next programme hwithdraw =>
      exact .withdrawn hwithdraw
  | register userId id =>
    simp only [commit, commitSeat]
    split
    · exact .refused (.inl rfl)
    · next userId =>
      split
      · exact .refused (.inl rfl)
      · next roll hadd =>
        exact .registered hadd
  | giveFeedback userId id comment time =>
    simp only [commit, commitFeedback]
    split
    · next ids _ hdraw =>
      exact .refused (.inr (congrArg Prod.snd hdraw).symm)
    · next ids hdraw =>
      exact .refused (.inr (congrArg Prod.snd hdraw).symm)
    · next feedbackId ids comment hdraw =>
      obtain rfl : office.ids.draw.2 = ids := congrArg Prod.snd hdraw
      split
      · exact .refused (.inr rfl)
      · next feedback hadd =>
        exact .commented (congrArg Prod.fst hdraw) hadd
  | removeFeedback id =>
    simp only [commit, commitRemoval]
    split
    · exact .refused (.inl rfl)
    · next feedback hremove =>
      exact .removed hremove

/-- A commit leaves the policy alone. -/
lemma Commits.policy_eq {change : Change} {result : Except Failure Outcome × Office}
    (h : Commits office now change result) : result.2.policy = office.policy := by
  cases h <;> rfl

end Symposium.Office
