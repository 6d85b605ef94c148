import Symposium.Proofs.Stages

/-!
# Whole operations

What becomes of an operation from its draft to its commit if nothing comes in between. `Performs`
has one constructor for each operation that is carried out, with the rights and the rules that let
it pass and with what is written and announced, and one for all operations that are refused. Main
statement: this is all that an operation can do, whatever the handlers are.
-/

namespace Symposium.Office

/--
What an operation of a principal answers that is checked at one time and written at another, and the
office after it.
-/
inductive Performs (office : Office) (principal : Principal) (checkedAt writtenAt : Timestamp) :
    Operation → Except Failure Outcome × Office → Prop where
  | refused {operation failure ids} :
    ids = office.ids ∨ ids = office.ids.draw.2 →
    Performs office principal checkedAt writtenAt operation (.error failure, { office with ids })
  | proposed {proposal hostId id} :
    principal.id = some hostId →
    proposal.window.checkFuture checkedAt = .ok () →
    office.checkActive hostId checkedAt = .ok () →
    office.checkFree proposal.window none = .ok () →
    office.ids.draw.1 = some id →
    Performs office principal checkedAt writtenAt (.propose proposal)
      ({ office with
          programme := office.programme.put (proposal.toConference id hostId checkedAt)
          ids := office.ids.draw.2 }.announce
        ⟨checkedAt, id, .proposed (some hostId)⟩ (.created id))
  | edited {row edit} :
    office.programme.find? row.id = some row →
    principal.id = some row.hostId →
    row.checkEdit edit checkedAt = .ok () →
    (edit.movesWindow = true →
      office.checkFree (edit.applyTo row).window (some row.id) = .ok ()) →
    Performs office principal checkedAt writtenAt (.edit row.id edit)
      ({ office with
          programme :=
            office.programme.put (Programme.stamped (edit.applyTo row) checkedAt) }.announce
        ⟨checkedAt, row.id, .updated (some row.hostId) edit.sentNames⟩
        (.changed (office.card (Programme.stamped (edit.applyTo row) checkedAt))))
  | decided {row status} :
    principal.isRestricted = false →
    office.programme.find? row.id = some row →
    row.checkDecision status checkedAt = .ok () →
    (status = .approved → office.checkFree row.window (some row.id) = .ok ()) →
    Performs office principal checkedAt writtenAt (.decide row.id status)
      ({ office with
          programme :=
            office.programme.put (Programme.stamped { row with status } checkedAt) }.announce
        ⟨checkedAt, row.id, .decided principal.id row.status status⟩
        (.changed (office.card (Programme.stamped { row with status } checkedAt))))
  | withdrawn {row} :
    office.programme.find? row.id = some row →
    principal.oversees row = true →
    Performs office principal checkedAt writtenAt (.withdraw row.id)
      ({ office with
          programme := office.programme.put
            { row with deletedAt := some writtenAt, updatedAt := writtenAt } }.announce
        ⟨writtenAt, row.id, .deleted principal.id⟩ .done)
  | registered {row userId roll} :
    principal.id = some userId →
    office.programme.find? row.id = some row →
    (office.policy.checksAdmission = true →
      principal.sees row = true ∧ userId ≠ row.hostId ∧
        office.admission (some userId) row checkedAt = .ok ()) →
    office.roll.add office.programme ⟨row.id, userId, writtenAt⟩ = .ok roll →
    Performs office principal checkedAt writtenAt (.register row.id)
      ({ office with roll }.announce ⟨writtenAt, row.id, .registered userId⟩ .done)
  | commented {row userId comment feedbackId} :
    principal.id = some userId →
    office.roll.has row.id userId = true →
    office.programme.find? row.id = some row →
    principal.sees row = true →
    userId ≠ row.hostId →
    checkedAt.before? row.window.endsAt = some false →
    office.feedback.has row.id userId = false →
    office.ids.draw.1 = some feedbackId →
    Performs office principal checkedAt writtenAt (.giveFeedback row.id (some comment))
      ({ office with
          feedback :=
            office.feedback.put ⟨feedbackId, row.id, userId, comment, checkedAt, none⟩
          ids := office.ids.draw.2 }.announce
        ⟨checkedAt, row.id, .commented feedbackId userId⟩ (.created feedbackId))
  | removed {f} :
    principal.isRestricted = false →
    office.feedback.find? f.id = some f →
    Performs office principal checkedAt writtenAt (.removeFeedback f.id)
      (.ok .done,
        { office with feedback := office.feedback.put { f with deletedAt := some writtenAt } })

variable {office : Office} {principal : Principal} {operation : Operation}
  {checkedAt writtenAt : Timestamp}

/-- A principal who takes a seat, and is not the host if the host is looked at. -/
lemma Performs.of_seat {userId id : String} {roll : Roll} {row? : Option Conference}
    (hdrafted : Drafted office principal operation (.seat (some userId) id row?))
    (henter : office.enter (some userId) row? checkedAt = .ok ())
    (hadd : office.roll.add office.programme ⟨id, userId, writtenAt⟩ = .ok roll) :
    Performs office principal checkedAt writtenAt operation
      ({ office with roll }.announce ⟨writtenAt, id, .registered userId⟩ .done) := by
  obtain ⟨row, hfind, _⟩ := Roll.add_eq_ok_iff.1 hadd
  obtain ⟨_, rfl, _⟩ := Programme.find?_eq_some_iff_mem.1 hfind
  generalize huser : some userId = userId? at hdrafted henter
  cases hdrafted with
  | @seat _ loaded _ hloaded hsees hguest =>
    obtain rfl : row = loaded := Option.some.inj (hfind.symm.trans hloaded)
    refine .registered huser.symm hfind (fun _ => ⟨hsees, ?_, ?_⟩) hadd
    · rw [← huser] at hguest
      exact fun hhost => hguest (congrArg some hhost)
    · rw [huser]
      exact henter
  | anySeat hpolicy =>
    refine .registered huser.symm hfind (fun hadmits => ?_) hadd
    rw [hpolicy] at hadmits
    cases hadmits

/-- Inversion of an operation that is checked and written. -/
theorem Performs.of_commitChecked (office : Office) (principal : Principal) (operation : Operation)
    (checkedAt writtenAt : Timestamp) :
    Performs office principal checkedAt writtenAt operation
      (office.commitChecked writtenAt (office.check principal operation checkedAt)) := by
  cases hcheck : office.check principal operation checkedAt with
  | error failure => exact .refused (.inl rfl)
  | ok change =>
    obtain ⟨d, hdraft, hreview⟩ := Failure.bind_eq_ok_iff.1 hcheck
    have hdrafted := Drafted.of_draft hdraft
    have hreviewed := Reviewed.of_review hreview
    have hcommits := Commits.of_commit office writtenAt change
    show Performs _ _ _ _ _ (office.commit writtenAt change)
    generalize office.commit writtenAt change = result at hcommits
    -- from what was written back to what was reviewed and what was drafted
    cases hcommits with
    | refused hids => exact .refused hids
    | proposed hdraw hadd =>
      obtain ⟨_, rfl⟩ := Programme.add_eq_ok_iff.1 hadd
      cases hreviewed with
      | proposal hfuture hactive hfree =>
        cases hdrafted with
        | proposal hhost => exact .proposed hhost hfuture hactive hfree hdraw
    | edited hupdate =>
      obtain ⟨_, _, rfl⟩ := Programme.update_eq_ok_iff.1 hupdate
      cases hreviewed with
      | edit hallowed hfree =>
        cases hdrafted with
        | edit hfind hhost =>
          obtain ⟨_, rfl, _⟩ := Programme.find?_eq_some_iff_mem.1 hfind
          exact .edited hfind hhost hallowed hfree
    | decided hupdate =>
      obtain ⟨_, _, rfl⟩ := Programme.update_eq_ok_iff.1 hupdate
      cases hreviewed with
      | decision hallowed hfree =>
        cases hdrafted with
        | decision hright hfind =>
          obtain ⟨_, rfl, _⟩ := Programme.find?_eq_some_iff_mem.1 hfind
          exact .decided hright hfind hallowed hfree
    | withdrawn hwithdraw =>
      obtain ⟨row, hfind, rfl⟩ := Programme.withdraw_eq_ok_iff.1 hwithdraw
      obtain ⟨_, rfl, _⟩ := Programme.find?_eq_some_iff_mem.1 hfind
      cases hreviewed with
      | withdrawal =>
        cases hdrafted with
        | withdrawal hloaded hright =>
          cases hfind.symm.trans hloaded
          exact .withdrawn hfind hright
    | registered hadd =>
      cases hreviewed with
      | seat henter => exact .of_seat hdrafted henter hadd
    | commented hdraw hadd =>
      obtain ⟨_, rfl⟩ := FeedbackBook.add_eq_ok_iff.1 hadd
      cases hreviewed with
      | feedback hended hfresh =>
        cases hdrafted with
        | feedback hid hseat hfind hsees hguest =>
          obtain ⟨_, rfl, _⟩ := Programme.find?_eq_some_iff_mem.1 hfind
          exact .commented hid hseat hfind hsees hguest hended hfresh hdraw
    | removed hremove =>
      obtain ⟨f, hfind, rfl⟩ := FeedbackBook.remove_eq_ok_iff.1 hremove
      obtain rfl := Table.key_of_get? (Option.filter_eq_some_iff.1 hfind).1
      cases hreviewed with
      | removal =>
        cases hdrafted with
        | removal hright => exact .removed hright hfind

/-- Carrying out an operation at once is one of the ways to perform it. -/
lemma Performs.of_perform (office : Office) (principal : Principal) (operation : Operation)
    (now : Timestamp) :
    Performs office principal now now operation (office.perform principal operation now) :=
  .of_commitChecked office principal operation now now

namespace Performs

variable {result : Except Failure Outcome × Office}

/-- No operation changes what the office asks for. -/
lemma policy_eq (h : Performs office principal checkedAt writtenAt operation result) :
    result.2.policy = office.policy := by
  cases h <;> rfl

/-- No operation changes the handlers. -/
lemma bus_eq (h : Performs office principal checkedAt writtenAt operation result) :
    result.2.bus = office.bus := by
  cases h <;> rfl

end Performs

end Symposium.Office
