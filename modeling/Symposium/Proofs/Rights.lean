import Symposium.Proofs.Answers
import Symposium.Proofs.Members
import Symposium.Proofs.Performance

/-!
# Who may change what

The right to an operation is checked in two places: an endpoint is open to some roles, and to
administrators, and an operation looks at who hosts the conference that it is about. What comes of
both is stated by what a request leaves behind: it may put one row of one store, and `Effect` says
which rows a caller may put. Main statement: after any requests, a further one leaves the stores and
the timelines as they are, or has one such effect.
-/

namespace Symposium

namespace Http

/-- What a caller may make of a conference. -/
structure Caller.MayRewrite (caller : Caller) (old new : Conference) : Prop where
  live : old.isLive = true
  origin : new.origin = old.origin
  content : new.talk ≠ old.talk ∨ new.window ≠ old.window →
    caller.id = old.hostId ∧ caller.role ∈ [.admin, .user]
  status : new.status ≠ old.status → caller.role ∈ [.admin, .coordinator]
  withdrawal : new.isLive = false →
    caller.id = old.hostId ∨ caller.role ∈ [.admin, .coordinator]

/-- Whether a caller takes part in a conference of somebody else. -/
structure Caller.IsGuest (caller : Caller) (office : Office) (id : String) : Prop where
  role : caller.role ∈ [.admin, .user]
  guest : ∃ c ∈ office.programme.rows, c.id = id ∧ c.isLive = true ∧ caller.id ≠ c.hostId

/-- Whether the timelines were continued by one entry about what a caller did to a conference. -/
def Caller.Reports (caller : Caller) (id : String) (before after : Office) : Prop :=
  ∃ entry, entry.conferenceId = id ∧ entry.actorId = some caller.id ∧
    after.journal.timeline = before.journal.timeline ++ [entry]

/-- Whether the stores and the timelines are the same. -/
structure Untouched (before after : Office) : Prop where
  programme : after.programme = before.programme
  roll : after.roll = before.roll
  feedback : after.feedback = before.feedback
  timeline : after.journal.timeline = before.journal.timeline

/-- What a request of a caller may do: put one row of one store, and report it. -/
inductive Effect (caller : Caller) (before after : Office) : Prop where
  | proposed (row : Conference) :
    (∀ old ∈ before.programme.rows, old.id ≠ row.id) →
    row.hostId = caller.id ∧ caller.role ∈ [.admin, .user] →
    row.status = .pending ∧ row.isLive = true →
    after.programme.rows = before.programme.rows ++ [row] →
    after.roll = before.roll →
    after.feedback = before.feedback →
    caller.Reports row.id before after →
    Effect caller before after
  | rewritten (old new : Conference) :
    old ∈ before.programme.rows →
    caller.MayRewrite old new →
    after.programme = before.programme.put new →
    after.roll = before.roll →
    after.feedback = before.feedback →
    caller.Reports old.id before after →
    Effect caller before after
  | registered (r : Registration) :
    before.roll.has r.conferenceId r.userId = false →
    r.userId = caller.id ∧ caller.IsGuest before r.conferenceId →
    after.programme = before.programme →
    after.roll.rows = before.roll.rows ++ [r] →
    after.feedback = before.feedback →
    caller.Reports r.conferenceId before after →
    Effect caller before after
  | commented (f : Feedback) :
    (∀ old ∈ before.feedback.rows, old.id ≠ f.id) →
    f.userId = caller.id ∧ caller.IsGuest before f.conferenceId →
    before.roll.has f.conferenceId f.userId = true ∧ f.isLive = true →
    after.programme = before.programme →
    after.roll = before.roll →
    after.feedback.rows = before.feedback.rows ++ [f] →
    caller.Reports f.conferenceId before after →
    Effect caller before after
  /-- The removal of a feedback is not reported. -/
  | removed (f : Feedback) (time : Timestamp) :
    f ∈ before.feedback.rows ∧ f.isLive = true →
    caller.role ∈ [.admin, .coordinator] →
    after.programme = before.programme →
    after.roll = before.roll →
    after.feedback = before.feedback.put { f with deletedAt := some time } →
    after.journal.timeline = before.journal.timeline →
    Effect caller before after

/-- In which roles one gets to ask for an operation. -/
def rolesFor : Operation → List Role
  | .propose _ | .edit .. | .register _ | .giveFeedback .. => [.admin, .user]
  | .decide .. | .removeFeedback _ => [.admin, .coordinator]
  | .withdraw _ => [.admin, .user, .coordinator]

section Gate

variable {ρ : Type} {framework : Framework ρ} {headers : IdentityHeaders} {request : ρ}
  {endpoint : Endpoint} {call : Call} {operation : Operation} {role : Role} {caller : Caller}

/-- An endpoint is open to administrators and to its roles. -/
lemma admits_iff : endpoint.admits role = true ↔ role ∈ .admin :: endpoint.roles := by
  simp [Endpoint.admits]

/-- An endpoint is open to the roles in which one gets to ask for what it is there for. -/
lemma rolesFor_eq (h : call.operation? = some operation) :
    rolesFor operation = .admin :: call.endpoint.roles := by
  cases call <;> cases h <;> rfl

/-- Whoever makes a call is known, in a role that the operation is open to. -/
lemma role_mem_of_understand
    (hunderstand : framework.understand headers request = .ok (caller, call))
    (hoperation : call.operation? = some operation) :
    framework.caller headers request = .ok caller ∧ caller.role ∈ rolesFor operation := by
  obtain ⟨hcaller, hadmits⟩ := Framework.of_understand hunderstand
  exact ⟨hcaller, rolesFor_eq hoperation ▸ admits_iff.1 hadmits⟩

end Gate

end Http

/-- An event is entered under its conference and its actor, unless a status is pending again. -/
lemma Event.exists_entry (event : Event)
    (h : ∀ actorId previous, event.news ≠ .decided actorId previous .pending) :
    ∃ entry, event.entry? = some entry ∧ entry.conferenceId = event.conferenceId ∧
      entry.actorId = event.actorId? := by
  obtain ⟨occurredAt, conferenceId, news⟩ := event
  cases news with
  | decided actorId previous status =>
    cases status with
    | pending => exact absurd rfl (h actorId previous)
    | approved => exact ⟨_, rfl, rfl, rfl⟩
    | rejected => exact ⟨_, rfl, rfl, rfl⟩
  | _ => exact ⟨_, rfl, rfl, rfl⟩

namespace Office

/--
Ids are made by a source that never repeats one, every event is entered on the timelines once, and
who registers has to be admitted.
-/
structure Regular (office : Office) : Prop where
  orderly : office.Orderly
  made : ∀ f ∈ office.feedback.rows, office.ids.HasMade f.id
  chronicles : office.bus.ChroniclesOnce
  admits : office.policy.checksAdmission = true

namespace Regular

variable {office : Office}

/-- Where nothing is stored, nothing has to be regular. -/
lemma of_isBlank (blank : office.IsBlank) (chronicles : office.bus.ChroniclesOnce)
    (admits : office.policy.checksAdmission = true) : office.Regular where
  orderly := blank.isNew.orderly
  made := by
    rw [blank.feedback]
    exact List.forall_mem_nil _
  chronicles := chronicles
  admits := admits

/-- A feedback that was not there before bears an id that was drawn for it. -/
lemma made_of_performs {principal : Principal} {operation : Operation}
    {checkedAt writtenAt : Timestamp} {result : Except Failure Outcome × Office}
    (h : office.Regular)
    (performs : Performs office principal checkedAt writtenAt operation result)
    (hmade : ∀ id, office.ids.HasMade id → result.2.ids.HasMade id) :
    ∀ f ∈ result.2.feedback.rows, result.2.ids.HasMade f.id := by
  intro f hf
  cases performs with
  | commented _ _ _ _ _ _ _ hdraw =>
    obtain rfl | ⟨hold, _⟩ := Table.mem_rows_put.1 hf
    · exact IdSource.hasMade_of_draw hdraw
    · exact hmade f.id (h.made f hold)
  | @removed g _ hfind =>
    obtain rfl | ⟨hold, _⟩ := Table.mem_rows_put.1 hf
    · exact hmade g.id (h.made g (FeedbackBook.mem_of_find? hfind))
    · exact hmade f.id (h.made f hold)
  | _ => exact hmade f.id (h.made f hf)

/-- A visit keeps the office regular. -/
lemma serve (h : office.Regular) (visit : Visit) : (office.serve visit).2.Regular where
  orderly := serve_of_kept Traffic.kept_orderly h.orderly visit
  made := h.made_of_performs (.of_serve office visit) fun _ => hasMade_serve office visit
  chronicles := by
    rw [(Performs.of_serve office visit).bus_eq]
    exact h.chronicles
  admits := by
    rw [(Performs.of_serve office visit).policy_eq]
    exact h.admits

end Regular

end Office

namespace Http

open Office (Performs)

variable {caller : Caller} {office changed : Office} {operation : Operation}
  {checkedAt writtenAt : Timestamp} {result : Except Failure Outcome × Office}

/-- A caller is the user whose id the principal has. -/
lemma Caller.id_eq {userId : String} (h : caller.principal.id = some userId) :
    caller.id = userId :=
  Option.some.inj h

/-- A caller who is no plain user administrates or coordinates. -/
lemma Caller.role_mem_of_unrestricted (h : caller.principal.isRestricted = false) :
    caller.role ∈ [.admin, .coordinator] := by
  obtain ⟨id, role⟩ := caller
  cases role with
  | user => cases h
  | _ => simp

/-- An event of the caller makes one entry, unless it makes a status pending again. -/
lemma Caller.reports_announce {time : Timestamp} {id : String} {news : Event.News}
    {answer : Outcome} (chronicles : changed.bus.ChroniclesOnce)
    (hjournal : changed.journal = office.journal)
    (hactor : Event.actorId? ⟨time, id, news⟩ = some caller.id)
    (hnews : ∀ actorId previous, news ≠ .decided actorId previous .pending) :
    caller.Reports id office (changed.announce ⟨time, id, news⟩ answer).2 := by
  obtain ⟨entry, hentry, hid, hsame⟩ := Event.exists_entry ⟨time, id, news⟩ hnews
  obtain ⟨journal, hpublish, htimeline⟩ := chronicles.publish ⟨time, id, news⟩ changed.journal
  refine ⟨entry, hid, hsame.trans hactor, ?_⟩
  have hlater : (changed.announce ⟨time, id, news⟩ answer).2.journal = journal :=
    congrArg Prod.snd hpublish
  rw [hlater, htimeline, hentry, hjournal]
  rfl

namespace Caller.MayRewrite

variable {row : Conference} {now : Timestamp}

/-- A host may edit what is live. -/
lemma of_edit (edit : Edit) (live : row.isLive = true) (hhost : caller.id = row.hostId)
    (hrole : caller.role ∈ [.admin, .user]) :
    caller.MayRewrite row (Programme.stamped (edit.applyTo row) now) where
  live := live
  origin := rfl
  content := fun _ => ⟨hhost, hrole⟩
  status := absurd rfl
  withdrawal := fun hdead => Bool.noConfusion (live.symm.trans hdead)

/-- A coordinator may decide about what is live. -/
lemma of_decision (status : Status) (live : row.isLive = true)
    (hrole : caller.role ∈ [.admin, .coordinator]) :
    caller.MayRewrite row (Programme.stamped { row with status } now) where
  live := live
  origin := rfl
  content := fun h => h.elim (absurd rfl) (absurd rfl)
  status := fun _ => hrole
  withdrawal := fun hdead => Bool.noConfusion (live.symm.trans hdead)

/-- Whoever oversees a conference may withdraw it. -/
lemma of_withdrawal (live : row.isLive = true) (hright : caller.principal.oversees row = true) :
    caller.MayRewrite row { row with deletedAt := some now, updatedAt := now } where
  live := live
  origin := rfl
  content := fun h => h.elim (absurd rfl) (absurd rfl)
  status := absurd rfl
  withdrawal := by
    intro _
    obtain hunrestricted | hhost := Bool.or_eq_true_iff.1 hright
    · exact .inr (role_mem_of_unrestricted (by simpa using hunrestricted))
    · exact .inl (id_eq (Principal.isUser_iff.1 hhost))

end Caller.MayRewrite

/-- An operation in a role that it is open to leaves everything as it is, or has an effect. -/
lemma effect_of_performs
    (performs : Performs office caller.principal checkedAt writtenAt operation result)
    (regular : office.Regular) (hrole : caller.role ∈ rolesFor operation) :
    Untouched office result.2 ∨ Effect caller office result.2 := by
  have chronicles := regular.chronicles
  cases performs with
  | refused _ => exact .inl ⟨rfl, rfl, rfl, rfl⟩
  | proposed hhost _ _ _ hdraw =>
    obtain rfl := Caller.id_eq hhost
    -- the id was never made, so the row is put under a key of its own
    have hnew := regular.orderly.neverRepeats.ne_of_draw regular.orderly.made hdraw
    refine .inr (.proposed _ hnew ⟨rfl, hrole⟩ ⟨rfl, rfl⟩ (Table.rows_put_of_new hnew) rfl rfl ?_)
    refine Caller.reports_announce chronicles rfl ?_ ?_
    · rfl
    · nofun
  | @edited row edit hfind hhost _ _ =>
    obtain ⟨hrow, _, live⟩ := Programme.find?_eq_some_iff_mem.1 hfind
    have hhost := Caller.id_eq hhost
    refine .inr (.rewritten row _ hrow (.of_edit edit live hhost hrole) rfl rfl rfl ?_)
    refine Caller.reports_announce chronicles rfl ?_ ?_
    · exact congrArg some hhost.symm
    · nofun
  | @decided row status _ hfind hallowed _ =>
    obtain ⟨hrow, _, live⟩ := Programme.find?_eq_some_iff_mem.1 hfind
    obtain ⟨_, hdecides, _⟩ := Conference.checkDecision_eq_ok_iff.1 hallowed
    refine .inr (.rewritten row _ hrow (.of_decision status live hrole) rfl rfl rfl ?_)
    refine Caller.reports_announce chronicles rfl ?_ ?_
    · rfl
    -- a decision that passes its checks does not make anything pending
    · rintro _ _ hnews
      cases hnews
      exact hdecides rfl
  | @withdrawn row hfind hright =>
    obtain ⟨hrow, _, live⟩ := Programme.find?_eq_some_iff_mem.1 hfind
    refine .inr (.rewritten row _ hrow (.of_withdrawal live hright) rfl rfl rfl ?_)
    refine Caller.reports_announce chronicles rfl ?_ ?_
    · rfl
    · nofun
  | @registered row _ _ huser hfind hadmission hadd =>
    obtain rfl := Caller.id_eq huser
    obtain ⟨hrow, _, live⟩ := Programme.find?_eq_some_iff_mem.1 hfind
    obtain ⟨_, hguest, _⟩ := hadmission regular.admits
    obtain ⟨_, _, hnew, _⟩ := Roll.add_eq_ok_iff.1 hadd
    have isGuest : caller.IsGuest office row.id := ⟨hrole, row, hrow, rfl, live, hguest⟩
    refine .inr (.registered _ hnew ⟨rfl, isGuest⟩ rfl (Roll.rows_of_add hadd) rfl ?_)
    refine Caller.reports_announce chronicles rfl ?_ ?_
    · rfl
    · nofun
  | @commented row _ _ _ huser hseat hfind _ hguest _ _ hdraw =>
    obtain rfl := Caller.id_eq huser
    obtain ⟨hrow, _, live⟩ := Programme.find?_eq_some_iff_mem.1 hfind
    have hnew := regular.orderly.neverRepeats.ne_of_draw regular.made hdraw
    have isGuest : caller.IsGuest office row.id := ⟨hrole, row, hrow, rfl, live, hguest⟩
    refine .inr (.commented _ hnew ⟨rfl, isGuest⟩ ⟨hseat, rfl⟩ rfl rfl
      (Table.rows_put_of_new hnew) ?_)
    refine Caller.reports_announce chronicles rfl ?_ ?_
    · rfl
    · nofun
  -- a removal is not announced
  | @removed f _ hfind =>
    have hmem := FeedbackBook.mem_of_find? hfind
    have live := (Option.filter_eq_some_iff.1 hfind).2
    exact .inr (.removed f writtenAt ⟨hmem, live⟩ hrole rfl rfl rfl rfl)

section Serve

variable {ρ : Type}

/-- What a request leaves behind, it does so for its caller, in a role that it is open to. -/
lemma effect_of_serve (regular : office.Regular) (framework : Framework ρ)
    (headers : IdentityHeaders) (arrival : Arrival ρ) :
    Untouched office (arrival.serve framework headers office).2 ∨ ∃ caller,
      framework.caller headers arrival.request = .ok caller ∧
        Effect caller office (arrival.serve framework headers office).2 := by
  obtain hsame | ⟨caller, call, operation, hunderstand, hoperation, hserve⟩ :=
    office_of_serve framework headers office arrival
  · rw [hsame]
    exact .inl ⟨rfl, rfl, rfl, rfl⟩
  · obtain ⟨hcaller, hrole⟩ := role_mem_of_understand hunderstand hoperation
    have performs := Performs.of_serve office
      ⟨caller.principal, operation, arrival.checkedAt, arrival.writtenAt⟩
    rw [hserve]
    exact (effect_of_performs performs regular hrole).imp_right fun h => ⟨caller, hcaller, h⟩

/-- A request keeps the office regular, as it is one visit at most. -/
lemma regular_serve (regular : office.Regular) (framework : Framework ρ)
    (headers : IdentityHeaders) (arrival : Arrival ρ) :
    (arrival.serve framework headers office).2.Regular := by
  obtain hsame | ⟨_, _, _, _, _, hserve⟩ := office_of_serve framework headers office arrival
  · rwa [hsame]
  · rw [hserve]
    exact regular.serve _

/-- Requests keep the office regular, one after the other. -/
lemma regular_serveAll (regular : office.Regular) (framework : Framework ρ)
    (headers : IdentityHeaders) (arrivals : List (Arrival ρ)) :
    (serveAll framework headers office arrivals).Regular := by
  induction arrivals generalizing office with
  | nil => exact regular
  | cons arrival arrivals ih => exact ih (regular_serve regular framework headers arrival)

end Serve

/--
After any requests to a service that started without anything stored, a further one leaves the
stores and the timelines as they are, or has one effect that its caller has a right to.
-/
theorem requests_keep_to_rights {ρ : Type} (framework : Framework ρ)
    (pageLimit reportLimit : Int) (ids : IdSource) (hids : ids.NeverRepeats)
    (headers : IdentityHeaders) (past : List (Arrival ρ)) (current : Arrival ρ) :
    let before :=
      serveAll framework headers (.start (.checking pageLimit reportLimit) ids) past
    let after := (current.serve framework headers before).2
    Untouched before after ∨
      ∃ caller, framework.caller headers current.request = .ok caller ∧
        Effect caller before after := by
  have hblank : (Office.start (.checking pageLimit reportLimit) ids).IsBlank :=
    ⟨⟨rfl, rfl, hids⟩, rfl, rfl⟩
  have regular := regular_serveAll (.of_isBlank hblank Bus.chroniclesOnce_standard rfl)
    framework headers past
  exact effect_of_serve regular framework headers current

/-- An administrator approves the first talk. -/
def Arrival.approval : Arrival Request :=
  .of "root" "admin" "PATCH" s!"/conferences/{IdSource.numbered 1}/status"
    (some "\x7b\"status\":\"approved\"\x7d")

/-- The approval is entered on the timeline, so it does not leave everything as it is. -/
lemma timeline_of_approval :
    (Arrival.approval.serve .standard (.ofSettings .standard) afterProposal).2.journal.timeline.length
      ≠ afterProposal.journal.timeline.length := by
  decide +kernel

/-- After Alice has proposed her talk, its approval has an effect that an administrator may have. -/
theorem requests_keep_to_rights_of_approval :
    Effect ⟨"root", .admin⟩ afterProposal
      (Arrival.approval.serve .standard (.ofSettings .standard) afterProposal).2 := by
  obtain hsame | ⟨caller, hcaller, heffect⟩ := requests_keep_to_rights .standard 20 10
    (.scripted []) IdSource.neverRepeats_numbered (.ofSettings .standard) [.proposal] .approval
  · exact absurd (congrArg List.length hsame.timeline) timeline_of_approval
  · cases hcaller
    exact heffect

end Http

end Symposium
