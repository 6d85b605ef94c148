import Symposium.Proofs.Annals
import Symposium.Proofs.Refusals

/-!
# Failures that are no refusals

In every state that the stages of operations lead to, the times of all windows and of all entries of
the timelines have an offset, as the clock has one. So what a principal asks for is carried out or
refused, with one exception: a principal without an id to whom a conference still has a seat to give
is told that the registration is not valid. Main statement: there is no other exception.
-/

namespace Symposium

open Failure (Only OnlyRefuses IsRefusal)

/-- No handler fails, and what is entered for an event with an offset has one. -/
structure Bus.KeepsOffsets (bus : Bus) : Prop where
  never : bus.NeverFails
  aware : ∀ s ∈ bus, ∀ event : Event, event.occurredAt.isAware = true →
    ∀ journal : Journal, journal.IsAware → (s.handle event journal).2.IsAware

/-- Publishing an event with an offset leaves all entries with offsets. -/
lemma Bus.KeepsOffsets.publish {bus : Bus} {event : Event} {journal : Journal}
    (h : bus.KeepsOffsets) (hevent : event.occurredAt.isAware = true) (hjournal : journal.IsAware) :
    (bus.publish event journal).2.IsAware := by
  have aware := h.aware
  clear h
  induction bus generalizing journal with
  | nil => exact hjournal
  | cons s bus ih =>
    obtain ⟨hs, hrest⟩ := List.forall_mem_cons.1 aware
    unfold Bus.publish
    split
    · have hnext := hs event hevent journal hjournal
      generalize s.handle event journal = handled at hnext
      obtain ⟨result, next⟩ := handled
      cases result with
      | ok _ => exact ih hnext hrest
      | error failure => exact hnext
    · exact ih hjournal hrest

/-- The usual handlers enter events with the times that they occurred at. -/
lemma Bus.keepsOffsets_standard : standard.KeepsOffsets where
  never := chroniclesOnce_standard.never
  aware := by
    intro s hs event hevent journal hjournal
    obtain hs | hs := List.mem_append.1 hs
    · obtain ⟨kind, _, rfl⟩ := List.mem_map.1 hs
      exact hjournal
    · obtain ⟨kind, _, rfl⟩ := List.mem_map.1 hs
      cases hentry : event.entry? with
      | none => simpa [Subscription.chronicler, hentry] using hjournal
      | some entry =>
        -- an entry bears the time of its event
        obtain ⟨_, _, rfl⟩ := Option.map_eq_some_iff.1 hentry
        simp only [Subscription.chronicler, hentry, Journal.enter]
        exact List.forall_mem_append.2 ⟨hjournal, List.forall_mem_singleton.2 hevent⟩

/-- The time that a change was reviewed at, if it is going to be announced with it. -/
def Change.time? : Change → Option Timestamp
  | .propose _ _ time => some time
  | .edit _ _ time => some time
  | .decide _ _ _ time => some time
  | .giveFeedback _ _ _ time => some time
  | _ => none

namespace Office

variable {office : Office} {now : Timestamp} {change : Change}
  {result : Except Failure Outcome × Office}

/-- No commit changes the handlers. -/
lemma Commits.bus_eq (h : Commits office now change result) : result.2.bus = office.bus := by
  cases h <;> rfl

/-- A change bears the time of its review. -/
lemma Reviewed.time_eq {d : Draft} (h : Reviewed office now d change) :
    ∀ time ∈ change.time?, time = now := by
  intro time htime
  cases h <;> cases htime
  all_goals rfl

/-- A commit enters no time without an offset, if neither the change nor the clock has one. -/
lemma Commits.isAware_journal (h : Commits office now change result)
    (keeps : office.bus.KeepsOffsets) (hjournal : office.journal.IsAware)
    (hnow : now.isAware = true) (htime : ∀ time ∈ change.time?, time.isAware = true) :
    result.2.journal.IsAware := by
  cases h with
  | refused _ => exact hjournal
  | proposed _ _ => exact keeps.publish (htime _ rfl) hjournal
  | edited _ => exact keeps.publish (htime _ rfl) hjournal
  | decided _ => exact keeps.publish (htime _ rfl) hjournal
  | withdrawn _ => exact keeps.publish hnow hjournal
  | registered _ => exact keeps.publish hnow hjournal
  | commented _ _ => exact keeps.publish (htime _ rfl) hjournal
  | removed _ => exact hjournal

end Office

namespace Traffic

variable {t t' : Traffic} {now : Timestamp}

/-- The handlers and the policy are those of the start, and all that is announced has an offset. -/
structure Announces (start : Office) (t : Traffic) : Prop where
  bus : t.office.bus = start.bus
  policy : t.office.policy = start.policy
  entries : t.office.journal.IsAware
  changes : ∀ change ∈ t.changes, ∀ time ∈ change.time?, time.isAware = true

/-- A step at a time with an offset announces nothing without one. -/
lemma Announces.step {start : Office} (h : Announces start t) (keeps : start.bus.KeepsOffsets)
    (hnow : now.isAware = true) (hstep : StepAt now t t') : Announces start t' := by
  obtain ⟨hbus, hpolicy, hentries, hchanges⟩ := h
  cases hstep with
  | draft _ => exact ⟨hbus, hpolicy, hentries, hchanges⟩
  | review _ hreview =>
    refine ⟨hbus, hpolicy, hentries, List.forall_mem_cons.2 ⟨fun time htime => ?_, hchanges⟩⟩
    rw [(Office.Reviewed.of_review hreview).time_eq time htime]
    exact hnow
  | @commit office _ _ change hmem =>
    have hcommits := Office.Commits.of_commit office now change
    have hkeeps : office.bus.KeepsOffsets := hbus ▸ keeps
    exact ⟨hcommits.bus_eq.trans hbus, hcommits.policy_eq.trans hpolicy,
      hcommits.isAware_journal hkeeps hentries hnow (hchanges change hmem),
      fun c hc => hchanges c (List.mem_of_mem_erase hc)⟩

/-- In a run with offsets, everything that is announced has one. -/
lemma AwareRun.announces {start : Office} (hrun : AwareRun (.quiet start) t)
    (keeps : start.bus.KeepsOffsets) (hblank : start.journal.timeline = []) :
    Announces start t := by
  induction hrun with
  | refl =>
    refine ⟨rfl, rfl, ?_, List.forall_mem_nil _⟩
    show ∀ e ∈ start.journal.timeline, _
    rw [hblank]
    exact List.forall_mem_nil _
  | tail _ hstep ih =>
    obtain ⟨now, hnow, hstep⟩ := hstep
    exact ih.step keeps hnow hstep

end Traffic

namespace Office

variable {office : Office} {visit : Visit}

/-- Whether a visit is a registration of nobody at a conference that has a seat for them. -/
def SeatsNobody (office : Office) (visit : Visit) : Prop :=
  visit.principal.id = none ∧ ∃ row, visit.operation = .register row.id ∧
    office.programme.find? row.id = some row ∧ visit.principal.sees row = true ∧
    visit.checkedAt.instant < row.window.endsAt.instant ∧ office.roll.count row.id < row.seats

/-- Nobody is admitted exactly where it is not over and a seat is left. -/
lemma admission_nobody_eq_ok_iff {row : Conference} {now : Timestamp} :
    office.admission none row now = .ok () ↔
      now.before? row.window.endsAt = some true ∧ office.roll.count row.id < row.seats := by
  simp only [admission, Failure.bind_eq_ok_iff]
  constructor
  · rintro ⟨ahead, hahead, _, hopen, _, _, _, hseat, _⟩
    obtain rfl := Failure.require_eq_ok_iff.1 hopen
    have hseat := Failure.require_eq_ok_iff.1 hseat
    exact ⟨Failure.ofComparison_eq_ok_iff.1 hahead, of_decide_eq_true hseat⟩
  · rintro ⟨hahead, hseat⟩
    exact ⟨true, Failure.ofComparison_eq_ok_iff.2 hahead, (), rfl, (), rfl, (),
      Failure.require_eq_ok_iff.2 (decide_eq_true hseat), [], rfl, rfl⟩

/-- Whoever drafted a seat of nobody has no id, and sees the conference if they are admitted. -/
lemma Drafted.of_nobody {principal : Principal} {operation : Operation} {d : Draft} {id : String}
    {row? : Option Conference} (h : Drafted office principal operation d)
    (hd : d = .seat none id row?) (admits : office.policy.checksAdmission = true) :
    principal.id = none ∧ operation = .register id ∧
      ∃ row, row? = some row ∧ office.programme.find? id = some row ∧
        principal.sees row = true := by
  cases h with
  | seat _ hfind hsees _ =>
    obtain ⟨hid, rfl, rfl⟩ := Draft.seat.inj hd
    exact ⟨hid, rfl, _, rfl, hfind, hsees⟩
  | anySeat hpolicy =>
    rw [admits] at hpolicy
    cases hpolicy
  | _ => cases hd

/-- A draft without a comment is that of an operation without one. -/
lemma Drafted.of_no_comment {principal : Principal} {operation : Operation} {userId : String}
    {row : Conference} (h : Drafted office principal operation (.feedback userId row none)) :
    ∃ id, operation = .giveFeedback id none := by
  cases h with
  | feedback _ _ _ _ _ => exact ⟨_, rfl⟩

/-- What passes the checks to seat nobody is a registration of nobody. -/
lemma seatsNobody_of_check {id : String} (admits : office.policy.checksAdmission = true)
    (h : office.check visit.principal visit.operation visit.checkedAt = .ok (.register none id)) :
    office.SeatsNobody visit := by
  obtain ⟨d, hdraft, hreview⟩ := Failure.bind_eq_ok_iff.1 h
  generalize hchange : Change.register none id = change at hreview
  cases Office.Reviewed.of_review hreview with
  | seat henter =>
    cases hchange
    obtain ⟨hnobody, hoperation, row, rfl, hfind, hsees⟩ :=
      (Drafted.of_draft hdraft).of_nobody rfl admits
    obtain ⟨_, rfl, _⟩ := Programme.find?_eq_some_iff_mem.1 hfind
    obtain ⟨hahead, hseat⟩ := admission_nobody_eq_ok_iff.1 henter
    exact ⟨hnobody, row, hoperation, hfind, hsees, Timestamp.lt_of_before? hahead, hseat⟩
  | _ => cases hchange

/-- A registration of nobody passes all checks, and is not valid then. -/
lemma serve_of_seatsNobody (admits : office.policy.checksAdmission = true)
    (aware : ∀ c ∈ office.programme.rows, c.window.isAware = true)
    (hcheckedAt : visit.checkedAt.isAware = true) (h : office.SeatsNobody visit) :
    office.serve visit = (.error nobodysRegistration, office) := by
  obtain ⟨hnobody, row, hoperation, hfind, hsees, hahead, hseat⟩ := h
  have hrow := aware row (Programme.mem_of_find? hfind)
  have hends : row.window.endsAt.isAware = true := (Bool.and_eq_true_iff.1 hrow).2
  -- nobody is the host of anything
  have hguest : (!visit.principal.isUser row.hostId) = true := by
    simp [Principal.isUser, hnobody]
  have happroach : office.approach visit.principal row.id = .ok (some row) := by
    simp only [approach, admits, if_true]
    refine Failure.bind_eq_ok_iff.2 ⟨row, loadVisible_eq_ok_iff.2 ⟨hfind, hsees⟩, ?_⟩
    exact Failure.bind_eq_ok_iff.2 ⟨(), Failure.require_eq_ok_iff.2 hguest, rfl⟩
  have hbefore : visit.checkedAt.before? row.window.endsAt = some true := by
    rw [Timestamp.before?_of_aware hcheckedAt hends, decide_eq_true hahead]
  have henter := admission_nobody_eq_ok_iff.2 ⟨hbefore, hseat⟩
  have hcheck : office.check visit.principal visit.operation visit.checkedAt =
      .ok (.register none row.id) := by
    rw [hoperation]
    refine Failure.bind_eq_ok_iff.2 ⟨.seat none row.id (some row), ?_, ?_⟩
    · exact Failure.map_eq_ok_iff.2 ⟨_, happroach, by rw [hnobody]⟩
    · exact Failure.map_eq_ok_iff.2 ⟨(), henter, rfl⟩
  rw [serve, hcheck]
  rfl

/-- A valid operation whose check passes is committed or refused, unless it seats nobody. -/
lemma serve_onlyRefuses (admits : office.policy.checksAdmission = true)
    (aware : ∀ c ∈ office.programme.rows, c.window.isAware = true) (never : office.bus.NeverFails)
    (valid : visit.operation.IsValid) (hcheckedAt : visit.checkedAt.isAware = true)
    (hnobody : ¬ office.SeatsNobody visit) : OnlyRefuses (office.serve visit).1 := by
  rw [serve]
  cases hcheck : office.check visit.principal visit.operation visit.checkedAt with
  | error failure =>
    have honly : OnlyRefuses (office.check visit.principal visit.operation visit.checkedAt) :=
      Only.bind draft_onlyRefuses fun d hdraft =>
        review_onlyRefuses aware (.of_draft hdraft) valid.times hcheckedAt
    exact Only.error (honly failure hcheck)
  | ok change =>
    obtain ⟨d, hdraft, hreview⟩ := Failure.bind_eq_ok_iff.1 hcheck
    have hdrafted := Drafted.of_draft hdraft
    have hreviewed := Reviewed.of_review hreview
    apply commit_onlyRefuses aware never
    · apply hreviewed.isAware_window
      · exact fun c hc => aware c (hdrafted.mem_rows c hc)
      · rw [hdrafted.times_eq]
        exact valid.times
    -- a seat for nobody is the one change that escapes, and it was excluded
    · rintro id rfl
      exact hnobody (seatsNobody_of_check admits hcheck)
    · rintro userId id time rfl
      cases hreviewed with
      | feedback _ _ =>
        obtain ⟨id, hoperation⟩ := hdrafted.of_no_comment
        exact valid.comment id hoperation

/--
However the stages of operations were taken in an office that started without anything stored, with
a clock that always has an offset: a valid operation is carried out or refused exactly if it is no
registration of nobody at a conference that has a seat for them, which is answered as not valid and
leaves the office as it was. Every reading gives a result or is refused.
-/
theorem operations_only_refuse_iff (start : Office) (blank : start.IsBlank)
    (keeps : start.bus.KeepsOffsets) (admits : start.policy.checksAdmission = true) (t : Traffic)
    (hrun : Traffic.AwareRun (.quiet start) t) :
    (∀ visit : Visit, visit.operation.IsValid → (∀ s ∈ visit.readings, s.isAware = true) →
      (OnlyRefuses (t.office.serve visit).1 ↔ ¬ t.office.SeatsNobody visit) ∧
        (t.office.SeatsNobody visit →
          t.office.serve visit = (.error nobodysRegistration, t.office))) ∧
    ∀ (principal : Principal) (now : Timestamp), now.isAware = true →
      (∀ id, OnlyRefuses (t.office.get principal id)) ∧
      (∀ query : Query, query.IsAware → OnlyRefuses (t.office.list principal query now)) ∧
      (∀ id, OnlyRefuses (t.office.timeline principal id)) ∧
      (∀ id request, OnlyRefuses (t.office.participants principal id request)) ∧
      (∀ userId includePast request,
        OnlyRefuses (t.office.conferencesOf principal userId includePast request now)) ∧
      ∀ id request, OnlyRefuses (t.office.notes principal id request) := by
  have aware := (Traffic.AwareRun.aware blank.isNew.programme hrun).rows
  obtain ⟨hbus, hpolicy, hentries, _⟩ := hrun.announces keeps blank.timeline
  have hadmits : t.office.policy.checksAdmission = true := by rw [hpolicy, admits]
  have never : t.office.bus.NeverFails := hbus ▸ keeps.never
  refine ⟨fun visit valid hreadings => ?_, fun principal now hnow => ?_⟩
  · have hcheckedAt := hreadings visit.checkedAt List.mem_cons_self
    have hescapes := serve_of_seatsNobody hadmits aware hcheckedAt
    refine ⟨⟨fun honly hnobody => ?_, ?_⟩, hescapes⟩
    · obtain ⟨refusal, hrefusal⟩ := honly nobodysRegistration (by rw [hescapes hnobody])
      cases hrefusal
    · exact serve_onlyRefuses hadmits aware never valid hcheckedAt
  · exact ⟨fun _ => get_onlyRefuses, fun _ hquery => list_onlyRefuses aware hquery hnow,
      fun _ => timeline_onlyRefuses hentries, fun _ _ => participants_onlyRefuses,
      fun _ _ _ => conferencesOf_onlyRefuses aware hnow, fun _ _ => notes_onlyRefuses⟩

/-- The system asks for a seat at a talk, at the first hour. -/
def systemsSeat (id : String) : Visit :=
  ⟨.system, .register id, .hour 0, .hour 0⟩

/-- At a talk with a guest and a seat left, the system gets none and is not refused either. -/
theorem operations_only_refuse_iff_of_series :
    let office := (start .standard (.scripted [])).serveAll series
    let talk := IdSource.numbered 1
    office.SeatsNobody (systemsSeat talk) ∧
      ¬ OnlyRefuses (office.serve (systemsSeat talk)).1 ∧
      OnlyRefuses (office.serve ⟨.system, .withdraw talk, .hour 0, .hour 0⟩).1 ∧
      OnlyRefuses (office.list .system pendingTalks (.hour 0)) := by
  intro office talk
  have hrun := awareRun_serveAll (start .standard (.scripted [])) series (by decide)
  obtain ⟨hserve, hread⟩ := operations_only_refuse_iff _ isBlank_start Bus.keepsOffsets_standard rfl
    _ hrun
  have hnobody : office.SeatsNobody (systemsSeat talk) :=
    ⟨rfl, (office.programme.find? talk).getD default, by rfl, by rfl, by rfl, by decide, by decide⟩
  have hseat := hserve (systemsSeat talk) ⟨by decide, nofun⟩ (by decide)
  have hwithdrawal := hserve ⟨.system, .withdraw talk, .hour 0, .hour 0⟩ ⟨by decide, nofun⟩
    (by decide)
  refine ⟨hnobody, fun honly => hseat.1.1 honly hnobody, hwithdrawal.1.2 ?_, ?_⟩
  · rintro ⟨_, row, hregister, _⟩
    cases hregister
  · exact (hread .system (.hour 0) rfl).2.1 pendingTalks ⟨nofun, nofun⟩

/-- Alice has proposed her talk, and the system asks for a seat at it. -/
theorem registration_of_nobody_escapes :
    let office := (start .standard (.scripted [])).serveAll (series.take 1)
    let visit := systemsSeat (IdSource.numbered 1)
    Traffic.AwareRun (.quiet (start .standard (.scripted []))) (.quiet office) ∧
      visit.operation.IsValid ∧ office.serve visit = (.error nobodysRegistration, office) ∧
      ¬ OnlyRefuses (office.serve visit).1 := by
  intro office visit
  have hserve : office.serve visit = (.error nobodysRegistration, office) := by rfl
  refine ⟨awareRun_serveAll _ _ (by decide), ⟨by decide, nofun⟩, hserve, fun honly => ?_⟩
  obtain ⟨refusal, hrefusal⟩ := honly nobodysRegistration (by rw [hserve])
  cases hrefusal

end Office

end Symposium
