import Symposium.Proofs.Annals
import Symposium.Proofs.Performance
import Symposium.Proofs.Readers

/-!
# The dates of rows

The times in the rows of the three stores are in order: when a conference was made, changed and
approved, when it takes place, and when seats were taken at it and feedback was given on it. The
window of a pending conference may move after seats were taken, but only from one that is not over
to one that lies ahead, which is the relation `Reschedules`; so a seat that was taken before the end
stays so, and what is over, and may have feedback, stays where it is. Main statement: the dates are
in order after all visits.
-/

namespace Symposium

/-- Whether the times of a conference have offsets and are in order at an instant. -/
structure Conference.IsDated (now : Int) (c : Conference) : Prop where
  aware : c.createdAt.isAware = true ∧ c.updatedAt.isAware = true ∧ c.window.isAware = true
  created : c.createdAt.instant ≤ c.updatedAt.instant
  updated : c.updatedAt.instant ≤ now
  starts : c.createdAt.instant ≤ c.window.startsAt.instant
  ends : c.window.startsAt.instant < c.window.endsAt.instant
  deleted : ∀ t ∈ c.deletedAt, t = c.updatedAt

/-- Whether a seat was taken since its conference was made and before the conference ends. -/
structure Registration.IsDated (programme : Programme) (now : Int) (r : Registration) : Prop where
  aware : r.createdAt.isAware = true
  past : r.createdAt.instant ≤ now
  during : ∃ c ∈ programme.rows, c.id = r.conferenceId ∧
    c.createdAt.instant ≤ r.createdAt.instant ∧ r.createdAt.instant < c.window.endsAt.instant

/-- Whether feedback was given since its conference ended. -/
structure Feedback.IsDated (programme : Programme) (now : Int) (f : Feedback) : Prop where
  aware : f.createdAt.isAware = true
  past : f.createdAt.instant ≤ now
  ended : ∃ c ∈ programme.rows, c.id = f.conferenceId ∧
    c.window.endsAt.instant ≤ f.createdAt.instant

/-- What may become of a conference at an instant, as far as it matters to its dates. -/
structure Conference.Reschedules (now : Int) (before after : Conference) : Prop where
  id : after.id = before.id
  createdAt : after.createdAt = before.createdAt
  /-- The window stays, or it was not over and is moved ahead. -/
  window : after.window = before.window ∨
    now < before.window.endsAt.instant ∧ after.window.isAware = true ∧
      now ≤ after.window.startsAt.instant ∧
      after.window.startsAt.instant < after.window.endsAt.instant

section Rows

variable {c before after : Conference} {r : Registration} {f : Feedback} {now later : Int}
  {checkedAt : Timestamp} {programme programme' : Programme}

/-- A window that was checked lies ahead of the time of its check. -/
lemma Window.isAhead_of_checkFuture {w : Window} (aware : checkedAt.isAware = true)
    (h : w.checkFuture checkedAt = .ok ()) :
    w.isAware = true ∧ checkedAt.instant ≤ w.startsAt.instant ∧
      w.startsAt.instant < w.endsAt.instant := by
  obtain ⟨hahead, ordered⟩ := checkFuture_eq_ok_iff.1 h
  exact ⟨isAware_of_checkFuture h aware, Timestamp.le_of_before? hahead,
    (isOrdered_iff.1 ordered).2⟩

/-- A conference that nobody moves stays where it is. -/
lemma Conference.Reschedules.refl : c.Reschedules now c :=
  ⟨rfl, rfl, .inl rfl⟩

/-- An edit that is allowed moves a window only to where it lies ahead. -/
lemma Conference.Reschedules.of_edit {edit : Edit} (aware : checkedAt.isAware = true)
    (h : c.checkEdit edit checkedAt = .ok ()) :
    c.Reschedules checkedAt.instant (Programme.stamped (edit.applyTo c) checkedAt) := by
  obtain ⟨hopen, _, hmove⟩ := checkEdit_eq_ok_iff.1 h
  refine ⟨rfl, rfl, ?_⟩
  cases hmoves : edit.movesWindow with
  | false => exact .inl (Edit.applyToWindow_of_not_movesWindow hmoves c.window)
  | true =>
    obtain ⟨_, hfuture⟩ := hmove hmoves
    exact .inr ⟨Timestamp.lt_of_before? hopen, Window.isAhead_of_checkFuture aware hfuture⟩

/-- A conference that is changed now keeps its dates in order. -/
lemma Conference.IsDated.rewrite (h : before.IsDated now) (hbecomes : before.Reschedules now after)
    (aware : after.updatedAt.isAware = true) (hupdated : after.updatedAt.instant = now)
    (hdeleted : ∀ t ∈ after.deletedAt, t = after.updatedAt) : after.IsDated now := by
  obtain ⟨_, hcreated, hwindow⟩ := hbecomes
  have hpast : after.createdAt.instant ≤ now := by
    rw [hcreated]
    exact Int.le_trans h.created h.updated
  have hcreatedAware : after.createdAt.isAware = true := hcreated ▸ h.aware.1
  have hle : after.createdAt.instant ≤ after.updatedAt.instant := hupdated ▸ hpast
  obtain hsame | ⟨_, hwindowAware, hahead, hends⟩ := hwindow
  · have hwindowAware : after.window.isAware = true := hsame ▸ h.aware.2.2
    have hstarts : after.createdAt.instant ≤ after.window.startsAt.instant := by
      rw [hcreated, hsame]
      exact h.starts
    exact ⟨⟨hcreatedAware, aware, hwindowAware⟩, hle, Int.le_of_eq hupdated, hstarts,
      hsame ▸ h.ends, hdeleted⟩
  · exact ⟨⟨hcreatedAware, aware, hwindowAware⟩, hle, Int.le_of_eq hupdated,
      Int.le_trans hpast hahead, hends, hdeleted⟩

/-- The dates of a conference stay in order as time passes. -/
lemma Conference.IsDated.mono (h : c.IsDated now) (hle : now ≤ later) : c.IsDated later where
  __ := h
  updated := Int.le_trans h.updated hle

/-- The date of a registration stays in order as time passes. -/
lemma Registration.IsDated.mono (h : r.IsDated programme now) (hle : now ≤ later) :
    r.IsDated programme later where
  __ := h
  past := Int.le_trans h.past hle

/-- The date of a feedback stays in order as time passes. -/
lemma Feedback.IsDated.mono (h : f.IsDated programme now) (hle : now ≤ later) :
    f.IsDated programme later where
  __ := h
  past := Int.le_trans h.past hle

/-- A seat that was taken before the end stays so, wherever the end is moved. -/
lemma Registration.IsDated.reschedule (h : r.IsDated programme now)
    (hbecomes : ∀ before ∈ programme.rows,
      ∃ after ∈ programme'.rows, before.Reschedules now after) : r.IsDated programme' now := by
  obtain ⟨before, hbefore, hid, hcreated, hends⟩ := h.during
  obtain ⟨after, hafter, hid', hcreated', hwindow⟩ := hbecomes before hbefore
  refine ⟨h.aware, h.past, after, hafter, hid'.trans hid, hcreated' ▸ hcreated, ?_⟩
  obtain hsame | ⟨_, _, hahead, hends'⟩ := hwindow
  · rw [hsame]
    exact hends
  · exact Int.lt_of_le_of_lt (Int.le_trans h.past hahead) hends'

/-- What there is feedback on is over, so its end is not moved. -/
lemma Feedback.IsDated.reschedule (h : f.IsDated programme now)
    (hbecomes : ∀ before ∈ programme.rows,
      ∃ after ∈ programme'.rows, before.Reschedules now after) : f.IsDated programme' now := by
  obtain ⟨before, hbefore, hid, hended⟩ := h.ended
  obtain ⟨after, hafter, hid', _, hwindow⟩ := hbecomes before hbefore
  refine ⟨h.aware, h.past, after, hafter, hid'.trans hid, ?_⟩
  obtain hsame | ⟨hopen, _, _, _⟩ := hwindow
  · rw [hsame]
    exact hended
  · exact absurd hopen (Int.not_lt.2 (Int.le_trans hended h.past))

end Rows

namespace Office

/-- Whether the dates of all rows are in order at an instant. -/
structure IsDated (office : Office) (now : Int) : Prop where
  conferences : ∀ c ∈ office.programme.rows, c.IsDated now
  seats : ∀ r ∈ office.roll.rows, r.IsDated office.programme now
  comments : ∀ f ∈ office.feedback.rows, f.IsDated office.programme now

variable {office : Office} {principal : Principal} {operation : Operation}
  {checkedAt writtenAt : Timestamp} {result : Except Failure Outcome × Office} {now later : Int}

/-- All dates stay in order as time passes. -/
lemma IsDated.mono (h : office.IsDated now) (hle : now ≤ later) : office.IsDated later where
  conferences c hc := (h.conferences c hc).mono hle
  seats r hr := (h.seats r hr).mono hle
  comments f hf := (h.comments f hf).mono hle

/-- Where nothing is stored, all dates are in order. -/
lemma IsBlank.isDated (h : office.IsBlank) (now : Int) : office.IsDated now where
  conferences := by
    rw [h.isNew.programme]
    exact List.forall_mem_nil _
  seats := by
    rw [h.isNew.roll]
    exact List.forall_mem_nil _
  comments := by
    rw [h.feedback]
    exact List.forall_mem_nil _

/-- What a row is put for takes its place, and the others stay as they are. -/
lemma reschedules_put {programme : Programme} {row rewritten : Conference}
    (hfind : programme.find? row.id = some row) (hbecomes : row.Reschedules now rewritten) :
    ∀ before ∈ programme.rows,
      ∃ after ∈ (programme.put rewritten).rows, before.Reschedules now after := by
  intro before hbefore
  exact Programme.exists_mem_put_of_find (fun _ => .refl) hfind hbecomes.id hbecomes hbefore

/-- An operation moves the windows of rows only to where they lie ahead. -/
lemma Performs.reschedules
    (performs : Performs office principal checkedAt writtenAt operation result)
    (orderly : office.Orderly) (aware : checkedAt.isAware = true) :
    ∀ before ∈ office.programme.rows,
      ∃ after ∈ result.2.programme.rows, before.Reschedules checkedAt.instant after := by
  have same : ∀ before ∈ office.programme.rows,
      ∃ after ∈ office.programme.rows, before.Reschedules checkedAt.instant after := by
    intro before hbefore
    exact ⟨before, hbefore, .refl⟩
  cases performs with
  | proposed _ _ _ _ hdraw =>
    intro before hbefore
    have hnew := orderly.neverRepeats.ne_of_draw orderly.made hdraw
    exact Table.exists_mem_put (fun _ => .refl) (fun old hold hid => absurd hid (hnew old hold))
      hbefore
  | edited hfind _ hallowed _ => exact reschedules_put hfind (.of_edit aware hallowed)
  | decided _ hfind _ _ => exact reschedules_put hfind ⟨rfl, rfl, .inl rfl⟩
  | withdrawn hfind _ => exact reschedules_put hfind ⟨rfl, rfl, .inl rfl⟩
  | refused _ => exact same
  | registered _ _ _ _ => exact same
  | commented _ _ _ _ _ _ _ _ => exact same
  | removed _ _ => exact same

/-- What is put was made or rewritten while its dates are in order. -/
lemma Performs.conferences_dated
    (performs : Performs office principal checkedAt writtenAt operation result)
    (h : office.IsDated checkedAt.instant) (aware : checkedAt.isAware = true)
    (aware' : writtenAt.isAware = true) (still : writtenAt.instant = checkedAt.instant) :
    ∀ c ∈ result.2.programme.rows, c.IsDated checkedAt.instant := by
  have put {row : Conference} (hrow : row.IsDated checkedAt.instant) :
      ∀ c ∈ (office.programme.put row).rows, c.IsDated checkedAt.instant := by
    intro c hc
    obtain rfl | ⟨hold, _⟩ := Table.mem_rows_put.1 hc
    · exact hrow
    · exact h.conferences c hold
  have found {row : Conference} (hfind : office.programme.find? row.id = some row) :
      row.IsDated checkedAt.instant := h.conferences row (Programme.mem_of_find? hfind)
  -- a conference that is found was not withdrawn, so there is no such date to look at
  have unwithdrawn {row : Conference} {t : Timestamp}
      (hfind : office.programme.find? row.id = some row) (ht : t ∈ row.deletedAt) : False := by
    rw [Programme.deletedAt_of_find? hfind] at ht
    cases ht
  cases performs with
  | proposed _ hfuture _ _ _ =>
    refine put ?_
    obtain ⟨hwindow, hahead, hends⟩ := Window.isAhead_of_checkFuture aware hfuture
    exact ⟨⟨aware, aware, hwindow⟩, Int.le_refl _, Int.le_refl _, hahead, hends, nofun⟩
  | edited hfind _ hallowed _ =>
    refine put ((found hfind).rewrite ?_ aware rfl fun t ht => (unwithdrawn hfind ht).elim)
    exact .of_edit aware hallowed
  | decided _ hfind _ _ =>
    refine put ((found hfind).rewrite ?_ aware rfl fun t ht => (unwithdrawn hfind ht).elim)
    exact ⟨rfl, rfl, .inl rfl⟩
  | withdrawn hfind _ =>
    refine put ((found hfind).rewrite ?_ aware' still fun t ht => (Option.some.inj ht).symm)
    exact ⟨rfl, rfl, .inl rfl⟩
  | _ => exact h.conferences

/-- A seat is taken after the conference was made and before it is over. -/
lemma Performs.seats_dated
    (performs : Performs office principal checkedAt writtenAt operation result)
    (h : office.IsDated checkedAt.instant) (orderly : office.Orderly)
    (admits : office.policy.checksAdmission = true) (aware : checkedAt.isAware = true)
    (aware' : writtenAt.isAware = true) (still : writtenAt.instant = checkedAt.instant) :
    ∀ r ∈ result.2.roll.rows, r.IsDated result.2.programme checkedAt.instant := by
  have hbecomes := performs.reschedules orderly aware
  have seats : ∀ r ∈ office.roll.rows, r.IsDated result.2.programme checkedAt.instant :=
    fun r hr => (h.seats r hr).reschedule hbecomes
  cases performs with
  | registered _ hfind hadmission hadd =>
    obtain ⟨_, _, hadmitted⟩ := hadmission admits
    have hmem := Programme.mem_of_find? hfind
    have hrow := h.conferences _ hmem
    have hcreated := Int.le_trans hrow.created hrow.updated
    have hopen := Timestamp.lt_of_before? (admission_ahead hadmitted)
    rw [← still] at hcreated hopen
    have hrows := Roll.rows_of_add hadd
    intro r hr
    obtain hold | hnew := List.mem_append.1 (hrows ▸ hr)
    · exact seats r hold
    · obtain rfl := List.mem_singleton.1 hnew
      exact ⟨aware', Int.le_of_eq still, _, hmem, rfl, hcreated, hopen⟩
  | _ => exact seats

/-- Feedback is given after the conference is over, and loses no date when it is removed. -/
lemma Performs.comments_dated
    (performs : Performs office principal checkedAt writtenAt operation result)
    (h : office.IsDated checkedAt.instant) (orderly : office.Orderly)
    (aware : checkedAt.isAware = true) :
    ∀ f ∈ result.2.feedback.rows, f.IsDated result.2.programme checkedAt.instant := by
  have hbecomes := performs.reschedules orderly aware
  have comments : ∀ f ∈ office.feedback.rows, f.IsDated result.2.programme checkedAt.instant :=
    fun f hf => (h.comments f hf).reschedule hbecomes
  cases performs with
  | commented _ _ hfind _ _ hended _ _ =>
    intro f hf
    obtain rfl | ⟨hold, _⟩ := Table.mem_rows_put.1 hf
    · exact ⟨aware, Int.le_refl _, _, Programme.mem_of_find? hfind, rfl,
        Timestamp.le_of_before? hended⟩
    · exact comments f hold
  | @removed removed _ hfind =>
    intro f hf
    obtain rfl | ⟨hold, _⟩ := Table.mem_rows_put.1 hf
    · have hremoved := comments removed (FeedbackBook.mem_of_find? hfind)
      exact ⟨hremoved.aware, hremoved.past, hremoved.ended⟩
    · exact comments f hold
  | _ => exact comments

/-- After an operation during which the clock stands still, the dates are in order if they were. -/
lemma Performs.isDated (performs : Performs office principal checkedAt writtenAt operation result)
    (h : office.IsDated checkedAt.instant) (orderly : office.Orderly)
    (admits : office.policy.checksAdmission = true) (aware : checkedAt.isAware = true)
    (aware' : writtenAt.isAware = true) (still : writtenAt.instant = checkedAt.instant) :
    result.2.IsDated checkedAt.instant where
  conferences := performs.conferences_dated h aware aware' still
  seats := performs.seats_dated h orderly admits aware aware' still
  comments := performs.comments_dated h orderly aware

/-- Visits keep the office orderly. -/
lemma orderly_serveAll (h : office.Orderly) (visits : List Visit) :
    (office.serveAll visits).Orderly :=
  serveAll_of_kept Traffic.kept_orderly h visits

/-- The dates are in order after all visits, at any instant that is not before them. -/
lemma isDated_serveAll {visits : List Visit} (h : ∀ now, office.IsDated now)
    (orderly : office.Orderly) (admits : office.policy.checksAdmission = true)
    (timely : Timely visits)
    (still : ∀ visit ∈ visits, visit.writtenAt.instant = visit.checkedAt.instant) (now : Int)
    (hnow : ∀ t ∈ visits.flatMap Visit.readings, t.instant ≤ now) :
    (office.serveAll visits).IsDated now := by
  induction visits using List.reverseRecOn generalizing now with
  | nil => exact h now
  | append_singleton visits visit ih =>
    obtain ⟨htimely, _, hcheckedAt⟩ := timely.of_concat
    obtain ⟨hstill, hlast⟩ := List.forall_mem_append.1 still
    have hbefore := ih htimely hstill visit.checkedAt.instant hcheckedAt
    have hchecked : visit.checkedAt ∈ (visits ++ [visit]).flatMap Visit.readings := by
      simp [Visit.readings]
    have hwritten : visit.writtenAt ∈ (visits ++ [visit]).flatMap Visit.readings := by
      simp [Visit.readings]
    have hadmits : (office.serveAll visits).policy.checksAdmission = true := by
      rw [policy_serveAll]
      exact admits
    have performs := Performs.of_serve (office.serveAll visits) visit
    rw [serveAll_concat]
    refine (performs.isDated hbefore (orderly_serveAll orderly visits) hadmits
      (timely.aware _ hchecked) (timely.aware _ hwritten) ?_).mono (hnow _ hchecked)
    exact hlast visit List.mem_cons_self

/-- Whether a conference was approved by one of some visits, and not after its start. -/
def ApprovedBy (start : Office) (visits : List Visit) (c : Conference) : Prop :=
  ∃ past visit rest, visits = past ++ visit :: rest ∧
    visit.operation = .decide c.id .approved ∧
    visit.checkedAt.instant ≤ c.window.startsAt.instant ∧
    (∃ before ∈ (start.serveAll past).programme.rows,
      before.id = c.id ∧ before.status = .pending) ∧
    ∃ after ∈ (start.serveAll (past ++ [visit])).programme.rows,
      after.id = c.id ∧ after.status = .approved

/-- An approval among the visits is still there after one more. -/
lemma ApprovedBy.concat {start : Office} {visits : List Visit} {visit : Visit}
    {old c : Conference} (h : start.ApprovedBy visits old) (hid : old.id = c.id)
    (hwindow : old.window = c.window) : start.ApprovedBy (visits ++ [visit]) c := by
  obtain ⟨past, approval, rest, rfl, happroval⟩ := h
  rw [hid, hwindow] at happroval
  refine ⟨past, approval, rest ++ [visit], ?_, happroval⟩
  rw [List.append_assoc, List.cons_append]

/-- A conference that is approved was so before, in the same window, or it is approved now. -/
lemma Performs.approved
    (performs : Performs office principal checkedAt writtenAt operation result) {c : Conference}
    (hc : c ∈ result.2.programme.rows) (happroved : c.status = .approved) :
    (∃ old ∈ office.programme.rows,
      old.id = c.id ∧ old.status = .approved ∧ old.window = c.window) ∨
    operation = .decide c.id .approved ∧ checkedAt.instant ≤ c.window.startsAt.instant ∧
      ∃ old ∈ office.programme.rows, old.id = c.id ∧ old.status = .pending := by
  have same (hold : c ∈ office.programme.rows) : ∃ old ∈ office.programme.rows,
      old.id = c.id ∧ old.status = .approved ∧ old.window = c.window :=
    ⟨c, hold, rfl, happroved, rfl⟩
  cases performs with
  | refused _ => exact .inl (same hc)
  | proposed _ _ _ _ _ =>
    obtain rfl | ⟨hold, _⟩ := Table.mem_rows_put.1 hc
    · cases happroved
    · exact .inl (same hold)
  | edited hfind _ hallowed _ =>
    obtain rfl | ⟨hold, _⟩ := Table.mem_rows_put.1 hc
    · obtain ⟨_, _, hmove⟩ := Conference.checkEdit_eq_ok_iff.1 hallowed
      refine .inl ⟨_, Programme.mem_of_find? hfind, rfl, happroved, Eq.symm ?_⟩
      -- what is approved already does not move
      apply Edit.applyToWindow_of_not_movesWindow
      exact Bool.eq_false_iff.2 fun hmoves => (hmove hmoves).1 happroved
    · exact .inl (same hold)
  | @decided row status _ hfind hallowed _ =>
    obtain rfl | ⟨hold, _⟩ := Table.mem_rows_put.1 hc
    · obtain rfl : status = .approved := happroved
      obtain ⟨hpending, _, hahead⟩ := Conference.checkDecision_eq_ok_iff.1 hallowed
      exact .inr ⟨rfl, Timestamp.le_of_before? (hahead rfl), row, Programme.mem_of_find? hfind,
        rfl, hpending⟩
    · exact .inl (same hold)
  | withdrawn hfind _ =>
    obtain rfl | ⟨hold, _⟩ := Table.mem_rows_put.1 hc
    · exact .inl ⟨_, Programme.mem_of_find? hfind, rfl, happroved, rfl⟩
    · exact .inl (same hold)
  | registered _ _ _ _ => exact .inl (same hc)
  | commented _ _ _ _ _ _ _ _ => exact .inl (same hc)
  | removed _ _ => exact .inl (same hc)

/-- What is approved was approved by one of the visits. -/
lemma approvedBy_serveAll {start : Office} (hnew : start.IsNew) (visits : List Visit) :
    ∀ c ∈ (start.serveAll visits).programme.rows, c.status = .approved →
      start.ApprovedBy visits c := by
  induction visits using List.reverseRecOn with
  | nil =>
    show ∀ c ∈ start.programme.rows, _
    rw [hnew.programme]
    exact List.forall_mem_nil _
  | append_singleton visits visit ih =>
    intro c hc happroved
    have hserved : c ∈ ((start.serveAll visits).serve visit).2.programme.rows := by
      rwa [← serveAll_concat]
    obtain ⟨old, hold, hid, hstatus, hwindow⟩ | ⟨hoperation, hstart, hbefore⟩ :=
      (Performs.of_serve _ visit).approved hserved happroved
    · exact (ih old hold hstatus).concat hid hwindow
    · exact ⟨visits, visit, [], rfl, hoperation, hstart, hbefore, c, hc, rfl, happroved⟩

/--
From empty stores and with a clock that has an offset, does not go back and stands still during each
visit: every conference was made before it was changed and before it takes place, and changed by
now; one that is approved was approved by its start. Seats were taken while the conference was there
and not over, and feedback was given when it was over.
-/
theorem dates_are_in_order (start : Office) (blank : start.IsBlank)
    (admits : start.policy.checksAdmission = true) (visits : List Visit) (timely : Timely visits)
    (still : ∀ visit ∈ visits, visit.writtenAt.instant = visit.checkedAt.instant)
    (now : Timestamp) (hnow : ∀ t ∈ visits.flatMap Visit.readings, t.instant ≤ now.instant) :
    let office := start.serveAll visits
    (∀ c ∈ office.programme.rows, c.IsDated now.instant ∧
      (c.status = .approved → start.ApprovedBy visits c)) ∧
    (∀ r ∈ office.roll.rows, r.IsDated office.programme now.instant) ∧
    ∀ f ∈ office.feedback.rows, f.IsDated office.programme now.instant := by
  have hdated := isDated_serveAll blank.isDated blank.isNew.orderly admits timely still now.instant
    hnow
  refine ⟨fun c hc => ⟨hdated.conferences c hc, ?_⟩, hdated.seats, hdated.comments⟩
  exact approvedBy_serveAll blank.isNew visits c hc

/-- A talk is approved at the third hour, attended, commented on and withdrawn in the end. -/
theorem dates_are_in_order_of_season :
    let office := (start .standard (.scripted [])).serveAll season
    office.programme.rows.map Conference.status = [.approved] ∧
      office.roll.rows.map Registration.createdAt = [.hour 4] ∧
      office.feedback.rows.map Feedback.createdAt = [.hour 12] ∧
      (∀ c ∈ office.programme.rows, c.IsDated (Timestamp.hour 14).instant ∧
        (c.status = .approved → (start .standard (.scripted [])).ApprovedBy season c)) ∧
      (∀ r ∈ office.roll.rows, r.IsDated office.programme (Timestamp.hour 14).instant) ∧
      ∀ f ∈ office.feedback.rows, f.IsDated office.programme (Timestamp.hour 14).instant := by
  refine ⟨by rfl, by rfl, by rfl, ?_⟩
  exact dates_are_in_order _ isBlank_start rfl season ⟨by decide, by decide⟩ (by decide) (.hour 14)
    (by decide)

end Office

end Symposium
