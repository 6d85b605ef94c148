import Symposium.Proofs.Admissions

/-!
# Those who take part have a say

Feedback is asked of those who hold a seat, see the conference and do not host it, which is what was
asked of them when they took the seat. All of it lasts: a seat is never taken away, nobody becomes a
host, and what a plain user saw and did not host was approved and stays so. Main statement: whoever
got a seat can give feedback once the conference is over, unless it is withdrawn, and is told to
wait until then.
-/

namespace Symposium.Office

variable {office : Office} {principal : Principal} {id userId comment : String} {row : Conference}
  {now : Timestamp} {visit : Visit}

/-- What lets a principal give feedback on a conference, apart from the time. -/
structure Attendee (office : Office) (principal : Principal) (id userId : String) : Prop where
  named : principal.id = some userId
  seat : office.roll.has id userId = true
  guest : office.programme.HasGuest id userId
  sees : principal.isRestricted = true →
    ∃ c ∈ office.programme.rows, c.id = id ∧ c.status = .approved

namespace Attendee

section Loaded

variable (h : office.Attendee principal id userId) (hfind : office.programme.find? id = some row)

include h hfind

/-- Whoever took part still sees the conference. -/
lemma sees_row : principal.sees row = true := by
  cases hrestricted : principal.isRestricted with
  | false => exact Principal.sees_of_not_isRestricted hrestricted row
  | true =>
    obtain ⟨c, hc, hid, happroved⟩ := h.sees hrestricted
    obtain ⟨hrow, hsame, _⟩ := Programme.find?_eq_some_iff_mem.1 hfind
    obtain rfl := Table.eq_of_key_eq hc hrow (hid.trans hsame.symm)
    exact Principal.sees_iff.2 (.inl happroved)

/-- Whoever took part is not the host. -/
lemma not_isUser : principal.isUser row.hostId = false := by
  obtain ⟨c, hc, hid, hguest⟩ := h.guest
  obtain ⟨hrow, hsame, _⟩ := Programme.find?_eq_some_iff_mem.1 hfind
  obtain rfl := Table.eq_of_key_eq hc hrow (hid.trans hsame.symm)
  rw [Bool.eq_false_iff]
  intro hhost
  rw [Principal.isUser_iff, h.named] at hhost
  exact hguest (Option.some.inj hhost).symm

/-- Only the review can still refuse the feedback of somebody who took part. -/
lemma check_eq (comment : Option String) (now : Timestamp) :
    office.check principal (.giveFeedback id comment) now =
      office.reviewFeedback userId row comment now := by
  have hload : office.loadVisible principal id = .ok row :=
    loadVisible_eq_ok_iff.2 ⟨hfind, h.sees_row hfind⟩
  have hdraft : office.draft principal (.giveFeedback id comment) =
      .ok (.feedback userId row comment) := by
    simp only [draft, draftFeedback, h.named]
    refine Failure.bind_eq_ok_iff.2 ⟨(), Failure.require_eq_ok_iff.2 h.seat, ?_⟩
    refine Failure.bind_eq_ok_iff.2 ⟨row, hload, Failure.bind_eq_ok_iff.2 ⟨(), ?_, rfl⟩⟩
    rw [h.not_isUser hfind]
    rfl
  rw [check, hdraft]
  rfl

/-- Before the end, feedback is refused and nothing changes. -/
lemma serve_of_ahead (hahead : now.before? row.window.endsAt = some true)
    (comment : Option String) (writtenAt : Timestamp) :
    office.serve ⟨principal, .giveFeedback id comment, now, writtenAt⟩ =
      (.error (.refused (.conferenceNotEnded row.window.endsAt)), office) := by
  have hcheck : office.check principal (.giveFeedback id comment) now =
      .error (.refused (.conferenceNotEnded row.window.endsAt)) := by
    rw [h.check_eq hfind, reviewFeedback, Timestamp.isBefore, hahead]
    rfl
  rw [serve, hcheck]
  rfl

/-- From the end on, the first feedback is taken if there is an id for it. -/
lemma serve_of_over (never : office.bus.NeverFails)
    (hover : now.before? row.window.endsAt = some false)
    (hfirst : office.feedback.has id userId = false) {feedbackId : String}
    (hdraw : office.ids.draw.1 = some feedbackId) (comment : String) (writtenAt : Timestamp) :
    ∃ later,
      office.serve ⟨principal, .giveFeedback id (some comment), now, writtenAt⟩ =
        (.ok (.created feedbackId), later) ∧
      later.feedback = office.feedback.put ⟨feedbackId, id, userId, comment, now, none⟩ := by
  obtain ⟨_, rfl, _⟩ := Programme.find?_eq_some_iff_mem.1 hfind
  have hcheck : office.check principal (.giveFeedback row.id (some comment)) now =
      .ok (.giveFeedback userId row.id (some comment) now) := by
    rw [h.check_eq hfind, reviewFeedback, Timestamp.isBefore, hover, hfirst]
    rfl
  have hadd : office.feedback.add ⟨feedbackId, row.id, userId, comment, now, none⟩ =
      .ok (office.feedback.put ⟨feedbackId, row.id, userId, comment, now, none⟩) :=
    FeedbackBook.add_eq_ok_iff.2 ⟨hfirst, rfl⟩
  obtain ⟨journal, hjournal⟩ := Bus.publish_eq_ok never
    ⟨now, row.id, .commented feedbackId userId⟩ office.journal
  have hdraw : office.ids.draw = (some feedbackId, office.ids.draw.2) := by rw [← hdraw]
  rw [serve, hcheck]
  simp only [commitChecked, commit, commitFeedback]
  rw [hdraw]
  simp only [hadd, announce, hjournal]
  exact ⟨_, rfl, rfl⟩

end Loaded

end Attendee

/-- Who is given a seat takes part. -/
lemma attendee_of_register (seated : office.Seated) (hoperation : visit.operation = .register id)
    {outcome : Outcome} (hok : (office.serve visit).1 = .ok outcome) :
    ∃ userId, visit.principal.id = some userId ∧
      (office.serve visit).2.roll.has id userId = true ∧
      (visit.principal.isRestricted = true →
        ∃ c ∈ office.programme.rows, c.id = id ∧ c.status = .approved) := by
  have performs := Performs.of_serve office visit
  rw [hoperation] at performs
  generalize office.serve visit = result at performs hok
  cases performs with
  | refused _ => cases hok
  | @registered row userId roll huser hfind hadmission hadd =>
    obtain ⟨hsees, hguest, _⟩ := hadmission seated.admits
    refine ⟨userId, huser, ?_, fun hrestricted => ?_⟩
    · show roll.has row.id userId = true
      rw [Roll.has_iff, Roll.rows_of_add hadd]
      exact ⟨_, List.mem_append_right _ List.mem_cons_self, rfl, rfl⟩
    · have hguest : visit.principal.id ≠ some row.hostId := by
        rw [huser]
        exact fun hhost => hguest (Option.some.inj hhost)
      exact ⟨row, Programme.mem_of_find? hfind, rfl,
        Principal.approved_of_sees hsees hrestricted hguest⟩

/-- Who was given a seat takes part after all visits that follow. -/
lemma attendee_serveAll (start : Office) (hnew : start.IsNew)
    (admits : start.policy.checksAdmission = true) (past more : List Visit)
    (hoperation : visit.operation = .register id) {outcome : Outcome}
    (hok : ((start.serveAll past).serve visit).1 = .ok outcome) :
    ∃ userId, (start.serveAll (past ++ visit :: more)).Attendee visit.principal id userId := by
  have seated := serveAll_of_kept Traffic.kept_seated (hnew.seated admits) past
  have hlast := serveAll_of_kept Traffic.kept_seated (hnew.seated admits) (past ++ visit :: more)
  have sound := serveAll_of_kept Traffic.kept_sound (hnew.sound_afterAll []) past
  obtain ⟨userId, hnamed, hseat, happroved⟩ := attendee_of_register seated hoperation hok
  have hlater : start.serveAll (past ++ visit :: more) =
      ((start.serveAll past).serve visit).2.serveAll more := serveAll_append ..
  -- no stage takes a registration away
  have hstays : (start.serveAll (past ++ visit :: more)).roll.has id userId = true := by
    obtain ⟨r, hr, hsame⟩ := Roll.has_iff.1 hseat
    have hrows := (((start.serveAll past).serve visit).2.run_serveAll more).rows_stay
    rw [Roll.has_iff, hlater]
    exact ⟨r, hrows.subset hr, hsame⟩
  refine ⟨userId, hnamed, hstays, ?_, fun hrestricted => ?_⟩
  · obtain ⟨r, hr, rfl, rfl⟩ := Roll.has_iff.1 hstays
    exact hlast.guests r hr
  · obtain ⟨c, hc, rfl, hstatus⟩ := happroved hrestricted
    -- an approval is final, so the conference is still approved when the visits are over
    have hdecided : c.status ≠ .pending := by
      rw [hstatus]
      decide
    obtain ⟨later, hmem, horigin, hstatus', _⟩ :=
      decided_stays seated.orderly sound (visit :: more) hc hdecided
    rw [← serveAll_append] at hmem
    exact ⟨later, hmem, congrArg Conference.Origin.id horigin, hstatus'.trans hstatus⟩

/--
From empty stores, whoever was given a seat can give feedback on the conference after all visits
that follow, with any comment, as long as it is live, it is over, there is no other live feedback of
theirs and an id can be made. As long as it is live and not over, they are told when it ends, and
nothing changes.
-/
theorem attendees_are_heard (start : Office) (hnew : start.IsNew)
    (admits : start.policy.checksAdmission = true) (never : start.bus.NeverFails)
    (past : List Visit) (visit : Visit) (more : List Visit)
    (aware : ∀ t ∈ (past ++ visit :: more).flatMap Visit.readings, t.isAware = true) (id : String)
    (hoperation : visit.operation = .register id) (outcome : Outcome)
    (hok : ((start.serveAll past).serve visit).1 = .ok outcome) :
    let office := start.serveAll (past ++ visit :: more)
    ∃ userId, visit.principal.id = some userId ∧
      ∀ row, office.programme.find? id = some row →
      ∀ (comment : String) (now writtenAt : Timestamp), now.isAware = true →
        (row.window.endsAt.instant ≤ now.instant → office.feedback.has id userId = false →
          ∀ feedbackId, office.ids.draw.1 = some feedbackId →
            ∃ later,
              office.serve ⟨visit.principal, .giveFeedback id (some comment), now, writtenAt⟩ =
                (.ok (.created feedbackId), later) ∧
              later.feedback =
                office.feedback.put ⟨feedbackId, id, userId, comment, now, none⟩) ∧
        (now.instant < row.window.endsAt.instant →
          office.serve ⟨visit.principal, .giveFeedback id (some comment), now, writtenAt⟩ =
            (.error (.refused (.conferenceNotEnded row.window.endsAt)), office)) := by
  intro office
  obtain ⟨userId, attendee⟩ := attendee_serveAll start hnew admits past more hoperation hok
  refine ⟨userId, attendee.named, fun row hfind comment now writtenAt hnow => ?_⟩
  have hrun := start.awareRun_serveAll (past ++ visit :: more) aware
  have hwindow := (hrun.aware hnew.programme).rows row (Programme.mem_of_find? hfind)
  have hends := (Bool.and_eq_true_iff.1 hwindow).2
  have hbefore := Timestamp.before?_of_aware hnow hends
  have hnever : office.bus.NeverFails := by
    rw [bus_serveAll]
    exact never
  constructor
  · intro hover hfirst feedbackId hdraw
    rw [decide_eq_false (Int.not_lt.2 hover)] at hbefore
    exact attendee.serve_of_over hfind hnever hbefore hfirst hdraw comment writtenAt
  · intro hahead
    rw [decide_eq_true hahead] at hbefore
    exact attendee.serve_of_ahead hfind hbefore (some comment) writtenAt

/-- Ann, who has a seat at Alice's talk, is told to wait at ten o'clock and heard at noon. -/
theorem attendees_are_heard_of_announced :
    let office := (start .standard (.scripted [])).serveAll (announced ++ [annsSeat])
    let say (now : Timestamp) : Visit :=
      ⟨annsSeat.principal, .giveFeedback (IdSource.numbered 1) (some "Lean!"), now, now⟩
    (∃ later, office.serve (say (.hour 12)) = (.ok (.created (IdSource.numbered 2)), later) ∧
      later.feedback = office.feedback.put
        ⟨IdSource.numbered 2, IdSource.numbered 1, "ann", "Lean!", .hour 12, none⟩) ∧
      office.serve (say (.hour 10)) =
        (.error (.refused (.conferenceNotEnded (.hour 11))), office) := by
  intro office say
  obtain ⟨userId, hnamed, heard⟩ := attendees_are_heard (start .standard (.scripted []))
    isNew_start rfl Bus.chroniclesOnce_standard.never announced annsSeat [] (by decide)
    (IdSource.numbered 1) rfl .done rfl
  cases hnamed
  obtain ⟨row, hfind, hends⟩ : ∃ row, office.programme.find? (IdSource.numbered 1) = some row ∧
      row.window.endsAt = .hour 11 := ⟨_, rfl, rfl⟩
  have hover := (heard row hfind "Lean!" (.hour 12) (.hour 12) rfl).1
  have hahead := (heard row hfind "Lean!" (.hour 10) (.hour 10) rfl).2
  rw [hends] at hover hahead
  exact ⟨hover (by decide) rfl _ rfl, hahead (by decide)⟩

end Symposium.Office
