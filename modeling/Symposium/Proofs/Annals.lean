import Symposium.Proofs.Chronicle
import Symposium.Proofs.History
import Symposium.Proofs.Pages
import Symposium.Proofs.Seats
import Symposium.Proofs.Visits

/-!
# Annals

The timeline of a conference against what is stored about it. Every visit that is reported is of a
kind that may come next, as the same checks that let it pass speak of the stored row. The invariant
`Annals` says that replaying a timeline gives back what is stored. Main statement: this holds after
all visits, and the timeline is the list of all that was reported of the conference.
-/

namespace Symposium

namespace Journal

/-- Entries with offsets whose times are in order make up a timeline as they are. -/
lemma timelineOf_eq_ok {journal : Journal} {id : String}
    (aware : ∀ e ∈ journal.entriesOf id, e.time.isAware = true)
    (ordered : (journal.entriesOf id).Pairwise fun a b => a.time.instant ≤ b.time.instant) :
    journal.timelineOf id = .ok (journal.entriesOf id) := by
  have hcomparable : Timestamp.allComparable ((journal.entriesOf id).map (·.time)) = true := by
    apply Timestamp.allComparable_of_aware
    intro t ht
    obtain ⟨e, he, rfl⟩ := List.mem_map.1 ht
    exact aware e he
  have hsorted : Page.Sorted Journal.timeKey false (journal.entriesOf id) := by
    refine ordered.imp fun {a b} hle => ?_
    have hnot : ¬ b.time.instant < a.time.instant := Int.not_lt.2 hle
    simp [Page.SortKey.precedes, Page.SortKey.before, Journal.timeKey, Text.before_irrefl, hnot]
  simp only [Journal.timelineOf, hcomparable, if_true, Page.sortRows_of_sorted hsorted]

end Journal

namespace Office

/-- What is stored about a conference. -/
def chronicleOf (office : Office) (c : Conference) : Chronicle where
  hostId := c.hostId
  createdAt := c.createdAt
  updatedAt := c.updatedAt
  status := c.status
  deletedAt := c.deletedAt
  seatsTaken := office.roll.count c.id
  comments := office.feedback.countOn c.id

/-- The timelines tell what is stored, and there is feedback only on what is over by now. -/
structure Annals (office : Office) (clock : Int) : Prop where
  orderly : office.Orderly
  sound : office.programme.Sound
  chronicles : office.bus.ChroniclesOnce
  admits : office.policy.checksAdmission = true
  told : ∀ c ∈ office.programme.rows,
    Chronicle.replay (office.journal.entriesOf c.id) = some (office.chronicleOf c)
  announced : ∀ e ∈ office.journal.timeline, office.ids.HasMade e.conferenceId
  made : ∀ f ∈ office.feedback.rows, office.ids.HasMade f.id ∧ office.ids.HasMade f.conferenceId
  ended : ∀ c ∈ office.programme.rows,
    office.feedback.countOn c.id ≠ 0 → c.window.endsAt.instant ≤ clock

/-- Nothing was stored and nothing entered yet. -/
structure IsBlank (office : Office) : Prop where
  isNew : office.IsNew
  feedback : office.feedback = .empty
  timeline : office.journal.timeline = []

variable {office later : Office} {visit : Visit} {visits : List Visit} {report? : Option Entry}
  {clock : Int}

/-- Of nothing, empty timelines tell everything. -/
lemma IsBlank.annals (h : office.IsBlank) (chronicles : office.bus.ChroniclesOnce)
    (admits : office.policy.checksAdmission = true) (clock : Int) : office.Annals clock where
  orderly := h.isNew.orderly
  sound := by
    rw [h.isNew.programme]
    exact Programme.sound_empty
  chronicles := chronicles
  admits := admits
  told := by
    rw [h.isNew.programme]
    intro c hc
    exact absurd hc List.not_mem_nil
  announced := by
    rw [h.timeline]
    intro e he
    exact absurd he List.not_mem_nil
  made := by
    rw [h.feedback]
    intro f hf
    exact absurd hf List.not_mem_nil
  ended := by
    rw [h.isNew.programme]
    intro c hc
    exact absurd hc List.not_mem_nil

/-- Time passes. -/
lemma Annals.mono {now : Int} (h : office.Annals clock) (hle : clock ≤ now) :
    office.Annals now where
  __ := h
  ended := by
    intro c hc hgiven
    exact Int.le_trans (h.ended c hc hgiven) hle

/-- There is no feedback on a conference that is not over. -/
lemma Annals.countOn_eq_zero {c : Conference} (h : office.Annals clock)
    (hc : c ∈ office.programme.rows) (hahead : clock < c.window.endsAt.instant) :
    office.feedback.countOn c.id = 0 := by
  by_contra hgiven
  exact Int.not_lt.2 (h.ended c hc hgiven) hahead

/-- On what bears an id that was never made there is no feedback. -/
lemma Annals.countOn_of_new {id : String} (h : office.Annals clock)
    (hnew : ¬ office.ids.HasMade id) : office.feedback.countOn id = 0 := by
  rw [FeedbackBook.countOn, List.count_eq_zero, List.mem_map]
  rintro ⟨f, hf, rfl⟩
  exact hnew (h.made f hf).2

/-- An id that is drawn is that of no feedback yet. -/
lemma Annals.new_of_draw {id : String} (h : office.Annals clock)
    (hdraw : office.ids.draw.1 = some id) : ∀ f ∈ office.feedback.rows, f.id ≠ id :=
  h.orderly.neverRepeats.ne_of_draw (fun f hf => (h.made f hf).1) hdraw

/-- A conference that is entered is told one entry further, and what is told of others stays. -/
lemma Annals.told_of_entry {entry : Entry} (h : office.Annals clock)
    (htimeline : later.journal.timeline = office.journal.timeline ++ [entry])
    (hrows : ∀ c ∈ later.programme.rows,
      (c.id = entry.conferenceId ∧ ∃ old ∈ office.programme.rows, old.id = c.id ∧
        (office.chronicleOf old).Admits entry.kind ∧
          (office.chronicleOf old).tell entry = later.chronicleOf c) ∨
      (c.id ≠ entry.conferenceId ∧ c ∈ office.programme.rows ∧
        office.chronicleOf c = later.chronicleOf c)) :
    ∀ c ∈ later.programme.rows,
      Chronicle.replay (later.journal.entriesOf c.id) = some (later.chronicleOf c) := by
  intro c hc
  obtain ⟨hid, old, hold, hsame, hadmits, htell⟩ | ⟨hid, hold, hsame⟩ := hrows c hc
  · have hentries : later.journal.entriesOf c.id = office.journal.entriesOf c.id ++ [entry] := by
      simp [Journal.entriesOf, htimeline, hid]
    have htold := h.told old hold
    rw [hsame] at htold
    rw [hentries, Chronicle.replay_concat htold, Chronicle.next, if_pos hadmits, htell]
  · have hentries : later.journal.entriesOf c.id = office.journal.entriesOf c.id := by
      simp [Journal.entriesOf, htimeline, Ne.symm hid]
    rw [hentries, h.told c hold, hsame]

/-- If one row is rewritten and an entry made for it, the timelines still tell what is stored. -/
lemma Annals.told_of_put {row rewritten : Conference} {entry : Entry} (h : office.Annals clock)
    (htimeline : later.journal.timeline = office.journal.timeline ++ [entry])
    (hrow : row ∈ office.programme.rows)
    (hprogramme : later.programme = office.programme.put rewritten)
    (hid : rewritten.id = row.id) (hentry : entry.conferenceId = row.id)
    (hroll : later.roll = office.roll) (hfeedback : later.feedback = office.feedback)
    (admits : (office.chronicleOf row).Admits entry.kind)
    (htell : (office.chronicleOf row).tell entry = later.chronicleOf rewritten) :
    ∀ c ∈ later.programme.rows,
      Chronicle.replay (later.journal.entriesOf c.id) = some (later.chronicleOf c) := by
  apply h.told_of_entry htimeline
  intro c hc
  rw [hprogramme] at hc
  obtain rfl | ⟨hold, hne⟩ := Table.mem_rows_put.1 hc
  · exact .inl ⟨hid.trans hentry.symm, row, hrow, hid.symm, admits, htell⟩
  · refine .inr ⟨fun hsame => hne (hsame.trans (hentry.trans hid.symm)), hold, ?_⟩
    simp only [chronicleOf, hroll, hfeedback]

/-- A proposal, which is told by its first entry, leaves the other timelines as they are. -/
lemma Annals.told_of_proposal {proposal : Proposal} {id hostId : String} {time : Timestamp}
    {entry : Entry} (h : office.Annals clock) (hdraw : office.ids.draw.1 = some id)
    (htimeline : later.journal.timeline = office.journal.timeline ++ [entry])
    (hentry : entry = ⟨id, .proposed, some hostId, time, []⟩)
    (hprogramme : later.programme = office.programme.put (proposal.toConference id hostId time))
    (hroll : later.roll = office.roll) (hfeedback : later.feedback = office.feedback) :
    ∀ c ∈ later.programme.rows,
      Chronicle.replay (later.journal.entriesOf c.id) = some (later.chronicleOf c) := by
  -- nothing was reported of an id that is new, nobody has a seat there, and nobody commented on it
  have hnew := h.orderly.neverRepeats.not_hasMade hdraw
  have hentries : office.journal.entriesOf id = [] := by
    rw [Journal.entriesOf, List.filter_eq_nil_iff]
    intro e he hid
    exact hnew (beq_iff_eq.1 hid ▸ h.announced e he)
  have hseats : office.roll.count id = 0 := h.orderly.count_eq_zero hnew
  have hcomments : office.feedback.countOn id = 0 := h.countOn_of_new hnew
  subst hentry
  intro c hc
  rw [hprogramme] at hc
  obtain rfl | ⟨hold, hne⟩ := Table.mem_rows_put.1 hc
  · have hfirst : later.journal.entriesOf id = [⟨id, .proposed, some hostId, time, []⟩] := by
      show later.journal.timeline.filter _ = _
      rw [htimeline, List.filter_append]
      show office.journal.entriesOf id ++ _ = _
      simp [hentries]
    show Chronicle.replay (later.journal.entriesOf id) = _
    rw [hfirst]
    simp [Chronicle.replay, Chronicle.ofProposal, chronicleOf, hroll, hfeedback,
      Proposal.toConference, hseats, hcomments]
  · have hsame : later.journal.entriesOf c.id = office.journal.entriesOf c.id := by
      have hne : id ≠ c.id := Ne.symm hne
      simp [Journal.entriesOf, htimeline, hne]
    rw [hsame, h.told c hold]
    simp only [chronicleOf, hroll, hfeedback]

/-- Replaying a timeline gives back what is stored after one more visit. -/
lemma Annals.told_of_serves (h : office.Annals visit.checkedAt.instant)
    (serves : Serves office visit report? later)
    (htimeline : later.journal.timeline = office.journal.timeline ++ report?.toList) :
    ∀ c ∈ later.programme.rows,
      Chronicle.replay (later.journal.entriesOf c.id) = some (later.chronicleOf c) := by
  have hahead {row : Conference} (hrow : row ∈ office.programme.rows)
      (hbefore : visit.checkedAt.before? row.window.endsAt = some true) :
      (office.chronicleOf row).comments = 0 :=
    h.countOn_eq_zero hrow (Timestamp.lt_of_before? hbefore)
  cases serves with
  | refused => exact h.told
  | proposed hhost hdraw =>
    exact h.told_of_proposal hdraw htimeline (by rw [Visit.entry, hhost]) rfl rfl rfl
  | @edited row journal edit hfind hallowed =>
    have hrow := Programme.mem_of_find? hfind
    obtain ⟨hbefore, hstatus, _⟩ := Conference.checkEdit_eq_ok_iff.1 hallowed
    refine h.told_of_put htimeline hrow rfl rfl rfl rfl rfl ?_ rfl
    exact And.intro (Programme.deletedAt_of_find? hfind) ⟨hstatus, hahead hrow hbefore⟩
  | @approved row journal hfind hallowed =>
    have hrow := Programme.mem_of_find? hfind
    obtain ⟨hpending, _, hstart⟩ := Conference.checkDecision_eq_ok_iff.1 hallowed
    refine h.told_of_put htimeline hrow rfl rfl rfl rfl rfl ?_ rfl
    -- what has not started is not over
    have hbefore := Window.before?_endsAt (h.sound.ordered row hrow) (hstart rfl)
    exact And.intro (Programme.deletedAt_of_find? hfind) ⟨hpending, hahead hrow hbefore⟩
  | @rejected row journal hfind hallowed =>
    have hrow := Programme.mem_of_find? hfind
    obtain ⟨hpending, _⟩ := Conference.checkDecision_eq_ok_iff.1 hallowed
    refine h.told_of_put htimeline hrow rfl rfl rfl rfl rfl ?_ rfl
    exact And.intro (Programme.deletedAt_of_find? hfind) hpending
  | @withdrawn row journal hfind =>
    have hrow := Programme.mem_of_find? hfind
    refine h.told_of_put htimeline hrow rfl rfl rfl rfl rfl ?_ rfl
    exact And.intro (Programme.deletedAt_of_find? hfind) trivial
  | @registered row userId roll journal hfind hbefore hadd =>
    have hrow := Programme.mem_of_find? hfind
    apply h.told_of_entry htimeline
    intro c hc
    by_cases hid : c.id = row.id
    · obtain rfl := Table.eq_of_key_eq hc hrow hid
      refine .inl ⟨rfl, c, hrow, rfl, ?_, ?_⟩
      · exact And.intro (Programme.deletedAt_of_find? hfind) (hahead hrow hbefore)
      · have hcount : roll.count c.id = office.roll.count c.id + 1 := Roll.count_of_add hadd
        simp [Chronicle.tell, Visit.entry, chronicleOf, hcount]
    · refine .inr ⟨hid, hc, ?_⟩
      have hcount : roll.count c.id = office.roll.count c.id :=
        Roll.count_of_add_of_ne hadd fun h => hid h.symm
      simp [chronicleOf, hcount]
  | @commented row userId comment feedbackId journal hfind _ hdraw =>
    have hrow := Programme.mem_of_find? hfind
    have hnew := h.new_of_draw hdraw
    apply h.told_of_entry htimeline
    intro c hc
    by_cases hid : c.id = row.id
    · obtain rfl := Table.eq_of_key_eq hc hrow hid
      refine .inl ⟨rfl, c, hrow, rfl, And.intro (Programme.deletedAt_of_find? hfind) trivial, ?_⟩
      have hcount := FeedbackBook.countOn_put_of_new
        (f := ⟨feedbackId, c.id, userId, comment, visit.checkedAt, none⟩) hnew
      simp [Chronicle.tell, Visit.entry, chronicleOf, hcount]
    · refine .inr ⟨hid, hc, ?_⟩
      have hcount := FeedbackBook.countOn_put_of_ne
        (f := ⟨feedbackId, row.id, userId, comment, visit.checkedAt, none⟩) hnew (Ne.symm hid)
      simp [chronicleOf, hcount]
  | removed hf =>
    intro c hc
    simp only [chronicleOf, FeedbackBook.countOn_remove hf]
    exact h.told c hc

/-- An id that was made stays made. -/
lemma hasMade_serve {id : String} (office : Office) (visit : Visit)
    (h : office.ids.HasMade id) : (office.serve visit).2.ids.HasMade id := by
  rw [serve]
  cases office.check visit.principal visit.operation visit.checkedAt with
  | error failure => exact h
  | ok change => exact (Commits.of_commit office visit.writtenAt change).hasMade h

/-- Only a conference whose id was made is reported of. -/
lemma Serves.hasMade_entry (h : Serves office visit report? later) (orderly : office.Orderly)
    (stays : ∀ id, office.ids.HasMade id → later.ids.HasMade id) :
    ∀ entry ∈ report?, later.ids.HasMade entry.conferenceId := by
  have hmade {row : Conference} (hfind : office.programme.find? row.id = some row) :
      later.ids.HasMade row.id :=
    stays row.id (orderly.made row (Programme.mem_of_find? hfind))
  intro entry hentry
  cases h with
  | refused => cases hentry
  | proposed _ hdraw =>
    cases hentry
    exact IdSource.hasMade_of_draw hdraw
  | edited hfind _ => cases hentry; exact hmade hfind
  | approved hfind _ => cases hentry; exact hmade hfind
  | rejected hfind _ => cases hentry; exact hmade hfind
  | withdrawn hfind => cases hentry; exact hmade hfind
  | registered hfind _ _ => cases hentry; exact hmade hfind
  | commented hfind _ _ => cases hentry; exact hmade hfind
  | removed _ => cases hentry

/-- Feedback has an id that was made, and so has what it is about. -/
lemma Annals.made_of_serves (h : office.Annals clock) (serves : Serves office visit report? later)
    (stays : ∀ id, office.ids.HasMade id → later.ids.HasMade id) :
    ∀ f ∈ later.feedback.rows,
      later.ids.HasMade f.id ∧ later.ids.HasMade f.conferenceId := by
  have old {f : Feedback} (hf : f ∈ office.feedback.rows) :
      later.ids.HasMade f.id ∧ later.ids.HasMade f.conferenceId :=
    ⟨stays f.id (h.made f hf).1, stays f.conferenceId (h.made f hf).2⟩
  intro f hf
  cases serves with
  | commented hfind _ hdraw =>
    obtain rfl | ⟨hold, _⟩ := Table.mem_rows_put.1 hf
    · have hmade := h.orderly.made _ (Programme.mem_of_find? hfind)
      exact ⟨IdSource.hasMade_of_draw hdraw, stays _ hmade⟩
    · exact old hold
  | removed hremoved =>
    have hmade := old hremoved
    obtain rfl | ⟨hold, _⟩ := Table.mem_rows_put.1 hf
    · exact hmade
    · exact old hold
  | _ => exact old hf

/-- There is feedback only on what is over, after one more visit. -/
lemma Annals.ended_of_serves (h : office.Annals visit.checkedAt.instant)
    (serves : Serves office visit report? later) :
    ∀ c ∈ later.programme.rows, later.feedback.countOn c.id ≠ 0 →
      c.window.endsAt.instant ≤ visit.checkedAt.instant := by
  have put {rewritten : Conference} (hkeeps : office.feedback.countOn rewritten.id ≠ 0 →
      rewritten.window.endsAt.instant ≤ visit.checkedAt.instant) :
      ∀ c ∈ (office.programme.put rewritten).rows, office.feedback.countOn c.id ≠ 0 →
        c.window.endsAt.instant ≤ visit.checkedAt.instant := by
    intro c hc hgiven
    obtain rfl | ⟨hold, _⟩ := Table.mem_rows_put.1 hc
    · exact hkeeps hgiven
    · exact h.ended c hold hgiven
  cases serves with
  | refused => exact h.ended
  | proposed _ hdraw =>
    have hnone := h.countOn_of_new (h.orderly.neverRepeats.not_hasMade hdraw)
    exact put fun hgiven => absurd hnone hgiven
  | edited hfind hallowed =>
    -- the window may move, but what is edited is not over
    have hahead := Timestamp.lt_of_before? (Conference.checkEdit_eq_ok_iff.1 hallowed).1
    have hnone := h.countOn_eq_zero (Programme.mem_of_find? hfind) hahead
    exact put fun hgiven => absurd hnone hgiven
  | approved hfind _ =>
    have hkeeps := h.ended _ (Programme.mem_of_find? hfind)
    exact put hkeeps
  | rejected hfind _ =>
    have hkeeps := h.ended _ (Programme.mem_of_find? hfind)
    exact put hkeeps
  | withdrawn hfind =>
    have hkeeps := h.ended _ (Programme.mem_of_find? hfind)
    exact put hkeeps
  | registered _ _ _ => exact h.ended
  | @commented row _ _ _ _ hfind hended hdraw =>
    intro c hc hgiven
    by_cases hid : c.id = row.id
    · obtain rfl := Table.eq_of_key_eq hc (Programme.mem_of_find? hfind) hid
      exact Timestamp.le_of_before? hended
    · rw [FeedbackBook.countOn_put_of_ne (h.new_of_draw hdraw) (Ne.symm hid)] at hgiven
      exact h.ended c hc hgiven
  | removed hf =>
    intro c hc hgiven
    rw [FeedbackBook.countOn_remove hf] at hgiven
    exact h.ended c hc hgiven

/-- Every visit keeps the annals, case by case of what it may do. -/
theorem Annals.serve (h : office.Annals visit.checkedAt.instant)
    (hle : visit.checkedAt.instant ≤ visit.writtenAt.instant) :
    (office.serve visit).2.Annals visit.writtenAt.instant := by
  have performs := Performs.of_serve office visit
  obtain ⟨serves, htimeline⟩ := isServed_serve h.chronicles h.admits visit
  have stays (id : String) (hid : office.ids.HasMade id) := hasMade_serve office visit hid
  have annals : (office.serve visit).2.Annals visit.checkedAt.instant := {
    orderly := serve_of_kept Traffic.kept_orderly h.orderly visit
    sound := serve_of_kept Traffic.kept_sound h.sound visit
    chronicles := performs.bus_eq ▸ h.chronicles
    admits := performs.policy_eq ▸ h.admits
    told := h.told_of_serves serves htimeline
    announced := by
      rw [htimeline]
      intro e he
      cases List.mem_append.1 he with
      | inl hold => exact stays e.conferenceId (h.announced e hold)
      | inr hnew => exact serves.hasMade_entry h.orderly stays e (Option.mem_toList.1 hnew)
    made := h.made_of_serves serves stays
    ended := h.ended_of_serves serves }
  exact annals.mono hle

/-- The annals are kept by all visits. -/
theorem Annals.serveAll (h : ∀ clock, office.Annals clock) (timely : Timely visits) (now : Int)
    (hnow : ∀ t ∈ visits.flatMap Visit.readings, t.instant ≤ now) :
    (office.serveAll visits).Annals now := by
  -- from the last visit, whose readings are the latest
  induction visits using List.reverseRecOn generalizing now with
  | nil => exact h now
  | append_singleton visits visit ih =>
    obtain ⟨hbefore, hle, hcross⟩ := timely.of_concat
    have hwritten : visit.writtenAt.instant ≤ now := hnow _ (by simp [Visit.readings])
    rw [serveAll_concat]
    exact ((ih hbefore visit.checkedAt.instant hcross).serve hle).mono hwritten

/-- The timeline grows by the reports of the visits, in their order. -/
lemma timeline_serveAll (h : ∀ clock, office.Annals clock) (timely : Timely visits) :
    (office.serveAll visits).journal.timeline =
      office.journal.timeline ++ office.reports visits := by
  induction visits using List.reverseRecOn with
  | nil => exact (List.append_nil _).symm
  | append_singleton visits visit ih =>
    obtain ⟨hbefore, _, hcross⟩ := timely.of_concat
    have annals := Annals.serveAll h hbefore visit.checkedAt.instant hcross
    obtain ⟨_, htimeline⟩ := isServed_serve annals.chronicles annals.admits visit
    rw [serveAll_concat, htimeline, ih hbefore, reports_concat, List.append_assoc]

/--
In an office that started without anything stored, the timeline of every conference, withdrawn or
not, is the list of what was reported of it, in order. Replaying it gives back what is stored, and
the entries follow the rules.
-/
theorem timelines_tell_all (start : Office) (blank : start.IsBlank)
    (chronicles : start.bus.ChroniclesOnce) (admits : start.policy.checksAdmission = true)
    (visits : List Visit) (timely : Timely visits) :
    ∀ c ∈ (start.serveAll visits).programme.rows, ∃ entries,
      entries = (start.reports visits).filter (·.conferenceId == c.id) ∧
        (start.serveAll visits).journal.timelineOf c.id = .ok entries ∧
        Chronicle.replay entries = some ((start.serveAll visits).chronicleOf c) ∧
        Chronicle.Recounts entries ((start.serveAll visits).chronicleOf c) := by
  have hannals := blank.annals chronicles admits
  have htimeline : (start.serveAll visits).journal.timeline = start.reports visits := by
    rw [timeline_serveAll hannals timely, blank.timeline]
    rfl
  obtain ⟨now, hnow⟩ := exists_latest (visits.flatMap Visit.readings)
  intro c hc
  have htold := (Annals.serveAll hannals timely now hnow).told c hc
  have hentries : (start.serveAll visits).journal.entriesOf c.id =
      (start.reports visits).filter (·.conferenceId == c.id) := by
    rw [Journal.entriesOf, htimeline]
  -- so the times of the entries are some of the readings of the clock
  have hsublist : (((start.serveAll visits).journal.entriesOf c.id).map Entry.time).Sublist
      (visits.flatMap Visit.readings) := by
    rw [hentries]
    exact (List.filter_sublist.map Entry.time).trans (times_reports_sublist start visits)
  have hordered := List.pairwise_map.1 (timely.ordered.sublist hsublist)
  have haware : ∀ e ∈ (start.serveAll visits).journal.entriesOf c.id, e.time.isAware = true := by
    intro e he
    exact timely.aware e.time (hsublist.subset (List.mem_map_of_mem he))
  refine ⟨_, rfl, ?_⟩
  rw [← hentries]
  exact ⟨Journal.timelineOf_eq_ok haware hordered, htold, .of_replay htold⟩

/-- The usual office has nothing stored when it starts. -/
lemma isBlank_start : (start .standard (.scripted [])).IsBlank :=
  ⟨isNew_start, rfl, rfl⟩

/--
A talk is proposed, retitled and approved, somebody takes a seat and comments on it when it is over,
and in the end the comment is removed and the talk withdrawn. Two visits in between fail.
-/
def season : List Visit :=
  let talk := IdSource.numbered 1
  let visit (userId : String) (role : Role) (operation : Operation) (hour : Int) : Visit :=
    ⟨⟨some userId, some role⟩, operation, .hour hour, .hour hour⟩
  [visit "alice" .user (.propose ⟨default, 2, .hours 9 11⟩) 0,
    visit "alice" .user (.edit talk { (default : Edit) with title := "Lean" }) 1,
    visit "bob" .user (.edit talk { (default : Edit) with title := "Lisp" }) 2,
    visit "root" .admin (.decide talk .approved) 3,
    visit "ann" .user (.register talk) 4,
    visit "root" .admin (.decide talk .rejected) 5,
    visit "ann" .user (.giveFeedback talk "fine") 12,
    visit "root" .admin (.removeFeedback (IdSource.numbered 2)) 13,
    visit "alice" .user (.withdraw talk) 14]

/-- The timeline of the talk of the season. -/
theorem timelines_tell_all_of_season :
    let office := (start .standard (.scripted [])).serveAll season
    ∃ c ∈ office.programme.rows, ∃ entries,
      entries.map Entry.kind =
          [.proposed, .updated, .approved, .registered, .feedbackGiven, .deleted] ∧
        office.journal.timelineOf c.id = .ok entries ∧
        Chronicle.replay entries = some (office.chronicleOf c) := by
  intro office
  have hids : office.programme.rows.map Conference.id = [IdSource.numbered 1] := by rfl
  have hmem : IdSource.numbered 1 ∈ office.programme.rows.map Conference.id := by simp [hids]
  obtain ⟨c, hc, hid⟩ := List.mem_map.1 hmem
  have timely : Timely season := ⟨by decide, by decide⟩
  obtain ⟨entries, hentries, htimeline, htold, _⟩ := timelines_tell_all _ isBlank_start
    Bus.chroniclesOnce_standard rfl season timely c hc
  refine ⟨c, hc, entries, ?_, htimeline, htold⟩
  rw [hentries, hid]
  rfl

end Office

end Symposium
