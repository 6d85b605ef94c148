import Symposium.Proofs.Failures
import Symposium.Proofs.Performance

/-!
# Visits and what is reported of them

A visit is an operation with the times that the clock shows when it is checked and when it is
written. If every event is entered on the timelines once, a visit that changes a conference is
reported by one entry, and any other visit by none. What a visit does is the relation `Serves`. Main
statement: after some visits the timelines are the reports of those that succeeded, in order.
-/

namespace Symposium

namespace Bus

variable {bus : Bus} {event : Event} {journal later : Journal}

/-- No handler fails, and for each kind of events one handler enters them on the timelines. -/
structure ChroniclesOnce (bus : Bus) : Prop where
  never : bus.NeverFails
  once : ∀ kind, ∃ front back, bus.filter (·.kind = kind) = front ++ .chronicler kind :: back ∧
    ∀ s ∈ front ++ back, s.KeepsTimelines

/-- The usual handlers enter each event once, in the handler of its kind. -/
lemma chroniclesOnce_standard : standard.ChroniclesOnce where
  never := by
    intro s hs event journal
    obtain hs | hs := List.mem_append.1 hs
    · obtain ⟨kind, _, rfl⟩ := List.mem_map.1 hs
      rfl
    · obtain ⟨kind, _, rfl⟩ := List.mem_map.1 hs
      rfl
  once := by
    intro kind
    refine ⟨[.recorder kind], [], ?_, ?_⟩
    · cases kind <;> rfl
    · intro s hs event journal
      obtain rfl := List.mem_singleton.1 hs
      rfl

/-- If an event is published, all handlers of its kind have run. -/
lemma completes_of_publish (h : bus.publish event journal = (.ok (), later)) :
    Completes event (bus.filter (·.kind = event.kind)) journal later := by
  induction bus generalizing journal with
  | nil =>
    obtain rfl : journal = later := congrArg Prod.snd h
    exact .nil
  | cons s bus ih =>
    by_cases hkind : s.kind = event.kind
    · rw [publish, if_pos hkind] at h
      rw [List.filter_cons_of_pos (by simpa using hkind)]
      split at h
      · next next hs => exact .cons hs (ih h)
      · cases h
    · rw [publish, if_neg hkind] at h
      rw [List.filter_cons_of_neg (by simpa using hkind)]
      exact ih h

/-- An announcement succeeds and is entered once. -/
lemma ChroniclesOnce.publish (h : bus.ChroniclesOnce) (event : Event) (journal : Journal) :
    ∃ later, bus.publish event journal = (.ok (), later) ∧
      later.timeline = journal.timeline ++ event.entry?.toList := by
  obtain ⟨later, hlater⟩ := publish_eq_ok h.never event journal
  obtain ⟨front, back, hbus, keeps⟩ := h.once event.kind
  have hcompletes := completes_of_publish hlater
  rw [hbus] at hcompletes
  exact ⟨later, hlater, hcompletes.timeline_of_chronicler keeps⟩

end Bus

namespace Office

/--
An operation of a principal with the times at which it is checked and written. One that reads the
clock once reads it there.
-/
structure Visit where
  principal : Principal
  operation : Operation
  checkedAt : Timestamp
  writtenAt : Timestamp
  deriving DecidableEq

namespace Visit

/-- What the clock showed. -/
def readings (visit : Visit) : List Timestamp :=
  [visit.checkedAt, visit.writtenAt]

/-- An entry about what the principal did. -/
def entry (visit : Visit) (kind : Entry.Kind) (conferenceId : String) (time : Timestamp)
    (payload : Json.Members) : Entry :=
  ⟨conferenceId, kind, visit.principal.id, time, payload⟩

/-- How a visit that ended well is reported; the removal of a feedback is not. -/
def report? (visit : Visit) (outcome : Outcome) : Option Entry :=
  match visit.operation, outcome with
  | .propose _, .created id => some (visit.entry .proposed id visit.checkedAt [])
  | .edit id edit, _ =>
    some (visit.entry .updated id visit.checkedAt
      [("changed_fields", .arr (edit.sentNames.map .str))])
  | .decide id .approved, _ =>
    some (visit.entry .approved id visit.checkedAt
      [("from", .str "pending"), ("to", .str "approved")])
  | .decide id .rejected, _ =>
    some (visit.entry .rejected id visit.checkedAt
      [("from", .str "pending"), ("to", .str "rejected")])
  | .withdraw id, _ => some (visit.entry .deleted id visit.writtenAt [])
  | .register id, _ => some (visit.entry .registered id visit.writtenAt [])
  | .giveFeedback id _, .created feedbackId =>
    some (visit.entry .feedbackGiven id visit.checkedAt [("feedback_id", .str feedbackId)])
  | _, _ => none

end Visit

/-- What a visit answers, and the office after it. -/
def serve (office : Office) (visit : Visit) : Except Failure Outcome × Office :=
  office.commitChecked visit.writtenAt
    (office.check visit.principal visit.operation visit.checkedAt)

/-- The office after some visits, one after the other. -/
def serveAll (office : Office) (visits : List Visit) : Office :=
  visits.foldl (fun office visit => (office.serve visit).2) office

/-- How a visit is reported, which it is not if it fails. -/
def reported (office : Office) (visit : Visit) : Option Entry :=
  match (office.serve visit).1 with
  | .ok outcome => visit.report? outcome
  | .error _ => none

/-- The reports of some visits, one after the other. -/
def reports (office : Office) : List Visit → List Entry
  | [] => []
  | visit :: visits =>
    (office.reported visit).toList ++ (office.serve visit).2.reports visits

/-- Whether the clock shows times with an offset, and none that is earlier than one before it. -/
structure Timely (visits : List Visit) : Prop where
  aware : ∀ t ∈ visits.flatMap Visit.readings, t.isAware = true
  ordered : (visits.flatMap Visit.readings).Pairwise fun s t => s.instant ≤ t.instant

variable {office later : Office} {visit : Visit} {visits : List Visit} {report? : Option Entry}

/-- A visit performs its operation. -/
lemma Performs.of_serve (office : Office) (visit : Visit) :
    Performs office visit.principal visit.checkedAt visit.writtenAt visit.operation
      (office.serve visit) :=
  .of_commitChecked office visit.principal visit.operation visit.checkedAt visit.writtenAt

/-- A fact that the stages keep holds after a visit. -/
lemma serve_of_kept {fact : Office → Prop} {ofDraft : Office → Draft → Prop}
    {ofChange : Office → Change → Prop} (kept : Traffic.Kept fact ofDraft ofChange)
    (h : fact office) (visit : Visit) : fact (office.serve visit).2 := by
  have hrun := office.run_commitChecked visit.principal visit.operation visit.checkedAt
    visit.writtenAt
  exact (kept.run h hrun).1

/-- Visits in two batches do what they do in one. -/
lemma serveAll_append (office : Office) (visits more : List Visit) :
    office.serveAll (visits ++ more) = (office.serveAll visits).serveAll more :=
  List.foldl_append

/-- One more visit is made to the office that the others left. -/
lemma serveAll_concat (office : Office) (visits : List Visit) (visit : Visit) :
    office.serveAll (visits ++ [visit]) = ((office.serveAll visits).serve visit).2 := by
  simp [serveAll]

/--
The stages of some visits are taken in a row, at the times that the visits show. Nothing waits in
between but what is drafted of the operation of one of them.
-/
lemma steps_serveAll {step : Traffic → Traffic → Prop} (office : Office) (visits : List Visit)
    (h : ∀ visit ∈ visits, ∀ now ∈ visit.readings, ∀ (before : Office) (t t' : Traffic),
      Traffic.StepAt now t t' →
        (∀ d ∈ t'.drafts, Drafted before visit.principal visit.operation d) → step t t') :
    Relation.ReflTransGen step (.quiet office) (.quiet (office.serveAll visits)) := by
  induction visits generalizing office with
  | nil => exact .refl
  | cons visit visits ih =>
    obtain ⟨hvisit, hrest⟩ := List.forall_mem_cons.1 h
    have hsteps := office.steps_commitChecked visit.principal visit.operation visit.checkedAt
      visit.writtenAt
    refine Relation.ReflTransGen.trans (Relation.ReflTransGen.mono ?_ _ _ hsteps)
      (ih (office.serve visit).2 hrest)
    rintro t t' ⟨⟨now, hnow, hstep⟩, hdrafts⟩
    exact hvisit now hnow office t t' hstep fun d hd => .of_draft (hdrafts d hd)

/-- Visits one after the other are a run like any other. -/
lemma run_serveAll (office : Office) (visits : List Visit) :
    Traffic.Run (.quiet office) (.quiet (office.serveAll visits)) :=
  office.steps_serveAll visits fun _ _ _ _ _ _ _ hstep _ => hstep.step

/-- A fact that the stages keep holds after all visits. -/
lemma serveAll_of_kept {fact : Office → Prop} {ofDraft : Office → Draft → Prop}
    {ofChange : Office → Change → Prop} (kept : Traffic.Kept fact ofDraft ofChange)
    (h : fact office) (visits : List Visit) : fact (office.serveAll visits) :=
  (kept.run h (office.run_serveAll visits)).1

/-- What no visit changes, some visits do not change. -/
lemma serveAll_keeps {α : Type} {part : Office → α}
    (h : ∀ office visit, part (serve office visit).2 = part office) (office : Office)
    (visits : List Visit) : part (office.serveAll visits) = part office := by
  induction visits generalizing office with
  | nil => rfl
  | cons visit visits ih => exact (ih (office.serve visit).2).trans (h office visit)

/-- Visits do not change what the office asks for. -/
lemma policy_serveAll (office : Office) (visits : List Visit) :
    (office.serveAll visits).policy = office.policy :=
  serveAll_keeps (fun office visit => (Performs.of_serve office visit).policy_eq) office visits

/-- Visits do not change the handlers. -/
lemma bus_serveAll (office : Office) (visits : List Visit) :
    (office.serveAll visits).bus = office.bus :=
  serveAll_keeps (fun office visit => (Performs.of_serve office visit).bus_eq) office visits

/-- One more visit adds its report, if it has one. -/
lemma reports_concat (office : Office) (visits : List Visit) (visit : Visit) :
    office.reports (visits ++ [visit]) =
      office.reports visits ++ ((office.serveAll visits).reported visit).toList := by
  induction visits generalizing office with
  | nil => simp [reports, serveAll]
  | cons first visits ih =>
    rw [List.cons_append, reports, ih, reports, List.append_assoc]
    rfl

/-- Visits that keep to the clock do so without the last one, which comes after them. -/
lemma Timely.of_concat (h : Timely (visits ++ [visit])) :
    Timely visits ∧ visit.checkedAt.instant ≤ visit.writtenAt.instant ∧
      ∀ t ∈ visits.flatMap Visit.readings, t.instant ≤ visit.checkedAt.instant := by
  have hreadings : (visits ++ [visit]).flatMap Visit.readings =
      visits.flatMap Visit.readings ++ [visit.checkedAt, visit.writtenAt] := by
    simp [Visit.readings]
  obtain ⟨aware, ordered⟩ := h
  rw [hreadings] at aware ordered
  obtain ⟨hbefore, hlast, hcross⟩ := List.pairwise_append.1 ordered
  refine ⟨⟨(List.forall_mem_append.1 aware).1, hbefore⟩, ?_, ?_⟩
  · exact List.rel_of_pairwise_cons hlast List.mem_cons_self
  · intro t ht
    exact hcross t ht visit.checkedAt List.mem_cons_self

/-- Of some times, some instant is the latest. -/
lemma exists_latest (times : List Timestamp) : ∃ now, ∀ t ∈ times, t.instant ≤ now := by
  induction times with
  | nil => exact ⟨0, nofun⟩
  | cons t times ih =>
    obtain ⟨now, hnow⟩ := ih
    refine ⟨max t.instant now, List.forall_mem_cons.2 ⟨Int.le_max_left _ _, ?_⟩⟩
    intro s hs
    exact Int.le_trans (hnow s hs) (Int.le_max_right _ _)

/-- The time of a report was read off the clock at the visit. -/
lemma Visit.time_mem_readings {outcome : Outcome} {entry : Entry}
    (h : visit.report? outcome = some entry) : entry.time ∈ visit.readings := by
  unfold report? at h
  split at h <;> cases h <;> simp [Visit.entry, readings]

/-- What is reported bears the times that the clock showed, in their order. -/
lemma times_reports_sublist (office : Office) (visits : List Visit) :
    ((office.reports visits).map Entry.time).Sublist (visits.flatMap Visit.readings) := by
  induction visits generalizing office with
  | nil => exact .slnil
  | cons visit visits ih =>
    have hfirst : ((office.reported visit).toList.map Entry.time).Sublist visit.readings := by
      cases hreported : office.reported visit with
      | none => exact List.nil_sublist _
      | some entry =>
        simp only [reported] at hreported
        split at hreported
        · exact List.singleton_sublist.2 (visit.time_mem_readings hreported)
        · cases hreported
    rw [reports, List.map_append, List.flatMap_cons]
    exact hfirst.append (ih (office.serve visit).2)

/-- What serving a visit does: how it is reported, and what is in the office then. -/
inductive Serves (office : Office) (visit : Visit) : Option Entry → Office → Prop where
  | refused {ids} :
    Serves office visit none { office with ids }
  | proposed {hostId id journal} {proposal : Proposal} :
    visit.principal.id = some hostId →
    office.ids.draw.1 = some id →
    Serves office visit (some (visit.entry .proposed id visit.checkedAt []))
      { office with
        programme := office.programme.put (proposal.toConference id hostId visit.checkedAt)
        ids := office.ids.draw.2
        journal }
  | edited {row journal} {edit : Edit} :
    office.programme.find? row.id = some row →
    row.checkEdit edit visit.checkedAt = .ok () →
    Serves office visit
      (some (visit.entry .updated row.id visit.checkedAt
        [("changed_fields", .arr (edit.sentNames.map .str))]))
      { office with
        programme := office.programme.put (Programme.stamped (edit.applyTo row) visit.checkedAt)
        journal }
  | approved {row journal} :
    office.programme.find? row.id = some row →
    row.checkDecision .approved visit.checkedAt = .ok () →
    Serves office visit
      (some (visit.entry .approved row.id visit.checkedAt
        [("from", .str "pending"), ("to", .str "approved")]))
      { office with
        programme :=
          office.programme.put (Programme.stamped { row with status := .approved } visit.checkedAt)
        journal }
  | rejected {row journal} :
    office.programme.find? row.id = some row →
    row.checkDecision .rejected visit.checkedAt = .ok () →
    Serves office visit
      (some (visit.entry .rejected row.id visit.checkedAt
        [("from", .str "pending"), ("to", .str "rejected")]))
      { office with
        programme :=
          office.programme.put (Programme.stamped { row with status := .rejected } visit.checkedAt)
        journal }
  | withdrawn {row journal} :
    office.programme.find? row.id = some row →
    Serves office visit (some (visit.entry .deleted row.id visit.writtenAt []))
      { office with
        programme := office.programme.put
          { row with deletedAt := some visit.writtenAt, updatedAt := visit.writtenAt }
        journal }
  | registered {row userId roll journal} :
    office.programme.find? row.id = some row →
    visit.checkedAt.before? row.window.endsAt = some true →
    office.roll.add office.programme ⟨row.id, userId, visit.writtenAt⟩ = .ok roll →
    Serves office visit (some (visit.entry .registered row.id visit.writtenAt []))
      { office with roll, journal }
  | commented {row userId comment feedbackId journal} :
    office.programme.find? row.id = some row →
    visit.checkedAt.before? row.window.endsAt = some false →
    office.ids.draw.1 = some feedbackId →
    Serves office visit
      (some (visit.entry .feedbackGiven row.id visit.checkedAt
        [("feedback_id", .str feedbackId)]))
      { office with
        feedback := office.feedback.put ⟨feedbackId, row.id, userId, comment, visit.checkedAt, none⟩
        ids := office.ids.draw.2
        journal }
  | removed {f} :
    f ∈ office.feedback.rows →
    Serves office visit none
      { office with feedback := office.feedback.put { f with deletedAt := some visit.writtenAt } }

/-- What is known of a visit that was served. -/
def IsServed (office : Office) (visit : Visit) (later : Office) : Prop :=
  Serves office visit (office.reported visit) later ∧
    later.journal.timeline = office.journal.timeline ++ (office.reported visit).toList

/-- A visit that is announced is reported by the entry of the event. -/
lemma isServed_of_announce {changed : Office} {event : Event} {outcome : Outcome}
    (chronicles : office.bus.ChroniclesOnce)
    (hserve : office.serve visit = changed.announce event outcome)
    (hbus : changed.bus = office.bus) (hjournal : changed.journal = office.journal)
    (hreport : visit.report? outcome = event.entry?)
    (serves : ∀ journal, Serves office visit event.entry? { changed with journal }) :
    office.IsServed visit (changed.announce event outcome).2 := by
  rw [← hbus] at chronicles
  obtain ⟨journal, hpublish, htimeline⟩ := chronicles.publish event changed.journal
  have hannounce : changed.announce event outcome = (.ok outcome, { changed with journal }) := by
    simp only [announce, hpublish]
    rfl
  have hreported : office.reported visit = event.entry? := by
    simp only [reported, hserve, hannounce, hreport]
  rw [IsServed, hreported, hannounce]
  exact ⟨serves journal, hjournal ▸ htimeline⟩

/-- A visit that fails leaves everything but the source of ids. -/
lemma isServed_of_refused {failure : Failure} {ids : IdSource}
    (hserve : office.serve visit = (.error failure, { office with ids })) :
    office.IsServed visit { office with ids } := by
  have hreported : office.reported visit = none := by simp only [reported, hserve]
  rw [IsServed, hreported]
  exact ⟨.refused, (List.append_nil _).symm⟩

/-- Nobody is admitted to what is over. -/
lemma admission_ahead {userId : Option String} {row : Conference} {now : Timestamp}
    (h : office.admission userId row now = .ok ()) :
    now.before? row.window.endsAt = some true := by
  obtain ⟨ahead, hahead, h⟩ := Failure.bind_eq_ok_iff.1 h
  obtain ⟨_, hopen, _⟩ := Failure.bind_eq_ok_iff.1 h
  obtain rfl := Failure.require_eq_ok_iff.1 hopen
  exact Failure.ofComparison_eq_ok_iff.1 hahead

/-- Inversion of a visit. -/
theorem isServed_serve (chronicles : office.bus.ChroniclesOnce)
    (admits : office.policy.checksAdmission = true) (visit : Visit) :
    office.IsServed visit (office.serve visit).2 := by
  obtain ⟨⟨userId?, role⟩, operation, checkedAt, writtenAt⟩ := visit
  have performs := Performs.of_serve office ⟨⟨userId?, role⟩, operation, checkedAt, writtenAt⟩
  dsimp only at performs
  generalize hserve : office.serve ⟨⟨userId?, role⟩, operation, checkedAt, writtenAt⟩ = result
    at performs ⊢
  cases performs with
  | refused _ => exact isServed_of_refused hserve
  | proposed hhost _ _ _ hdraw =>
    obtain rfl : userId? = some _ := hhost
    apply isServed_of_announce chronicles hserve rfl rfl rfl
    intro journal
    exact .proposed rfl hdraw
  | edited hfind hhost hallowed _ =>
    obtain rfl : userId? = some _ := hhost
    apply isServed_of_announce chronicles hserve rfl rfl rfl
    intro journal
    exact .edited hfind hallowed
  | @decided _ status _ hfind hallowed _ =>
    obtain ⟨hpending, hdecides, _⟩ := Conference.checkDecision_eq_ok_iff.1 hallowed
    rw [hpending] at hserve ⊢
    cases status with
    | pending =>
      -- which would be a decision that is not reported
      exact absurd rfl hdecides
    | approved =>
      apply isServed_of_announce chronicles hserve rfl rfl rfl
      intro journal
      exact .approved hfind hallowed
    | rejected =>
      apply isServed_of_announce chronicles hserve rfl rfl rfl
      intro journal
      exact .rejected hfind hallowed
  | withdrawn hfind _ =>
    apply isServed_of_announce chronicles hserve rfl rfl rfl
    intro journal
    exact .withdrawn hfind
  | registered huser hfind hadmission hadd =>
    obtain rfl : userId? = some _ := huser
    obtain ⟨_, _, henter⟩ := hadmission admits
    apply isServed_of_announce chronicles hserve rfl rfl rfl
    intro journal
    exact .registered hfind (admission_ahead henter) hadd
  | commented hid _ hfind _ _ hended _ hdraw =>
    obtain rfl : userId? = some _ := hid
    apply isServed_of_announce chronicles hserve rfl rfl rfl
    intro journal
    exact .commented hfind hended hdraw
  | @removed f _ hfind =>
    have hreported : office.reported ⟨⟨userId?, role⟩, .removeFeedback f.id, checkedAt,
        writtenAt⟩ = none := by
      simp only [reported, hserve]
      rfl
    rw [IsServed, hreported]
    exact ⟨.removed (FeedbackBook.mem_of_find? hfind), (List.append_nil _).symm⟩

end Office

end Symposium
