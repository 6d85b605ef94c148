import Symposium.Proofs.Listings
import Symposium.Proofs.Rewrites
import Symposium.Proofs.Turns
import Symposium.Proofs.Views

/-!
# Approvals at the same time

Some pending conferences are to be approved at the same time. Whether a window is free is looked at
by the review, which reports a part of what is in the way, and by the programme. A booked conference
is not rewritten by an approval, so what was once in the way stays there; this is why how each
approval stands, `IsDecided`, is kept by the turns of the others. Main statement: a conference stays
pending exactly if a booked one is in its way, its approval was refused with such a one named, and
all other approvals succeed.
-/

namespace Symposium

namespace Programme

variable {programme programme' : Programme} {c other : Conference} {found : List Conference}

/-- A booked conference whose window meets that of another one. -/
structure Blocks (programme : Programme) (c other : Conference) : Prop where
  mem : other ∈ programme.rows
  booked : other.isBooked = true
  ne : other.id ≠ c.id
  meets : other.window.Meets c.window

/-- The windows of a programme can be put in order and end after they start. -/
structure IsRegular (programme : Programme) : Prop where
  sound : programme.Sound
  aware : ∀ c ∈ programme.rows, c.window.isAware = true

/-- What is found to overlap a conference is in its way. -/
lemma IsRegular.blocks_of_mem (regular : programme.IsRegular) (hc : c ∈ programme.rows)
    (hfound : overlapping c.window (programme.booked (some c.id)) = .ok found)
    (hother : other ∈ found) : programme.Blocks c other := by
  obtain ⟨hbooked, hoverlaps⟩ := Failure.of_mem_keep hfound hother
  obtain ⟨hmem, hbooked, hne⟩ := mem_booked_iff.1 hbooked
  refine ⟨hmem, hbooked, fun hid => hne (congrArg some hid.symm), ?_⟩
  have hoverlaps := Window.overlaps_eq_ok_iff.1 hoverlaps
  exact (Window.overlaps?_eq_some_true_iff (regular.aware other hmem) (regular.aware c hc)
    (regular.sound.ordered other hmem) (regular.sound.ordered c hc)).1 hoverlaps

/-- In a regular programme, no comparison of windows fails. -/
lemma IsRegular.exists_overlapping (regular : programme.IsRegular) (hc : c ∈ programme.rows) :
    ∃ found, overlapping c.window (programme.booked (some c.id)) = .ok found :=
  Programme.exists_overlapping (regular.aware c hc) fun other hother =>
    regular.aware other (mem_booked_iff.1 hother).1

/-- A conference may be approved, or what is in its way is reported. -/
lemma IsRegular.checkOverlap_cases (regular : programme.IsRegular) (hc : c ∈ programme.rows) :
    programme.checkOverlap { c with status := .approved } = .ok () ∨
      ∃ conflicts other, programme.checkOverlap { c with status := .approved } =
          .error (.violated (.overlap conflicts)) ∧
        other ∈ conflicts ∧ programme.Blocks c other := by
  obtain ⟨found, hfound⟩ := regular.exists_overlapping hc
  have hcheck : programme.checkOverlap { c with status := .approved } =
      if found.isEmpty then .ok () else .error (.violated (.overlap found)) := by
    rw [checkOverlap, if_pos rfl, hfound]
    rfl
  cases found with
  | nil => exact .inl hcheck
  | cons other rest =>
    exact .inr ⟨_, other, hcheck, List.mem_cons_self,
      regular.blocks_of_mem hc hfound List.mem_cons_self⟩

/-- An approval that is written keeps a programme regular. -/
lemma IsRegular.update (regular : programme.IsRegular) (hc : c ∈ programme.rows)
    {time : Timestamp} (hupdate : programme.update { c with status := .approved } time =
      .ok programme') : programme'.IsRegular where
  sound := by
    have ordered : ({ c with status := .approved } : Conference).window.isOrdered = true :=
      regular.sound.ordered c hc
    exact regular.sound.update ordered hupdate
  aware := by
    obtain ⟨_, _, rfl⟩ := update_eq_ok_iff.1 hupdate
    intro row hrow
    obtain rfl | ⟨hold, _⟩ := Table.mem_rows_put.1 hrow
    · exact regular.aware c hc
    · exact regular.aware row hold

/-- An approval that is written is found afterwards. -/
lemma find?_of_approval (hfind : programme.find? c.id = some c) {time : Timestamp}
    (hupdate : programme.update { c with status := .approved } time = .ok programme') :
    programme'.find? c.id = some (stamped { c with status := .approved } time) := by
  obtain ⟨_, _, rfl⟩ := update_eq_ok_iff.1 hupdate
  have hget := Table.get?_put_self (stamped { c with status := .approved } time) programme
  exact find?_eq_some_iff.2 ⟨hget, (find?_eq_some_iff.1 hfind).2⟩

end Programme

namespace Office

variable {office : Office} {c : Conference} {principal : Principal} {now : Timestamp}

/-- A refusal of an approval that names a conference which is in the way. -/
def Obstructs (programme : Programme) (c : Conference) (failure : Failure) : Prop :=
  ∃ clashes other, failure = .refused (.timeWindowConflict clashes) ∧ programme.Blocks c other ∧
    Clash.ofConference other ∈ clashes

/-- A window is found to be free, or a conference that is in its way is named. -/
lemma checkFree_cases (regular : office.programme.IsRegular) (hc : c ∈ office.programme.rows) :
    office.checkFree c.window (some c.id) = .ok () ∨
      ∃ failure, office.checkFree c.window (some c.id) = .error failure ∧
        Obstructs office.programme c failure := by
  cases hpolicy : office.policy.checksWindows with
  | false =>
    left
    rw [checkFree, hpolicy]
    rfl
  | true =>
    obtain ⟨found, hfound⟩ := regular.exists_overlapping hc
    obtain ⟨reported, hreported, hconflicts⟩ : ∃ reported, (∀ other ∈ reported, other ∈ found) ∧
        office.conflicts c.window (some c.id) = .ok reported := by
      refine ⟨Page.upTo office.policy.reportLimit (Page.sortRows Programme.startKey false found),
        fun other hother => (Page.sortRows_perm ..).mem_iff.1 (Page.mem_of_mem_upTo hother), ?_⟩
      rw [conflicts, Programme.conflicting, Programme.overlappingInOrder, hfound]
      rfl
    rw [checkFree, hpolicy, hconflicts]
    cases reported with
    | nil => exact .inl rfl
    | cons other rest =>
      have hblocks := regular.blocks_of_mem hc hfound (hreported other List.mem_cons_self)
      exact .inr ⟨_, rfl, _, other, rfl, hblocks, List.mem_cons_self⟩

/-- An approval of a pending conference passes the checks, or they name what is in its way. -/
lemma check_approval_cases (regular : office.programme.IsRegular)
    (hfind : office.programme.find? c.id = some c) (hpending : c.status = .pending)
    (hright : principal.isRestricted = false)
    (hahead : c.window.startsAt.before? now = some false) :
    (∃ time, office.check principal (.decide c.id .approved) now =
        .ok (.decide principal.id c.status { c with status := .approved } time)) ∨
      ∃ failure, office.check principal (.decide c.id .approved) now = .error failure ∧
        Obstructs office.programme c failure := by
  have hallowed : c.checkDecision .approved now = .ok () :=
    Conference.checkDecision_eq_ok_iff.2 ⟨hpending, by decide, fun _ => hahead⟩
  have hdraft : office.draft principal (.decide c.id .approved) =
      .ok (.decision principal.id c .approved) :=
    Failure.bind_eq_ok_iff.2 ⟨(), Principal.checkUnrestricted_eq_ok_iff.2 hright,
      Failure.bind_eq_ok_iff.2 ⟨c, load_eq_ok_iff.2 hfind, rfl⟩⟩
  -- all that can still fail is the look at the window
  have hcheck : office.check principal (.decide c.id .approved) now =
      (office.checkFree c.window (some c.id)).map fun _ =>
        .decide principal.id c.status { c with status := .approved } now := by
    rw [check, hdraft]
    show office.reviewDecision principal.id c .approved now = _
    rw [reviewDecision, hallowed]
    cases office.checkFree c.window (some c.id) <;> rfl
  rw [hcheck]
  obtain hfree | ⟨failure, hfails, hblocked⟩ :=
    checkFree_cases regular (Programme.mem_of_find? hfind)
  · rw [hfree]
    exact .inl ⟨now, rfl⟩
  · rw [hfails]
    exact .inr ⟨failure, rfl, hblocked⟩

/-- An approval that passed the checks is written, or what is in its way is named. -/
lemma commit_approval_cases (regular : office.programme.IsRegular) (never : office.bus.NeverFails)
    (hfind : office.programme.find? c.id = some c) (actorId : Option String) (previous : Status)
    (now time : Timestamp) :
    let result := office.commit now (.decide actorId previous { c with status := .approved } time)
    (∃ outcome, result.1 = .ok outcome) ∧ result.2.bus = office.bus ∧
        office.programme.update { c with status := .approved } time = .ok result.2.programme ∨
      ∃ failure, result = (.error failure, office) ∧ Obstructs office.programme c failure := by
  intro result
  have hresult : result = office.commitRow { c with status := .approved }
      (.decided actorId previous .approved) time := rfl
  obtain hfree | ⟨conflicts, other, hoverlap, hother, hblocks⟩ :=
    regular.checkOverlap_cases (Programme.mem_of_find? hfind)
  · obtain ⟨programme, hupdate⟩ :
        ∃ programme, office.programme.update { c with status := .approved } time = .ok programme :=
      ⟨_, Programme.update_eq_ok_iff.2 ⟨⟨c, hfind⟩, hfree, rfl⟩⟩
    obtain ⟨journal, hjournal⟩ := Bus.publish_eq_ok never
      ⟨time, c.id, .decided actorId previous .approved⟩ office.journal
    left
    rw [hresult, commitRow, hupdate]
    dsimp only [announce]
    rw [hjournal]
    exact ⟨⟨_, rfl⟩, rfl, rfl⟩
  · have hupdate : office.programme.update { c with status := .approved } time =
        .error (.violated (.overlap conflicts)) := by
      simp only [Programme.update, hfind, hoverlap]
      rfl
    rw [hresult, commitRow, hupdate]
    exact .inr ⟨_, rfl, _, other, rfl, hblocks, List.mem_map_of_mem hother⟩

/-- The call that approves a conference. -/
def Call.approval (approver : Conference → Principal) (c : Conference) (now : Timestamp) : Call :=
  ⟨approver c, .decide c.id .approved, now⟩

end Office

namespace Race

open Office

variable {programme programme' : Programme} {actorId : Option String} {c other : Conference}
  {standing : Standing}

/-- How the approval of a pending conference stands. -/
inductive IsDecided (programme : Programme) (actorId : Option String) (c : Conference) :
    Standing → Prop where
  | waiting :
    programme.find? c.id = some c →
    IsDecided programme actorId c .waiting
  | checked {time} :
    programme.find? c.id = some c →
    IsDecided programme actorId c
      (.checked (.decide actorId c.status { c with status := .approved } time))
  | approved {time outcome} :
    programme.find? c.id = some (Programme.stamped { c with status := .approved } time) →
    IsDecided programme actorId c (.finished (.ok outcome))
  | refused {failure} :
    programme.find? c.id = some c →
    Obstructs programme c failure →
    IsDecided programme actorId c (.finished (.error failure))

/-- The approval of another conference leaves what is in the way there. -/
lemma IsDecided.put {time : Timestamp} (h : IsDecided programme actorId c standing)
    (hfind : programme.find? other.id = some other) (hpending : other.status = .pending)
    (hne : other.id ≠ c.id)
    (hupdate : programme.update { other with status := .approved } time = .ok programme') :
    IsDecided programme' actorId c standing := by
  obtain ⟨_, _, rfl⟩ := Programme.update_eq_ok_iff.1 hupdate
  have hkept : Programme.find? (programme.put
      (Programme.stamped { other with status := .approved } time)) c.id =
        programme.find? c.id := by
    have hother : (Programme.stamped { other with status := .approved } time).id ≠ c.id := hne
    rw [Programme.find?, Table.get?_put_of_ne hother]
    rfl
  cases h with
  | waiting hc => exact .waiting (hkept.trans hc)
  | checked hc => exact .checked (hkept.trans hc)
  | approved hc => exact .approved (hkept.trans hc)
  | refused hc hobstructs =>
    obtain ⟨clashes, booked, hfailure, hblocks, hnamed⟩ := hobstructs
    refine .refused (hkept.trans hc) ⟨clashes, booked, hfailure, ⟨?_, ?_, ?_, ?_⟩, hnamed⟩
    · -- what is booked is not what was pending until now
      refine Table.mem_rows_put.2 (.inr ⟨hblocks.mem, fun hsame => ?_⟩)
      obtain rfl := Table.eq_of_key_eq hblocks.mem (Programme.mem_of_find? hfind) hsame
      have hbooked := hblocks.booked
      rw [Conference.isBooked, hpending, Bool.and_eq_true] at hbooked
      cases hbooked.2
    · exact hblocks.booked
    · exact hblocks.ne
    · exact hblocks.meets

/-- Some pending conferences are being approved in a regular programme. -/
structure Hearing (approver : Conference → Principal) (pending : List Conference)
    (race : Race Conference) : Prop where
  regular : race.office.programme.IsRegular
  never : race.office.bus.NeverFails
  decided : ∀ c ∈ pending,
    IsDecided race.office.programme (approver c).id c (race.standing c)

namespace Hearing

variable {approver : Conference → Principal} {pending : List Conference} {race : Race Conference}
  {now : Timestamp}

/-- The turn of an approval leaves the office as it was, or the conference is approved. -/
lemma turn_cases (hearing : Hearing approver pending race) (hc : c ∈ pending)
    (hpending : c.status = .pending) (hright : (approver c).isRestricted = false)
    (hahead : c.window.startsAt.before? now = some false) :
    let next := race.turn (Call.approval approver · now) c
    IsDecided next.office.programme (approver c).id c (next.standing c) ∧
      (next.office = race.office ∨ next.office.bus = race.office.bus ∧
        race.office.programme.find? c.id = some c ∧ ∃ time,
          race.office.programme.update { c with status := .approved } time =
            .ok next.office.programme) := by
  intro next
  have hdecided := hearing.decided c hc
  cases hstanding : race.standing c with
  | waiting =>
    rw [hstanding] at hdecided
    cases hdecided with
    | waiting hfind =>
      -- the check writes nothing
      obtain ⟨hoffice, hturn⟩ := turn_checks (Call.approval approver · now) rfl hstanding
      rw [hoffice]
      refine ⟨?_, .inl rfl⟩
      obtain ⟨time, hpasses⟩ | ⟨failure, hfails, hobstructs⟩ :=
        check_approval_cases hearing.regular hfind hpending hright hahead
      · rw [hturn, hpasses]
        exact .checked hfind
      · rw [hturn, hfails]
        exact .refused hfind hobstructs
  | checked change =>
    rw [hstanding] at hdecided
    cases hdecided with
    | @checked time hfind =>
      -- others may have been approved since the check, so the write can still fail
      obtain ⟨hoffice, hturn⟩ := turn_commits (Call.approval approver · now) rfl hstanding
      obtain ⟨⟨outcome, hok⟩, hbus, hupdate⟩ | ⟨failure, hfails, hobstructs⟩ :=
        commit_approval_cases hearing.regular hearing.never hfind (approver c).id c.status now time
      · rw [← hoffice] at hbus hupdate
        rw [hok] at hturn
        refine ⟨?_, .inr ⟨hbus, hfind, time, hupdate⟩⟩
        rw [hturn]
        exact .approved (Programme.find?_of_approval hfind hupdate)
      · rw [hfails] at hoffice hturn
        rw [hoffice, hturn]
        exact ⟨.refused hfind hobstructs, .inl rfl⟩
  | finished result =>
    have hsame : next = race := turn_of_finished _ hstanding
    rw [hsame]
    exact ⟨hdecided, .inl rfl⟩

/-- Each turn of an approval keeps how all of them stand. -/
lemma turn (hearing : Hearing approver pending race)
    (hpending : ∀ c ∈ pending, c.status = .pending)
    (distinct : ∀ c ∈ pending, ∀ d ∈ pending, c.id = d.id → c = d) (hc : c ∈ pending)
    (hright : (approver c).isRestricted = false)
    (hahead : c.window.startsAt.before? now = some false) :
    Hearing approver pending (race.turn (Call.approval approver · now) c) := by
  obtain ⟨hdecided, hcases⟩ := hearing.turn_cases hc (hpending c hc) hright hahead
  have hothers {d : Conference} (hne : d ≠ c) :
      (race.turn (Call.approval approver · now) c).standing d = race.standing d :=
    standing_turn_of_ne _ race hne
  generalize race.turn (Call.approval approver · now) c = next at hdecided hcases hothers
  obtain hsame | ⟨hbus, hfind, time, hupdate⟩ := hcases
  · refine ⟨hsame ▸ hearing.regular, hsame ▸ hearing.never, fun d hd => ?_⟩
    by_cases hself : d = c
    · exact hself ▸ hdecided
    · rw [hothers hself, hsame]
      exact hearing.decided d hd
  · refine ⟨hearing.regular.update (Programme.mem_of_find? hfind) hupdate, hbus ▸ hearing.never,
      fun d hd => ?_⟩
    by_cases hself : d = c
    · exact hself ▸ hdecided
    · rw [hothers hself]
      have hne : c.id ≠ d.id := fun hid => hself (distinct c hc d hd hid).symm
      exact (hearing.decided d hd).put hfind (hpending c hc) hne hupdate

/-- The turns of approvals before the conferences start keep how all of them stand. -/
lemma runAt (hearing : Hearing approver pending race)
    (hpending : ∀ c ∈ pending, c.status = .pending)
    (distinct : ∀ c ∈ pending, ∀ d ∈ pending, c.id = d.id → c = d)
    (rights : ∀ c ∈ pending, (approver c).isRestricted = false)
    {schedule : List (Conference × Timestamp)}
    (hahead : ∀ taken ∈ schedule,
      taken.1 ∈ pending ∧ taken.1.window.startsAt.before? taken.2 = some false) :
    Hearing approver pending (race.runAt (Call.approval approver) schedule) := by
  refine runAt_of_kept ?_ hearing hahead
  rintro race ⟨c, now⟩ ⟨hc, hahead⟩ hearing
  exact hearing.turn hpending distinct hc (rights c hc) hahead

end Hearing

/-- An approval that has come to its end succeeded, or a conference is in its way and named. -/
lemma IsDecided.outcome {race : Race Conference} {result : Except Failure Outcome}
    (regular : race.office.programme.IsRegular) (hpending : c.status = .pending)
    (hdecided : IsDecided race.office.programme actorId c (race.standing c))
    (hfinished : race.standing c = .finished result) :
    ∃ row, race.office.programme.find? c.id = some row ∧ row.window = c.window ∧
      (row.status = .pending ↔ ∃ other, race.office.programme.Blocks row other) ∧
      (row.status = .pending → ∃ failure, race.standing c = .finished (.error failure) ∧
        Obstructs race.office.programme row failure) ∧
      (row.status ≠ .pending → row.status = .approved ∧ race.Succeeds c) := by
  rw [hfinished] at hdecided ⊢
  cases hdecided with
  | @approved time outcome hfind =>
    have hdone : race.Succeeds c := ⟨outcome, hfinished⟩
    have hnot : (Programme.stamped { c with status := .approved } time).status ≠ .pending := by
      intro hstatus
      cases hstatus
    refine ⟨_, hfind, rfl, ⟨fun hstatus => absurd hstatus hnot, ?_⟩,
      fun hstatus => absurd hstatus hnot, fun _ => ⟨rfl, hdone⟩⟩
    rintro ⟨other, hblocks⟩
    obtain ⟨hmem, _, hlive⟩ := Programme.find?_eq_some_iff_mem.1 hfind
    have hbooked : (Programme.stamped { c with status := .approved } time).isBooked = true := by
      rw [Conference.isBooked, hlive]
      rfl
    -- in a sound programme, what is booked is apart from all else that is
    have hapart := regular.sound.apart other hblocks.mem _ hmem hblocks.booked hbooked hblocks.ne
    exact absurd hblocks.meets hapart.not_meets
  | @refused failure hfind hobstructs =>
    have hblocks : ∃ other, race.office.programme.Blocks c other := by
      obtain ⟨_, other, _, hblocks, _⟩ := hobstructs
      exact ⟨other, hblocks⟩
    exact ⟨c, hfind, rfl, ⟨fun _ => hblocks, fun _ => hpending⟩,
      fun _ => ⟨failure, rfl, hobstructs⟩, fun hnot => absurd hpending hnot⟩

end Race

namespace Office

open Race

/--
In a state that was reached with a clock that always had an offset, some pending conferences are
approved at the same time, before they start. In whatever order the approvals are checked and
written, afterwards each conference is pending exactly if its window meets that of another one that
is live and approved; its approval was refused and such a conference was named. All other approvals
succeed.
-/
theorem approvals_yield_to_booked (start : Office) (hempty : start.programme = .empty) (t : Traffic)
    (hrun : Traffic.AwareRun (.quiet start) t) (never : t.office.bus.NeverFails)
    (pending : List Conference) (nodup : pending.Nodup)
    (hpending : ∀ c ∈ pending, t.office.programme.find? c.id = some c ∧ c.status = .pending)
    (approver : Conference → Principal)
    (rights : ∀ c ∈ pending, (approver c).isRestricted = false)
    (schedule : List (Conference × Timestamp))
    (hturns : (turnsOf schedule).Perm (pending ++ pending))
    (ahead : ∀ taken ∈ schedule,
      taken.2.isAware = true ∧ taken.2.instant ≤ taken.1.window.startsAt.instant) :
    let final := (Race.start t.office).runAt (Call.approval approver) schedule
    ∀ c ∈ pending, ∃ row, final.office.programme.find? c.id = some row ∧ row.window = c.window ∧
      (row.status = .pending ↔ ∃ other, final.office.programme.Blocks row other) ∧
      (row.status = .pending → ∃ failure, final.standing c = .finished (.error failure) ∧
        Obstructs final.office.programme row failure) ∧
      (row.status ≠ .pending → row.status = .approved ∧ final.Succeeds c) := by
  intro final c hc
  have haware := (hrun.aware hempty).rows
  have hsound := hrun.run.sound hempty
  -- a turn is known by the conference, a row by its id
  have distinct : ∀ c ∈ pending, ∀ d ∈ pending, c.id = d.id → c = d := by
    intro c hc d hd hid
    have hfind := (hpending c hc).1
    rw [hid, (hpending d hd).1] at hfind
    exact (Option.some.inj hfind).symm
  have hahead : ∀ taken ∈ schedule,
      taken.1 ∈ pending ∧ taken.1.window.startsAt.before? taken.2 = some false := by
    intro taken htaken
    have hmem : taken.1 ∈ pending := by
      have hmem := hturns.mem_iff.1 (List.mem_map_of_mem htaken)
      rwa [List.mem_append, or_self] at hmem
    obtain ⟨hnow, hle⟩ := ahead taken htaken
    have hwindow := haware taken.1 (Programme.mem_of_find? (hpending taken.1 hmem).1)
    have hstarts := (Bool.and_eq_true_iff.1 hwindow).1
    rw [Timestamp.before?_of_aware hstarts hnow, decide_eq_false (Int.not_lt.2 hle)]
    exact ⟨hmem, rfl⟩
  have hstart : Hearing approver pending (Race.start t.office) :=
    ⟨⟨hsound, haware⟩, never, fun c hc => .waiting (hpending c hc).1⟩
  have hearing : Hearing approver pending final :=
    hstart.runAt (fun c hc => (hpending c hc).2) distinct rights hahead
  -- with two turns for each, everybody has finished
  obtain ⟨result, hfinished⟩ := exists_finished nodup hturns hc
  exact (hearing.decided c hc).outcome hearing.regular (hpending c hc).2 hfinished

/-- Each of four talks overlaps the one before it. -/
def chain : List Visit :=
  let propose (userId : String) (window : Window) : Visit :=
    ⟨⟨some userId, some .user⟩, .propose ⟨default, 2, window⟩, .hour 0, .hour 0⟩
  [propose "alice" (.hours 9 11), propose "bob" (.hours 10 12), propose "cleo" (.hours 11 13),
    propose "dan" (.hours 12 14)]

/-- A talk of the chain. -/
def link (n : Nat) : Conference :=
  (((start .standard (.scripted [])).serveAll chain).programme.find? (IdSource.numbered n)).getD
    default

/-- The talks of the chain. -/
def links : List Conference :=
  [link 1, link 2, link 3, link 4]

/--
The second talk is checked before the first one is approved and written after that. The last one is
checked when the third one is approved.
-/
def hearings : List (Conference × Timestamp) :=
  [(link 1, .hour 1), (link 2, .hour 2), (link 1, .hour 3), (link 3, .hour 4), (link 2, .hour 5),
    (link 3, .hour 6), (link 4, .hour 7), (link 4, .hour 8)]

/-- Of the talks of the chain the first and the third are approved. -/
theorem approvals_yield_to_booked_of_chain :
    let final := (Race.start ((start .standard (.scripted [])).serveAll chain)).runAt
      (Call.approval fun _ => ⟨some "root", some .admin⟩) hearings
    final.office.programme.rows.map (·.status) = [.approved, .pending, .approved, .pending] ∧
      ∀ c ∈ links, ∃ row, final.office.programme.find? c.id = some row ∧ row.window = c.window ∧
        (row.status = .pending ↔ ∃ other, final.office.programme.Blocks row other) ∧
        (row.status = .pending → ∃ failure, final.standing c = .finished (.error failure) ∧
          Obstructs final.office.programme row failure) ∧
        (row.status ≠ .pending → row.status = .approved ∧ final.Succeeds c) := by
  intro final
  have hrun := awareRun_serveAll (start .standard (.scripted [])) chain (by decide)
  refine ⟨by decide +kernel, ?_⟩
  exact approvals_yield_to_booked _ rfl _ hrun Bus.chroniclesOnce_standard.never links
    (by decide +kernel) (by decide +kernel) (fun _ => ⟨some "root", some .admin⟩)
    (fun _ _ => rfl) hearings (by decide +kernel) (by decide +kernel)

end Office

end Symposium
