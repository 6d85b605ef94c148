import Symposium.Proofs.Listings
import Symposium.Proofs.Seats
import Symposium.Proofs.Turns

/-!
# A rush for the last seats

Some users want seats at a conference at the same time. Those who can be admitted are `IsCandidate`,
which says nothing about the seats that are left and which no other user's seat changes. The seats
go to those who write first; whether somebody is too late is found out by the admission or by the
roll. Main statement: as many seats are taken as there are, by the first who write, and all others
are told that the conference is full.
-/

namespace Symposium

namespace Office

variable {office later : Office} {c : Conference} {principal : Principal} {userId : String}
  {now : Timestamp}

/-- Whether a principal is admitted to a conference: they see it, do not host it and get a seat. -/
def Admits (office : Office) (principal : Principal) (id : String) (now : Timestamp) : Prop :=
  ∃ row, office.loadVisible principal id = .ok row ∧ principal.isUser row.hostId = false ∧
    office.admission principal.id row now = .ok ()

/-- Whether a user may have a seat at a conference, as long as one is left. -/
structure IsCandidate (office : Office) (c : Conference) (principal : Principal)
    (userId : String) : Prop where
  named : principal.id = some userId
  live : office.programme.find? c.id = some c
  sees : principal.sees c = true
  guest : principal.isUser c.hostId = false
  fresh : office.roll.has c.id userId = false
  free : ∀ other ∈ office.roll.conferencesOf office.programme userId,
    other.window.overlaps? c.window = some false

namespace IsCandidate

/-- Whoever is admitted to a conference is a candidate for its seats. -/
lemma of_admits (hlive : office.programme.find? c.id = some c) (hnamed : principal.id = some userId)
    (h : office.Admits principal c.id now) : office.IsCandidate c principal userId := by
  obtain ⟨row, hload, hguest, hadmission⟩ := h
  obtain ⟨hfind, hsees⟩ := loadVisible_eq_ok_iff.1 hload
  obtain rfl : c = row := Option.some.inj (hlive.symm.trans hfind)
  rw [hnamed] at hadmission
  obtain ⟨_, _, hadmission⟩ := Failure.bind_eq_ok_iff.1 hadmission
  obtain ⟨_, _, hadmission⟩ := Failure.bind_eq_ok_iff.1 hadmission
  obtain ⟨_, hfresh, hadmission⟩ := Failure.bind_eq_ok_iff.1 hadmission
  obtain ⟨_, _, hadmission⟩ := Failure.bind_eq_ok_iff.1 hadmission
  obtain ⟨conflicts, hconflicts, hnone⟩ := Failure.bind_eq_ok_iff.1 hadmission
  have hfresh := Failure.require_eq_ok_iff.1 hfresh
  rw [Bool.not_eq_true'] at hfresh
  have hnone := Failure.require_eq_ok_iff.1 hnone
  exact ⟨hnamed, hlive, hsees, hguest, hfresh, (Roll.conflicting_eq_ok_iff hnone).1 hconflicts⟩

/-- Before the end it only matters to a candidate whether a seat is left. -/
lemma admission_eq (h : office.IsCandidate c principal userId)
    (hahead : now.before? c.window.endsAt = some true) :
    office.admission principal.id c now =
      Failure.require (office.roll.count c.id < c.seats)
        (.conferenceFull (some (c.seats, office.roll.count c.id))) := by
  have hisBefore : now.isBefore c.window.endsAt = .ok true := by
    rw [Timestamp.isBefore, hahead]
    rfl
  have hclashes : office.clashesFor (some userId) c.window = .ok [] :=
    (Roll.conflicting_eq_ok_iff rfl).2 h.free
  rw [h.named, admission, hisBefore]
  by_cases hleft : office.roll.count c.id < c.seats
  · simp [bind, Except.bind, Failure.require, h.fresh, hclashes, hleft]
  · simp [bind, Except.bind, Failure.require, h.fresh, hleft]

/-- A candidate gets as far as to the review of their seat. -/
lemma approach_eq (h : office.IsCandidate c principal userId)
    (admits : office.policy.checksAdmission = true) :
    office.approach principal c.id = .ok (some c) := by
  have hload : office.loadVisible principal c.id = .ok c :=
    loadVisible_eq_ok_iff.2 ⟨h.live, h.sees⟩
  simp only [approach, admits, if_true, hload, bind, Except.bind, h.guest]
  rfl

/-- A candidate passes the checks, or is told that no seat is left. -/
lemma check_cases (h : office.IsCandidate c principal userId)
    (hahead : now.before? c.window.endsAt = some true) :
    office.check principal (.register c.id) now = .ok (.register principal.id c.id) ∨
      c.seats ≤ office.roll.count c.id ∧ ∃ detail,
        office.check principal (.register c.id) now =
          .error (.refused (.conferenceFull detail)) := by
  cases hpolicy : office.policy.checksAdmission with
  | false =>
    left
    rw [check, draft, draftSeat, approach, hpolicy]
    rfl
  | true =>
    have hcheck : office.check principal (.register c.id) now =
        (office.admission principal.id c now).map fun _ => .register principal.id c.id := by
      rw [check, draft, draftSeat, h.approach_eq hpolicy]
      rfl
    rw [h.admission_eq hahead, Failure.require] at hcheck
    by_cases hleft : office.roll.count c.id < c.seats
    · rw [if_pos (decide_eq_true hleft)] at hcheck
      exact .inl hcheck
    · rw [if_neg (by simpa using hleft)] at hcheck
      exact .inr ⟨Nat.not_lt.1 hleft, _, hcheck⟩

/-- A candidate who writes gets a seat if one is left. -/
lemma commit_of_lt (h : office.IsCandidate c principal userId) (never : office.bus.NeverFails)
    (hleft : office.roll.count c.id < c.seats) (now : Timestamp) :
    ∃ later, office.commit now (.register principal.id c.id) = (.ok .done, later) ∧
      later.programme = office.programme ∧ later.bus = office.bus ∧
      office.roll.add office.programme ⟨c.id, userId, now⟩ = .ok later.roll := by
  have hadd : office.roll.add office.programme ⟨c.id, userId, now⟩ =
      .ok (office.roll.put ⟨c.id, userId, now⟩) :=
    Roll.add_eq_ok_iff.2 ⟨c, h.live, h.fresh, hleft, h.free, rfl⟩
  obtain ⟨journal, hjournal⟩ :=
    Bus.publish_eq_ok never ⟨now, c.id, .registered userId⟩ office.journal
  refine ⟨{ office with roll := office.roll.put ⟨c.id, userId, now⟩, journal }, ?_, rfl, rfl, hadd⟩
  simp only [commit, commitSeat, h.named, hadd, announce, hjournal]
  rfl

/-- A candidate who writes too late is told so. -/
lemma commit_of_le (h : office.IsCandidate c principal userId)
    (hfull : c.seats ≤ office.roll.count c.id) (now : Timestamp) :
    office.commit now (.register principal.id c.id) =
      (.error (.refused (.conferenceFull none)), office) := by
  have hadd : office.roll.add office.programme ⟨c.id, userId, now⟩ =
      .error (.violated (.full c.id)) := by
    simp [Roll.add, h.live, h.fresh, hfull]
  simp only [commit, commitSeat, h.named, hadd]
  rfl

/-- Somebody else's seat does not matter to a candidate. -/
lemma of_add {r : Registration} (h : office.IsCandidate c principal userId)
    (hprogramme : later.programme = office.programme)
    (hadd : office.roll.add office.programme r = .ok later.roll) (hother : r.userId ≠ userId) :
    later.IsCandidate c principal userId := by
  have hrows := Roll.rows_of_add hadd
  have hhas (id : String) : later.roll.has id userId = office.roll.has id userId := by
    rw [Bool.eq_iff_iff, Roll.has_iff, Roll.has_iff, hrows]
    constructor
    · rintro ⟨s, hs, hid, huser⟩
      obtain hs | hs := List.mem_append.1 hs
      · exact ⟨s, hs, hid, huser⟩
      · obtain rfl := List.mem_singleton.1 hs
        exact absurd huser hother
    · rintro ⟨s, hs, hkey⟩
      exact ⟨s, List.mem_append_left _ hs, hkey⟩
  refine ⟨h.named, hprogramme ▸ h.live, h.sees, h.guest, ?_, ?_⟩
  · rw [hhas]
    exact h.fresh
  · intro other hmem
    rw [hprogramme, Roll.mem_conferencesOf_iff, hhas] at hmem
    exact h.free other (Roll.mem_conferencesOf_iff.2 hmem)

end IsCandidate

/-- The call of a principal for a seat at a conference. -/
def Call.seat (id : String) (principal : Principal) (now : Timestamp) : Call :=
  ⟨principal, .register id, now⟩

end Office

namespace Race

open Office

variable {c : Conference} {principals turns : List Principal} {race next : Race Principal}
  {principal : Principal} {now : Timestamp} {schedule : List (Principal × Timestamp)}

/-- A call was refused because the conference is full. -/
def FindsFull (race : Race Principal) (principal : Principal) : Prop :=
  ∃ detail, race.standing principal = .finished (.error (.refused (.conferenceFull detail)))

/-- Whether a principal has a seat if they are among the winners and found no seat left if not. -/
structure IsServed (race : Race Principal) (winners : List Principal) (principal : Principal) :
    Prop where
  first : principal ∈ winners → race.Succeeds principal
  others : principal ∉ winners → race.FindsFull principal

section IsServed

variable {winners : List Principal}

/-- Whoever found the conference full is out of the race. -/
lemma FindsFull.runAt {call : Principal → Timestamp → Call} (h : race.FindsFull principal)
    (schedule : List (Principal × Timestamp)) : (race.runAt call schedule).FindsFull principal := by
  obtain ⟨detail, hfinished⟩ := h
  exact ⟨detail, standing_runAt_of_finished hfinished schedule⟩

/-- Whoever found the conference full has no seat. -/
lemma FindsFull.not_succeeds (h : race.FindsFull principal) : ¬ race.Succeeds principal := by
  rintro ⟨_, hsucceeds⟩
  obtain ⟨_, hfull⟩ := h
  cases hfull.symm.trans hsucceeds

/-- Whoever has a seat and is among the winners is served. -/
lemma IsServed.of_succeeds (h : race.Succeeds principal) (hmem : principal ∈ winners) :
    race.IsServed winners principal :=
  ⟨fun _ => h, fun hnot => absurd hmem hnot⟩

/-- Whoever found the conference full is served if nobody wins any more. -/
lemma IsServed.of_findsFull (h : race.FindsFull principal) : race.IsServed [] principal :=
  ⟨fun hmem => absurd hmem List.not_mem_nil, fun _ => h⟩

/-- Whoever is served beside some winners is so beside one more who is somebody else. -/
lemma IsServed.cons {winner : Principal} (h : race.IsServed winners principal)
    (hne : principal ≠ winner) : race.IsServed (winner :: winners) principal where
  first hmem := h.first ((List.mem_cons.1 hmem).resolve_left hne)
  others hnot := h.others fun hmem => hnot (List.mem_cons_of_mem winner hmem)

/-- Of those who are served, exactly the winners succeed. -/
lemma IsServed.succeeds_iff (h : race.IsServed winners principal) :
    race.Succeeds principal ↔ principal ∈ winners := by
  refine ⟨fun hsucceeds => ?_, h.first⟩
  by_contra hnot
  exact (h.others hnot).not_succeeds hsucceeds

end IsServed

/--
Some principals are after the seats of a conference: whoever has none yet is a candidate, and who
was refused although they have a turn left found it full.
-/
structure Rush (c : Conference) (principals : List Principal) (race : Race Principal)
    (turns : List Principal) : Prop where
  due : race.IsDue principals turns
  never : race.office.bus.NeverFails
  candidates : ∀ p ∈ principals, ¬ race.Succeeds p → ∃ userId, race.office.IsCandidate c p userId
  seeks : ∀ p ∈ principals, ∀ change, race.standing p = .checked change →
    change = .register p.id c.id
  full : ∀ p ∈ turns, ∀ result, race.standing p = .finished result →
    c.seats ≤ race.office.roll.count c.id

/-- What the turn of a principal does in a rush. -/
inductive Advances (c : Conference) (race : Race Principal) (principal : Principal)
    (turns : List Principal) (next : Race Principal) : Prop where
  | checked :
    principal ∈ turns →
    next.office = race.office →
    next.standing principal = .checked (.register principal.id c.id) →
    Advances c race principal turns next
  | seated {userId now} :
    principal ∉ turns →
    principal.id = some userId →
    next.office.programme = race.office.programme →
    next.office.bus = race.office.bus →
    race.office.roll.count c.id < c.seats →
    race.office.roll.add race.office.programme ⟨c.id, userId, now⟩ = .ok next.office.roll →
    next.Succeeds principal →
    Advances c race principal turns next
  | late :
    c.seats ≤ race.office.roll.count c.id →
    next.office = race.office →
    next.FindsFull principal →
    Advances c race principal turns next
  | passed {result} :
    c.seats ≤ race.office.roll.count c.id →
    next.office = race.office →
    race.standing principal = .finished result →
    next.standing principal = .finished result →
    Advances c race principal turns next

namespace Rush

/-- Each turn before the conference ends does one of these things. -/
lemma advances (rush : Rush c principals race (principal :: turns))
    (hahead : now.before? c.window.endsAt = some true) :
    Advances c race principal turns (race.turn (Call.seat c.id · now) principal) := by
  have hmem := rush.due.member principal List.mem_cons_self
  cases hstanding : race.standing principal with
  -- at the first turn, the candidate is admitted or finds the conference full
  | waiting =>
    have hopen : ¬ race.Succeeds principal := by
      rintro ⟨_, hdone⟩
      cases hstanding.symm.trans hdone
    obtain ⟨userId, hcandidate⟩ := rush.candidates principal hmem hopen
    obtain ⟨hoffice, hturn⟩ := turn_checks (Call.seat c.id · now) rfl hstanding
    obtain hpasses | ⟨hfull, detail, hfails⟩ := hcandidate.check_cases hahead
    · rw [hpasses] at hturn
      exact .checked (rush.due.mem_of_waiting hstanding) hoffice hturn
    · rw [hfails] at hturn
      exact .late hfull hoffice ⟨detail, hturn⟩
  | checked change =>
    have hopen : ¬ race.Succeeds principal := by
      rintro ⟨_, hdone⟩
      cases hstanding.symm.trans hdone
    obtain ⟨userId, hcandidate⟩ := rush.candidates principal hmem hopen
    have hlast := rush.due.notMem_of_checked hstanding
    obtain rfl := rush.seeks principal hmem change hstanding
    obtain ⟨hoffice, hturn⟩ := turn_commits (Call.seat c.id · now) rfl hstanding
    -- between check and write the last seat may have gone to somebody else
    by_cases hleft : race.office.roll.count c.id < c.seats
    · obtain ⟨later, hwritten, hprogramme, hbus, hadd⟩ :=
        hcandidate.commit_of_lt rush.never hleft now
      rw [hwritten] at hoffice hturn
      obtain rfl : (race.turn (Call.seat c.id · now) principal).office = later := hoffice
      exact .seated hlast hcandidate.named hprogramme hbus hleft hadd ⟨.done, hturn⟩
    · have hfull := Nat.not_lt.1 hleft
      rw [hcandidate.commit_of_le hfull now] at hoffice hturn
      exact .late hfull hoffice ⟨none, hturn⟩
  | finished result =>
    have hfull := rush.full principal List.mem_cons_self result hstanding
    rw [turn_of_finished _ hstanding]
    exact .passed hfull rfl hstanding hstanding

/-- A turn in a rush leaves a rush, if no two of the principals are the same user. -/
lemma turn (rush : Rush c principals race (principal :: turns))
    (distinct : ∀ p ∈ principals, ∀ q ∈ principals, p.id = q.id → p = q)
    {calls : Principal → Call}
    (advances : Advances c race principal turns (race.turn calls principal)) :
    Rush c principals (race.turn calls principal) turns where
  due := rush.due.turn calls
  never := by
    cases advances with
    | checked _ hoffice _ => exact hoffice ▸ rush.never
    | seated _ _ _ hbus _ _ _ => exact hbus ▸ rush.never
    | late _ hoffice _ => exact hoffice ▸ rush.never
    | passed _ hoffice _ _ => exact hoffice ▸ rush.never
  candidates := by
    intro p hp hopen
    obtain ⟨userId, hcandidate⟩ := rush.candidates p hp (mt Succeeds.turn hopen)
    refine ⟨userId, ?_⟩
    cases advances with
    | checked _ hoffice _ => exact hoffice ▸ hcandidate
    | seated _ hnamed hprogramme _ _ hadd hdone =>
      refine hcandidate.of_add hprogramme hadd fun hsame => ?_
      have hmem := rush.due.member principal List.mem_cons_self
      -- the new seat is that of the one whose turn it was
      obtain rfl : p = principal := by
        apply distinct p hp principal hmem
        rw [hcandidate.named, hnamed, ← hsame]
      exact hopen hdone
    | late _ hoffice _ => exact hoffice ▸ hcandidate
    | passed _ hoffice _ _ => exact hoffice ▸ hcandidate
  seeks := by
    intro p hp change hchecked
    by_cases hself : p = principal
    · subst hself
      cases advances with
      | checked _ _ hstanding => exact (Standing.checked.inj (hstanding.symm.trans hchecked)).symm
      | seated _ _ _ _ _ _ hdone =>
        obtain ⟨_, hdone⟩ := hdone
        cases hdone.symm.trans hchecked
      | late _ _ hlate =>
        obtain ⟨_, hlate⟩ := hlate
        cases hlate.symm.trans hchecked
      | passed _ _ _ hstays => cases hstays.symm.trans hchecked
    · rw [standing_turn_of_ne calls race hself] at hchecked
      exact rush.seeks p hp change hchecked
  full := by
    intro p hp result hfinished
    -- those whose turn it was not stand where they stood
    have hothers (hne : p ≠ principal) : c.seats ≤ race.office.roll.count c.id := by
      rw [standing_turn_of_ne calls race hne] at hfinished
      exact rush.full p (List.mem_cons_of_mem principal hp) result hfinished
    cases advances with
    | checked _ hoffice hchecked =>
      rw [hoffice]
      apply hothers
      rintro rfl
      cases hchecked.symm.trans hfinished
    | seated hlast _ _ _ hleft _ _ =>
      have hfull := hothers fun hself => hlast (hself ▸ hp)
      exact absurd hleft (Nat.not_lt.2 hfull)
    | late hfull hoffice _ => exact hoffice ▸ hfull
    | passed hfull hoffice _ _ => exact hoffice ▸ hfull

/-- Who has not come to an end yet gets a seat exactly if they are among the first to write. -/
lemma outcome (rush : Rush c principals race (turnsOf schedule))
    (distinct : ∀ p ∈ principals, ∀ q ∈ principals, p.id = q.id → p = q)
    (ahead : ∀ taken ∈ schedule, taken.2.before? c.window.endsAt = some true) {p : Principal}
    (hp : p ∈ principals) (hopen : ∀ result, race.standing p ≠ .finished result) :
    (race.runAt (Call.seat c.id) schedule).IsServed
      ((finishers (turnsOf schedule)).take (c.seats - race.office.roll.count c.id)) p := by
  -- the seats that are free now are shared among the turns that are left
  induction schedule generalizing race with
  | nil =>
    obtain ⟨result, hfinished⟩ := rush.due.finished hp
    exact absurd hfinished (hopen result)
  | cons taken schedule ih =>
    obtain ⟨q, now⟩ := taken
    obtain ⟨hahead, hrest⟩ := List.forall_mem_cons.1 ahead
    have rush : Rush c principals race (q :: turnsOf schedule) := rush
    have hadvances := rush.advances hahead
    have hrush := rush.turn distinct hadvances
    have hothers (hne : p ≠ q) : ∀ result,
        (race.turn (Call.seat c.id · now) q).standing p ≠ .finished result := by
      rw [standing_turn_of_ne _ race hne]
      exact hopen
    show ((race.turn (Call.seat c.id · now) q).runAt (Call.seat c.id) schedule).IsServed
      ((finishers (q :: turnsOf schedule)).take (c.seats - race.office.roll.count c.id)) p
    generalize race.turn (Call.seat c.id · now) q = next at hadvances hrush hothers
    have ih := ih hrush hrest
    cases hadvances with
    | checked hlast hoffice hchecked =>
      -- the call writes in a later turn, which is the one that counts
      rw [finishers_cons_of_mem hlast, ← hoffice]
      apply ih
      by_cases hself : p = q
      · subst hself
        intro result hfinished
        cases hchecked.symm.trans hfinished
      · exact hothers hself
    | @seated userId writtenAt hlast _ _ _ hleft hadd hdone =>
      have hcount : next.office.roll.count c.id = race.office.roll.count c.id + 1 :=
        Roll.count_of_add hadd
      have hfree : c.seats - race.office.roll.count c.id =
          c.seats - next.office.roll.count c.id + 1 := by omega
      rw [finishers_cons_of_notMem hlast, hfree, List.take_succ_cons]
      by_cases hself : p = q
      · subst hself
        exact .of_succeeds (hdone.runAt schedule) List.mem_cons_self
      · exact (ih (hothers hself)).cons hself
    | late hfull hoffice hlate =>
      -- nobody is among the first when no seat is left
      rw [Nat.sub_eq_zero_of_le hfull, List.take_zero]
      by_cases hself : p = q
      · subst hself
        exact .of_findsFull (hlate.runAt schedule)
      · have hserves := ih (hothers hself)
        rwa [hoffice, Nat.sub_eq_zero_of_le hfull, List.take_zero] at hserves
    | passed hfull hoffice hfinished _ =>
      have hself : p ≠ q := by
        rintro rfl
        exact hopen _ hfinished
      have hserves := ih (hothers hself)
      rw [hoffice, Nat.sub_eq_zero_of_le hfull, List.take_zero] at hserves
      rwa [Nat.sub_eq_zero_of_le hfull, List.take_zero]

end Rush

/-- Who was admitted is a candidate, so that a rush begins. -/
lemma Rush.start {office : Office} (nodup : principals.Nodup) (never : office.bus.NeverFails)
    (hlive : office.programme.find? c.id = some c) (named : ∀ p ∈ principals, p.id ≠ none)
    (admits : ∀ p ∈ principals, ∃ now, office.Admits p c.id now)
    (hturns : turns.Perm (principals ++ principals)) :
    Rush c principals (Race.start office) turns where
  due := IsDue.start nodup hturns
  never := never
  candidates := by
    intro p hp _
    obtain ⟨userId, hnamed⟩ := Option.ne_none_iff_exists'.1 (named p hp)
    obtain ⟨now, hadmits⟩ := admits p hp
    exact ⟨userId, .of_admits hlive hnamed hadmits⟩
  seeks := by
    intro _ _ _ hchecked
    cases hchecked
  full := by
    intro _ _ _ hfinished
    cases hfinished

end Race

namespace Office

open Race

/--
In a state that was reached with a clock that always had an offset, some users who are admitted to a
conference ask for seats at the same time, before it ends. In whatever order they are checked and
write, as many of them get a seat as there are free ones, namely the first who write, and all others
are told that the conference is full. Who was told so at the checks does not write.
-/
theorem seats_go_to_first_writers (start : Office) (hempty : start.programme = .empty) (t : Traffic)
    (hrun : Traffic.AwareRun (.quiet start) t) (never : t.office.bus.NeverFails) (c : Conference)
    (hlive : t.office.programme.find? c.id = some c) (principals : List Principal)
    (named : ∀ p ∈ principals, p.id ≠ none) (distinct : (principals.map Principal.id).Nodup)
    (admits : ∀ p ∈ principals, ∃ now, t.office.Admits p c.id now)
    (schedule : List (Principal × Timestamp))
    (hturns : (turnsOf schedule).Perm (principals ++ principals))
    (ahead : ∀ taken ∈ schedule,
      taken.2.isAware = true ∧ taken.2.instant < c.window.endsAt.instant) :
    let final := (Race.start t.office).runAt (Call.seat c.id) schedule
    let free := c.seats - t.office.roll.count c.id
    (principals.filter (final.Succeeds ·)).length = min principals.length free ∧
      (∀ p ∈ principals, final.Succeeds p ↔ p ∈ (finishers (turnsOf schedule)).take free) ∧
      ∀ p ∈ principals, ¬ final.Succeeds p → final.FindsFull p := by
  intro final free
  have hends : c.window.endsAt.isAware = true := by
    have haware := (Traffic.AwareRun.aware hempty hrun).rows c (Programme.mem_of_find? hlive)
    exact (Bool.and_eq_true_iff.1 haware).2
  have hahead : ∀ taken ∈ schedule, taken.2.before? c.window.endsAt = some true := by
    intro taken htaken
    obtain ⟨haware, hbefore⟩ := ahead taken htaken
    rw [Timestamp.before?_of_aware haware hends, decide_eq_true hbefore]
  have nodup : principals.Nodup := .of_map Principal.id distinct
  have hids : ∀ p ∈ principals, ∀ q ∈ principals, p.id = q.id → p = q :=
    fun p hp q hq hsame => List.inj_on_of_nodup_map distinct hp hq hsame
  have rush := Rush.start nodup never hlive named admits hturns
  have hserves : ∀ p ∈ principals, final.IsServed ((finishers (turnsOf schedule)).take free) p := by
    intro p hp
    apply rush.outcome hids hahead hp
    intro _ hfinished
    cases hfinished
  have hiff : ∀ p ∈ principals, final.Succeeds p ↔ p ∈ (finishers (turnsOf schedule)).take free :=
    fun p hp => (hserves p hp).succeeds_iff
  have hfinishers := finishers_perm nodup hturns
  refine ⟨?_, hiff, fun p hp hfails => (hserves p hp).others (mt (hiff p hp).2 hfails)⟩
  -- those who succeed are the first to finish, as many as there are free seats
  have hwinners : (principals.filter (final.Succeeds ·)).Perm
      ((finishers (turnsOf schedule)).take free) := by
    refine (List.perm_ext_iff_of_nodup (nodup.filter _)
      ((nodup_finishers _).sublist (List.take_sublist _ _))).2 fun p => ?_
    rw [List.mem_filter, decide_eq_true_iff]
    constructor
    · rintro ⟨hp, hsucceeds⟩
      exact (hiff p hp).1 hsucceeds
    · intro hmem
      have hp := hfinishers.mem_iff.1 (List.mem_of_mem_take hmem)
      exact ⟨hp, (hiff p hp).2 hmem⟩
  rw [hwinners.length_eq, List.length_take, hfinishers.length_eq, Nat.min_comm]

/-- A user. -/
def racer (userId : String) : Principal :=
  ⟨some userId, some .user⟩

/--
Ben and Dan are checked before Dan takes the last seat. Eve is told at her checks that she is too
late, and Ben when he writes.
-/
def rushHour : List (Principal × Timestamp) :=
  [(racer "ben", .hour 1), (racer "dan", .hour 2), (racer "dan", .hour 3), (racer "eve", .hour 4),
    (racer "ben", .hour 5), (racer "eve", .hour 6)]

/-- Three users ask for the last seat at the talk of the series that is approved. -/
theorem seats_go_to_first_writers_of_rushHour :
    let office := (start .standard (.scripted [])).serveAll series
    let talk := (office.programme.find? (IdSource.numbered 1)).getD default
    let users := [racer "ben", racer "dan", racer "eve"]
    let final := (Race.start office).runAt (Call.seat talk.id) rushHour
    talk.seats - office.roll.count talk.id = 1 ∧
      (finishers (turnsOf rushHour)).take 1 = [racer "dan"] ∧
      (users.filter (final.Succeeds ·)).length = min 3 1 ∧
      (∀ p ∈ users, final.Succeeds p ↔ p ∈ (finishers (turnsOf rushHour)).take 1) ∧
      ∀ p ∈ users, ¬ final.Succeeds p → final.FindsFull p := by
  intro office talk users final
  have hrun := awareRun_serveAll (start .standard (.scripted [])) series (by decide)
  have hlive : office.programme.find? talk.id = some talk := by decide +kernel
  have hfree : talk.seats - office.roll.count talk.id = 1 := by decide +kernel
  have hadmits : ∀ p ∈ users, ∃ now, office.Admits p talk.id now := by
    have admits (userId : String) (hguest : (racer userId).isUser talk.hostId = false)
        (hsees : (racer userId).sees talk = true)
        (hadmission : office.admission (racer userId).id talk (.hour 0) = .ok ()) :
        ∃ now, office.Admits (racer userId) talk.id now :=
      ⟨_, talk, loadVisible_eq_ok_iff.2 ⟨hlive, hsees⟩, hguest, hadmission⟩
    simp only [users, List.forall_mem_cons]
    exact ⟨admits "ben" (by rfl) (by rfl) (by rfl), admits "dan" (by rfl) (by rfl) (by rfl),
      admits "eve" (by rfl) (by rfl) (by rfl), List.forall_mem_nil _⟩
  have h := seats_go_to_first_writers _ rfl _ hrun Bus.chroniclesOnce_standard.never talk hlive
    users (by decide) (by decide) hadmits rushHour (by decide) (by decide +kernel)
  dsimp only [Traffic.quiet] at h
  rw [hfree] at h
  exact ⟨hfree, by decide, h⟩

end Office

end Symposium
