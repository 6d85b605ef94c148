import Symposium.Proofs.Disclosures

/-!
# What plain users take seats at

Nobody looks at the status of a conference when a seat is taken. Plain users are admitted to what
they see and do not host, which is approved, and what is approved stays so in its window. Main
statement: whoever takes a seat as a plain user can rely on the conference from then on, unless it
is withdrawn.
-/

namespace Symposium.Office

variable {office : Office} {principal : Principal} {operation : Operation}
  {checkedAt writtenAt : Timestamp} {result : Except Failure Outcome × Office}

/-- A seat that a plain user takes is one at a conference that is live and approved. -/
lemma Performs.approved_of_seat
    (performs : Performs office principal checkedAt writtenAt operation result)
    (admits : office.policy.checksAdmission = true) (plain : principal.role = some .user)
    {r : Registration} (hr : r ∈ result.2.roll.rows) (hnew : r ∉ office.roll.rows) :
    ∃ c, office.programme.find? r.conferenceId = some c ∧ c.status = .approved := by
  obtain hold | ⟨_, c, hfind, hsees, hguest⟩ := performs.of_mem_roll admits hr
  · exact absurd hold hnew
  · have hrestricted := Principal.isRestricted_iff.2 plain
    exact ⟨c, hfind, Principal.approved_of_sees hsees hrestricted hguest⟩

/-- What was decided about a conference stays so during all visits that follow, and so does its
window. -/
lemma decided_stays (orderly : office.Orderly) (sound : office.programme.Sound)
    (visits : List Visit) {c : Conference} (hc : c ∈ office.programme.rows)
    (hdecided : c.status ≠ .pending) :
    ∃ later ∈ (office.serveAll visits).programme.rows,
      later.origin = c.origin ∧ later.status = c.status ∧ later.window = c.window := by
  induction visits generalizing office c with
  | nil => exact ⟨c, hc, rfl, rfl, rfl⟩
  | cons visit visits ih =>
    obtain ⟨next, hnext, horigin, hstatus, hwindow⟩ :=
      (Performs.of_serve office visit).decided_stays orderly sound hc hdecided
    obtain ⟨later, hlater, horigin', hstatus', hwindow'⟩ :=
      ih (serve_of_kept Traffic.kept_orderly orderly visit)
        (serve_of_kept Traffic.kept_sound sound visit) hnext (hstatus ▸ hdecided)
    exact ⟨later, hlater, horigin'.trans horigin, hstatus'.trans hstatus, hwindow'.trans hwindow⟩

/--
From empty stores, each seat that a plain user takes on a visit is one at a conference that is live
and approved then, and after all visits that follow the conference is still approved, in the same
window and with the same seats and host.
-/
theorem admissions_last (start : Office) (hnew : start.IsNew)
    (admits : start.policy.checksAdmission = true) (past : List Visit) (visit : Visit)
    (plain : visit.principal.role = some .user) (more : List Visit) :
    ∀ r ∈ (start.serveAll (past ++ [visit])).roll.rows, r ∉ (start.serveAll past).roll.rows →
      ∃ c ∈ (start.serveAll past).programme.rows,
        c.id = r.conferenceId ∧ c.isLive = true ∧ c.status = .approved ∧
          ∃ later ∈ (start.serveAll (past ++ visit :: more)).programme.rows,
            later.id = c.id ∧ later.status = .approved ∧ later.window = c.window ∧
              later.seats = c.seats ∧ later.hostId = c.hostId := by
  intro r hr hfresh
  have orderly := serveAll_of_kept Traffic.kept_orderly hnew.orderly past
  have sound := serveAll_of_kept Traffic.kept_sound (hnew.sound_afterAll []) past
  have hadmits : (start.serveAll past).policy.checksAdmission = true := by
    rw [policy_serveAll, admits]
  rw [serveAll_concat] at hr
  obtain ⟨c, hfind, happroved⟩ :=
    (Performs.of_serve _ visit).approved_of_seat hadmits plain hr hfresh
  obtain ⟨hc, hid, live⟩ := Programme.find?_eq_some_iff_mem.1 hfind
  have hdecided : c.status ≠ .pending := by
    rw [happroved]
    decide
  obtain ⟨later, hlater, horigin, hstatus, hwindow⟩ :=
    decided_stays orderly sound (visit :: more) hc hdecided
  rw [← serveAll_append] at hlater
  refine ⟨c, hc, hid, live, happroved, later, hlater, ?_⟩
  exact ⟨congrArg Conference.Origin.id horigin, hstatus.trans happroved, hwindow,
    congrArg Conference.Origin.seats horigin, congrArg Conference.Origin.hostId horigin⟩

/-- A talk of Alice's is proposed and approved. -/
def announced : List Visit :=
  [⟨⟨some "alice", some .user⟩, .propose ⟨default, 2, .hours 9 11⟩, .hour 0, .hour 0⟩,
    ⟨⟨some "root", some .admin⟩, .decide (IdSource.numbered 1) .approved, .hour 0, .hour 0⟩]

/-- Ann takes a seat at the talk as a plain user. -/
def annsSeat : Visit :=
  ⟨⟨some "ann", some .user⟩, .register (IdSource.numbered 1), .hour 1, .hour 2⟩

/-- The talk is to be rejected and moved, which fails, is given another title and withdrawn. -/
def unrest : List Visit :=
  let talk := IdSource.numbered 1
  let visit (userId : String) (role : Role) (operation : Operation) : Visit :=
    ⟨⟨some userId, some role⟩, operation, .hour 3, .hour 3⟩
  [visit "root" .admin (.decide talk .rejected),
    visit "alice" .user (.edit talk { (default : Edit) with endsAt := Timestamp.hour 12 }),
    visit "alice" .user (.edit talk { (default : Edit) with title := "Lean" }),
    visit "alice" .user (.withdraw talk)]

/-- Ann's seat, taken at two o'clock. -/
def annsRow : Registration := ⟨IdSource.numbered 1, "ann", .hour 2⟩

/-- Ann's seat is at the talk that was approved and is still, although it was withdrawn. -/
theorem admissions_last_of_unrest :
    annsRow ∈ ((start .standard (.scripted [])).serveAll (announced ++ [annsSeat])).roll.rows ∧
      annsRow ∉ ((start .standard (.scripted [])).serveAll announced).roll.rows ∧
      ((start .standard (.scripted [])).serveAll
        (announced ++ annsSeat :: unrest)).programme.rows.map
          (fun c => (c.talk.title, c.isLive)) = [("Lean", false)] ∧
      ∃ c ∈ ((start .standard (.scripted [])).serveAll announced).programme.rows,
        c.id = annsRow.conferenceId ∧ c.isLive = true ∧ c.status = .approved ∧
          ∃ later ∈ ((start .standard (.scripted [])).serveAll
              (announced ++ annsSeat :: unrest)).programme.rows,
            later.id = c.id ∧ later.status = .approved ∧ later.window = c.window ∧
              later.seats = c.seats ∧ later.hostId = c.hostId := by
  have hseat : annsRow ∈
      ((start .standard (.scripted [])).serveAll (announced ++ [annsSeat])).roll.rows := by
    decide +kernel
  have hfresh : annsRow ∉ ((start .standard (.scripted [])).serveAll announced).roll.rows := by
    decide +kernel
  have hlast := admissions_last (start .standard (.scripted [])) isNew_start rfl announced annsSeat
    rfl unrest annsRow hseat hfresh
  exact ⟨hseat, hfresh, by decide +kernel, hlast⟩

end Symposium.Office
