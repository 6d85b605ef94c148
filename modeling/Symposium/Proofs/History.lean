import Symposium.Proofs.Origins

/-!
# The history of a conference

The rules about a row are spread over edits, decisions and withdrawals, each of which puts a whole
row. What one call may make of a row, whichever it is, is the relation `Follows`. Main statement:
after every call each row is followed by one.
-/

namespace Symposium

/-- A window that does not start before now is not over now. -/
lemma Window.before?_endsAt {w : Window} {now : Timestamp} (ordered : w.isOrdered = true)
    (ahead : w.startsAt.before? now = some false) : now.before? w.endsAt = some true := by
  obtain ⟨hends, hlt⟩ := isOrdered_iff.1 ordered
  simp only [Timestamp.before?, Timestamp.comparable, beq_iff_eq] at hends ahead ⊢
  split at ahead
  · next hnow =>
    have hle : now.instant ≤ w.startsAt.instant := by simpa using ahead
    rw [if_pos (hnow.symm.trans hends)]
    simpa using Int.lt_of_le_of_lt hle hlt
  · cases ahead

/-- What a call at some time may make of a row. -/
structure Conference.Follows (now : Timestamp) (before after : Conference) : Prop where
  /-- The id, the host, the seats and the time at which it was made are kept. -/
  origin : after.origin = before.origin
  /-- Nothing happens to a conference that was withdrawn. -/
  withdrawn : before.isLive = false → after = before
  /-- Being withdrawn is final. -/
  deletedAt : before.deletedAt.isSome = true → after.deletedAt = before.deletedAt
  /-- A decision is final, and the window is fixed by it. -/
  decided : before.status ≠ .pending →
    after.status = before.status ∧ after.window = before.window
  /-- A conference that is rejected or over keeps its content; it may still be rejected. -/
  closed : before.status = .rejected ∨ now.before? before.window.endsAt ≠ some true →
    after.talk = before.talk ∧ after.window = before.window ∧
      (after.status = before.status ∨ before.status = .pending ∧ after.status = .rejected)
  /-- The status only changes by a decision, which approves nothing that started before now. -/
  decision : after.status ≠ before.status →
    before.status = .pending ∧
      (after.status = .approved → before.window.startsAt.before? now = some false)

namespace Conference.Follows

variable {now : Timestamp} {c : Conference}

/-- What nobody changes is as it was. -/
lemma refl : c.Follows now c where
  origin := rfl
  withdrawn _ := rfl
  deletedAt _ := rfl
  decided _ := ⟨rfl, rfl⟩
  closed _ := ⟨rfl, rfl, .inl rfl⟩
  decision h := absurd rfl h

/-- An edit that is allowed leaves alone what is rejected or over, and the window of what is decided. -/
lemma of_edit {edit : Edit} (live : c.isLive = true) (h : c.checkEdit edit now = .ok ()) :
    c.Follows now (Programme.stamped (edit.applyTo c) now) := by
  obtain ⟨hopen, hrejected, hmove⟩ := checkEdit_eq_ok_iff.1 h
  exact {
    origin := rfl
    withdrawn := fun hdead => by
      rw [live] at hdead
      cases hdead
    deletedAt := fun _ => rfl
    decided := fun hdecided => by
      -- what is decided about and may still be edited is approved, and then its window stays
      have happroved : c.status = .approved := by
        cases hstatus : c.status with
        | pending => exact absurd hstatus hdecided
        | approved => rfl
        | rejected => exact absurd hstatus hrejected
      have hmoves : edit.movesWindow = false := by
        cases hmoves : edit.movesWindow with
        | false => rfl
        | true => exact absurd happroved (hmove hmoves).1
      exact ⟨rfl, Edit.applyToWindow_of_not_movesWindow hmoves c.window⟩
    closed := fun hclosed => by
      cases hclosed with
      | inl hstatus => exact absurd hstatus hrejected
      | inr hover => exact absurd hopen hover
    decision := fun hstatus => absurd rfl hstatus }

/-- A decision that is allowed is made about what is pending. -/
lemma of_decision {status : Status} (live : c.isLive = true) (ordered : c.window.isOrdered = true)
    (h : c.checkDecision status now = .ok ()) :
    c.Follows now (Programme.stamped { c with status } now) := by
  obtain ⟨hpending, htarget, hahead⟩ := checkDecision_eq_ok_iff.1 h
  exact {
    origin := rfl
    withdrawn := fun hdead => by
      rw [live] at hdead
      cases hdead
    deletedAt := fun _ => rfl
    decided := fun hdecided => absurd hpending hdecided
    closed := fun hclosed => by
      refine ⟨rfl, rfl, .inr ⟨hpending, ?_⟩⟩
      show status = .rejected
      cases hstatus : status with
      | pending => exact absurd hstatus htarget
      | rejected => rfl
      | approved =>
        -- what may still be approved is neither rejected nor over
        have hopen := Window.before?_endsAt ordered (hahead hstatus)
        cases hclosed with
        | inl hrejected =>
          rw [hpending] at hrejected
          cases hrejected
        | inr hover => exact absurd hopen hover
    decision := fun _ => ⟨hpending, hahead⟩ }

/-- A withdrawal changes no content. -/
lemma of_withdrawal (live : c.isLive = true) :
    c.Follows now { c with deletedAt := some now, updatedAt := now } where
  origin := rfl
  withdrawn hdead := by
    rw [live] at hdead
    cases hdead
  deletedAt hdead := by
    have hnone := Option.isNone_iff_eq_none.1 live
    rw [hnone] at hdead
    cases hdead
  decided _ := ⟨rfl, rfl⟩
  closed _ := ⟨rfl, rfl, .inl rfl⟩
  decision h := absurd rfl h

end Conference.Follows

namespace Office

/-- Whatever rewrites a row leaves one that follows it. -/
lemma Rewrites.follows {office : Office} {call : Call} {row rewritten : Conference}
    (h : Rewrites office call row rewritten) (live : row.isLive = true)
    (ordered : row.window.isOrdered = true) : row.Follows call.now rewritten := by
  cases h with
  | edited _ _ hallowed => exact .of_edit live hallowed
  | decided hallowed => exact .of_decision live ordered hallowed
  | withdrawn => exact .of_withdrawal live

/-- What a live row is put for follows it, and the other rows stay. -/
lemma follows_put_of_find {programme : Programme} {row rewritten before : Conference}
    {now : Timestamp} (hfind : programme.find? row.id = some row)
    (hfollows : row.Follows now rewritten) (hbefore : before ∈ programme.rows) :
    ∃ after ∈ (programme.put rewritten).rows, before.Follows now after := by
  have hid := congrArg Conference.Origin.id hfollows.origin
  exact Programme.exists_mem_put_of_find (fun _ => .refl) hfind hid hfollows hbefore

/-- A row under an id that was not made before takes the place of none. -/
lemma follows_put_of_new {office : Office} (orderly : office.Orderly) {row before : Conference}
    {now : Timestamp} (hdraw : office.ids.draw.1 = some row.id)
    (hbefore : before ∈ office.programme.rows) :
    ∃ after ∈ (office.programme.put row).rows, before.Follows now after := by
  have hnew := orderly.neverRepeats.ne_of_draw orderly.made hdraw
  exact Table.exists_mem_put (fun _ => .refl) (fun old hold hid => absurd hid (hnew old hold))
    hbefore

/-- A call leaves every row as it is, or rewrites it to one that follows it. -/
lemma follows_after {office : Office} (orderly : office.Orderly) (sound : office.programme.Sound)
    (call : Call) {before : Conference} (hbefore : before ∈ office.programme.rows) :
    ∃ after ∈ (office.after call).programme.rows, before.Follows call.now after := by
  cases Does.of_after office call with
  | nothing hprogramme _ => exact ⟨before, hprogramme ▸ hbefore, .refl⟩
  | seats hprogramme _ => exact ⟨before, hprogramme ▸ hbefore, .refl⟩
  | proposes hdraw hprogramme _ =>
    rw [hprogramme]
    exact follows_put_of_new orderly hdraw hbefore
  | rewrites hfind hrewrites hprogramme _ =>
    rw [hprogramme]
    obtain ⟨hrow, _, live⟩ := Programme.find?_eq_some_iff_mem.1 hfind
    exact follows_put_of_find hfind (hrewrites.follows live (sound.ordered _ hrow)) hbefore

/--
Whatever was called before in a new office, after a further call each row is followed by one: it
keeps its origin, withdrawals and decisions are final, and what is rejected or over keeps its
content.
-/
theorem history_is_monotone (start : Office) (hnew : start.IsNew) (calls : List Call)
    (call : Call) :
    ∀ before ∈ (start.afterAll calls).programme.rows,
      ∃ after ∈ ((start.afterAll calls).after call).programme.rows,
        before.Follows call.now after := by
  intro before hbefore
  exact follows_after (hnew.orderly_afterAll calls) (hnew.sound_afterAll calls) call hbefore

/-- A conference is proposed and moved, and then approved. -/
theorem history_is_monotone_of_approval :
    let office := (start .standard (.scripted [])).afterAll
      [.propose "alice" (.hours 9 11), .move "alice" (IdSource.numbered 1) (.hours 10 12)]
    ∀ before ∈ office.programme.rows,
      ∃ after ∈ (office.after (.approve (IdSource.numbered 1))).programme.rows,
        before.Follows (.hour 0) after :=
  history_is_monotone _ isNew_start _ (.approve (IdSource.numbered 1))

end Office

end Symposium
