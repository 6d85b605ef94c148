import Mathlib.Data.List.Induction
import Symposium.Proofs.Origins

/-!
# The calendars of users

A user may not hold seats at two conferences that overlap. The roll sees to it when a seat is taken,
but the window of a pending conference can be moved later, and then it is only looked whether it is
free of booked conferences. Main statement: the calendars are kept along a run exactly if no call of
it `Displaces`, that is moves a conference onto another one at which the same user holds a seat.
-/

namespace Symposium

namespace Office

variable {office : Office} {call : Call} {userId : String} {a b c row rewritten : Conference}

/-- The live conferences at which a user holds a seat. -/
def calendarOf (office : Office) (userId : String) : List Conference :=
  office.roll.conferencesOf office.programme userId

/-- No two conferences at which a user holds a seat share an instant. -/
def KeepsCalendars (office : Office) : Prop :=
  ∀ userId, ∀ a ∈ office.calendarOf userId, ∀ b ∈ office.calendarOf userId,
    a.id ≠ b.id → ¬ a.window.Meets b.window

/--
A call is an edit that passes all its checks and by which a conference shares an instant with
another one at which the same user holds a seat.
-/
def Displaces (office : Office) (call : Call) : Prop :=
  ∃ userId, ∃ row ∈ office.calendarOf userId, ∃ other ∈ office.calendarOf userId, ∃ edit,
    row.id ≠ other.id ∧ call.operation = .edit row.id edit ∧
      (∃ change, office.check call.principal call.operation call.now = .ok change) ∧
      (edit.applyToWindow row.window).Meets other.window

/-- A calendar has the live conferences at which the user holds a seat. -/
lemma mem_calendarOf_iff :
    c ∈ office.calendarOf userId ↔
      office.programme.find? c.id = some c ∧ office.roll.has c.id userId = true :=
  Roll.mem_conferencesOf_iff

/-- Nobody holds a seat in a new office. -/
lemma IsNew.keepsCalendars (h : office.IsNew) : office.KeepsCalendars := by
  intro userId a ha
  obtain ⟨r, hr, _⟩ := Roll.has_iff.1 (mem_calendarOf_iff.1 ha).2
  rw [h.roll] at hr
  exact absurd hr List.not_mem_nil

section Put

variable {later : Office} (hprogramme : later.programme = office.programme.put rewritten)
  (hroll : later.roll = office.roll)

include hprogramme hroll

/-- After a row was put, what is in a calendar was there before or is that row. -/
lemma mem_calendarOf_put (hc : c ∈ later.calendarOf userId) :
    c = rewritten ∧ office.roll.has rewritten.id userId = true ∨
      c.id ≠ rewritten.id ∧ c ∈ office.calendarOf userId := by
  obtain ⟨hfind, hhas⟩ := mem_calendarOf_iff.1 hc
  rw [hprogramme, Programme.find?_put_iff] at hfind
  rw [hroll] at hhas
  obtain ⟨rfl, _⟩ | ⟨hid, hold⟩ := hfind
  · exact .inl ⟨rfl, hhas⟩
  · exact .inr ⟨hid, mem_calendarOf_iff.2 ⟨hold, hhas⟩⟩

/-- The calendars are kept if the row that is put meets no other row of the same calendar. -/
lemma keepsCalendars_put (keeps : office.KeepsCalendars)
    (hrow : ∀ userId, office.roll.has rewritten.id userId = true →
      ∀ other ∈ office.calendarOf userId, other.id ≠ rewritten.id →
        ¬ rewritten.window.Meets other.window) : later.KeepsCalendars := by
  intro userId a ha b hb hne
  obtain ⟨rfl, hseat⟩ | ⟨hida, holda⟩ := mem_calendarOf_put hprogramme hroll ha
  · obtain ⟨rfl, _⟩ | ⟨hidb, holdb⟩ := mem_calendarOf_put hprogramme hroll hb
    · exact absurd rfl hne
    · exact hrow userId hseat b holdb hidb
  · obtain ⟨rfl, hseat⟩ | ⟨_, holdb⟩ := mem_calendarOf_put hprogramme hroll hb
    · intro hmeets
      exact hrow userId hseat a holda hida hmeets.symm
    · exact keeps userId a holda b holdb hne

end Put

/-- Nobody holds a seat at a conference whose id was not made yet. -/
lemma Orderly.not_has {id : String} (h : office.Orderly) (hnew : ¬ office.ids.HasMade id) :
    office.roll.has id userId ≠ true := by
  intro hhas
  obtain ⟨r, hr, rfl, _⟩ := Roll.has_iff.1 hhas
  obtain ⟨c, hc, hid⟩ := h.enrolled r hr
  exact hnew (hid ▸ h.made c hc)

/-- A row that is rewritten keeps its id. -/
lemma Rewrites.id_eq (h : Rewrites office call row rewritten) : rewritten.id = row.id := by
  cases h <;> rfl

/-- A rewritten row meets no other row of the same calendar, unless the call displaces. -/
lemma Rewrites.not_meets (h : Rewrites office call row rewritten) (keeps : office.KeepsCalendars)
    (hcall : ¬ office.Displaces call) (hrow : row ∈ office.calendarOf userId)
    (hother : c ∈ office.calendarOf userId) (hne : row.id ≠ c.id) :
    ¬ rewritten.window.Meets c.window := by
  cases h with
  | edited hoperation hcheck _ =>
    intro hmeets
    exact hcall ⟨userId, row, hrow, c, hother, _, hne, hoperation, ⟨_, hcheck⟩, hmeets⟩
  | decided _ => exact keeps userId row hrow c hother hne
  | withdrawn => exact keeps userId row hrow c hother hne

/-- After a seat was taken, a calendar holds what was there before and the seat's conference. -/
lemma mem_calendarOf_add {later : Office} {r : Registration}
    (hprogramme : later.programme = office.programme)
    (hadd : office.roll.add office.programme r = .ok later.roll)
    (hc : c ∈ later.calendarOf userId) :
    c ∈ office.calendarOf userId ∨
      c.id = r.conferenceId ∧ userId = r.userId ∧ office.programme.find? c.id = some c := by
  obtain ⟨hfind, hhas⟩ := mem_calendarOf_iff.1 hc
  rw [hprogramme] at hfind
  obtain ⟨s, hs, hid, huser⟩ := Roll.has_iff.1 hhas
  rw [Roll.rows_of_add hadd] at hs
  cases List.mem_append.1 hs with
  | inl hold => exact .inl (mem_calendarOf_iff.2 ⟨hfind, Roll.has_iff.2 ⟨s, hold, hid, huser⟩⟩)
  | inr hnew =>
    obtain rfl := List.mem_singleton.1 hnew
    exact .inr ⟨hid.symm, huser.symm, hfind⟩

/-- The roll only takes a seat that meets no other conference in the calendar of its user. -/
lemma not_meets_of_add {roll : Roll} {r : Registration} (sound : office.programme.Sound)
    (hadd : office.roll.add office.programme r = .ok roll)
    (hfind : office.programme.find? r.conferenceId = some c)
    (hother : b ∈ office.calendarOf r.userId) : ¬ b.window.Meets c.window := by
  obtain ⟨row, hrow, _, _, hfree, _⟩ := Roll.add_eq_ok_iff.1 hadd
  obtain rfl : c = row := Option.some.inj (hfind.symm.trans hrow)
  have hordered := sound.ordered c (Programme.find?_eq_some_iff_mem.1 hfind).1
  have hlive := (mem_calendarOf_iff.1 hother).1
  have hordered' := sound.ordered b (Programme.find?_eq_some_iff_mem.1 hlive).1
  have hapart := (Window.overlaps?_eq_some_false_iff hordered' hordered).1 (hfree b hother)
  exact hapart.not_meets

/-- A call keeps all calendars free of collisions, unless it displaces a conference. -/
lemma keepsCalendars_after (orderly : office.Orderly) (sound : office.programme.Sound)
    (keeps : office.KeepsCalendars) (hcall : ¬ office.Displaces call) :
    (office.after call).KeepsCalendars := by
  have hdoes := Does.of_after office call
  generalize office.after call = later at hdoes
  cases hdoes with
  | nothing hprogramme hroll =>
    simp only [KeepsCalendars, calendarOf, hprogramme, hroll]
    exact keeps
  | proposes hdraw hprogramme hroll =>
    refine keepsCalendars_put hprogramme hroll keeps ?_
    intro userId hseat
    -- nobody can hold a seat under an id that was not made yet
    exact absurd hseat (orderly.not_has (orderly.neverRepeats.not_hasMade hdraw))
  | @rewrites row rewritten _ hfind hrewrites hprogramme hroll =>
    refine keepsCalendars_put hprogramme hroll keeps ?_
    intro userId hseat other hother hne
    rw [hrewrites.id_eq] at hseat hne
    have hrow := mem_calendarOf_iff.2 ⟨hfind, hseat⟩
    exact hrewrites.not_meets keeps hcall hrow hother hne.symm
  | @seats r _ hprogramme hadd =>
    intro userId a ha b hb hne
    -- of two seats, both are old, one is new, or both are the new one
    obtain holda | ⟨hida, husera, hfinda⟩ := mem_calendarOf_add hprogramme hadd ha
    · obtain holdb | ⟨hidb, rfl, hfindb⟩ := mem_calendarOf_add hprogramme hadd hb
      · exact keeps userId a holda b holdb hne
      · exact not_meets_of_add sound hadd (hidb ▸ hfindb) holda
    · obtain holdb | ⟨hidb, _, _⟩ := mem_calendarOf_add hprogramme hadd hb
      · intro hmeets
        subst husera
        exact not_meets_of_add sound hadd (hida ▸ hfinda) holdb hmeets.symm
      · exact absurd (hida.trans hidb.symm) hne

/-- An edit that passes its checks is one that the conference allows, and the change to its row. -/
lemma check_edit_eq_ok {principal : Principal} {edit : Edit} {now : Timestamp} {change : Change}
    (hfind : office.programme.find? row.id = some row)
    (hcheck : office.check principal (.edit row.id edit) now = .ok change) :
    row.checkEdit edit now = .ok () ∧
      change = .edit (edit.applyTo row) edit.sentNames now := by
  obtain ⟨d, hdraft, hreview⟩ := Failure.bind_eq_ok_iff.1 hcheck
  cases Drafted.of_draft hdraft with
  | edit hfound _ =>
    obtain rfl := Option.some.inj (hfind.symm.trans hfound)
    cases Reviewed.of_review hreview with
    | edit hallowed _ => exact ⟨hallowed, rfl⟩

/-- An edit that passes its checks is written, if the conference is not approved. -/
lemma after_edit {principal : Principal} {edit : Edit} {now : Timestamp} {change : Change}
    (hfind : office.programme.find? row.id = some row) (hstatus : row.status ≠ .approved)
    (hcheck : office.check principal (.edit row.id edit) now = .ok change) :
    (office.after ⟨principal, .edit row.id edit, now⟩).programme =
        office.programme.put (Programme.stamped (edit.applyTo row) now) ∧
      (office.after ⟨principal, .edit row.id edit, now⟩).roll = office.roll := by
  obtain ⟨_, rfl⟩ := check_edit_eq_ok hfind hcheck
  have hundecided : (edit.applyTo row).status ≠ .approved := hstatus
  have hoverlap := Programme.checkOverlap_of_ne_approved hundecided office.programme
  have hupdate : office.programme.update (edit.applyTo row) now =
      .ok (office.programme.put (Programme.stamped (edit.applyTo row) now)) :=
    Programme.update_eq_ok_iff.2 ⟨⟨row, hfind⟩, hoverlap, rfl⟩
  simp only [after, perform_of_check_ok hcheck, commit, commitRow, hupdate]
  exact ⟨rfl, rfl⟩

/-- A call that displaces is carried out, and the calendars are not kept any more. -/
lemma Displaces.not_keepsCalendars_after (h : office.Displaces call)
    (keeps : office.KeepsCalendars) : ¬ (office.after call).KeepsCalendars := by
  obtain ⟨principal, operation, now⟩ := call
  obtain ⟨userId, row, hrow, other, hother, edit, hne, rfl, ⟨change, hcheck⟩, hmeets⟩ := h
  obtain ⟨hfind, hseat⟩ := mem_calendarOf_iff.1 hrow
  obtain ⟨hfindOther, hseatOther⟩ := mem_calendarOf_iff.1 hother
  obtain ⟨hallowed, rfl⟩ := check_edit_eq_ok hfind hcheck
  have live := (Programme.find?_eq_some_iff_mem.1 hfind).2.2
  by_cases hstatus : row.status = .approved
  · -- an approved conference stays where it is, so the two met before
    have hmoves : edit.movesWindow = false := by
      cases hmoves : edit.movesWindow with
      | false => rfl
      | true =>
        have hundecided := (Conference.checkEdit_eq_ok_iff.1 hallowed).2.2 hmoves
        exact absurd hstatus hundecided.1
    rw [Edit.applyToWindow_of_not_movesWindow hmoves] at hmeets
    exact absurd hmeets (keeps userId row hrow other hother hne)
  · intro keepsAfter
    obtain ⟨hprogramme, hroll⟩ := after_edit hfind hstatus hcheck
    generalize office.after _ = later at hprogramme hroll keepsAfter
    have hmoved : Programme.stamped (edit.applyTo row) now ∈ later.calendarOf userId := by
      rw [mem_calendarOf_iff, hprogramme, hroll]
      exact ⟨Programme.find?_put_iff.2 (.inl ⟨rfl, live⟩), hseat⟩
    have hstays : other ∈ later.calendarOf userId := by
      rw [mem_calendarOf_iff, hprogramme, hroll]
      exact ⟨Programme.find?_put_iff.2 (.inr ⟨hne.symm, hfindOther⟩), hseatOther⟩
    exact keepsAfter userId _ hmoved other hstays hne hmeets

/-- A call keeps the calendars exactly if it does not displace. -/
theorem keepsCalendars_after_iff (orderly : office.Orderly) (sound : office.programme.Sound)
    (keeps : office.KeepsCalendars) :
    (office.after call).KeepsCalendars ↔ ¬ office.Displaces call := by
  constructor
  · intro keepsAfter hcall
    exact hcall.not_keepsCalendars_after keeps keepsAfter
  · exact keepsCalendars_after orderly sound keeps

/--
The calendars are kept all along some calls in a new office exactly if none of the calls displaces
in the office that it finds.
-/
theorem calendars_kept_iff (start : Office) (hnew : start.IsNew) (calls : List Call) :
    (∀ past, past <+: calls → (start.afterAll past).KeepsCalendars) ↔
      ∀ past call, past ++ [call] <+: calls → ¬ (start.afterAll past).Displaces call := by
  have hstep (past : List Call) (call : Call) (keeps : (start.afterAll past).KeepsCalendars) :
      (start.afterAll (past ++ [call])).KeepsCalendars ↔
        ¬ (start.afterAll past).Displaces call := by
    rw [afterAll_concat]
    exact keepsCalendars_after_iff (hnew.orderly_afterAll past) (hnew.sound_afterAll past) keeps
  constructor
  · intro keeps past call hprefix
    have hpast := keeps past ((List.prefix_append past [call]).trans hprefix)
    exact (hstep past call hpast).1 (keeps (past ++ [call]) hprefix)
  · intro hcalls past
    induction past using List.reverseRecOn with
    | nil => exact fun _ => hnew.keepsCalendars
    | append_singleton past call ih =>
      intro hprefix
      have hpast := ih ((List.prefix_append past [call]).trans hprefix)
      exact (hstep past call hpast).2 (hcalls past call hprefix)

/-- A user takes two seats, and then one of the hosts moves their conference onto the other. -/
def collision : List Call :=
  [.propose "alice" (.hours 13 15), .propose "bob" (.hours 16 18),
    .register "ann" (IdSource.numbered 1), .register "ann" (IdSource.numbered 2),
    .move "bob" (IdSource.numbered 2) (.hours 14 17)]

/-- What the calendars depend on in a collision. -/
theorem calendars_kept_iff_of_collision :
    (∀ past, past <+: collision →
        ((start .standard (.scripted [])).afterAll past).KeepsCalendars) ↔
      ∀ past call, past ++ [call] <+: collision →
        ¬ ((start .standard (.scripted [])).afterAll past).Displaces call :=
  calendars_kept_iff _ isNew_start collision

/-- A collision does not keep the calendars. -/
theorem calendars_collide :
    (start .standard (.scripted [])).IsNew ∧
      ¬ ((start .standard (.scripted [])).afterAll collision).KeepsCalendars := by
  refine ⟨isNew_start, fun keeps => ?_⟩
  let morning : Conference := ⟨IdSource.numbered 1, default, 2, .hours 13 15, "alice", .pending,
    .hour 0, .hour 0, none⟩
  let afternoon : Conference := ⟨IdSource.numbered 2, default, 2, .hours 14 17, "bob", .pending,
    .hour 0, .hour 0, none⟩
  have hcalendar : ((start .standard (.scripted [])).afterAll collision).calendarOf "ann" =
      [morning, afternoon] := rfl
  have hmorning : morning ∈ [morning, afternoon] := List.mem_cons_self
  have hafternoon : afternoon ∈ [morning, afternoon] := List.mem_cons_of_mem _ List.mem_cons_self
  rw [← hcalendar] at hmorning hafternoon
  refine keeps "ann" morning hmorning afternoon hafternoon (by decide) ?_
  exact ⟨(Timestamp.hour 14).instant, ⟨by decide, by decide⟩, ⟨by decide, by decide⟩⟩

end Office

end Symposium
