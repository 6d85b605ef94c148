import Symposium.Proofs.Bookings

/-!
# Times with an offset

Windows come from proposals and edits, and a window that is new was compared with the time at which
it was reviewed. So if the clock always shows times that have an offset, both ends of every window
have one, and likewise if all proposals and edits bring such times, as those do that are read. Main
statements: this holds after every run, in whatever order the stages are taken.
-/

namespace Symposium

namespace Window

variable {window : Window} {now : Timestamp}

/-- The end of an ordered window has an offset if the start has one. -/
lemma isAware_of_isOrdered (ordered : window.isOrdered = true)
    (aware : window.startsAt.isAware = true) : window.isAware = true := by
  have hends := (isOrdered_iff.1 ordered).1
  rw [Timestamp.comparable, aware, beq_iff_eq] at hends
  rw [isAware, aware, ← hends]
  rfl

/-- A window that is found to lie ahead of a time with an offset has offsets. -/
lemma isAware_of_checkFuture (h : window.checkFuture now = .ok ()) (aware : now.isAware = true) :
    window.isAware = true := by
  obtain ⟨hstarted, ordered⟩ := checkFuture_eq_ok_iff.1 h
  have hstart := (Timestamp.before?_eq_some_iff.1 hstarted).1
  rw [Timestamp.comparable, aware, beq_iff_eq] at hstart
  exact isAware_of_isOrdered ordered hstart

end Window

/-- Among windows with offsets it can be found out which overlap one. -/
lemma Programme.exists_overlapping {window : Window} {rows : List Conference}
    (hwindow : window.isAware = true) (hrows : ∀ c ∈ rows, c.window.isAware = true) :
    ∃ found, overlapping window rows = .ok found :=
  ⟨_, Failure.keep_of_total fun c hc =>
    Window.overlaps_eq_ok_iff.2 (Window.overlaps?_of_aware (hrows c hc) hwindow)⟩

/-- A write brings no other windows than those that are there and the one that is handed over. -/
lemma Programme.Write.window_of_applyTo {write : Write} {programme programme' : Programme}
    (h : write.applyTo programme = .ok programme') :
    ∀ c ∈ programme'.rows, (∃ old ∈ programme.rows, old.window = c.window) ∨
      ∃ row ∈ write.row?, row.window = c.window := by
  have put {row : Conference} (hrow : (∃ old ∈ programme.rows, old.window = row.window) ∨
      ∃ handed ∈ write.row?, handed.window = row.window) :
      ∀ c ∈ (programme.put row).rows, (∃ old ∈ programme.rows, old.window = c.window) ∨
        ∃ handed ∈ write.row?, handed.window = c.window := by
    intro c hc
    obtain rfl | ⟨hold, _⟩ := Table.mem_rows_put.1 hc
    · exact hrow
    · exact .inl ⟨c, hold, rfl⟩
  cases write with
  | add row =>
    obtain ⟨_, rfl⟩ := add_eq_ok_iff.1 h
    exact put (.inr ⟨row, rfl, rfl⟩)
  | update row now =>
    obtain ⟨_, _, rfl⟩ := update_eq_ok_iff.1 h
    exact put (.inr ⟨row, rfl, rfl⟩)
  | withdraw id now =>
    obtain ⟨old, hfind, rfl⟩ := withdraw_eq_ok_iff.1 h
    exact put (.inl ⟨old, mem_of_find? hfind, rfl⟩)

namespace Traffic

/-- Any number of stages, taken at times that have an offset. -/
abbrev AwareRun : Traffic → Traffic → Prop :=
  Relation.ReflTransGen fun t t' => ∃ now, now.isAware = true ∧ StepAt now t t'

/-- Both ends of all windows have an offset. -/
structure Aware (t : Traffic) : Prop where
  rows : ∀ c ∈ t.office.programme.rows, c.window.isAware = true
  drafts : ∀ d ∈ t.drafts, ∀ c ∈ d.row?, c.window.isAware = true
  changes : ∀ change ∈ t.changes, ∀ w ∈ change.window?, w.isAware = true

variable {t t' : Traffic} {now : Timestamp}

/-- One stage brings no window without an offset if no review does. -/
lemma Aware.step_of_review (h : t.Aware) (hstep : StepAt now t t')
    (hreview : ∀ d ∈ t.drafts, ∀ change, t.office.review now d = .ok change →
      ∀ w ∈ change.window?, w.isAware = true) : t'.Aware := by
  obtain ⟨hrows, hdrafts, hchanges⟩ := h
  cases hstep with
  | draft hdraft =>
    refine ⟨hrows, List.forall_mem_cons.2 ⟨?_, hdrafts⟩, hchanges⟩
    intro c hc
    exact hrows c ((Office.Drafted.of_draft hdraft).mem_rows c hc)
  | review hmem hreviewed =>
    refine ⟨hrows, ?_, List.forall_mem_cons.2 ⟨hreview _ hmem _ hreviewed, hchanges⟩⟩
    intro d hd
    exact hdrafts d (List.mem_of_mem_erase hd)
  | @commit office _ _ change hmem =>
    refine ⟨?_, hdrafts, fun c hc => hchanges c (List.mem_of_mem_erase hc)⟩
    obtain hsame | ⟨write, happly, hwindow⟩ :=
      (Office.Commits.of_commit office now change).programme_eq_or
    · exact hsame ▸ hrows
    · intro c hc
      obtain ⟨old, hold, hsame⟩ | ⟨row, hrow, hsame⟩ := write.window_of_applyTo happly c hc
      · exact hsame ▸ hrows old hold
      · exact hsame ▸ hchanges change hmem row.window (hwindow row hrow)

/-- One stage at a time that has an offset brings no window without one. -/
lemma Aware.step (h : t.Aware) (aware : now.isAware = true) (hstep : StepAt now t t') :
    t'.Aware := by
  refine h.step_of_review hstep fun d hd change hreview w hw => ?_
  -- a window that is not the one that was loaded was compared with the clock
  obtain hfuture | ⟨row, hrow, rfl⟩ := (Office.Reviewed.of_review hreview).window_cases w hw
  · exact Window.isAware_of_checkFuture hfuture aware
  · exact h.drafts d hd row hrow

/-- A run in which all times have offsets is a run. -/
lemma AwareRun.run (hrun : AwareRun t t') : Run t t' := by
  refine Relation.ReflTransGen.mono ?_ _ _ hrun
  rintro t t' ⟨_, _, hstep⟩
  exact hstep.step

/-- As long as all times that come in have offsets, all that are stored or wait have. -/
lemma AwareRun.keeps (h : t.Aware) (hrun : AwareRun t t') : t'.Aware := by
  induction hrun with
  | refl => exact h
  | tail _ hstep ih =>
    obtain ⟨now, aware, hstep⟩ := hstep
    exact ih.step aware hstep

/-- Where nothing waits, only the rows matter. -/
lemma aware_quiet {office : Office}
    (h : ∀ c ∈ office.programme.rows, c.window.isAware = true) : (quiet office).Aware where
  rows := h
  drafts := List.forall_mem_nil _
  changes := List.forall_mem_nil _

/-- Every window of a programme has offsets if the clock has always had one. -/
theorem AwareRun.aware {start : Office} (hempty : start.programme = .empty)
    (hrun : AwareRun (.quiet start) t) : t.Aware := by
  refine hrun.keeps (aware_quiet ?_)
  rw [hempty]
  exact List.forall_mem_nil _

end Traffic

/-- The times that an operation brings. -/
def Operation.times : Operation → List Timestamp
  | .propose p => [p.window.startsAt, p.window.endsAt]
  | .edit _ e => e.startsAt.toList ++ e.endsAt.toList
  | _ => []

/-- The times that a draft brings. -/
def Draft.times : Draft → List Timestamp
  | .proposal _ p => [p.window.startsAt, p.window.endsAt]
  | .edit _ e => e.startsAt.toList ++ e.endsAt.toList
  | _ => []

/-- A draft brings the times of its operation. -/
lemma Office.Drafted.times_eq {office : Office} {principal : Principal} {operation : Operation}
    {d : Draft} (h : Drafted office principal operation d) : d.times = operation.times := by
  cases h <;> rfl

/-- A window keeps its offsets if all times that are sent have offsets. -/
lemma Edit.isAware_applyToWindow {edit : Edit} {window : Window} (aware : window.isAware = true)
    (times : ∀ t ∈ edit.startsAt.toList ++ edit.endsAt.toList, t.isAware = true) :
    (edit.applyToWindow window).isAware = true := by
  have kept {sent : Option Timestamp} {t : Timestamp} (hsent : ∀ s ∈ sent, s.isAware = true)
      (ht : t.isAware = true) : (sent.getD t).isAware = true := by
    cases sent with
    | none => exact ht
    | some s => exact hsent s rfl
  obtain ⟨hstarts, hends⟩ := List.forall_mem_append.1 times
  obtain ⟨hstart, hend⟩ := Bool.and_eq_true_iff.1 aware
  refine Bool.and_eq_true_iff.2 ⟨kept (fun s hs => ?_) hstart, kept (fun s hs => ?_) hend⟩
  · exact hstarts s (Option.mem_toList.2 hs)
  · exact hends s (Option.mem_toList.2 hs)

/-- A review brings no window without an offset if neither the draft nor its row does. -/
lemma Office.Reviewed.isAware_window {office : Office} {now : Timestamp} {d : Draft}
    {change : Change} (h : Reviewed office now d change)
    (rows : ∀ c ∈ d.row?, c.window.isAware = true) (times : ∀ t ∈ d.times, t.isAware = true) :
    ∀ w ∈ change.window?, w.isAware = true := by
  intro w hw
  cases h with
  | proposal _ _ _ =>
    cases hw
    obtain ⟨hstart, hends⟩ := List.forall_mem_cons.1 times
    have hend := hends _ List.mem_cons_self
    exact Bool.and_eq_true_iff.2 ⟨hstart, hend⟩
  | edit _ _ =>
    cases hw
    exact Edit.isAware_applyToWindow (rows _ rfl) times
  | @decision _ row _ _ _ =>
    cases hw
    exact rows row rfl
  | _ => cases hw

namespace Traffic

variable {t t' : Traffic}

/-- Any number of stages at any times, of operations that only bring times with an offset. -/
abbrev ReadRun : Traffic → Traffic → Prop :=
  Relation.ReflTransGen fun t t' =>
    (∃ now, StepAt now t t') ∧ ∀ d ∈ t'.drafts, ∀ time ∈ d.times, time.isAware = true

/-- Every window of a programme has offsets if all operations have only brought such times. -/
theorem ReadRun.aware {start : Office} (hempty : start.programme = .empty)
    (hrun : ReadRun (.quiet start) t) : t.Aware := by
  have hstart : ∀ c ∈ start.programme.rows, c.window.isAware = true := by
    rw [hempty]
    exact List.forall_mem_nil _
  suffices h : t.Aware ∧ ∀ d ∈ t.drafts, ∀ time ∈ d.times, time.isAware = true from h.1
  induction hrun with
  | refl => exact ⟨aware_quiet hstart, List.forall_mem_nil _⟩
  | tail _ hstep ih =>
    obtain ⟨haware, htimes⟩ := ih
    obtain ⟨⟨now, hstep⟩, hdrafts⟩ := hstep
    refine ⟨haware.step_of_review hstep fun d hd change hreview => ?_, hdrafts⟩
    exact (Office.Reviewed.of_review hreview).isAware_window (haware.drafts d hd) (htimes d hd)

end Traffic

end Symposium
