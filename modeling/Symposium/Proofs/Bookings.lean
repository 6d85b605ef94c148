import Symposium.Proofs.Calls

/-!
# Nothing is booked twice

The programme looks at the row that is written alone, and only if it is approved. The invariant that
carries this over to all rows is `Sound`: every window ends after it starts, and booked windows are
apart. Main statement: whatever is written, and whichever operations overtake each other, no two
booked conferences share an instant.
-/

namespace Symposium

namespace Programme

/-- Every window ends after it starts, and the windows of booked conferences are apart. -/
structure Sound (programme : Programme) : Prop where
  ordered : ∀ c ∈ programme.rows, c.window.isOrdered = true
  apart : ∀ a ∈ programme.rows, ∀ b ∈ programme.rows,
    a.isBooked = true → b.isBooked = true → a.id ≠ b.id → a.window.Apart b.window

/-- Without rows there is nothing to keep apart. -/
lemma sound_empty : Sound .empty where
  ordered _ hc := absurd hc List.not_mem_nil
  apart _ ha := absurd ha List.not_mem_nil

namespace Sound

variable {programme programme' : Programme} {c : Conference} {now : Timestamp}

/-- A row may be put if its window is ordered and, should it be booked, apart from the others. -/
lemma put (h : programme.Sound) (ordered : c.window.isOrdered = true)
    (apart : c.isBooked = true → ∀ other ∈ programme.rows, other.isBooked = true →
      other.id ≠ c.id → other.window.Apart c.window) : Sound (Table.put c programme) where
  ordered := by
    intro other hother
    cases Table.mem_rows_put.1 hother with
    | inl heq => exact heq ▸ ordered
    | inr hold => exact h.ordered other hold.1
  apart := by
    intro a ha b hb booked booked' hne
    obtain rfl | ⟨olda, hac⟩ := Table.mem_rows_put.1 ha
    · obtain rfl | ⟨oldb, hba⟩ := Table.mem_rows_put.1 hb
      · exact absurd rfl hne
      · exact (apart booked b oldb booked' hba).symm
    · obtain rfl | ⟨oldb, _⟩ := Table.mem_rows_put.1 hb
      · exact apart booked' a olda booked hac
      · exact h.apart a olda b oldb booked booked' hne

/-- A row with an ordered window that passes the check is apart from all booked ones. -/
lemma apart_of_checkOverlap (h : programme.Sound) (ordered : c.window.isOrdered = true)
    (hcheck : programme.checkOverlap c = .ok ()) (booked : c.isBooked = true) :
    ∀ other ∈ programme.rows, other.isBooked = true → other.id ≠ c.id →
      other.window.Apart c.window := by
  intro other hother hbooked hne
  simp only [Conference.isBooked, Bool.and_eq_true, beq_iff_eq] at booked
  have hfree := checkOverlap_eq_ok_iff.1 hcheck booked.2 other hother hbooked hne
  exact (Window.overlaps?_eq_some_false_iff (h.ordered other hother) ordered).1 hfree

/-- A row that is added was checked, or need not be. -/
lemma add (h : programme.Sound) (ordered : c.window.isOrdered = true)
    (hadd : programme.add c = .ok programme') : programme'.Sound := by
  obtain ⟨hcheck, rfl⟩ := add_eq_ok_iff.1 hadd
  exact h.put ordered (h.apart_of_checkOverlap ordered hcheck)

/-- A row that is updated was checked, or need not be. -/
lemma update (h : programme.Sound) (ordered : c.window.isOrdered = true)
    (hupdate : programme.update c now = .ok programme') : programme'.Sound := by
  obtain ⟨_, hcheck, rfl⟩ := update_eq_ok_iff.1 hupdate
  exact h.put ordered (h.apart_of_checkOverlap ordered hcheck)

/-- A row that is withdrawn is no longer booked. -/
lemma withdraw {id : String} (h : programme.Sound)
    (hwithdraw : programme.withdraw id now = .ok programme') : programme'.Sound := by
  obtain ⟨c, hfind, rfl⟩ := withdraw_eq_ok_iff.1 hwithdraw
  have hrow := (find?_eq_some_iff_mem.1 hfind).1
  refine h.put (h.ordered c hrow) fun booked => ?_
  cases booked

end Sound

/-- What the programme can be asked to write. -/
inductive Write where
  | add (c : Conference)
  | update (c : Conference) (now : Timestamp)
  | withdraw (id : String) (now : Timestamp)
  deriving DecidableEq

namespace Write

/-- The row that is handed over. -/
def row? : Write → Option Conference
  | add c => some c
  | update c _ => some c
  | withdraw _ _ => none

/-- The programme that the write makes of one. -/
def applyTo (programme : Programme) : Write → Except Failure Programme
  | add c => programme.add c
  | update c now => programme.update c now
  | withdraw id now => programme.withdraw id now

end Write

/-- The programme after a write; one that fails leaves it as it is. -/
def after (programme : Programme) (write : Write) : Programme :=
  match write.applyTo programme with
  | .ok programme => programme
  | .error _ => programme

/-- The programme after some writes, one after the other. -/
def afterAll (programme : Programme) (writes : List Write) : Programme :=
  writes.foldl after programme

/-- A write that hands over no unordered window keeps the programme sound. -/
lemma Sound.after {programme : Programme} {write : Write} (h : programme.Sound)
    (ordered : ∀ c ∈ write.row?, c.window.isOrdered = true) :
    (programme.after write).Sound := by
  unfold Programme.after
  split
  · next programme' happly =>
    cases write with
    | add c => exact h.add (ordered c rfl) happly
    | update c now => exact h.update (ordered c rfl) happly
    | withdraw id now => exact h.withdraw happly
  · exact h

/-- Writes keep the programme sound, one after the other. -/
lemma Sound.afterAll {programme : Programme} {writes : List Write} (h : programme.Sound)
    (ordered : ∀ write ∈ writes, ∀ c ∈ write.row?, c.window.isOrdered = true) :
    (programme.afterAll writes).Sound := by
  induction writes generalizing programme with
  | nil => exact h
  | cons write writes ih =>
    obtain ⟨hfirst, hrest⟩ := List.forall_mem_cons.1 ordered
    exact ih (h.after hfirst) hrest

end Programme

/-- The window that a change brings to the programme. -/
def Change.window? : Change → Option Window
  | .propose _ proposal _ => some proposal.window
  | .edit row _ _ => some row.window
  | .decide _ _ row _ => some row.window
  | _ => none

/-- A commit asks the programme for at most one write, of the window that the change brings. -/
lemma Office.Commits.programme_eq_or {office : Office} {now : Timestamp} {change : Change}
    {result : Except Failure Outcome × Office} (h : Commits office now change result) :
    result.2.programme = office.programme ∨
      ∃ write : Programme.Write, write.applyTo office.programme = .ok result.2.programme ∧
        ∀ c ∈ write.row?, c.window ∈ change.window? := by
  cases h with
  | refused _ => exact .inl rfl
  | proposed _ hadd =>
    refine .inr ⟨.add _, hadd, ?_⟩
    rintro c ⟨⟩
    rfl
  | edited hupdate =>
    refine .inr ⟨.update _ _, hupdate, ?_⟩
    rintro c ⟨⟩
    rfl
  | decided hupdate =>
    refine .inr ⟨.update _ _, hupdate, ?_⟩
    rintro c ⟨⟩
    rfl
  | withdrawn hwithdraw =>
    refine .inr ⟨.withdraw _ _, hwithdraw, ?_⟩
    rintro c ⟨⟩
  | registered _ => exact .inl rfl
  | commented _ _ => exact .inl rfl
  | removed _ => exact .inl rfl

/-- A window that a change brings was found to lie ahead, or it is the one that was loaded. -/
lemma Office.Reviewed.window_cases {office : Office} {now : Timestamp} {d : Draft}
    {change : Change} (h : Reviewed office now d change) :
    ∀ w ∈ change.window?, w.checkFuture now = .ok () ∨ ∃ c ∈ d.row?, c.window = w := by
  intro w hw
  cases h with
  | proposal hfuture _ _ =>
    cases hw
    exact .inl hfuture
  | @edit row edit hallowed _ =>
    -- a window that moves was checked, any other stays
    cases hw
    cases hmoves : edit.movesWindow with
    | true => exact .inl ((Conference.checkEdit_eq_ok_iff.1 hallowed).2.2 hmoves).2
    | false =>
      refine .inr ⟨row, rfl, ?_⟩
      exact (Edit.applyToWindow_of_not_movesWindow hmoves row.window).symm
  | @decision _ row _ _ _ =>
    cases hw
    exact .inr ⟨row, rfl, rfl⟩
  | _ => cases hw

/-- The stages keep the programme sound, as every window that waits is ordered. -/
theorem Traffic.kept_sound :
    Traffic.Kept (fun office => office.programme.Sound)
      (fun _ d => ∀ c ∈ d.row?, c.window.isOrdered = true)
      (fun _ change => ∀ w ∈ change.window?, w.isOrdered = true) where
  draft := by
    intro office principal operation d hsound hdrafted c hc
    exact hsound.ordered c (hdrafted.mem_rows c hc)
  review := by
    intro office now d change _ hrows hreviewed w hw
    obtain hfuture | ⟨row, hrow, hsame⟩ := hreviewed.window_cases w hw
    · exact (Window.checkFuture_eq_ok_iff.1 hfuture).2
    · exact hsame ▸ hrows row hrow
  commit := by
    intro office now change result hsound ordered hcommits
    obtain hsame | ⟨write, happly, hwindow⟩ := hcommits.programme_eq_or
    · exact hsame ▸ hsound
    · have hafter : office.programme.after write = result.2.programme := by
        simp only [Programme.after, happly]
      rw [← hafter]
      exact hsound.after fun c hc => ordered c.window (hwindow c hc)
  draftStays := fun _ _ _ h => h
  changeStays := fun _ _ _ h => h

/-- From an empty programme, every run leaves a sound one. -/
lemma Traffic.Run.sound {start : Office} {t : Traffic} (hempty : start.programme = .empty)
    (hrun : Traffic.Run (.quiet start) t) : t.office.programme.Sound := by
  have hstart : start.programme.Sound := by
    rw [hempty]
    exact Programme.sound_empty
  exact (Traffic.kept_sound.run hstart hrun).1

/-- A conference that is approved for some hours. -/
def Conference.approvedFor (id : String) (window : Window) : Conference :=
  ⟨id, default, 2, window, "host", .approved, .hour 0, .hour 0, none⟩

/-- Writes that contend for a window: the second fails, the third takes what follows the first. -/
def Programme.contention : List Programme.Write :=
  [.add (.approvedFor "a" (.hours 9 11)), .add (.approvedFor "b" (.hours 10 12)),
    .add (.approvedFor "c" (.hours 11 12)), .withdraw "a" (.hour 1),
    .add (.approvedFor "a" (.hours 9 11))]

end Symposium
