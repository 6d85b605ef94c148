import Symposium.Proofs.Clashes
import Symposium.Proofs.Explanations
import Symposium.Proofs.Listings
import Symposium.Proofs.Retries

/-!
# What a withdrawal releases

The row of a conference that was withdrawn stays, and so do the seats that were taken there, but all
that is looked at when something is asked for are live conferences, and there is one less of these.
Whatever is looked for among them is found no more often than before, so what was granted is still
granted, and writes the same. Main statement: a withdrawal stands in the way of nothing that is not
about the conference, its window is free if it was booked, and no conflict with it is found again.
-/

namespace Symposium

namespace Page

/-- A bound that leaves nothing of some rows leaves nothing of fewer. -/
lemma upTo_eq_nil_of_length_le {α : Type} {bound : Int} {rows fewer : List α}
    (hlength : fewer.length ≤ rows.length) (h : upTo bound rows = []) : upTo bound fewer = [] := by
  unfold upTo at h ⊢
  split
  · next hbound =>
    rw [if_pos hbound, List.take_eq_nil_iff] at h
    refine List.take_eq_nil_iff.2 (h.imp_right fun hnil => ?_)
    rw [hnil] at hlength
    exact List.eq_nil_of_length_eq_zero (by simpa using hlength)
  · next hbound =>
    rw [if_neg hbound, List.take_eq_nil_iff] at h
    refine List.take_eq_nil_iff.2 (.inl ?_)
    obtain hzero | hnil := h
    · omega
    · rw [hnil] at hlength
      simp only [List.length_nil] at hlength
      omega

end Page

namespace Programme

variable {programme fewer : Programme} {id : String} {row c : Conference} {window : Window}
  {except : Option String} {bound : Int}

/-- The one programme lost the live conference with an id, and holds the same otherwise. -/
structure Loses (id : String) (programme fewer : Programme) : Prop where
  gone : fewer.find? id = none
  elsewhere : ∀ other, other ≠ id → fewer.get? other = programme.get? other
  live : fewer.live.Sublist programme.live
  booked : ∀ except, (fewer.booked except).Sublist (programme.booked except)

/-- A row that is not live any more is lost. -/
lemma loses_of_put (hid : row.id = id) (h : row.isLive = false) :
    Loses id programme (programme.put row) where
  gone := hid ▸ find?_put_of_not_live h
  elsewhere _ hne := Table.get?_put_of_ne (hid ▸ hne.symm) programme
  live := Table.filter_put_sublist h programme
  booked except := by
    refine Table.filter_put_sublist ?_ programme
    rw [Conference.isBooked, h]
    rfl

/-- What the programme says to be in the way was found to overlap. -/
lemma overlapping_of_checkOverlap {found : List Conference}
    (h : programme.checkOverlap row = .error (.violated (.overlap found))) :
    overlapping row.window (programme.booked (some row.id)) = .ok found := by
  unfold checkOverlap at h
  split at h
  · cases hfound : overlapping row.window (programme.booked (some row.id)) with
    | error failure =>
      have hcompared : Failure.Only (· = .incomparable)
          (overlapping row.window (programme.booked (some row.id))) :=
        Failure.Only.keep fun _ => Failure.Only.ofComparison rfl
      obtain rfl := hcompared failure hfound
      rw [hfound] at h
      cases h
    | ok kept =>
      rw [hfound] at h
      cases kept with
      | nil => cases h
      | cons first rest =>
        cases h
        rfl
  · cases h

namespace Loses

variable (h : Loses id programme fewer)

include h

/-- All conferences but the withdrawn one are found as before. -/
lemma find?_eq {other : String} (hne : other ≠ id) : fewer.find? other = programme.find? other := by
  rw [find?, find?, h.elsewhere other hne]

/-- What is still found is not the withdrawn one. -/
lemma ne_of_find? {other : String} (hfind : fewer.find? other = some c) : other ≠ id := by
  rintro rfl
  rw [h.gone] at hfind
  cases hfind

/-- A row that is put into both is found in both, and everything else is as it was. -/
lemma get?_put {other : String} (hother : other ≠ id ∨ other = row.id) :
    Table.get? other (fewer.put row) = Table.get? other (programme.put row) := by
  rw [Table.get?_put, Table.get?_put]
  split
  · rfl
  · next hrow =>
    obtain hne | hsame := hother
    · exact h.elsewhere other hne
    · exact absurd hsame.symm hrow

/-- Nothing more is reported to be in the way. -/
lemma conflicting_eq_nil (hnone : programme.conflicting window except bound = .ok []) :
    fewer.conflicting window except bound = .ok [] := by
  obtain ⟨sorted, hsorted, hnil⟩ := Failure.map_eq_ok_iff.1 hnone
  obtain ⟨found, hfound, rfl⟩ := Failure.map_eq_ok_iff.1 hsorted
  obtain ⟨left, hleft, hsub⟩ := Failure.exists_keep_of_sublist hfound (h.booked except)
  refine Failure.map_eq_ok_iff.2 ⟨_, Failure.map_eq_ok_iff.2 ⟨left, hleft, rfl⟩, ?_⟩
  refine Page.upTo_eq_nil_of_length_le ?_ hnil
  rw [(Page.sortRows_perm startKey false left).length_eq,
    (Page.sortRows_perm startKey false found).length_eq]
  exact hsub.length_le

/-- What was taken is still taken. -/
lemma checkOverlap_eq_ok (hfree : programme.checkOverlap row = .ok ()) :
    fewer.checkOverlap row = .ok () := by
  by_cases happroved : row.status = .approved
  · rw [checkOverlap_eq_ok_iff_booked happroved] at hfree ⊢
    exact fun other hother => hfree other ((h.booked _).subset hother)
  · exact checkOverlap_of_ne_approved happroved fewer

end Loses

end Programme

namespace Roll

variable {roll roll' : Roll} {programme fewer : Programme} {id userId : String} {r : Registration}

/-- A withdrawal takes away from the conferences of a user. -/
lemma conferencesOf_subset (h : programme.Loses id fewer) :
    roll.conferencesOf fewer userId ⊆ roll.conferencesOf programme userId := by
  intro c hc
  obtain ⟨hfind, hseat⟩ := mem_conferencesOf_iff.1 hc
  rw [h.find?_eq (h.ne_of_find? hfind)] at hfind
  exact mem_conferencesOf_iff.2 ⟨hfind, hseat⟩

/-- A registration for another conference is still taken. -/
lemma add_of_loses (h : programme.Loses id fewer) (hother : r.conferenceId ≠ id)
    (hadd : roll.add programme r = .ok roll') : roll.add fewer r = .ok roll' := by
  obtain ⟨c, hfind, hnew, hleft, hfree, hput⟩ := add_eq_ok_iff.1 hadd
  rw [← h.find?_eq hother] at hfind
  refine add_eq_ok_iff.2 ⟨c, hfind, hnew, hleft, fun other hmem => ?_, hput⟩
  exact hfree other (conferencesOf_subset h hmem)

end Roll

/-- The conference whose row an operation writes that is answered so. -/
def Operation.written? (answer : Outcome) : Operation → Option String
  | .propose _ => match answer with
    | .created id => some id
    | _ => none
  | .edit id _ => some id
  | .decide id _ => some id
  | .withdraw id => some id
  | _ => none

namespace Office

variable {office changed : Office} {principal : Principal} {operation : Operation}
  {checkedAt writtenAt now : Timestamp} {event? : Option Event} {answer : Outcome}
  {fewer : Programme} {id hostId userId : String} {row : Conference} {window : Window}
  {except : Option String} {journal : Journal}

/-- A user is admitted before the end, once, if a seat is left and nothing of theirs overlaps. -/
lemma admission_eq_ok_iff :
    office.admission (some userId) row now = .ok () ↔
      now.before? row.window.endsAt = some true ∧ office.roll.has row.id userId = false ∧
        office.roll.count row.id < row.seats ∧
        ∀ other ∈ office.roll.conferencesOf office.programme userId,
          other.window.overlaps? row.window = some false := by
  constructor
  -- the five requirements are passed one after the other
  · intro h
    have hahead := admission_ahead h
    obtain ⟨_, _, h⟩ := Failure.bind_eq_ok_iff.1 h
    obtain ⟨_, _, h⟩ := Failure.bind_eq_ok_iff.1 h
    obtain ⟨_, hfresh, h⟩ := Failure.bind_eq_ok_iff.1 h
    obtain ⟨_, hleft, h⟩ := Failure.bind_eq_ok_iff.1 h
    obtain ⟨conflicts, hconflicts, hnone⟩ := Failure.bind_eq_ok_iff.1 h
    have hfresh := Failure.require_eq_ok_iff.1 hfresh
    rw [Bool.not_eq_true'] at hfresh
    have hleft := of_decide_eq_true (Failure.require_eq_ok_iff.1 hleft)
    have hnone := Failure.require_eq_ok_iff.1 hnone
    exact ⟨hahead, hfresh, hleft, (Roll.conflicting_eq_ok_iff hnone).1 hconflicts⟩
  · rintro ⟨hahead, hfresh, hleft, hfree⟩
    refine Failure.bind_eq_ok_iff.2 ⟨true, Failure.ofComparison_eq_ok_iff.2 hahead, ?_⟩
    refine Failure.bind_eq_ok_iff.2 ⟨(), rfl, Failure.bind_eq_ok_iff.2 ⟨(), ?_, ?_⟩⟩
    · rw [Option.any_some, hfresh]
      rfl
    · refine Failure.bind_eq_ok_iff.2 ⟨(), Failure.require_eq_ok_iff.2 (decide_eq_true hleft), ?_⟩
      exact Failure.bind_eq_ok_iff.2 ⟨[], (Roll.conflicting_eq_ok_iff rfl).2 hfree, rfl⟩

/-- The office with another programme and another journal. -/
def holding (office : Office) (programme : Programme) (journal : Journal) : Office :=
  { office with programme, journal }

section Loses

variable (h : office.programme.Loses id fewer)

include h

/-- A window that was free stays free. -/
lemma checkFree_of_loses (hfree : office.checkFree window except = .ok ()) :
    (office.holding fewer journal).checkFree window except = .ok () := by
  show (if office.policy.checksWindows then _ else _) = _
  unfold checkFree at hfree
  split
  · next hpolicy =>
    rw [if_pos hpolicy] at hfree
    obtain ⟨conflicts, hconflicts, hempty⟩ := Failure.bind_eq_ok_iff.1 hfree
    obtain rfl := List.isEmpty_iff.1 (Failure.require_eq_ok_iff.1 hempty)
    exact Failure.bind_eq_ok_iff.2 ⟨[], h.conflicting_eq_nil hconflicts, rfl⟩
  · rfl

/-- Whoever had no active proposal has none. -/
lemma checkActive_of_loses (hactive : office.checkActive hostId now = .ok ()) :
    (office.holding fewer journal).checkActive hostId now = .ok () := by
  rw [checkActive_eq_ok_iff] at hactive ⊢
  exact fun c hc => hactive c (h.live.subset hc)

/-- Whoever was admitted elsewhere still is. -/
lemma admission_of_loses (henter : office.admission (some userId) row now = .ok ()) :
    (office.holding fewer journal).admission (some userId) row now = .ok () := by
  obtain ⟨hahead, hfresh, hleft, hfree⟩ := admission_eq_ok_iff.1 henter
  refine admission_eq_ok_iff.2 ⟨hahead, hfresh, hleft, fun other hother => ?_⟩
  exact hfree other (Roll.conferencesOf_subset h hother)

/--
What is granted and is not about a conference is still granted without it, with the same answer, and
leaves the same in the stores, but for the row of the conference.
-/
lemma Grants.of_loses
    (granted : Grants office principal checkedAt writtenAt operation changed event? answer)
    (hother : operation.subject? ≠ some id) (journal : Journal) :
    ∃ programme, Grants (office.holding fewer journal) principal checkedAt writtenAt operation
        (changed.holding programme journal) event? answer ∧
      ∀ other, other ≠ id ∨ operation.written? answer = some other →
        programme.get? other = changed.programme.get? other := by
  have hne {subject : String} (hsubject : operation.subject? = some subject) : subject ≠ id := by
    rintro rfl
    exact hother hsubject
  -- a row that is written is written in both, and anything else is the same from before
  have written {row : Conference} (hwrites : operation.written? answer = some row.id) :
      ∀ other, other ≠ id ∨ operation.written? answer = some other →
        Table.get? other (fewer.put row) = Table.get? other (office.programme.put row) :=
    fun _ hsame => h.get?_put <| hsame.imp_right fun hwritten =>
      Option.some.inj (hwritten.symm.trans hwrites)
  have unwritten (hwrites : operation.written? answer = none) :
      ∀ other, other ≠ id ∨ operation.written? answer = some other →
        fewer.get? other = office.programme.get? other := by
    rintro other (hnot | hwritten)
    · exact h.elsewhere other hnot
    · cases hwrites.symm.trans hwritten
  cases granted with
  | proposed hhost hfuture hactive hfree hdraw =>
    exact ⟨_, .proposed hhost hfuture (checkActive_of_loses h hactive)
      (checkFree_of_loses h hfree) hdraw, written rfl⟩
  | edited hfind hhost hallowed hfree hoverlap =>
    rw [← h.find?_eq (hne rfl)] at hfind
    exact ⟨_, .edited hfind hhost hallowed (fun hmoves => checkFree_of_loses h (hfree hmoves))
      (h.checkOverlap_eq_ok hoverlap), written rfl⟩
  | decided hright hfind hallowed hfree hoverlap =>
    rw [← h.find?_eq (hne rfl)] at hfind
    exact ⟨_, .decided hright hfind hallowed
      (fun happroved => checkFree_of_loses h (hfree happroved)) (h.checkOverlap_eq_ok hoverlap),
      written rfl⟩
  | withdrawn hfind hright =>
    rw [← h.find?_eq (hne rfl)] at hfind
    exact ⟨_, .withdrawn hfind hright, written rfl⟩
  | registered hid hfind hadmission hadd =>
    rw [← h.find?_eq (hne rfl)] at hfind
    refine ⟨fewer, .registered hid hfind (fun hpolicy => ?_)
      (Roll.add_of_loses h (hne rfl) hadd), unwritten rfl⟩
    obtain ⟨hsees, hguest, henter⟩ := hadmission hpolicy
    exact ⟨hsees, hguest, admission_of_loses h henter⟩
  | commented hid hseat hfind hsees hguest hended hfresh hdraw =>
    rw [← h.find?_eq (hne rfl)] at hfind
    exact ⟨fewer, .commented hid hseat hfind hsees hguest hended hfresh hdraw, unwritten rfl⟩
  | removed hright hfind => exact ⟨fewer, .removed hright hfind, unwritten rfl⟩

end Loses

/-- A conference that was withdrawn is lost, and nothing else changes. -/
lemma exists_loses {withdrawal : Visit} (hwithdraws : withdrawal.operation = .withdraw id)
    (hok : (office.serve withdrawal).1 = .ok answer) :
    ∃ fewer journal, (office.serve withdrawal).2 = office.holding fewer journal ∧
      office.programme.Loses id fewer := by
  obtain ⟨principal, operation, checkedAt, writtenAt⟩ := withdrawal
  obtain rfl : operation = .withdraw id := hwithdraws
  obtain ⟨changed, event?, granted, hserve⟩ := Grants.of_ok hok
  obtain ⟨journal, hjournal⟩ := exists_journal_of_conclude changed event? answer
  have hlater := (congrArg Prod.snd hserve).trans hjournal
  cases granted with
  | @withdrawn row _ _ =>
    have hloses : office.programme.Loses row.id (office.programme.put
        { row with deletedAt := some writtenAt, updatedAt := writtenAt }) :=
      Programme.loses_of_put rfl rfl
    exact ⟨_, journal, hlater, hloses⟩

/-- What two offices have in common that differ in a conference, which may have been written. -/
structure Agrees (id : String) (written? : Option String) (a b : Office) : Prop where
  roll : b.roll = a.roll
  feedback : b.feedback = a.feedback
  ids : b.ids = a.ids
  programme : ∀ other, other ≠ id ∨ written? = some other →
    b.programme.get? other = a.programme.get? other

/-- Whether no conflict with a conference is found, whoever looks for it. -/
structure NeverReports (office : Office) (id : String) : Prop where
  detector : ∀ window except bound found,
    office.programme.conflicting window except bound = .ok found → ∀ c ∈ found, c.id ≠ id
  constraint : ∀ row found,
    office.programme.checkOverlap row = .error (.violated (.overlap found)) → ∀ c ∈ found, c.id ≠ id
  seats : ∀ userId window found,
    office.roll.conflicting office.programme userId window = .ok found → ∀ c ∈ found, c.id ≠ id

/-- What is not live is never reported as a conflict. -/
lemma neverReports_of_find? (hgone : office.programme.find? id = none) :
    office.NeverReports id := by
  -- whatever is reported was found, and the withdrawn conference is not
  have hlive {c : Conference} (hfind : office.programme.find? c.id = some c) : c.id ≠ id := by
    rintro rfl
    rw [hgone] at hfind
    cases hfind
  have hbooked {c : Conference} {except : Option String}
      (hc : c ∈ office.programme.booked except) : c.id ≠ id := by
    obtain ⟨hmem, htaken, _⟩ := Programme.mem_booked_iff.1 hc
    exact hlive (Programme.find?_eq_some_iff_mem.2 ⟨hmem, rfl, (Bool.and_eq_true_iff.1 htaken).1⟩)
  refine ⟨?_, ?_, ?_⟩
  · intro window except bound found hfound c hc
    obtain ⟨sorted, hsorted, rfl⟩ := Failure.map_eq_ok_iff.1 hfound
    obtain ⟨kept, hkept, rfl⟩ := Failure.map_eq_ok_iff.1 hsorted
    have hmem := (Page.sortRows_perm _ _ kept).mem_iff.1 (Page.mem_of_mem_upTo hc)
    exact hbooked (Failure.of_mem_keep hkept hmem).1
  · intro row found hfound c hc
    exact hbooked (Failure.of_mem_keep (Programme.overlapping_of_checkOverlap hfound) hc).1
  · intro userId window found hfound c hc
    obtain ⟨kept, hkept, rfl⟩ := Failure.map_eq_ok_iff.1 hfound
    have hmem := (Page.sortRows_perm _ _ kept).mem_iff.1 hc
    exact hlive (Roll.mem_conferencesOf_iff.1 (Failure.of_mem_keep hkept hmem).1).1

/-- A window that no booked conference overlaps is free. -/
lemma checkFree_of_apart (h : ∀ other ∈ office.programme.booked except,
    other.window.overlaps? window = some false) : office.checkFree window except = .ok () := by
  unfold checkFree
  split
  · have hnone := Programme.overlapping_eq_nil_iff.2 h
    refine Failure.bind_eq_ok_iff.2 ⟨[], ?_, rfl⟩
    refine Failure.map_eq_ok_iff.2 ⟨[], Failure.map_eq_ok_iff.2 ⟨[], hnone, rfl⟩, ?_⟩
    unfold Page.upTo
    split <;> exact List.take_nil
  · rfl

/-- Without a booked conference, the others are found to be apart from its window. -/
lemma overlaps?_of_loses {c other : Conference} (hsound : office.programme.Sound)
    (h : office.programme.Loses c.id fewer) (hfind : office.programme.find? c.id = some c)
    (happroved : c.status = .approved) (hother : other ∈ fewer.booked except) :
    other.window.overlaps? c.window = some false := by
  obtain ⟨hmem, hlive, _⟩ := Programme.mem_booked_iff.1 hother
  obtain ⟨hc, _, hclive⟩ := Programme.find?_eq_some_iff_mem.1 hfind
  have hstill := (h.booked except).subset hother
  obtain ⟨hmem', hbooked, _⟩ := Programme.mem_booked_iff.1 hstill
  have hne : other.id ≠ c.id := by
    have hfewer := Programme.find?_eq_some_iff_mem.2
      ⟨hmem, rfl, (Bool.and_eq_true_iff.1 hlive).1⟩
    exact h.ne_of_find? hfewer
  have hcbooked : c.isBooked = true := Bool.and_eq_true_iff.2 ⟨hclive, beq_iff_eq.2 happroved⟩
  exact (Window.overlaps?_eq_some_false_iff (hsound.ordered other hmem')
    (hsound.ordered c hc)).2 (hsound.apart other hmem' c hc hbooked hcbooked hne)

/-- A conference that is not live is never live again, unless its id is made again. -/
lemma kept_gone (id : String) :
    Traffic.Kept
      (fun office => office.programme.find? id = none ∧
        ∀ n, office.ids.drawn ≤ n → office.ids.stream n ≠ some id)
      (fun _ _ => True) (fun _ _ => True) where
  draft _ _ := trivial
  review _ _ _ := trivial
  commit := by
    rintro office now change result ⟨hgone, hfresh⟩ - hcommits
    have hlater (n : Nat) (hn : office.ids.draw.2.drawn ≤ n) :
        office.ids.draw.2.stream n ≠ some id :=
      hfresh n (Nat.le_of_succ_le hn)
    have hput {row : Conference} (hne : row.id ≠ id) :
        Programme.find? (office.programme.put row) id = none := by
      rw [Programme.find?, Table.get?_put_of_ne hne]
      exact hgone
    have hfound {row : Conference} {other : String}
        (hfind : office.programme.find? other = some row) : other ≠ id := by
      rintro rfl
      rw [hgone] at hfind
      cases hfind
    -- a new row has an id that comes later in the source, any other row was found before
    cases hcommits with
    | refused hids =>
      obtain rfl | rfl := hids
      · exact ⟨hgone, hfresh⟩
      · exact ⟨hgone, hlater⟩
    | proposed hdraw hadd =>
      obtain ⟨_, rfl⟩ := Programme.add_eq_ok_iff.1 hadd
      refine ⟨hput fun hsame => hfresh _ (Nat.le_refl _) ?_, hlater⟩
      exact hdraw.trans (congrArg some hsame)
    | edited hupdate =>
      obtain ⟨⟨current, hfind⟩, _, rfl⟩ := Programme.update_eq_ok_iff.1 hupdate
      exact ⟨hput (hfound hfind), hfresh⟩
    | decided hupdate =>
      obtain ⟨⟨current, hfind⟩, _, rfl⟩ := Programme.update_eq_ok_iff.1 hupdate
      exact ⟨hput (hfound hfind), hfresh⟩
    | withdrawn hwithdraw =>
      obtain ⟨row, hfind, rfl⟩ := Programme.withdraw_eq_ok_iff.1 hwithdraw
      obtain ⟨_, rfl, _⟩ := Programme.find?_eq_some_iff_mem.1 hfind
      exact ⟨hput (hfound hfind), hfresh⟩
    | registered _ => exact ⟨hgone, hfresh⟩
    | commented _ _ => exact ⟨hgone, hlater⟩
    | removed _ => exact ⟨hgone, hfresh⟩
  draftStays _ _ _ _ := trivial
  changeStays _ _ _ _ := trivial

/--
In every state that is reached, a withdrawal that succeeds stands in the way of nothing else: what
would have been carried out before, and is not about the conference, is carried out after it, with
the same answer, and leaves the same. The window of the conference is free if it was booked. And no
conflict with the conference is found from then on, whatever else waits and comes, as long as its id
is not made again.
-/
theorem withdrawals_release_windows {start : Office} {t : Traffic}
    (hempty : start.programme = .empty) (hrun : Traffic.Run (.quiet start) t)
    (never : t.office.bus.NeverFails) (withdrawal : Visit) (c : Conference) (answer : Outcome)
    (hwithdraws : withdrawal.operation = .withdraw c.id)
    (hfind : t.office.programme.find? c.id = some c)
    (hok : (t.office.serve withdrawal).1 = .ok answer) :
    let later := (t.office.serve withdrawal).2
    (∀ (visit : Visit) (answer : Outcome), visit.operation.subject? ≠ some c.id →
      (t.office.serve visit).1 = .ok answer →
        (later.serve visit).1 = .ok answer ∧
          Agrees c.id (visit.operation.written? answer) (t.office.serve visit).2
            (later.serve visit).2) ∧
    (c.status = .approved →
      (∀ except, later.checkFree c.window except = .ok ()) ∧
        ∀ row, row.window = c.window → later.programme.checkOverlap row = .ok ()) ∧
    later.NeverReports c.id ∧
    ∀ t', Traffic.Run ⟨later, t.drafts, t.changes⟩ t' →
      (∀ n, later.ids.drawn ≤ n → later.ids.stream n ≠ some c.id) →
        t'.office.NeverReports c.id := by
  intro later
  obtain ⟨fewer, journal, hlater, hloses⟩ := exists_loses hwithdraws hok
  obtain hlater : later = t.office.holding fewer journal := hlater
  have hsound := hrun.sound hempty
  have hgone : later.programme.find? c.id = none := by
    rw [hlater]
    exact hloses.gone
  refine ⟨?_, ?_, neverReports_of_find? hgone, ?_⟩
  -- what was granted is granted without the conference, too, and concludes in the same way
  · intro visit answer hother hok
    obtain ⟨changed, event?, granted, hserve⟩ := Grants.of_ok hok
    obtain ⟨programme, granted', hsame⟩ := granted.of_loses hloses hother journal
    have hbus : changed.bus.NeverFails := granted.bus_eq ▸ never
    have hbus' : (changed.holding programme journal).bus.NeverFails := hbus
    obtain ⟨journal₁, hconclude⟩ := conclude_of_neverFails hbus event? answer
    obtain ⟨journal₂, hconclude'⟩ := conclude_of_neverFails hbus' event? answer
    have hbefore : t.office.serve visit = (.ok answer, { changed with journal := journal₁ }) :=
      hserve.trans hconclude
    have hafter : later.serve visit =
        (.ok answer, { changed.holding programme journal with journal := journal₂ }) := by
      rw [hlater]
      exact granted'.commitChecked_eq.trans hconclude'
    rw [hbefore, hafter]
    exact ⟨rfl, rfl, rfl, rfl, hsame⟩
  · intro happroved
    rw [hlater]
    constructor
    · intro except
      exact checkFree_of_apart fun other hother =>
        overlaps?_of_loses hsound hloses hfind happroved hother
    · intro row hwindow
      by_cases hstatus : row.status = .approved
      · rw [Programme.checkOverlap_eq_ok_iff_booked hstatus, hwindow]
        exact fun other hother => overlaps?_of_loses hsound hloses hfind happroved hother
      · exact Programme.checkOverlap_of_ne_approved hstatus _
  -- once its id is gone and not made again, no stage brings the conference back
  · intro t' hlast hfresh
    have hholds := (kept_gone c.id).run_of_holds ⟨⟨hgone, hfresh⟩, fun _ _ => trivial,
      fun _ _ => trivial⟩ hlast
    exact neverReports_of_find? hholds.1.1

/-- A talk that was approved is withdrawn, and another one can be approved as before. -/
theorem withdrawals_release_windows_of_series :
    let office := (start .standard (.scripted [])).serveAll series
    let root : Principal := ⟨some "root", some .admin⟩
    let asked : Proposal := ⟨default, 2, .hours 13 15⟩
    let talk : Conference :=
      { asked.toConference (IdSource.numbered 1) "alice" (.hour 0) with status := .approved }
    let later := (office.serve ⟨root, .withdraw (IdSource.numbered 1), .hour 1, .hour 1⟩).2
    office.programme.find? (IdSource.numbered 1) = some talk ∧
      (∃ answer, (later.serve
        ⟨root, .decide (IdSource.numbered 2) .approved, .hour 1, .hour 1⟩).1 = .ok answer) ∧
      later.checkFree talk.window none = .ok () ∧ later.NeverReports (IdSource.numbered 1) := by
  intro office root asked talk later
  have hfind : office.programme.find? (IdSource.numbered 1) = some talk := by decide +kernel
  have hok : (office.serve ⟨root, .withdraw talk.id, .hour 1, .hour 1⟩).1 = .ok .done := rfl
  have hrun : Traffic.Run (.quiet (start .standard (.scripted []))) (.quiet office) :=
    run_serveAll _ series
  obtain ⟨hothers, hfree, hreports, _⟩ := withdrawals_release_windows rfl hrun
    Bus.chroniclesOnce_standard.never ⟨root, .withdraw talk.id, .hour 1, .hour 1⟩ talk .done rfl
    hfind hok
  have happroved := hothers ⟨root, .decide (IdSource.numbered 2) .approved, .hour 1, .hour 1⟩ _
    (by decide) rfl
  exact ⟨hfind, ⟨_, happroved.1⟩, (hfree rfl).1 none, hreports⟩

end Office

end Symposium
