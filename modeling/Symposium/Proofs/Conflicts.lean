import Symposium.Proofs.Bookings
import Symposium.Proofs.Pages
import Symposium.Proofs.Rewrites

/-!
# What is in the way of a window

Before a row is written, it is looked whether its window is free, and a part of what is in the way
is reported, the earliest first. The programme looks at the row that is written, reports all that is
in the way, and leaves out the row under the same id. Both look at the same conferences, and a
report that may name one of them is empty only if there are none. Main statement: the report is the
beginning of what is `inTheWay`, a window is refused exactly if the programme refuses the row, and
so the row of an operation that passed its checks is taken.
-/

namespace Symposium

/-- Ordered windows that can be compared are found to overlap exactly if they share an instant. -/
lemma Window.exists_overlaps? {a b : Window} (oa : a.isOrdered = true) (ob : b.isOrdered = true)
    (hcomparable : a.startsAt.comparable b.startsAt = true) :
    ∃ found, a.overlaps? b = some found ∧ (found = true ↔ a.Meets b) := by
  have ha := (isOrdered_iff.1 oa).2
  have hb := (isOrdered_iff.1 ob).2
  by_cases hapart : a.Apart b
  · refine ⟨false, (overlaps?_eq_some_false_iff oa ob).2 hapart, ?_⟩
    exact ⟨nofun, fun hmeets => absurd hmeets hapart.not_meets⟩
  · -- neither ends before the other starts, so the later start lies in both
    obtain ⟨hab, hba⟩ : a.startsAt.instant < b.endsAt.instant ∧
        b.startsAt.instant < a.endsAt.instant := by
      have hnot : ¬ (b.endsAt.instant ≤ a.startsAt.instant ∨
          a.endsAt.instant ≤ b.startsAt.instant) := fun h => hapart ⟨hcomparable, h⟩
      omega
    have ca := (isOrdered_iff.1 oa).1
    have cb := (isOrdered_iff.1 ob).1
    simp only [Timestamp.comparable, beq_iff_eq] at ca cb hcomparable
    refine ⟨true, ?_, fun _ => ?_, fun _ => rfl⟩
    · simp [overlaps?, Timestamp.before?, Timestamp.comparable, ← ca, ← cb, hcomparable, hab, hba]
    · exact ⟨max a.startsAt.instant b.startsAt.instant, ⟨by omega, by omega⟩, by omega, by omega⟩

namespace Page

/-- A report that may name something is empty only if there is nothing to name. -/
lemma upTo_eq_nil_iff {α : Type} {bound : Int} {rows : List α} (hbound : 1 ≤ bound) :
    upTo bound rows = [] ↔ rows = [] := by
  have hpos : bound.toNat ≠ 0 := by omega
  rw [upTo_of_nonneg (by omega), List.take_eq_nil_iff]
  exact ⟨fun h => h.resolve_left hpos, .inr⟩

end Page

namespace Programme

variable {programme : Programme} {window : Window} {except : Option String} {c : Conference}
  {conferences : List Conference} {limit : Int}

/-- Every window ends after it starts and can be put in order with a given one. -/
structure Compares (programme : Programme) (window : Window) : Prop where
  ordered : window.isOrdered = true
  rows : ∀ c ∈ programme.rows,
    c.window.isOrdered = true ∧ c.window.startsAt.comparable window.startsAt = true

/-- The conferences among some that overlap a window, the earliest first. -/
def inTheWay (window : Window) (conferences : List Conference) : List Conference :=
  Page.sortRows startKey false
    (conferences.filter fun c => c.window.overlaps? window == some true)

/-- What is in the way overlaps the window, whatever the order. -/
lemma mem_inTheWay_iff :
    c ∈ inTheWay window conferences ↔
      c ∈ conferences ∧ c.window.overlaps? window = some true := by
  rw [inTheWay, (Page.sortRows_perm ..).mem_iff, List.mem_filter, beq_iff_eq]

/-- Conferences with different ids can be put in order in one way only. -/
lemma ordered_inTheWay (window : Window) (hids : (conferences.map Conference.id).Nodup) :
    Page.Ordered startKey false (inTheWay window conferences) := by
  refine Page.ordered_sortRows ?_
  have hsub : (conferences.filter fun c => c.window.overlaps? window == some true).Sublist
      conferences := List.filter_sublist
  have hdistinct := List.pairwise_map.1 ((hsub.map Conference.id).nodup hids)
  refine List.pairwise_map.2 (hdistinct.imp fun hne heq => hne ?_)
  exact congrArg Page.SortKey.id heq

/-- What overlaps a window is found if every conference can be compared with it. -/
lemma overlappingInOrder_eq
    (h : ∀ c ∈ conferences, ∃ found, c.window.overlaps? window = some found) :
    overlappingInOrder window conferences = .ok (inTheWay window conferences) := by
  have hfound : overlapping window conferences =
      .ok (conferences.filter fun c => c.window.overlaps? window == some true) := by
    refine Failure.keep_of_total fun c hc => ?_
    obtain ⟨found, hfound⟩ := h c hc
    rw [Window.overlaps_eq_ok_iff, hfound]
    cases found <;> rfl
  rw [overlappingInOrder, hfound]
  rfl

section Compares

variable (h : programme.Compares window)

include h

/-- Where windows can be compared, overlapping is sharing an instant. -/
lemma Compares.exists_overlaps? (hc : c ∈ programme.rows) :
    ∃ found, c.window.overlaps? window = some found ∧ (found = true ↔ c.window.Meets window) :=
  Window.exists_overlaps? (h.rows c hc).1 h.ordered (h.rows c hc).2

/-- Where windows can be compared, the report is that of what is in the way. -/
lemma Compares.overlappingInOrder_booked (except : Option String) :
    overlappingInOrder window (programme.booked except) =
      .ok (inTheWay window (programme.booked except)) := by
  refine overlappingInOrder_eq fun c hc => ?_
  obtain ⟨found, hfound, _⟩ := h.exists_overlaps? (mem_booked_iff.1 hc).1
  exact ⟨found, hfound⟩

/-- A report is the beginning of what is in the way. -/
lemma Compares.conflicting_eq (except : Option String) (hlimit : 1 ≤ limit) :
    programme.conflicting window except limit =
      .ok ((inTheWay window (programme.booked except)).take limit.toNat) := by
  rw [conflicting, h.overlappingInOrder_booked, ← Page.upTo_of_nonneg (by omega)]
  rfl

/-- In the way of a window are the booked conferences that share an instant with it. -/
lemma Compares.mem_inTheWay_booked_iff :
    c ∈ inTheWay window (programme.booked except) ↔
      c ∈ programme.rows ∧ c.isBooked = true ∧ except ≠ some c.id ∧ c.window.Meets window := by
  rw [mem_inTheWay_iff, mem_booked_iff, and_assoc, and_assoc]
  refine and_congr_right fun hc => and_congr_right fun _ => and_congr_right fun _ => ?_
  obtain ⟨found, hfound, hmeets⟩ := h.exists_overlaps? hc
  rw [hfound, Option.some.injEq, hmeets]

end Compares

/-- No two booked conferences have one id. -/
lemma nodup_ids_booked (programme : Programme) (except : Option String) :
    ((programme.booked except).map Conference.id).Nodup := by
  have hids : (programme.rows.map Conference.id).Nodup := programme.distinct
  have hsub : (programme.booked except).Sublist programme.rows := List.filter_sublist
  exact (hsub.map Conference.id).nodup hids

/-- A bounded report is empty exactly if no booked conference overlaps the window. -/
lemma conflicting_eq_nil_iff (hlimit : 1 ≤ limit) :
    programme.conflicting window except limit = .ok [] ↔
      ∀ other ∈ programme.booked except, other.window.overlaps? window = some false := by
  rw [← overlapping_eq_nil_iff, conflicting, overlappingInOrder, Failure.map_eq_ok_iff]
  constructor
  · rintro ⟨sorted, hsorted, hnil⟩
    obtain ⟨found, hfound, rfl⟩ := Failure.map_eq_ok_iff.1 hsorted
    have hperm := Page.sortRows_perm startKey false found
    rw [(Page.upTo_eq_nil_iff hlimit).1 hnil] at hperm
    rw [hperm.nil_eq]
    exact hfound
  · intro hfound
    rw [hfound]
    exact ⟨[], rfl, (Page.upTo_eq_nil_iff hlimit).2 rfl⟩

/-- The check of a row leaves out the rows under its id; for a new id these are none. -/
lemma booked_of_new (h : programme.get? c.id = none) :
    programme.booked (some c.id) = programme.booked none := by
  refine List.filter_congr fun other hother => ?_
  have hne : other.id ≠ c.id := by
    intro hid
    rw [← hid, Table.mem_rows_iff.1 hother] at h
    cases h
  have hneither : (some c.id != some other.id) = true := by
    rw [bne_iff_ne]
    exact fun heq => hne (Option.some.inj heq).symm
  rw [hneither]
  rfl

/-- The id that is left out is that of the row, or the row is new. -/
def Replaces (programme : Programme) (c : Conference) (except : Option String) : Prop :=
  except = some c.id ∨ except = none ∧ programme.get? c.id = none

/-- The row that a new one replaces is the only one that is left out. -/
lemma Replaces.booked_eq (h : programme.Replaces c except) :
    programme.booked except = programme.booked (some c.id) := by
  obtain rfl | ⟨rfl, hnew⟩ := h
  · rfl
  · exact (booked_of_new hnew).symm

/-- An approved row may be written if no booked one overlaps it. -/
lemma checkOverlap_eq_ok_iff_booked (happroved : c.status = .approved) :
    programme.checkOverlap c = .ok () ↔
      ∀ other ∈ programme.booked (some c.id), other.window.overlaps? c.window = some false := by
  rw [checkOverlap_eq_ok_iff]
  constructor
  · intro hfree other hother
    obtain ⟨hrow, hbooked, hne⟩ := mem_booked_iff.1 hother
    exact hfree happroved other hrow hbooked fun hid => hne (congrArg some hid.symm)
  · intro hfree _ other hrow hbooked hne
    refine hfree other (mem_booked_iff.2 ⟨hrow, hbooked, fun heq => hne ?_⟩)
    exact (Option.some.inj heq).symm

/-- An approved row passes the check, or it is refused with what it overlaps. -/
lemma Compares.checkOverlap_cases (h : programme.Compares c.window)
    (happroved : c.status = .approved) :
    programme.checkOverlap c = .ok () ∨
      ∃ conflicts, programme.checkOverlap c = .error (.violated (.overlap conflicts)) := by
  obtain ⟨found, hfound, _⟩ :=
    Failure.map_eq_ok_iff.1 (h.overlappingInOrder_booked (some c.id))
  rw [checkOverlap, if_pos happroved, hfound]
  cases found with
  | nil => exact .inl rfl
  | cons other found => exact .inr ⟨other :: found, rfl⟩

end Programme

namespace Office

variable {office : Office} {window : Window} {except : Option String} {row : Conference}
  {now : Timestamp} {change : Change}

/-- Whether windows are looked at before a row is written, and conflicts are reported at all. -/
structure Detects (office : Office) : Prop where
  checks : office.policy.checksWindows = true
  reports : 1 ≤ office.policy.reportLimit

/--
A window is found free if no booked conference overlaps it, as the report is never cut to nothing.
-/
lemma Detects.checkFree_eq_ok_iff (h : office.Detects) :
    office.checkFree window except = .ok () ↔
      ∀ other ∈ office.programme.booked except, other.window.overlaps? window = some false := by
  rw [← Programme.conflicting_eq_nil_iff h.reports, checkFree, if_pos h.checks,
    Failure.bind_eq_ok_iff]
  constructor
  · rintro ⟨conflicts, hconflicts, hempty⟩
    obtain rfl := List.isEmpty_iff.1 (Failure.require_eq_ok_iff.1 hempty)
    exact hconflicts
  · intro hconflicts
    exact ⟨[], hconflicts, rfl⟩

/-- The detector and the programme agree on every approved row. -/
lemma Detects.checkFree_eq_ok_iff_checkOverlap (h : office.Detects)
    (happroved : row.status = .approved) (hexcept : office.programme.Replaces row except) :
    office.checkFree row.window except = .ok () ↔ office.programme.checkOverlap row = .ok () := by
  rw [h.checkFree_eq_ok_iff, hexcept.booked_eq,
    Programme.checkOverlap_eq_ok_iff_booked happroved]

/-- An approved row that is edited stays apart from the others, as its window does not move. -/
lemma checkOverlap_of_edit {edit : Edit} (hsound : office.programme.Sound)
    (hfind : office.programme.find? row.id = some row)
    (hallowed : row.checkEdit edit now = .ok ()) :
    office.programme.checkOverlap (edit.applyTo row) = .ok () := by
  obtain ⟨hmem, _, hlive⟩ := Programme.find?_eq_some_iff_mem.1 hfind
  obtain ⟨_, _, hmoved⟩ := Conference.checkEdit_eq_ok_iff.1 hallowed
  rw [Programme.checkOverlap_eq_ok_iff]
  intro happroved other hother hbooked hne
  have hstays : edit.movesWindow = false :=
    Bool.eq_false_iff.2 fun hmoves => (hmoved hmoves).1 happroved
  have hwindow : (edit.applyTo row).window = row.window :=
    Edit.applyToWindow_of_not_movesWindow hstays row.window
  have hrow : row.isBooked = true := Bool.and_eq_true_iff.2 ⟨hlive, beq_iff_eq.2 happroved⟩
  rw [hwindow]
  exact (Window.overlaps?_eq_some_false_iff (hsound.ordered other hother)
    (hsound.ordered row hmem)).2 (hsound.apart other hother row hmem hbooked hrow hne)

/-- A row that is decided about was looked at if it is to be approved. -/
lemma Detects.checkOverlap_of_decision {status : Status} (h : office.Detects)
    (hfree : status = .approved → office.checkFree row.window (some row.id) = .ok ()) :
    office.programme.checkOverlap { row with status } = .ok () := by
  by_cases happroved : status = .approved
  · have hreplaces : office.programme.Replaces { row with status } (some row.id) := .inl rfl
    have hagree := h.checkFree_eq_ok_iff_checkOverlap happroved hreplaces
    exact hagree.1 (hfree happroved)
  · exact Programme.checkOverlap_of_ne_approved happroved office.programme

end Office

end Symposium
