import Mathlib.Tactic.Common
import Symposium.Lifecycle

/-!
# What the checks demand

Inversion of the checks: each lemma says exactly when a check passes. In which ways a check can fail
is composed of its parts by the lemmas about `Only`. Comparisons are stated on windows: two windows
that end after they start are `Apart` exactly if they are found not to overlap, and then they share
no instant.
-/

namespace Symposium

namespace Failure

/-- A computation in two parts gives a result exactly if both parts do. -/
lemma bind_eq_ok_iff {ε α β : Type} {x : Except ε α} {f : α → Except ε β} {b : β} :
    (x >>= f) = .ok b ↔ ∃ a, x = .ok a ∧ f a = .ok b := by
  cases x with
  | error e => exact ⟨nofun, fun ⟨_, h, _⟩ => nomatch h⟩
  | ok a =>
    constructor
    · intro h
      exact ⟨a, rfl, h⟩
    · rintro ⟨a', h, hf⟩
      cases h
      exact hf

/-- Rewording a failure leaves a result alone. -/
lemma eq_ok_of_mapError {ε ε' α : Type} {f : ε → ε'} {result : Except ε α} {a : α}
    (h : result.mapError f = .ok a) : result = .ok a := by
  cases result with
  | ok b => exact congrArg Except.ok (Except.ok.inj h)
  | error e => cases h

/-- A result that is mapped comes from a result. -/
lemma map_eq_ok_iff {α β : Type} {x : Except Failure α} {f : α → β} {b : β} :
    x.map f = .ok b ↔ ∃ a, x = .ok a ∧ f a = b := by
  cases x with
  | error e => exact ⟨nofun, fun ⟨_, h, _⟩ => nomatch h⟩
  | ok a => simp [Except.map]

/-- A step that is only taken on a condition gives a result exactly if it does where it is taken. -/
lemma when_eq_ok_iff {α : Type} {c : Prop} [Decidable c] {x : Except Failure Unit}
    {f : Unit → Except Failure α} {b : α} :
    (if c then x >>= f else f ()) = .ok b ↔ (c → x = .ok ()) ∧ f () = .ok b := by
  by_cases hc : c
  · rw [if_pos hc, bind_eq_ok_iff]
    constructor
    · rintro ⟨_, hx, hf⟩
      exact ⟨fun _ => hx, hf⟩
    · rintro ⟨hx, hf⟩
      exact ⟨(), hx hc, hf⟩
  · rw [if_neg hc]
    exact ⟨fun hf => ⟨fun h => absurd h hc, hf⟩, And.right⟩

/-- A comparison has an outcome exactly if the values can be put in order. -/
lemma ofComparison_eq_ok_iff {α : Type} {x : Option α} {a : α} :
    ofComparison x = .ok a ↔ x = some a := by
  cases x with
  | none => exact ⟨nofun, nofun⟩
  | some b => simp [ofComparison]

/-- Nothing is kept exactly if every row fails the test and the test never fails. -/
lemma keep_eq_nil_iff {α : Type} {test : α → Except Failure Bool} {rows : List α} :
    keep test rows = .ok [] ↔ ∀ row ∈ rows, test row = .ok false := by
  induction rows with
  | nil => simp [keep]
  | cons row rows ih =>
    rw [keep, bind_eq_ok_iff, List.forall_mem_cons, ← ih]
    constructor
    · rintro ⟨passes, hrow, hrest⟩
      obtain ⟨kept, hkept, h⟩ := bind_eq_ok_iff.1 hrest
      cases passes with
      | false => exact ⟨hrow, hkept.trans h⟩
      | true => cases h
    · rintro ⟨hrow, hkept⟩
      exact ⟨false, hrow, bind_eq_ok_iff.2 ⟨[], hkept, rfl⟩⟩

/-- Rows are kept only if the test of every row has an outcome, and by that alone. -/
lemma exists_passes_of_keep {α : Type} {test : α → Except Failure Bool} {rows kept : List α}
    (h : keep test rows = .ok kept) :
    ∃ passes : α → Bool, (∀ row ∈ rows, test row = .ok (passes row)) ∧
      kept = rows.filter passes := by
  have houtcome : ∀ row ∈ rows, ∃ outcome, test row = .ok outcome := by
    induction rows generalizing kept with
    | nil => exact fun _ hrow => absurd hrow List.not_mem_nil
    | cons first rows ih =>
      obtain ⟨passes, hfirst, h⟩ := bind_eq_ok_iff.1 h
      obtain ⟨rest, hrest, _⟩ := bind_eq_ok_iff.1 h
      exact List.forall_mem_cons.2 ⟨⟨passes, hfirst⟩, ih hrest⟩
  have htest : ∀ row ∈ rows, test row = .ok ((test row).toOption.getD false) := by
    intro row hrow
    obtain ⟨outcome, houtcome⟩ := houtcome row hrow
    rw [houtcome]
    rfl
  exact ⟨_, htest, Except.ok.inj (h.symm.trans (keep_of_total htest))⟩

/-- What is kept of some of the rows is some of what is kept. -/
lemma exists_keep_of_sublist {α : Type} {test : α → Except Failure Bool} {rows fewer kept : List α}
    (h : keep test rows = .ok kept) (hfewer : fewer.Sublist rows) :
    ∃ left, keep test fewer = .ok left ∧ left.Sublist kept := by
  obtain ⟨passes, hpasses, rfl⟩ := exists_passes_of_keep h
  exact ⟨_, keep_of_total fun row hrow => hpasses row (hfewer.subset hrow), hfewer.filter passes⟩

/-- Whether a computation that fails only does so in one of these ways. -/
def Only {α : Type} (ways : Failure → Prop) (x : Except Failure α) : Prop :=
  ∀ failure, x = .error failure → ways failure

namespace Only

variable {α β : Type} {ways : Failure → Prop} {x : Except Failure α} {failure : Failure}

/-- A result is no failure. -/
lemma ok {a : α} : Only ways (.ok a : Except Failure α) := by
  intro _ hfailure
  cases hfailure

/-- What comes to a result does not fail. -/
lemma of_eq_ok {a : α} (h : x = .ok a) : Only ways x :=
  h ▸ ok

/-- A failure is one that may be. -/
lemma error (h : ways failure) : Only ways (.error failure : Except Failure α) := by
  intro _ hfailure
  cases hfailure
  exact h

/-- Two steps fail as one of them does; the second starts from what the first came to. -/
lemma bind {f : α → Except Failure β} (hx : Only ways x)
    (hf : ∀ a, x = .ok a → Only ways (f a)) : Only ways (x >>= f) := by
  cases x with
  | error failure => exact error (hx failure rfl)
  | ok a => exact hf a rfl

/-- Mapping a result adds no failure. -/
lemma map {f : α → β} (hx : Only ways x) : Only ways (x.map f) := by
  cases x with
  | error failure => exact error (hx failure rfl)
  | ok a => exact ok

/-- A step that is only taken on a condition fails only if the condition holds. -/
lemma when {c : Prop} [Decidable c] {x : Except Failure Unit} {f : Unit → Except Failure β}
    (hx : c → Only ways x) (hf : Only ways (f ())) :
    Only ways (if c then x >>= f else f ()) := by
  split
  · next hc => exact (hx hc).bind fun _ _ => hf
  · exact hf

/-- A requirement fails with its refusal. -/
lemma require {condition : Bool} {refusal : Refusal} (h : ways (refused refusal)) :
    Only ways (Failure.require condition refusal) := by
  unfold Failure.require
  split
  · exact ok
  · exact error h

/-- A comparison fails only as incomparable. -/
lemma ofComparison {found : Option α} (h : ways .incomparable) :
    Only ways (Failure.ofComparison found) := by
  cases found with
  | none => exact error h
  | some found => exact ok

/-- Keeping rows fails as the test of one of them. -/
lemma keep {test : α → Except Failure Bool} {rows : List α} (htest : ∀ a, Only ways (test a)) :
    Only ways (Failure.keep test rows) := by
  induction rows with
  | nil => exact ok
  | cons a rows ih => exact (htest a).bind fun _ _ => ih.bind fun _ _ => ok

/-- Going through rows fails as the step for one of them. -/
lemma mapM {f : α → Except Failure β} {rows : List α} (hf : ∀ a, Only ways (f a)) :
    Only ways (rows.mapM f) := by
  induction rows with
  | nil => exact ok
  | cons a rows ih =>
    rw [List.mapM_cons]
    exact (hf a).bind fun _ _ => ih.bind fun _ _ => ok

/-- A combined test fails as one of the two. -/
lemma both {a b : Except Failure Bool} (ha : Only ways a) (hb : Only ways b) :
    Only ways (Failure.both a b) := by
  unfold Failure.both
  split
  · exact hb
  · exact ha

end Only

end Failure

namespace Timestamp

variable {a b : Timestamp}

/-- A time is found to be before another one if both have an offset or neither has. -/
lemma before?_eq_some_iff {found : Bool} :
    a.before? b = some found ↔ a.comparable b = true ∧ decide (a.instant < b.instant) = found := by
  simp [before?]

/-- A timestamp before another one is the earlier instant. -/
lemma lt_of_before? (h : a.before? b = some true) : a.instant < b.instant :=
  of_decide_eq_true (before?_eq_some_iff.1 h).2

/-- A timestamp that is not before another one is no earlier instant. -/
lemma le_of_before? (h : a.before? b = some false) : b.instant ≤ a.instant :=
  Int.not_lt.1 (of_decide_eq_false (before?_eq_some_iff.1 h).2)

/-- Timestamps with offsets can all be put in order. -/
lemma allComparable_of_aware {times : List Timestamp} (h : ∀ t ∈ times, t.isAware = true) :
    allComparable times = true := by
  cases times with
  | nil => rfl
  | cons t ts =>
    obtain ⟨ht, hts⟩ := List.forall_mem_cons.1 h
    exact List.all_eq_true.2 fun s hs => comparable_of_aware ht (hts s hs)

end Timestamp

/-- A full hour in UTC, counted from the epoch. -/
def Timestamp.hour (n : Int) : Timestamp := ⟨n * 60 * minute, some 0⟩

namespace Window

/-- The window from one hour to another. -/
def hours (a b : Int) : Window := ⟨.hour a, .hour b⟩

/-- Whether two windows share an instant. -/
def Meets (a b : Window) : Prop :=
  ∃ t, a.Contains t ∧ b.Contains t

/-- Whether two windows can be put in order and one of them ends before the other starts. -/
def Apart (a b : Window) : Prop :=
  a.startsAt.comparable b.startsAt = true ∧
    (b.endsAt.instant ≤ a.startsAt.instant ∨ a.endsAt.instant ≤ b.startsAt.instant)

/-- Windows that share an instant do so either way around. -/
lemma Meets.symm {a b : Window} (h : a.Meets b) : b.Meets a := by
  obtain ⟨t, ha, hb⟩ := h
  exact ⟨t, hb, ha⟩

/-- Windows that are apart are so either way around. -/
lemma Apart.symm {a b : Window} (h : a.Apart b) : b.Apart a := by
  obtain ⟨hc, h⟩ := h
  refine ⟨?_, h.symm⟩
  rw [Timestamp.comparable, Bool.beq_comm]
  exact hc

/-- Windows that are apart share no instant. -/
lemma Apart.not_meets {a b : Window} (h : a.Apart b) : ¬ a.Meets b := by
  rintro ⟨t, ⟨ha, ha'⟩, hb, hb'⟩
  cases h.2 with
  | inl h => omega
  | inr h => omega

/-- All four ends of ordered windows that are apart can be put in order. -/
lemma Apart.allComparable {a b : Window} (oa : a.isOrdered = true) (ob : b.isOrdered = true)
    (h : a.Apart b) :
    Timestamp.allComparable [a.startsAt, a.endsAt, b.startsAt, b.endsAt] = true := by
  have ha := (isOrdered_iff.1 oa).1
  have hb := (isOrdered_iff.1 ob).1
  have hab := h.1
  simp only [Timestamp.comparable, beq_iff_eq] at ha hb hab
  simp [Timestamp.allComparable, Timestamp.comparable, ← ha, ← hab, ← hb]

/-- Ordered windows are found not to overlap exactly if they are apart. -/
lemma overlaps?_eq_some_false_iff {a b : Window} (oa : a.isOrdered = true)
    (ob : b.isOrdered = true) : a.overlaps? b = some false ↔ a.Apart b := by
  obtain ⟨ca, ha⟩ := isOrdered_iff.1 oa
  obtain ⟨cb, hb⟩ := isOrdered_iff.1 ob
  simp only [Timestamp.comparable, beq_iff_eq] at ca cb
  simp only [overlaps?, Apart, Timestamp.before?, Timestamp.comparable, ← ca, ← cb, beq_iff_eq,
    eq_comm (a := b.startsAt.isAware)]
  by_cases hc : a.startsAt.isAware = b.startsAt.isAware
  · by_cases hab : a.startsAt.instant < b.endsAt.instant
    · simp [hc, hab, Int.not_le.2 hab]
    · simp [hc, hab, Int.not_lt.1 hab]
  · simp [hc]

end Window

/-- Two windows are compared without an overlap exactly if none is found. -/
lemma Window.overlaps_eq_ok_iff {a b : Window} {found : Bool} :
    a.overlaps b = .ok found ↔ a.overlaps? b = some found :=
  Failure.ofComparison_eq_ok_iff

/-- A window lies ahead exactly if it does not start before now and ends after it starts. -/
lemma Window.checkFuture_eq_ok_iff {window : Window} {now : Timestamp} :
    window.checkFuture now = .ok () ↔
      window.startsAt.before? now = some false ∧ window.isOrdered = true := by
  simp only [checkFuture, Failure.bind_eq_ok_iff, isOrdered, beq_iff_eq]
  constructor
  · rintro ⟨started, hstarted, _, hahead, ordered, hordered, h⟩
    have hahead := Failure.require_eq_ok_iff.1 hahead
    simp only [Bool.not_eq_true'] at hahead
    subst hahead
    obtain rfl := Failure.require_eq_ok_iff.1 h
    exact ⟨Failure.ofComparison_eq_ok_iff.1 hstarted, Failure.ofComparison_eq_ok_iff.1 hordered⟩
  · rintro ⟨hstarted, hordered⟩
    exact ⟨false, Failure.ofComparison_eq_ok_iff.2 hstarted, (), rfl, true,
      Failure.ofComparison_eq_ok_iff.2 hordered, rfl⟩

namespace Conference

/--
A decision passes exactly if it approves or rejects a pending conference, and one that it approves
does not start before now.
-/
lemma checkDecision_eq_ok_iff {c : Conference} {target : Status} {now : Timestamp} :
    c.checkDecision target now = .ok () ↔
      c.status = .pending ∧ target ≠ .pending ∧
        (target = .approved → c.window.startsAt.before? now = some false) := by
  rw [checkDecision, Failure.bind_eq_ok_iff]
  constructor
  · rintro ⟨_, hbecome, h⟩
    obtain ⟨hpending, htarget⟩ := Status.mayBecome_iff.1 (Failure.require_eq_ok_iff.1 hbecome)
    refine ⟨hpending, htarget, fun happ => ?_⟩
    rw [if_pos happ] at h
    obtain ⟨started, hstarted, h⟩ := Failure.bind_eq_ok_iff.1 h
    have h := Failure.require_eq_ok_iff.1 h
    simp only [Bool.not_eq_true'] at h
    subst h
    exact Failure.ofComparison_eq_ok_iff.1 hstarted
  · rintro ⟨hpending, htarget, hahead⟩
    refine ⟨(), Failure.require_eq_ok_iff.2 (Status.mayBecome_iff.2 ⟨hpending, htarget⟩), ?_⟩
    split
    · next happ =>
      exact Failure.bind_eq_ok_iff.2 ⟨false, Failure.ofComparison_eq_ok_iff.2 (hahead happ), rfl⟩
    · rfl

/--
An edit passes exactly if the conference is not over and not rejected, and an edit that moves its
window finds it undecided and moves the window into the future.
-/
lemma checkEdit_eq_ok_iff {c : Conference} {edit : Edit} {now : Timestamp} :
    c.checkEdit edit now = .ok () ↔
      now.before? c.window.endsAt = some true ∧ c.status ≠ .rejected ∧
        (edit.movesWindow = true →
          c.status ≠ .approved ∧ (edit.applyTo c).window.checkFuture now = .ok ()) := by
  simp only [checkEdit, Failure.bind_eq_ok_iff]
  constructor
  · rintro ⟨ahead, hahead, _, hopen, _, hrejected, h⟩
    obtain rfl := Failure.require_eq_ok_iff.1 hopen
    have hrejected := Failure.require_eq_ok_iff.1 hrejected
    refine ⟨Failure.ofComparison_eq_ok_iff.1 hahead, by simpa using hrejected, fun hmoves => ?_⟩
    rw [if_pos hmoves] at h
    obtain ⟨_, happroved, h⟩ := Failure.bind_eq_ok_iff.1 h
    have happroved := Failure.require_eq_ok_iff.1 happroved
    exact ⟨by simpa using happroved, h⟩
  · rintro ⟨hahead, hrejected, hmove⟩
    refine ⟨true, Failure.ofComparison_eq_ok_iff.2 hahead, (), rfl, (),
      Failure.require_eq_ok_iff.2 (by simpa using hrejected), ?_⟩
    split
    · next hmoves =>
      obtain ⟨happroved, hfuture⟩ := hmove hmoves
      exact Failure.bind_eq_ok_iff.2
        ⟨(), Failure.require_eq_ok_iff.2 (by simpa using happroved), hfuture⟩
    · rfl

end Conference

end Symposium
