import Mathlib.Data.List.Dedup
import Symposium.Proofs.Races

/-!
# Many calls at once

Any number of calls take their phases in turns, each at the time that the clock shows then. Each
call has two turns, one for its checks and one for its write; a call that was refused at its checks
lets its last turn pass. Which turns are left to the calls is the relation `IsDue`. Main statement:
when all turns were taken every call has come to its end.
-/

namespace Symposium.Race

variable {ι : Type} [DecidableEq ι] {call : ι → Timestamp → Office.Call} {race : Race ι}
  {members turns : List ι} {i : ι}

/-- A call takes its next phase at a time. -/
def turnAt (call : ι → Timestamp → Office.Call) (race : Race ι) (taken : ι × Timestamp) : Race ι :=
  race.turn (call · taken.2) taken.1

/-- The calls take their phases in turns, each at its own time. -/
def runAt (call : ι → Timestamp → Office.Call) (race : Race ι) (schedule : List (ι × Timestamp)) :
    Race ι :=
  schedule.foldl (turnAt call) race

/-- Whose turns they are. -/
def turnsOf (schedule : List (ι × Timestamp)) : List ι :=
  schedule.map Prod.fst

/-- The calls in the order of their last turns, which are the ones that are kept of all turns. -/
def finishers (turns : List ι) : List ι :=
  turns.dedup

/-- Whoever has another turn finishes later. -/
lemma finishers_cons_of_mem (h : i ∈ turns) : finishers (i :: turns) = finishers turns :=
  List.dedup_cons_of_mem h

/-- Whoever has no other turn finishes now. -/
lemma finishers_cons_of_notMem (h : i ∉ turns) :
    finishers (i :: turns) = i :: finishers turns :=
  List.dedup_cons_of_notMem h

/-- Nobody finishes twice. -/
lemma nodup_finishers (turns : List ι) : (finishers turns).Nodup :=
  List.nodup_dedup turns

/-- Each of the calls takes its last turn once. -/
lemma finishers_perm (nodup : members.Nodup) (h : turns.Perm (members ++ members)) :
    (finishers turns).Perm members := by
  refine (List.perm_ext_iff_of_nodup (nodup_finishers turns) nodup).2 fun i => ?_
  have hmem : i ∈ finishers turns ↔ i ∈ turns := List.mem_dedup
  rw [hmem, h.mem_iff, List.mem_append, or_self]

instance (race : Race ι) (i : ι) : Decidable (race.Succeeds i) :=
  match h : race.standing i with
  | .finished (.ok outcome) => isTrue ⟨outcome, h⟩
  | .finished (.error _) => isFalse fun ⟨_, h'⟩ => nomatch h.symm.trans h'
  | .waiting => isFalse fun ⟨_, h'⟩ => nomatch h.symm.trans h'
  | .checked _ => isFalse fun ⟨_, h'⟩ => nomatch h.symm.trans h'

/-- A turn of one who has finished changes nothing. -/
lemma turn_of_finished (calls : ι → Office.Call) {result : Except Failure Outcome}
    (h : race.standing i = .finished result) : race.turn calls i = race := by
  simp only [turn, h]

section Phases

variable (calls : ι → Office.Call) {principal : Principal} {operation : Operation}
  {now : Timestamp} {change : Change} (hcall : calls i = ⟨principal, operation, now⟩)

include hcall

/-- The first turn of a call makes the checks of its operation. -/
lemma turn_checks (h : race.standing i = .waiting) :
    (race.turn calls i).office = race.office ∧
      (race.turn calls i).standing i = .ofCheck (race.office.check principal operation now) := by
  have hturn := turn_of_waiting calls h
  rwa [hcall] at hturn

/-- The second turn of a call commits what passed its checks. -/
lemma turn_commits (h : race.standing i = .checked change) :
    (race.turn calls i).office = (race.office.commit now change).2 ∧
      (race.turn calls i).standing i = .finished (race.office.commit now change).1 := by
  have h : race.standing i = .ofCheck (.ok change) := h
  have hturn := turn_of_ofCheck calls h
  rwa [hcall] at hturn

end Phases

/-- After its turn a call was checked, which it waited for, or it has come to its end. -/
lemma standing_turn_self (calls : ι → Office.Call) (race : Race ι) (i : ι) :
    race.standing i = .waiting ∧ (∃ change, (race.turn calls i).standing i = .checked change) ∨
      ∃ result, (race.turn calls i).standing i = .finished result := by
  cases hstanding : race.standing i with
  | waiting =>
    have hturn := (turn_of_waiting calls hstanding).2
    cases hchecks : race.office.checked (calls i) with
    | ok change =>
      rw [hchecks] at hturn
      exact .inl ⟨rfl, change, hturn⟩
    | error failure =>
      rw [hchecks] at hturn
      exact .inr ⟨.error failure, hturn⟩
  | checked change =>
    have hstanding : race.standing i = .ofCheck (.ok change) := hstanding
    exact .inr ⟨_, (turn_of_ofCheck calls hstanding).2⟩
  | finished result =>
    rw [turn_of_finished calls hstanding]
    exact .inr ⟨result, hstanding⟩

/-- Success lasts over a turn. -/
lemma Succeeds.turn {calls : ι → Office.Call} {j : ι} (h : race.Succeeds j) :
    (race.turn calls i).Succeeds j := by
  obtain ⟨outcome, hfinished⟩ := h
  refine ⟨outcome, ?_⟩
  by_cases hji : j = i
  · subst hji
    rw [turn_of_finished calls hfinished]
    exact hfinished
  · exact (standing_turn_of_ne calls race hji).trans hfinished

/-- What a call answers it answers for good. -/
lemma standing_runAt_of_finished {result : Except Failure Outcome}
    (h : race.standing i = .finished result) (schedule : List (ι × Timestamp)) :
    (race.runAt call schedule).standing i = .finished result := by
  induction schedule generalizing race with
  | nil => exact h
  | cons taken schedule ih =>
    apply ih
    by_cases hi : i = taken.1
    · subst hi
      rw [turnAt, turn_of_finished _ h]
      exact h
    · exact (standing_turn_of_ne _ race hi).trans h

/-- Success lasts. -/
lemma Succeeds.runAt (h : race.Succeeds i) (schedule : List (ι × Timestamp)) :
    (race.runAt call schedule).Succeeds i := by
  obtain ⟨outcome, hfinished⟩ := h
  exact ⟨outcome, standing_runAt_of_finished hfinished schedule⟩

/-- What every turn keeps holds after all turns. -/
theorem runAt_of_kept {fact : Race ι → Prop} {fair : ι × Timestamp → Prop}
    (kept : ∀ race taken, fair taken → fact race → fact (turnAt call race taken))
    (h : fact race) {schedule : List (ι × Timestamp)} (hfair : ∀ taken ∈ schedule, fair taken) :
    fact (race.runAt call schedule) := by
  induction schedule generalizing race with
  | nil => exact h
  | cons taken schedule ih =>
    obtain ⟨hfirst, hrest⟩ := List.forall_mem_cons.1 hfair
    exact ih (kept race taken hfirst h) hrest

/-- Whether the turns are those that are left to the calls of some members. -/
structure IsDue (race : Race ι) (members turns : List ι) : Prop where
  member : ∀ i ∈ turns, i ∈ members
  waiting : ∀ i ∈ members, race.standing i = .waiting → turns.count i = 2
  checked : ∀ i ∈ members, ∀ change, race.standing i = .checked change → turns.count i = 1

namespace IsDue

/-- At the start, everybody is due for both turns. -/
lemma start {office : Office} (nodup : members.Nodup) (h : turns.Perm (members ++ members)) :
    (start office).IsDue members turns where
  member := by
    intro i hi
    have hi := h.mem_iff.1 hi
    rwa [List.mem_append, or_self] at hi
  waiting := by
    intro i hi _
    rw [h.count_eq, List.count_append, List.count_eq_one_of_mem nodup hi]
  checked := by
    intro _ _ _ hchecked
    cases hchecked

/-- After a turn, everybody is due for what is left. -/
lemma turn (due : race.IsDue members (i :: turns)) (calls : ι → Office.Call) :
    (race.turn calls i).IsDue members turns where
  member j hj := due.member j (List.mem_cons_of_mem i hj)
  waiting := by
    intro j hj hwaits
    by_cases hji : j = i
    · -- nobody waits after their turn
      subst hji
      obtain ⟨_, _, hturn⟩ | ⟨_, hturn⟩ := standing_turn_self calls race j
      · cases hturn.symm.trans hwaits
      · cases hturn.symm.trans hwaits
    · rw [standing_turn_of_ne calls race hji] at hwaits
      rw [← due.waiting j hj hwaits, List.count_cons_of_ne (Ne.symm hji)]
  checked := by
    intro j hj change hchecked
    by_cases hji : j = i
    · subst hji
      obtain ⟨hwaited, _⟩ | ⟨_, hturn⟩ := standing_turn_self calls race j
      · have htwo := due.waiting j hj hwaited
        rw [List.count_cons_self] at htwo
        exact Nat.succ.inj htwo
      · cases hturn.symm.trans hchecked
    · rw [standing_turn_of_ne calls race hji] at hchecked
      rw [← due.checked j hj change hchecked, List.count_cons_of_ne (Ne.symm hji)]

/-- After all turns, nobody is due any more. -/
lemma runAt {schedule : List (ι × Timestamp)} (due : race.IsDue members (turnsOf schedule)) :
    (race.runAt call schedule).IsDue members [] := by
  induction schedule generalizing race with
  | nil => exact due
  | cons taken schedule ih => exact ih (due.turn (call · taken.2))

/-- A call that still waits has another turn after the next one. -/
lemma mem_of_waiting (due : race.IsDue members (i :: turns)) (h : race.standing i = .waiting) :
    i ∈ turns := by
  have htwo := due.waiting i (due.member i List.mem_cons_self) h
  rw [List.count_cons_self] at htwo
  exact List.count_pos_iff.1 (by omega)

/-- A call that was checked has no other turn after the next one. -/
lemma notMem_of_checked {change : Change} (due : race.IsDue members (i :: turns))
    (h : race.standing i = .checked change) : i ∉ turns := by
  have hone := due.checked i (due.member i List.mem_cons_self) change h
  rw [List.count_cons_self] at hone
  exact List.count_eq_zero.1 (by omega)

/-- When no turn is left every call has come to its end. -/
lemma finished (due : race.IsDue members []) (hi : i ∈ members) :
    ∃ result, race.standing i = .finished result := by
  cases hstanding : race.standing i with
  | waiting => cases due.waiting i hi hstanding
  | checked change => cases due.checked i hi change hstanding
  | finished result => exact ⟨result, rfl⟩

end IsDue

/-- When each of the calls has taken its two turns all of them have come to their ends. -/
theorem exists_finished {office : Office} {schedule : List (ι × Timestamp)} (nodup : members.Nodup)
    (h : (turnsOf schedule).Perm (members ++ members)) (hi : i ∈ members) :
    ∃ result, ((start office).runAt call schedule).standing i = .finished result :=
  (IsDue.start nodup h).runAt.finished hi

end Symposium.Race
