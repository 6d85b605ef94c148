import Mathlib.Logic.Function.Basic
import Symposium.Proofs.Calls

/-!
# Two calls at once

A call has two phases: its checks, and the write of what passed them. The phases of two calls can be
taken in any turns. Main statement: two calls that both succeed were made one after the other, or
one of them wrote late, that is after the other one although it was checked before.
-/

namespace Symposium

/-- How far a call has come. -/
inductive Standing where
  | waiting
  | checked (change : Change)
  | finished (result : Except Failure Outcome)

/-- How far a call has come after its checks. -/
def Standing.ofCheck : Except Failure Change → Standing
  | .ok change => .checked change
  | .error failure => .finished (.error failure)

/-- An office, and how far each of some calls has come in it. -/
structure Race (ι : Type) where
  office : Office
  standing : ι → Standing

namespace Office

/-- What comes out of the checks of a call. -/
def checked (office : Office) (call : Call) : Except Failure Change :=
  office.check call.principal call.operation call.now

/-- A call that was checked before another one was made, and writes after it. -/
def commitLate (office : Office) (earlier later : Call) : Except Failure Outcome × Office :=
  (office.after earlier).commitChecked later.now (office.checked later)

end Office

namespace Race

variable {ι : Type} [DecidableEq ι]

/-- The office as the calls find it. -/
def start (office : Office) : Race ι := ⟨office, fun _ => .waiting⟩

/-- A call takes its next phase: the checks on what the office is then, or the write. -/
def turn (calls : ι → Office.Call) (race : Race ι) (i : ι) : Race ι :=
  match race.standing i with
  | .waiting =>
    let standing := Standing.ofCheck (race.office.checked (calls i))
    ⟨race.office, Function.update race.standing i standing⟩
  | .checked change =>
    let (result, office) := race.office.commit (calls i).now change
    ⟨office, Function.update race.standing i (.finished result)⟩
  | .finished _ => race

/-- The calls take their phases in turns. -/
def run (calls : ι → Office.Call) (race : Race ι) (turns : List ι) : Race ι :=
  turns.foldl (turn calls) race

/-- A call has come to its end and reports success. -/
def Succeeds (race : Race ι) (i : ι) : Prop :=
  ∃ outcome, race.standing i = .finished (.ok outcome)

section Turns

variable (calls : ι → Office.Call) (race : Race ι) {i j : ι}

/-- The turn of one call leaves the standing of the other one. -/
lemma standing_turn_of_ne (h : j ≠ i) : (turn calls race i).standing j = race.standing j := by
  unfold turn
  split
  · exact Function.update_of_ne h _ _
  · exact Function.update_of_ne h _ _
  · rfl

variable {race}

/-- At its first turn, a call is checked. -/
lemma turn_of_waiting (h : race.standing i = .waiting) :
    (turn calls race i).office = race.office ∧
      (turn calls race i).standing i = .ofCheck (race.office.checked (calls i)) := by
  simp only [turn, h, Function.update_self, and_self]

/-- After its checks a call writes what passed them, or it has failed already. -/
lemma turn_of_ofCheck {result : Except Failure Change} (h : race.standing i = .ofCheck result) :
    (turn calls race i).office = (race.office.commitChecked (calls i).now result).2 ∧
      (turn calls race i).standing i =
        .finished (race.office.commitChecked (calls i).now result).1 := by
  cases result with
  | ok change =>
    simp only [turn, h, Standing.ofCheck, Office.commitChecked, Function.update_self, and_self]
  | error failure => simp only [turn, h, Standing.ofCheck, Office.commitChecked, and_self]

/-- A call that takes both phases in a row is made as a whole. -/
lemma turn_turn (h : race.standing i = .waiting) :
    (turn calls (turn calls race i) i).office = race.office.after (calls i) ∧
      (turn calls (turn calls race i) i).standing i =
        .finished (race.office.answer (calls i)) := by
  obtain ⟨hoffice, hstanding⟩ := turn_of_waiting calls h
  have hlast := turn_of_ofCheck calls hstanding
  rw [hoffice] at hlast
  exact hlast

end Turns

open Office

variable (calls : Bool → Call) (office : Office)

/-- Turns that do not cross are calls one after the other. -/
lemma run_inTurn (i : Bool) :
    (run calls (start office) [i, i, !i, !i]).office = (office.after (calls i)).after (calls !i) ∧
      (run calls (start office) [i, i, !i, !i]).standing i = .finished (office.answer (calls i)) ∧
      (run calls (start office) [i, i, !i, !i]).standing (!i) =
        .finished ((office.after (calls i)).answer (calls !i)) := by
  have hne : (!i) ≠ i := by cases i <;> decide
  have hwaits : (start office).standing i = .waiting := rfl
  obtain ⟨hfirst, hfinished⟩ := turn_turn calls hwaits
  have hwaits' : (turn calls (turn calls (start office) i) i).standing (!i) = .waiting := by
    rw [standing_turn_of_ne calls _ hne, standing_turn_of_ne calls _ hne]
    rfl
  obtain ⟨hsecond, hfinished'⟩ := turn_turn calls hwaits'
  rw [hfirst] at hsecond hfinished'
  refine ⟨hsecond, ?_, hfinished'⟩
  -- the other call leaves it as it is that the first one has finished
  apply Eq.trans (standing_turn_of_ne calls _ hne.symm)
  apply Eq.trans (standing_turn_of_ne calls _ hne.symm)
  exact hfinished

/-- After a turn each, both calls are checked and nothing is written. -/
lemma run_checks (first : Bool) :
    (run calls (start office) [first, !first]).office = office ∧
      ∀ i, (run calls (start office) [first, !first]).standing i =
        .ofCheck (office.checked (calls i)) := by
  have hne : (!first) ≠ first := by cases first <;> decide
  have hwaits (i : Bool) : (start office).standing i = .waiting := rfl
  obtain ⟨hoffice, hfirst⟩ := turn_of_waiting calls (hwaits first)
  have hwaits' : (turn calls (start office) first).standing (!first) = .waiting :=
    standing_turn_of_ne calls _ hne
  obtain ⟨hoffice', hsecond⟩ := turn_of_waiting calls hwaits'
  rw [hoffice] at hoffice' hsecond
  refine ⟨hoffice', ?_⟩
  intro i
  by_cases hi : i = first
  · subst hi
    exact (standing_turn_of_ne calls _ hne.symm).trans hfirst
  · obtain rfl : i = !first := by cases i <;> cases first <;> simp_all
    exact hsecond

/-- Turns that cross end with one call written as if it were alone and the other one late. -/
lemma run_crossed (first last : Bool) :
    (run calls (start office) [first, !first, !last, last]).office =
        (office.commitLate (calls !last) (calls last)).2 ∧
      (run calls (start office) [first, !first, !last, last]).standing (!last) =
        .finished (office.answer (calls !last)) ∧
      (run calls (start office) [first, !first, !last, last]).standing last =
        .finished (office.commitLate (calls !last) (calls last)).1 := by
  have hne : (!last) ≠ last := by cases last <;> decide
  -- both are checked before anything is written, whichever comes first
  obtain ⟨hoffice, hchecked⟩ := run_checks calls office first
  have hrun : run calls (start office) [first, !first, !last, last] =
      turn calls (turn calls (run calls (start office) [first, !first]) (!last)) last := rfl
  rw [hrun]
  generalize run calls (start office) [first, !first] = race at hoffice hchecked
  subst hoffice
  obtain ⟨hwritten, hfinished⟩ := turn_of_ofCheck calls (hchecked !last)
  have hstands : (turn calls race (!last)).standing last =
      .ofCheck (race.office.checked (calls last)) :=
    (standing_turn_of_ne calls race hne.symm).trans (hchecked last)
  obtain ⟨hwritten', hfinished'⟩ := turn_of_ofCheck calls hstands
  rw [hwritten] at hwritten' hfinished'
  exact ⟨hwritten', (standing_turn_of_ne calls _ hne).trans hfinished, hfinished'⟩

variable {calls office}

/-- Two turns for each of two calls cross or do not. -/
lemma shape_of_perm {turns : List Bool} (h : turns.Perm [false, false, true, true]) :
    (∃ i, turns = [i, i, !i, !i]) ∨ ∃ first last, turns = [first, !first, !last, last] := by
  obtain ⟨a, b, c, d, rfl⟩ : ∃ a b c d, turns = [a, b, c, d] := by
    match turns, h.length_eq with
    | [a, b, c, d], _ => exact ⟨a, b, c, d, rfl⟩
  have hcount := h.count_eq true
  revert hcount
  cases a <;> cases b <;> cases c <;> cases d <;> decide

/-- The call that writes last, if both calls are checked before one of them writes. -/
def late? : List Bool → Option Bool
  | [a, b, _, last] => if a = b then none else some last
  | _ => none

/--
Two calls that both succeed are made one after the other, or one of them writes late, that is after
the other one although it was checked before that.
-/
theorem inTurn_or_crossed {turns : List Bool} (hturns : turns.Perm [false, false, true, true])
    (hdone : ∀ i, (run calls (start office) turns).Succeeds i) :
    late? turns = none ∧ (∃ first, office.CarriesOut (calls first) ∧
        (office.after (calls first)).CarriesOut (calls !first) ∧
        (run calls (start office) turns).office =
          (office.after (calls first)).after (calls !first)) ∨
      ∃ last, late? turns = some last ∧ office.CarriesOut (calls !last) ∧
        (∃ outcome, (office.commitLate (calls !last) (calls last)).1 = .ok outcome) ∧
        (run calls (start office) turns).office =
          (office.commitLate (calls !last) (calls last)).2 := by
  obtain ⟨i, rfl⟩ | ⟨first, last, rfl⟩ := shape_of_perm hturns
  · obtain ⟨hoffice, hfirst, hsecond⟩ := run_inTurn calls office i
    obtain ⟨outcome, hok⟩ := hdone i
    obtain ⟨outcome', hok'⟩ := hdone !i
    rw [hfirst] at hok
    rw [hsecond] at hok'
    refine .inl ⟨if_pos rfl, i, ⟨outcome, ?_⟩, ⟨outcome', ?_⟩, hoffice⟩
    · exact Standing.finished.inj hok
    · exact Standing.finished.inj hok'
  · obtain ⟨hoffice, hfirst, hsecond⟩ :=
      run_crossed calls office first last
    obtain ⟨outcome, hok⟩ := hdone !last
    obtain ⟨outcome', hok'⟩ := hdone last
    rw [hfirst] at hok
    rw [hsecond] at hok'
    refine .inr ⟨last, if_neg ?_, ⟨outcome, ?_⟩, ⟨outcome', ?_⟩, hoffice⟩
    · cases first <;> decide
    · exact Standing.finished.inj hok
    · exact Standing.finished.inj hok'

end Race

end Symposium
