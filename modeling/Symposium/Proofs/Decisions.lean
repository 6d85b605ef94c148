import Symposium.Proofs.Listings
import Symposium.Proofs.Requirements

/-!
# What it takes to decide

A decision is the business of coordinators and of the system. It is made about a live conference
that is pending, once; an approval has to come before the start, and the window has to be free. A
row is never in its own way, and the programme takes every row whose window was found free. Main
statement: these conditions are not only necessary but sufficient, and a decision changes nothing
but the status and the stamp of its row. So a rejection is possible whatever the calendar says.
-/

namespace Symposium

/-- The rules of a decision about a conference that depend on nothing else, in their order. -/
def Conference.decisionRules (c : Conference) (status : Status) (now : Timestamp) : List Rule :=
  [⟨¬ (c.status = .pending ∧ status ≠ .pending), .invalidStatusTransition c.status status⟩] ++
    if status = .approved then
      [⟨c.window.startsAt.instant < now.instant, .updatePastConferenceStatus c.window.startsAt⟩]
    else []

/-- The check of a decision refuses by the first of its rules that is broken. -/
lemma Conference.checkDecision_enforces {c : Conference} {now : Timestamp}
    (hrow : c.window.isAware = true) (hnow : now.isAware = true) (status : Status) :
    Rule.Enforces (c.decisionRules status now) () (c.checkDecision status now) := by
  have hstarts := (Bool.and_eq_true_iff.1 hrow).1
  rw [checkDecision, Timestamp.isBefore_of_aware hstarts hnow]
  refine .require_bind ?_ ?_
  · rw [← Bool.not_eq_true, Status.mayBecome_iff]
  · split
    · refine .require ?_
      rw [Bool.not_eq_false', decide_eq_true_iff]
    · exact .passed Rule.allKept_nil

/-- Whoever is no plain user coordinates or acts for the system. -/
lemma Principal.role_ne_user_iff {principal : Principal} :
    principal.role ≠ some .user ↔
      principal.isCoordinator = true ∨ principal.isSystem = true := by
  rw [Ne, ← isRestricted_iff, isRestricted]
  cases principal.isSystem <;> simp

/-- The one rule of the check is that plain users do not decide. -/
lemma Principal.checkUnrestricted_enforces (principal : Principal) :
    Rule.Enforces [⟨principal.role = some .user, .forbiddenRole .user⟩] ()
      principal.checkUnrestricted := by
  obtain ⟨id, role⟩ := principal
  have kept {role : Option Role} (hrole : role ≠ some .user) :
      Rule.AllKept [⟨role = some .user, .forbiddenRole .user⟩] := List.forall_mem_singleton.2 hrole
  cases role with
  | none => exact .passed (kept nofun)
  | some role =>
    cases role with
    | admin => exact .passed (kept nofun)
    | coordinator => exact .passed (kept nofun)
    | user => exact .here rfl

namespace Office

variable {office : Office} {row : Conference} {principal : Principal} {id : String}
  {status : Status} {now : Timestamp}

/-- The rules of a decision about a conference, in their order. -/
def settlementRules (office : Office) (row : Conference) (status : Status) (now : Timestamp) :
    List Rule :=
  row.decisionRules status now ++
    if status = .approved then [office.freeRule row.window (some row.id)] else []

/-- The rules of a decision, in their order. -/
def decisionRules (office : Office) (principal : Principal) (id : String) (status : Status)
    (now : Timestamp) : List Rule :=
  ⟨principal.role = some .user, .forbiddenRole .user⟩ ::
    office.liveRules id fun row => office.settlementRules row status now

/-- A decision is checked for its maker, its conference and its effect, in this order. -/
lemma check_decide_eq (office : Office) (principal : Principal) (id : String) (status : Status)
    (now : Timestamp) :
    office.check principal (.decide id status) now = (do
      principal.checkUnrestricted
      let row ← office.load id
      office.reviewDecision principal.id row status now) := by
  simp only [check, draft, draftDecision, bind_assoc, pure_bind, review]

/-- The review of a decision refuses by the first of its rules that is broken. -/
lemma reviewDecision_enforces (regular : office.programme.IsRegular) (detects : office.Detects)
    (hrow : row ∈ office.programme.rows) (hnow : now.isAware = true) (actorId : Option String)
    (status : Status) :
    Rule.Enforces (office.settlementRules row status now)
      (.decide actorId row.status { row with status } now)
      (office.reviewDecision actorId row status now) := by
  have aware := regular.aware row hrow
  refine (Conference.checkDecision_enforces aware hnow status).bind fun _ => ?_
  split
  · have hcompares := regular.compares aware (regular.sound.ordered row hrow)
    have hfree := detects.checkFree_enforces hcompares (some row.id)
    exact hfree.map fun _ => Change.decide actorId row.status { row with status } now
  · exact .passed Rule.allKept_nil

/-- Who decides about a conference is told the first rule that is broken. -/
lemma decide_enforces (regular : office.programme.IsRegular) (detects : office.Detects)
    (hnow : now.isAware = true) (principal : Principal) (id : String) (status : Status) :
    ∃ change, (∀ row, office.programme.find? id = some row →
        change = .decide principal.id row.status { row with status } now) ∧
      Rule.Enforces (office.decisionRules principal id status now) change
        (office.check principal (.decide id status) now) := by
  have hreviews : ∀ row, office.programme.find? id = some row →
      Rule.Enforces (office.settlementRules row status now)
        (.decide principal.id row.status { row with status } now)
        (office.reviewDecision principal.id row status now) := fun _ hfind =>
    reviewDecision_enforces regular detects (Programme.mem_of_find? hfind) hnow principal.id status
  obtain ⟨change, hchange, hreview⟩ := load_bind_enforces hreviews
  refine ⟨change, hchange, ?_⟩
  rw [check_decide_eq]
  exact principal.checkUnrestricted_enforces.bind fun _ => hreview

/-- Whether a conference can be given a status now: it is pending, and an approval is in time. -/
structure CanSettle (office : Office) (row : Conference) (status : Status) (now : Timestamp) :
    Prop where
  pending : row.status = .pending
  target : status = .rejected ∨ status = .approved ∧
    now.instant ≤ row.window.startsAt.instant ∧
    ∀ c ∈ office.programme.rows, c.isLive = true → c.status = .approved → c.id ≠ row.id →
      ¬ c.window.Meets row.window

/-- The rule of free windows is kept if no other booked conference shares an instant. -/
lemma freeRule_not_broken_iff {window : Window} :
    ¬ (office.freeRule window (some id)).broken ↔
      ∀ c ∈ office.programme.rows, c.isLive = true → c.status = .approved → c.id ≠ id →
        ¬ c.window.Meets window := by
  simp only [freeRule, not_exists, not_and, Ne, Option.some.injEq, eq_comm]

/-- The rules of a decision are kept exactly if it can be made. -/
lemma allKept_settlementRules_iff :
    Rule.AllKept (office.settlementRules row status now) ↔ office.CanSettle row status now := by
  have hcan : office.CanSettle row status now ↔ row.status = .pending ∧ (status = .rejected ∨
      status = .approved ∧ now.instant ≤ row.window.startsAt.instant ∧
        ¬ (office.freeRule row.window (some row.id)).broken) := by
    rw [freeRule_not_broken_iff]
    exact ⟨fun h => ⟨h.pending, h.target⟩, fun h => ⟨h.1, h.2⟩⟩
  rw [hcan, settlementRules, Conference.decisionRules]
  cases status <;> simp

/--
Whether a result is that of a decision: a row that was pending has the status and is stamped, and
one more entry tells from which status to which. Nothing else has changed.
-/
def Decided (office : Office) (actorId : Option String) (id : String) (status : Status)
    (now : Timestamp) (result : Except Failure Outcome × Office) : Prop :=
  ∃ row decided kind, office.programme.find? id = some row ∧
    decided = { row with status, updatedAt := now } ∧ Entry.Kind.word kind = status.word ∧
    Announced { office with programme := office.programme.put decided }
      (.changed (office.card decided))
      ⟨id, kind, actorId, now,
        [("from", .str Status.pending.word), ("to", .str status.word)]⟩ result

/-- A decision that keeps the rules is written: the programme finds the window as free. -/
lemma decided_commit (regular : office.programme.IsRegular) (detects : office.Detects)
    (never : office.bus.NeverFails) (hfind : office.programme.find? row.id = some row)
    (hkept : Rule.AllKept (office.settlementRules row status now)) (actorId : Option String) :
    office.Decided actorId row.id status now
      (office.commit now (.decide actorId row.status { row with status } now)) := by
  have hrow := Programme.mem_of_find? hfind
  have hcompares := regular.compares (regular.aware row hrow) (regular.sound.ordered row hrow)
  have htaken : office.programme.checkOverlap { row with status } = .ok () := by
    refine detects.checkOverlap_of_decision fun happroved => ?_
    rw [settlementRules, if_pos happroved, Rule.allKept_append] at hkept
    exact (detects.checkFree_enforces hcompares (some row.id)).eq_ok hkept.2
  obtain ⟨hpending, htarget⟩ := allKept_settlementRules_iff.1 hkept
  rw [hpending]
  obtain rfl | ⟨rfl, _⟩ := htarget
  · exact ⟨row, _, .rejected, hfind, rfl, rfl, announced_commitRow never hfind htaken rfl⟩
  · exact ⟨row, _, .approved, hfind, rfl, rfl, announced_commitRow never hfind htaken rfl⟩

/-- A decision that breaks no rule is carried out. -/
lemma decided_of_allKept (regular : office.programme.IsRegular) (detects : office.Detects)
    (never : office.bus.NeverFails) (hnow : now.isAware = true)
    (hkept : Rule.AllKept (office.decisionRules principal id status now)) :
    office.Decided principal.id id status now
      (office.perform principal (.decide id status) now) := by
  obtain ⟨change, hchange, henforces⟩ := decide_enforces regular detects hnow principal id status
  obtain ⟨row, hfind, hrules⟩ := allKept_liveRules_iff.1 (Rule.allKept_cons.1 hkept).2
  obtain ⟨_, rfl, _⟩ := Programme.find?_eq_some_iff_mem.1 hfind
  rw [perform_of_check_ok (henforces.eq_ok hkept), hchange row hfind]
  exact decided_commit regular detects never hfind hrules principal.id

/-- A decision that was made answers with the card. -/
lemma Decided.exists_changed {actorId : Option String} {result : Except Failure Outcome × Office}
    (h : office.Decided actorId id status now result) :
    ∃ card, result.1 = .ok (.changed card) := by
  obtain ⟨_, decided, _, _, _, _, hannounced⟩ := h
  exact ⟨office.card decided, hannounced.fst_eq⟩

/-- All rules are kept exactly if a coordinator or the system decides what can be settled. -/
lemma allKept_decisionRules_iff :
    Rule.AllKept (office.decisionRules principal id status now) ↔
      (principal.isCoordinator = true ∨ principal.isSystem = true) ∧
        ∃ row, office.programme.find? id = some row ∧ office.CanSettle row status now := by
  rw [decisionRules, Rule.allKept_cons, allKept_liveRules_iff, ← Principal.role_ne_user_iff]
  simp only [allKept_settlementRules_iff]

/--
After any run, who decides about a conference is told the first of the rules that is broken, and
nothing changes; if none is, the decision is carried out and changes nothing but the status. So it
succeeds exactly for those who have the right to it and a live conference that is pending, if it is
a rejection, or an approval before the start of a conference that no other booked one meets.
-/
theorem decisions_succeed_iff {start : Office} {t : Traffic}
    (hempty : start.programme = .empty) (hrun : Traffic.AwareRun (.quiet start) t)
    (detects : t.office.Detects) (never : t.office.bus.NeverFails) (principal : Principal)
    (id : String) (status : Status) (now : Timestamp) (hnow : now.isAware = true) :
    let rules := t.office.decisionRules principal id status now
    let result := t.office.perform principal (.decide id status) now
    ((∃ refusal, Rule.First rules refusal ∧ result = (.error (.refused refusal), t.office)) ∨
      Rule.AllKept rules ∧ t.office.Decided principal.id id status now result) ∧
    ((∃ outcome, result.1 = .ok outcome) ↔
      (principal.isCoordinator = true ∨ principal.isSystem = true) ∧
        ∃ row, t.office.programme.find? id = some row ∧ t.office.CanSettle row status now) := by
  intro rules result
  have regular := hrun.isRegular hempty
  obtain ⟨_, _, henforces⟩ := decide_enforces regular detects hnow principal id status
  have hcases := perform_cases henforces
  constructor
  · exact hcases.imp_right fun h => ⟨h.1, decided_of_allKept regular detects never hnow h.1⟩
  · rw [← allKept_decisionRules_iff]
    constructor
    · rintro ⟨outcome, hok⟩
      obtain ⟨refusal, _, hrefused⟩ | ⟨hkept, _⟩ := hcases
      · cases (congrArg Prod.fst hrefused).symm.trans hok
      · exact hkept
    · intro hkept
      obtain ⟨card, hok⟩ :=
        (decided_of_allKept regular detects never hnow hkept).exists_changed
      exact ⟨_, hok⟩

/--
Of the talks of the series that are pending, the one that follows the approved one can be approved,
and the other one is rejected after its end.
-/
theorem decisions_succeed_iff_of_series :
    let office := (start .standard (.scripted [])).serveAll series
    let root : Principal := ⟨some "root", some .admin⟩
    (∃ row, office.programme.find? (IdSource.numbered 2) = some row ∧
      office.CanSettle row .approved (.hour 1)) ∧
    office.Decided (some "root") (IdSource.numbered 3) .rejected (.hour 20)
      (office.perform root (.decide (IdSource.numbered 3) .rejected) (.hour 20)) := by
  intro office root
  have hrun := awareRun_serveAll (start .standard (.scripted [])) series (by decide)
  obtain ⟨_, happroval⟩ := decisions_succeed_iff rfl hrun ⟨rfl, by decide⟩
    Bus.chroniclesOnce_standard.never root (IdSource.numbered 2) .approved (.hour 1) rfl
  obtain ⟨hcases, hrejection⟩ := decisions_succeed_iff rfl hrun ⟨rfl, by decide⟩
    Bus.chroniclesOnce_standard.never root (IdSource.numbered 3) .rejected (.hour 20) rfl
  constructor
  · obtain ⟨_, hcan⟩ := happroval.1 ⟨_, rfl⟩
    exact hcan
  · obtain ⟨row, hfind⟩ : ∃ row, office.programme.find? (IdSource.numbered 3) = some row :=
      Option.isSome_iff_exists.1 rfl
    have hpending : ∀ row ∈ office.programme.find? (IdSource.numbered 3),
        row.status = .pending := by decide +kernel
    obtain ⟨outcome, hok⟩ :=
      hrejection.2 ⟨.inl rfl, row, hfind, hpending row hfind, .inl rfl⟩
    obtain ⟨refusal, _, hrefused⟩ | ⟨_, hdecided⟩ := hcases
    · cases (congrArg Prod.fst hrefused).symm.trans hok
    · exact hdecided

end Office

end Symposium
