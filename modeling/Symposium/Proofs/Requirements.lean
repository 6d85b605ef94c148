import Symposium.Proofs.Approvals
import Symposium.Proofs.Conflicts
import Symposium.Proofs.Rules

/-!
# What is required of windows and rows

The rules that proposals, edits and decisions have in common: a conference has to be live, a window
has to lie ahead, and it has to be free. Where all windows have offsets, each of the checks enforces
its rules, and a row that broke none of them is put and announced. Main statement: a window is
refused exactly if it meets that of a booked conference, the first of which are named.
-/

namespace Symposium

/-- The rules of a window that lies ahead: it has not started, and ends after it starts. -/
def Window.futureRules (window : Window) (now : Timestamp) : List Rule :=
  [⟨window.startsAt.instant < now.instant, .timeAlreadyPassed window.startsAt⟩,
    ⟨window.endsAt.instant ≤ window.startsAt.instant, .endTimeBeforeStart window⟩]

/-- A window that keeps all rules ends after it starts. -/
lemma Window.isOrdered_of_allKept {window : Window} {now : Timestamp}
    (aware : window.isAware = true) (hkept : Rule.AllKept (window.futureRules now)) :
    window.isOrdered = true := by
  obtain ⟨_, hrest⟩ := Rule.allKept_cons.1 hkept
  obtain ⟨hends, _⟩ := Rule.allKept_cons.1 hrest
  obtain ⟨hstart, hend⟩ := Bool.and_eq_true_iff.1 aware
  exact isOrdered_iff.2 ⟨Timestamp.comparable_of_aware hstart hend, Int.not_le.1 hends⟩

/-- The check of a window refuses by the first of its rules that is broken. -/
lemma Window.checkFuture_enforces {window : Window} {now : Timestamp}
    (aware : window.isAware = true) (hnow : now.isAware = true) :
    Rule.Enforces (window.futureRules now) () (window.checkFuture now) := by
  obtain ⟨hstart, hend⟩ := Bool.and_eq_true_iff.1 aware
  rw [checkFuture, Timestamp.isBefore_of_aware hstart hnow, Timestamp.isBefore_of_aware hstart hend]
  refine .require_bind ?_ (.require ?_)
  · rw [Bool.not_eq_false', decide_eq_true_iff]
  · rw [decide_eq_false_iff_not, Int.not_lt]

/-- After any run all windows have offsets, and no two booked conferences meet. -/
lemma Traffic.AwareRun.isRegular {start : Office} {t : Traffic} (hrun : AwareRun (.quiet start) t)
    (hempty : start.programme = .empty) : t.office.programme.IsRegular where
  sound := hrun.run.sound hempty
  aware := (hrun.aware hempty).rows

/-- A window with offsets that ends after it starts can be compared with all that are stored. -/
lemma Programme.IsRegular.compares {programme : Programme} {window : Window}
    (regular : programme.IsRegular) (aware : window.isAware = true)
    (ordered : window.isOrdered = true) : programme.Compares window where
  ordered
  rows := by
    intro c hc
    have hrow := (Bool.and_eq_true_iff.1 (regular.aware c hc)).1
    have hwindow := (Bool.and_eq_true_iff.1 aware).1
    exact ⟨regular.sound.ordered c hc, Timestamp.comparable_of_aware hrow hwindow⟩

namespace Office

variable {office : Office} {window : Window} {row current : Conference} {id : String}

/-- The rule that a conference is live, and further ones that depend on what it is. -/
def liveRules (office : Office) (id : String) (rules : Conference → List Rule) : List Rule :=
  ⟨office.programme.find? id = none, .conferenceNotFound id⟩ ::
    (office.programme.find? id).elim [] rules

/-- For a conference that is found, the rules are that it is and those that it has. -/
lemma liveRules_of_find? (hfind : office.programme.find? id = some row)
    (rules : Conference → List Rule) :
    office.liveRules id rules =
      ⟨office.programme.find? id = none, .conferenceNotFound id⟩ :: rules row := by
  rw [liveRules, hfind, Option.elim_some]

/-- All rules are kept exactly if the conference is found and keeps its own. -/
lemma allKept_liveRules_iff {rules : Conference → List Rule} :
    Rule.AllKept (office.liveRules id rules) ↔
      ∃ row, office.programme.find? id = some row ∧ Rule.AllKept (rules row) := by
  constructor
  · intro h
    obtain ⟨row, hfind⟩ := Option.ne_none_iff_exists'.1 (h _ List.mem_cons_self)
    rw [liveRules_of_find? hfind] at h
    exact ⟨row, hfind, (List.forall_mem_cons.1 h).2⟩
  · rintro ⟨row, hfind, hrules⟩
    rw [liveRules_of_find? hfind]
    exact List.forall_mem_cons.2 ⟨Option.ne_none_iff_exists'.2 ⟨row, hfind⟩, hrules⟩

/-- A conference is loaded if it is live, and then what is required of it is enforced. -/
lemma load_bind_enforces {α : Type} [Inhabited α] {rules : Conference → List Rule}
    {f : Conference → Except Failure α} {a : Conference → α}
    (h : ∀ row, office.programme.find? id = some row →
      Rule.Enforces (rules row) (a row) (f row)) :
    ∃ passed, (∀ row, office.programme.find? id = some row → passed = a row) ∧
      Rule.Enforces (office.liveRules id rules) passed (office.load id >>= f) := by
  cases hfind : office.programme.find? id with
  | none =>
    have hload : (office.load id >>= f) = .error (.refused (.conferenceNotFound id)) := by
      simp only [load, hfind]
      rfl
    rw [hload]
    have hnone : ∀ row, none = some row → default = a row := fun row hfound =>
      absurd hfound.symm (Option.some_ne_none row)
    exact ⟨default, hnone, .refused (.here hfind)⟩
  | some row =>
    rw [load_eq_ok_iff.2 hfind, liveRules_of_find? hfind]
    have hlive := Option.ne_none_iff_exists'.2 ⟨row, hfind⟩
    exact ⟨a row, fun _ hfound => congrArg a (Option.some.inj hfound), .later hlive (h row hfind)⟩

/-- An operation is refused by the first rule that is broken, or what was checked is committed. -/
lemma perform_cases {rules : List Rule} {principal : Principal} {operation : Operation}
    {now : Timestamp} {change : Change}
    (h : Rule.Enforces rules change (office.check principal operation now)) :
    (∃ refusal, Rule.First rules refusal ∧
      office.perform principal operation now = (.error (.refused refusal), office)) ∨
    Rule.AllKept rules ∧ office.perform principal operation now = office.commit now change := by
  generalize hcheck : office.check principal operation now = checked at h
  cases h with
  | refused hfirst => exact .inl ⟨_, hfirst, perform_of_check_error hcheck⟩
  | passed hkept => exact .inr ⟨hkept, perform_of_check_ok hcheck⟩

/-- The rule that no booked conference, but for one, meets a window; the first ones are named. -/
def freeRule (office : Office) (window : Window) (except : Option String) : Rule where
  broken := ∃ c ∈ office.programme.rows,
    c.isLive = true ∧ c.status = .approved ∧ except ≠ some c.id ∧ c.window.Meets window
  refusal := .timeWindowConflict <|
    ((Programme.inTheWay window (office.programme.booked except)).take
      office.policy.reportLimit.toNat).map Clash.ofConference

/-- A report is empty exactly if no booked conference meets the window. -/
lemma Detects.checkFree_enforces (detects : office.Detects)
    (hwindow : office.programme.Compares window) (except : Option String) :
    Rule.Enforces [office.freeRule window except] () (office.checkFree window except) := by
  rw [checkFree, if_pos detects.checks, conflicts, hwindow.conflicting_eq except detects.reports]
  refine .require ?_
  have hlimit : office.policy.reportLimit.toNat ≠ 0 := by
    have hreports := detects.reports
    omega
  rw [List.isEmpty_eq_false_iff, Ne, List.take_eq_nil_iff, or_iff_right hlimit,
    List.eq_nil_iff_forall_not_mem, not_forall_not]
  refine exists_congr fun c => ?_
  rw [hwindow.mem_inTheWay_booked_iff, Conference.isBooked, Bool.and_eq_true, beq_iff_eq, and_assoc]

/--
Whether a result is that of a write which is announced: the answer is given, and if events are
entered on the timelines once there is one more entry.
-/
def Announced (changed : Office) (answer : Outcome) (entry : Entry)
    (result : Except Failure Outcome × Office) : Prop :=
  ∃ journal, result = (.ok answer, { changed with journal }) ∧
    (changed.bus.ChroniclesOnce → journal.timeline = changed.journal.timeline ++ [entry])

/-- What was announced is answered as it was meant. -/
lemma Announced.fst_eq {changed : Office} {answer : Outcome} {entry : Entry}
    {result : Except Failure Outcome × Office} (h : changed.Announced answer entry result) :
    result.1 = .ok answer := by
  obtain ⟨journal, hresult, _⟩ := h
  exact congrArg Prod.fst hresult

/-- Where no handler fails, an event with an entry is announced. -/
lemma announced_announce {event : Event} {entry : Entry} (never : office.bus.NeverFails)
    (hentry : event.entry? = some entry) (answer : Outcome) :
    office.Announced answer entry (office.announce event answer) := by
  obtain ⟨journal, hpublish⟩ := Bus.publish_eq_ok never event office.journal
  refine ⟨journal, ?_, fun chronicles => ?_⟩
  · rw [announce, hpublish]
    rfl
  · obtain ⟨later, hlater, htimeline⟩ := chronicles.publish event office.journal
    obtain rfl : journal = later := congrArg Prod.snd (hpublish.symm.trans hlater)
    rw [htimeline, hentry]
    rfl

/-- If no handler fails, a row that the programme takes is written and announced. -/
lemma announced_commitRow {news : Event.News} {time : Timestamp} {entry : Entry}
    (never : office.bus.NeverFails) (hfind : office.programme.find? row.id = some current)
    (hfree : office.programme.checkOverlap row = .ok ())
    (hentry : Event.entry? ⟨time, row.id, news⟩ = some entry) :
    Announced { office with programme := office.programme.put (Programme.stamped row time) }
      (.changed (office.card (Programme.stamped row time))) entry
      (office.commitRow row news time) := by
  rw [commitRow_eq hfind hfree]
  apply announced_announce _ hentry
  exact never

end Office

end Symposium
