import Symposium.Proofs.Approvals
import Symposium.Proofs.Conflicts
import Symposium.Proofs.Rules

/-!
# Admission and the roll

Whether a user may have a seat is looked at twice: by the admission, which refuses, and by the roll
when the seat is taken. A `Verdict` is what both say about one registration, with what lets them say
so. Main statement: they always say the same, so nobody who was admitted is turned away by the roll,
and who asks for a seat is told the first of seven rules that is broken.
-/

namespace Symposium

namespace Programme

variable {programme : Programme}

/-- Every start of a live conference can be put in order with every end of one. -/
def IsComparable (programme : Programme) : Prop :=
  ∀ a ∈ programme.live, ∀ b ∈ programme.live,
    a.window.startsAt.comparable b.window.endsAt = true

/-- In a comparable programme, whether two conferences overlap is found out. -/
lemma IsComparable.exists_overlaps? (h : programme.IsComparable) {a b : Conference}
    (ha : programme.find? a.id = some a) (hb : programme.find? b.id = some b) :
    ∃ found, a.window.overlaps? b.window = some found := by
  have hab := h a (mem_live_iff.2 ha) b (mem_live_iff.2 hb)
  have hba := h b (mem_live_iff.2 hb) a (mem_live_iff.2 ha)
  simp only [Window.overlaps?, Timestamp.before?, hab, hba, if_true]
  split
  · next hnone => cases hnone
  · exact ⟨false, rfl⟩
  · exact ⟨_, rfl⟩

/-- Windows with offsets can be compared. -/
lemma isComparable_of_aware (aware : ∀ c ∈ programme.rows, c.window.isAware = true) :
    programme.IsComparable := by
  intro a ha b hb
  have hstart := (Bool.and_eq_true_iff.1 (aware a (List.mem_filter.1 ha).1)).1
  have hend := (Bool.and_eq_true_iff.1 (aware b (List.mem_filter.1 hb).1)).2
  exact Timestamp.comparable_of_aware hstart hend

end Programme

namespace Office

variable {office : Office} {row c : Conference} {userId id : String} {window : Window}
  {time now : Timestamp}

/-- The live conferences of a user that overlap a window, the earliest first. -/
def clashes (office : Office) (userId : String) (window : Window) : List Conference :=
  Programme.inTheWay window (office.roll.conferencesOf office.programme userId)

/-- The clashes of a user with a window are the live conferences with a seat that overlap it. -/
lemma mem_clashes_iff :
    c ∈ office.clashes userId window ↔
      office.programme.find? c.id = some c ∧ office.roll.has c.id userId = true ∧
        c.window.overlaps? window = some true := by
  rw [clashes, Programme.mem_inTheWay_iff, Roll.mem_conferencesOf_iff, and_assoc]

/-- Clashes are in order of their starts. -/
lemma ordered_clashes (office : Office) (userId : String) (window : Window) :
    Page.Ordered Programme.startKey false (office.clashes userId window) :=
  Programme.ordered_inTheWay window (office.roll.nodup_conferencesOf office.programme userId)

/-- Where windows can be compared, the roll finds the clashes. -/
lemma conflicting_eq_clashes (comparable : office.programme.IsComparable)
    (hfind : office.programme.find? row.id = some row) (userId : String) :
    office.roll.conflicting office.programme userId row.window =
      .ok (office.clashes userId row.window) := by
  refine Programme.overlappingInOrder_eq fun c hc => ?_
  exact comparable.exists_overlaps? (Roll.mem_conferencesOf_iff.1 hc).1 hfind

/-- What the roll and the admission say about a registration, by the first rule that it breaks. -/
inductive Verdict (office : Office) (row : Conference) (r : Registration) :
    Except Failure Roll → Except Failure Unit → Prop where
  | registeredTwice :
    office.roll.has row.id r.userId = true →
    Verdict office row r (.error (.violated (.registeredTwice row.id)))
      (.error (.refused .alreadyRegistered))
  | full :
    office.roll.has row.id r.userId = false →
    row.seats ≤ office.roll.count row.id →
    Verdict office row r (.error (.violated (.full row.id)))
      (.error (.refused (.conferenceFull (some (row.seats, office.roll.count row.id)))))
  | overlap {conflicts} :
    office.roll.has row.id r.userId = false →
    office.roll.count row.id < row.seats →
    Page.Ordered Programme.startKey false conflicts →
    (∀ c, c ∈ conflicts ↔ office.programme.find? c.id = some c ∧
      office.roll.has c.id r.userId = true ∧ c.window.overlaps? row.window = some true) →
    conflicts ≠ [] →
    Verdict office row r (.error (.violated (.overlap conflicts)))
      (.error (.refused (.conflictingRegistrations (conflicts.map Clash.ofConference))))
  | seated {roll} :
    office.roll.has row.id r.userId = false →
    office.roll.count row.id < row.seats →
    (∀ c, office.programme.find? c.id = some c → office.roll.has c.id r.userId = true →
      c.window.overlaps? row.window = some false) →
    roll.rows = office.roll.rows ++ [r] →
    Verdict office row r (.ok roll) (.ok ())

/-- The checks of an admission, as everything that they need can be compared. -/
lemma admission_eq (comparable : office.programme.IsComparable)
    (hfind : office.programme.find? row.id = some row) {ahead : Bool}
    (hahead : now.before? row.window.endsAt = some ahead) :
    office.admission (some userId) row now = (do
      Failure.require ahead .conferenceEnded
      Failure.require (!office.roll.has row.id userId) .alreadyRegistered
      Failure.require (office.roll.count row.id < row.seats)
        (.conferenceFull (some (row.seats, office.roll.count row.id)))
      Failure.require (office.clashes userId row.window).isEmpty
        (.conflictingRegistrations
          ((office.clashes userId row.window).map Clash.ofConference))) := by
  have hclashes : office.clashesFor (some userId) row.window =
      .ok (office.clashes userId row.window) := conflicting_eq_clashes comparable hfind userId
  rw [admission, Timestamp.isBefore, hahead, hclashes]
  rfl

/-- The roll and the admission say the same about every registration for a live conference. -/
theorem verdict (comparable : office.programme.IsComparable)
    (hfind : office.programme.find? row.id = some row)
    (hahead : now.before? row.window.endsAt = some true) (userId : String) (time : Timestamp) :
    Verdict office row ⟨row.id, userId, time⟩
      (office.roll.add office.programme ⟨row.id, userId, time⟩)
      (office.admission (some userId) row now) := by
  -- both look at the seat, at the free seats and at the clashes, in this order
  rw [admission_eq comparable hfind hahead]
  cases hhas : office.roll.has row.id userId with
  | true =>
    have hadd : office.roll.add office.programme ⟨row.id, userId, time⟩ =
        .error (.violated (.registeredTwice row.id)) := by
      simp only [Roll.add, hfind, hhas, if_true]
    rw [hadd]
    exact .registeredTwice hhas
  | false =>
    by_cases hfull : row.seats ≤ office.roll.count row.id
    · have hadd : office.roll.add office.programme ⟨row.id, userId, time⟩ =
          .error (.violated (.full row.id)) := by
        simp [Roll.add, hfind, hhas, hfull]
      rw [hadd, decide_eq_false (Nat.not_lt.2 hfull)]
      exact .full hhas hfull
    · have hleft := Nat.not_le.1 hfull
      have hconflicts := conflicting_eq_clashes comparable hfind userId
      have hadd : office.roll.add office.programme ⟨row.id, userId, time⟩ =
          if (office.clashes userId row.window).isEmpty then
            .ok (office.roll.put ⟨row.id, userId, time⟩)
          else .error (.violated (.overlap (office.clashes userId row.window))) := by
        simp only [Roll.add, hfind, hhas, hfull, if_false, hconflicts]
        rfl
      rw [decide_eq_true hleft]
      cases hclashes : office.clashes userId row.window with
      -- without a clash, no seat of the user overlaps the window
      | nil =>
        rw [hclashes] at hadd
        rw [hadd]
        refine .seated hhas hleft (fun c hc hseat => ?_) (Roll.rows_of_add hadd)
        obtain ⟨found, hfound⟩ := comparable.exists_overlaps? hc hfind
        cases found with
        | false => exact hfound
        | true =>
          have hclash : c ∈ office.clashes userId row.window :=
            mem_clashes_iff.2 ⟨hc, hseat, hfound⟩
          rw [hclashes] at hclash
          cases hclash
      | cons other others =>
        rw [hclashes] at hadd
        rw [hadd]
        refine .overlap hhas hleft ?_ (fun c => ?_) (List.cons_ne_nil other others)
        · rw [← hclashes]
          exact office.ordered_clashes userId row.window
        · rw [← hclashes]
          exact mem_clashes_iff

/-- The rules of an admission, in their order. -/
def admissionRules (office : Office) (userId : String) (row : Conference) (now : Timestamp) :
    List Rule :=
  [⟨row.window.endsAt.instant ≤ now.instant, .conferenceEnded⟩,
    ⟨office.roll.has row.id userId = true, .alreadyRegistered⟩,
    ⟨row.seats ≤ office.roll.count row.id,
      .conferenceFull (some (row.seats, office.roll.count row.id))⟩,
    ⟨∃ c, office.programme.find? c.id = some c ∧ office.roll.has c.id userId = true ∧
        c.window.Meets row.window,
      .conflictingRegistrations ((office.clashes userId row.window).map Clash.ofConference)⟩]

/-- The rules for who asks for a seat, in their order. -/
def seatRules (office : Office) (principal : Principal) (userId id : String) (now : Timestamp) :
    List Rule :=
  ⟨office.programme.find? id = none, .conferenceNotFound id⟩ ::
    (office.programme.find? id).elim [] fun row =>
      ⟨principal.sees row = false, .notYourConference id⟩ ::
        ⟨principal.id = some row.hostId, .hostCannotRegister⟩ ::
          office.admissionRules userId row now

/-- An admission is refused by the first of its rules that is broken. -/
lemma admission_enforces (regular : office.programme.IsRegular)
    (hfind : office.programme.find? row.id = some row) (aware : now.isAware = true)
    (userId : String) :
    Rule.Enforces (office.admissionRules userId row now) ()
      (office.admission (some userId) row now) := by
  have hrow := Programme.mem_of_find? hfind
  have hends := (Bool.and_eq_true_iff.1 (regular.aware row hrow)).2
  have hclash : (office.clashes userId row.window).isEmpty = false ↔
      ∃ c, office.programme.find? c.id = some c ∧ office.roll.has c.id userId = true ∧
        c.window.Meets row.window := by
    rw [List.isEmpty_eq_false_iff_exists_mem]
    refine exists_congr fun c => ?_
    rw [mem_clashes_iff]
    refine and_congr_right fun hc => and_congr_right fun _ => ?_
    have hmem := Programme.mem_of_find? hc
    exact Window.overlaps?_eq_some_true_iff (regular.aware c hmem) (regular.aware row hrow)
      (regular.sound.ordered c hmem) (regular.sound.ordered row hrow)
  rw [admission_eq (Programme.isComparable_of_aware regular.aware) hfind
    (Timestamp.before?_of_aware aware hends)]
  refine .require_bind ?_ (.require_bind ?_ (.require_bind ?_ (.require hclash)))
  · rw [decide_eq_false_iff_not, Int.not_lt]
  · rw [Bool.not_eq_false']
  · rw [decide_eq_false_iff_not, Nat.not_lt]

/-- A registration is checked for the view, the host and the admission, in this order. -/
lemma check_register_eq (admits : office.policy.checksAdmission = true)
    (hfind : office.programme.find? id = some row) (principal : Principal) (now : Timestamp) :
    office.check principal (.register id) now = (do
      principal.checkView row
      Failure.require (!principal.isUser row.hostId) .hostCannotRegister
      office.admission principal.id row now).map fun _ => .register principal.id id := by
  simp only [check, draft, draftSeat, approach, admits, if_true, loadVisible, load, hfind, bind,
    Except.bind]
  cases principal.checkView row with
  | error failure => rfl
  | ok =>
    dsimp only [pure, Except.pure]
    cases Failure.require (!principal.isUser row.hostId) .hostCannotRegister with
    | error failure => rfl
    | ok => rfl

/-- Who asks for a seat is told the first rule that is broken. -/
theorem register_enforces (regular : office.programme.IsRegular)
    (admits : office.policy.checksAdmission = true) {principal : Principal}
    (hnamed : principal.id = some userId) (aware : now.isAware = true) (id : String) :
    Rule.Enforces (office.seatRules principal userId id now) (.register (some userId) id)
      (office.check principal (.register id) now) := by
  rw [seatRules]
  cases hfind : office.programme.find? id with
  | none =>
    have hcheck : office.check principal (.register id) now =
        .error (.refused (.conferenceNotFound id)) := by
      simp only [check, draft, draftSeat, approach, admits, if_true, loadVisible, load, hfind]
      rfl
    rw [hcheck]
    exact .here rfl
  | some row =>
    obtain ⟨_, rfl, _⟩ := Programme.find?_eq_some_iff_mem.1 hfind
    have hguest : (!principal.isUser row.hostId) = false ↔ principal.id = some row.hostId := by
      rw [Bool.not_eq_false', Principal.isUser_iff]
    -- the rules are put together from the last check to the first
    have hadmission : Rule.Enforces
        (⟨principal.id = some row.hostId, .hostCannotRegister⟩ ::
          office.admissionRules userId row now) ()
        (Failure.require (!principal.isUser row.hostId) .hostCannotRegister >>= fun _ =>
          office.admission (some userId) row now) :=
      .require_bind hguest (admission_enforces regular hfind aware userId)
    have hview : Rule.Enforces
        (⟨principal.sees row = false, .notYourConference row.id⟩ ::
          ⟨principal.id = some row.hostId, .hostCannotRegister⟩ ::
            office.admissionRules userId row now) ()
        (principal.checkView row >>= fun _ =>
          Failure.require (!principal.isUser row.hostId) .hostCannotRegister >>= fun _ =>
            office.admission (some userId) row now) := .require_bind Iff.rfl hadmission
    have hcheck := check_register_eq admits hfind principal now
    rw [hnamed] at hcheck
    rw [hcheck]
    rw [Option.elim_some]
    exact .later (Option.some_ne_none row) (hview.map fun _ => Change.register (some userId) row.id)

/-- Who broke no rule of the admission is not turned away by the roll. -/
lemma exists_add_of_allKept (regular : office.programme.IsRegular)
    (hfind : office.programme.find? row.id = some row) (aware : now.isAware = true)
    (hkept : Rule.AllKept (office.admissionRules userId row now)) (time : Timestamp) :
    ∃ roll, office.roll.add office.programme ⟨row.id, userId, time⟩ = .ok roll ∧
      roll.rows = office.roll.rows ++ [⟨row.id, userId, time⟩] := by
  have hadmitted := (admission_enforces regular hfind aware userId).eq_ok hkept
  have hverdict := verdict (Programme.isComparable_of_aware regular.aware) hfind
    (admission_ahead hadmitted) userId time
  rw [hadmitted] at hverdict
  generalize office.roll.add office.programme ⟨row.id, userId, time⟩ = added at hverdict
  cases hverdict with
  | seated _ _ _ hrows => exact ⟨_, rfl, hrows⟩

/--
The roll and the admission say the same about every registration for a live conference before its
end. So, after any run, who asks for a seat is told the first of the seven rules that is broken, and
gets the seat if none is.
-/
theorem roll_agrees_with_admission :
    (∀ (office : Office) (row : Conference) (userId : String) (time now : Timestamp),
      office.programme.IsComparable → office.programme.find? row.id = some row →
      now.before? row.window.endsAt = some true →
        Verdict office row ⟨row.id, userId, time⟩
          (office.roll.add office.programme ⟨row.id, userId, time⟩)
          (office.admission (some userId) row now)) ∧
    ∀ (start : Office) (t : Traffic) (principal : Principal) (userId id : String)
      (checkedAt writtenAt : Timestamp), start.programme = .empty →
      Traffic.AwareRun (.quiet start) t → t.office.policy.checksAdmission = true →
      principal.id = some userId → checkedAt.isAware = true →
        (∃ refusal, Rule.First (t.office.seatRules principal userId id checkedAt) refusal ∧
          t.office.serve ⟨principal, .register id, checkedAt, writtenAt⟩ =
            (.error (.refused refusal), t.office)) ∨
        Rule.AllKept (t.office.seatRules principal userId id checkedAt) ∧
          ∃ roll, roll.rows = t.office.roll.rows ++ [⟨id, userId, writtenAt⟩] ∧
            t.office.serve ⟨principal, .register id, checkedAt, writtenAt⟩ =
              { t.office with roll }.announce ⟨writtenAt, id, .registered userId⟩ .done := by
  constructor
  · intro office row userId time now comparable hfind hahead
    exact verdict comparable hfind hahead userId time
  · intro start t principal userId id checkedAt writtenAt hempty hrun admits hnamed aware
    have regular : t.office.programme.IsRegular :=
      ⟨hrun.run.sound hempty, (hrun.aware hempty).rows⟩
    have hcheck := register_enforces regular admits hnamed aware id
    rw [serve]
    generalize t.office.check principal (.register id) checkedAt = checked at hcheck
    cases hcheck with
    | refused hfirst => exact .inl ⟨_, hfirst, rfl⟩
    | passed hkept =>
      refine .inr ⟨hkept, ?_⟩
      -- what keeps all rules is admitted, and what is admitted is enrolled
      rw [seatRules] at hkept
      obtain ⟨hfound, hrest⟩ := List.forall_mem_cons.1 hkept
      obtain ⟨row, hfind⟩ := Option.ne_none_iff_exists'.1 hfound
      obtain ⟨_, rfl, _⟩ := Programme.find?_eq_some_iff_mem.1 hfind
      rw [hfind, Option.elim_some] at hrest
      obtain ⟨_, hrest⟩ := List.forall_mem_cons.1 hrest
      obtain ⟨_, hadmission⟩ := List.forall_mem_cons.1 hrest
      obtain ⟨roll, hadd, hrows⟩ := exists_add_of_allKept regular hfind aware hadmission writtenAt
      refine ⟨roll, hrows, ?_⟩
      simp only [commitChecked, commit, commitSeat, hadd]

/-- Ann has a seat at the talk and gets no second one, and Dan gets one. -/
theorem roll_agrees_with_admission_of_series :
    let office := (start .standard (.scripted [])).serveAll series
    let talk := IdSource.numbered 1
    (∃ row, office.programme.find? talk = some row ∧
      Verdict office row ⟨row.id, "ann", .hour 1⟩
        (office.roll.add office.programme ⟨row.id, "ann", .hour 1⟩)
        (office.admission (some "ann") row (.hour 1))) ∧
      ∃ roll, roll.rows = office.roll.rows ++ [⟨talk, "dan", .hour 2⟩] ∧
        office.serve ⟨⟨some "dan", some .user⟩, .register talk, .hour 1, .hour 2⟩ =
          { office with roll }.announce ⟨.hour 2, talk, .registered "dan"⟩ .done := by
  intro office talk
  have hrun := awareRun_serveAll (start .standard (.scripted [])) series (by decide)
  constructor
  · obtain ⟨row, hfind⟩ : ∃ row, office.programme.find? talk = some row :=
      Option.isSome_iff_exists.1 rfl
    obtain ⟨_, hid, _⟩ := Programme.find?_eq_some_iff_mem.1 hfind
    refine ⟨row, hfind, ?_⟩
    rw [← hid] at hfind
    have comparable : office.programme.IsComparable := by
      unfold Programme.IsComparable
      decide +kernel
    have hahead : ∀ row ∈ office.programme.rows,
        (Timestamp.hour 1).before? row.window.endsAt = some true := by decide +kernel
    exact roll_agrees_with_admission.1 office row "ann" (.hour 1) (.hour 1) comparable hfind
      (hahead row (Programme.mem_of_find? hfind))
  · have hserved : (office.serve
        ⟨⟨some "dan", some .user⟩, .register talk, .hour 1, .hour 2⟩).1 = .ok .done := rfl
    obtain ⟨refusal, _, hserve⟩ | ⟨_, hseated⟩ := roll_agrees_with_admission.2 _ _
      ⟨some "dan", some .user⟩ "dan" talk (.hour 1) (.hour 2) rfl hrun rfl rfl rfl
    · have herror := congrArg Prod.fst hserve
      cases hserved.symm.trans herror
    · exact hseated

end Office

end Symposium
