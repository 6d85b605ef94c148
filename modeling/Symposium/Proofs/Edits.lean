import Symposium.Proofs.Listings
import Symposium.Proofs.Requirements

/-!
# What an edit changes

An edit is the host's business, and it is refused by the first of eight rules that is broken, the
last four of which are about a window that moves. An approved row is looked at once more when it is
written, but its window did not move and so meets no other booked one. Main statement: an edit that
breaks no rule gives the members that were sent their new values, stamps the row, and changes
nothing else.
-/

namespace Symposium

/-- An object with other values of its members, each made of its name and its value. -/
def Json.mapMembers (f : String → Json → Json) : Json → Json
  | .obj members => .obj (members.map fun (name, value) => (name, f name value))
  | json => json

namespace Edit

variable {edit : Edit} {name : String}

/-- The value of a member of a row after an edit: what was sent, or else what it was. -/
def revise (edit : Edit) (now : Timestamp) (name : String) (value : Json) : Json :=
  if name ∈ edit.sentNames then edit.toJson.field name
  else if name = "updated_at" then Json.ofTimestamp now
  else value

/-- The names of the sent members are the names that are marked as sent. -/
lemma mem_sentNames_iff : name ∈ edit.sentNames ↔ (name, true) ∈ edit.sentMembers := by
  simp [sentNames]

/-- A value is shown as the new one if that was sent, and as the old one otherwise. -/
lemma shown_getD {α : Type} {sent : Option α} {kept : α} {display : α → Json} {new : Json}
    (hnew : ∀ a ∈ sent, new = display a) :
    display (sent.getD kept) = if sent.isSome = true then new else display kept := by
  cases sent with
  | none => rfl
  | some a => exact (hnew a rfl).symm

/-- The row that an edit writes is the old one with the sent members and the stamp revised. -/
lemma toJson_stamped_applyTo (edit : Edit) (row : Conference) (now : Timestamp) :
    (Programme.stamped (edit.applyTo row) now).toJson =
      row.toJson.mapMembers (edit.revise now) := by
  have text {sent : Option String} {a : String} (ha : a ∈ sent) : Json.ofText? sent = .str a :=
    congrArg Json.ofText? ha
  have time {sent : Option Timestamp} {a : Timestamp} (ha : a ∈ sent) :
      Json.ofTimestamp? sent = Json.ofTimestamp a := congrArg Json.ofTimestamp? ha
  -- what is left is one equation for each member that can be sent
  simp only [Conference.toJson, Programme.stamped, applyTo, applyToTalk, applyToWindow,
    Talk.members, List.cons_append, List.nil_append, Window.members, Json.mapMembers, revise,
    mem_sentNames_iff, sentMembers, List.mem_cons, Prod.mk.injEq, Bool.true_eq, List.not_mem_nil,
    or_false, List.map_cons, String.reduceEq, false_and, or_self, ↓reduceIte, true_and, false_or,
    List.map_nil, Json.obj.injEq, List.cons.injEq, and_true]
  refine ⟨shown_getD fun _ => text, shown_getD fun _ => text, shown_getD fun _ => text,
    shown_getD fun _ => text, shown_getD fun _ => text, shown_getD fun _ ha => ?_,
    shown_getD fun _ => time, shown_getD fun _ => time⟩
  exact congrArg (fun sent => Json.ofText? sent.join) ha

end Edit

/-- The rules of an edit of a conference that depend on nothing else, in their order. -/
def Conference.editRules (c : Conference) (edit : Edit) (now : Timestamp) : List Rule :=
  [⟨c.window.endsAt.instant ≤ now.instant, .updatePastConference⟩,
    ⟨c.status = .rejected, .updateRejectedConference⟩] ++
    if edit.movesWindow = true then
      [⟨c.status = .approved, .updateApprovedTimeWindow⟩] ++
        (edit.applyToWindow c.window).futureRules now
    else []

/-- The check of an edit refuses by the first of its rules that is broken. -/
lemma Conference.checkEdit_enforces {c : Conference} {edit : Edit} {now : Timestamp}
    (hrow : c.window.isAware = true) (hmerged : (edit.applyToWindow c.window).isAware = true)
    (hnow : now.isAware = true) :
    Rule.Enforces (c.editRules edit now) () (c.checkEdit edit now) := by
  have hends := (Bool.and_eq_true_iff.1 hrow).2
  have hstatus : ∀ status, (c.status != status) = false ↔ c.status = status :=
    fun _ => bne_eq_false_iff_eq
  rw [checkEdit, Timestamp.isBefore_of_aware hnow hends]
  refine .require_bind ?_ (.require_bind (hstatus _) ?_)
  · rw [decide_eq_false_iff_not, Int.not_lt]
  · split
    · exact .require_bind (hstatus _) (Window.checkFuture_enforces hmerged hnow)
    · exact .passed Rule.allKept_nil

namespace Office

variable {office : Office} {row : Conference} {edit : Edit} {principal : Principal} {id : String}
  {now : Timestamp}

/-- The rules of an edit of a conference that the host makes, in their order. -/
def revisionRules (office : Office) (row : Conference) (edit : Edit) (now : Timestamp) :
    List Rule :=
  row.editRules edit now ++
    if edit.movesWindow = true then
      [office.freeRule (edit.applyToWindow row.window) (some row.id)]
    else []

/-- The rules of an edit, in their order. -/
def editRules (office : Office) (principal : Principal) (id : String) (edit : Edit)
    (now : Timestamp) : List Rule :=
  office.liveRules id fun row =>
    ⟨principal.id ≠ some row.hostId, .notYourConference id⟩ :: office.revisionRules row edit now

/-- An edit is checked for its conference, its author and its effect, in this order. -/
lemma check_edit_eq (office : Office) (principal : Principal) (id : String) (edit : Edit)
    (now : Timestamp) :
    office.check principal (.edit id edit) now = (do
      let row ← office.load id
      Failure.require (principal.isUser row.hostId) (.notYourConference id)
      office.reviewEdit row edit now) := by
  simp only [check, draft, draftEdit, bind_assoc, pure_bind, review]

/-- The review of an edit refuses by the first of its rules that is broken. -/
lemma reviewEdit_enforces (regular : office.programme.IsRegular) (detects : office.Detects)
    (hrow : row ∈ office.programme.rows)
    (times : ∀ t ∈ (Operation.edit id edit).times, t.isAware = true) (hnow : now.isAware = true) :
    Rule.Enforces (office.revisionRules row edit now) (.edit (edit.applyTo row) edit.sentNames now)
      (office.reviewEdit row edit now) := by
  have aware := regular.aware row hrow
  have hmerged := Edit.isAware_applyToWindow aware times
  refine (Conference.checkEdit_enforces aware hmerged hnow).bind fun hkept => ?_
  split
  · next hmoves =>
    rw [Conference.editRules, if_pos hmoves] at hkept
    obtain ⟨_, hmoved⟩ := Rule.allKept_append.1 hkept
    obtain ⟨_, hfuture⟩ := Rule.allKept_append.1 hmoved
    have hcompares := regular.compares hmerged (Window.isOrdered_of_allKept hmerged hfuture)
    have hfree := detects.checkFree_enforces hcompares (some row.id)
    exact hfree.map fun _ => Change.edit (edit.applyTo row) edit.sentNames now
  · exact .passed Rule.allKept_nil

/-- Who edits a conference is told the first rule that is broken. -/
lemma edit_enforces (regular : office.programme.IsRegular) (detects : office.Detects)
    (times : ∀ t ∈ (Operation.edit id edit).times, t.isAware = true) (hnow : now.isAware = true)
    (principal : Principal) :
    ∃ change, (∀ row, office.programme.find? id = some row →
        change = .edit (edit.applyTo row) edit.sentNames now) ∧
      Rule.Enforces (office.editRules principal id edit now) change
        (office.check principal (.edit id edit) now) := by
  rw [check_edit_eq]
  refine load_bind_enforces fun row hfind => .require_bind ?_ ?_
  · rw [Ne, ← Principal.isUser_iff, Bool.not_eq_true]
  · exact reviewEdit_enforces regular detects (Programme.mem_of_find? hfind) times hnow

/--
Whether a result is that of an edit: the sent members of a row have their new values, the row is
stamped, and one more entry names the sent members in order. Nothing else has changed.
-/
def Edited (office : Office) (actorId : Option String) (id : String) (edit : Edit)
    (now : Timestamp) (result : Except Failure Outcome × Office) : Prop :=
  ∃ row edited, office.programme.find? id = some row ∧
    edited = Programme.stamped (edit.applyTo row) now ∧
    edited.toJson = row.toJson.mapMembers (edit.revise now) ∧
    edit.sentNames.Pairwise (fun a b => Text.before a b = true) ∧
    Announced { office with programme := office.programme.put edited }
      (.changed (office.card edited))
      ⟨id, .updated, actorId, now, [("changed_fields", .arr (edit.sentNames.map .str))]⟩ result

/-- An edit that was allowed is written and announced. -/
lemma edited_commit (hsound : office.programme.Sound) (never : office.bus.NeverFails)
    (hfind : office.programme.find? row.id = some row)
    (hallowed : row.checkEdit edit now = .ok ()) :
    office.Edited (some row.hostId) row.id edit now
      (office.commit now (.edit (edit.applyTo row) edit.sentNames now)) := by
  have hfree := checkOverlap_of_edit hsound hfind hallowed
  exact ⟨row, _, hfind, rfl, edit.toJson_stamped_applyTo row now, edit.pairwise_sentNames,
    announced_commitRow never hfind hfree rfl⟩

/-- An edit that breaks no rule is carried out. -/
lemma edited_of_allKept (regular : office.programme.IsRegular) (detects : office.Detects)
    (never : office.bus.NeverFails)
    (times : ∀ t ∈ (Operation.edit id edit).times, t.isAware = true) (hnow : now.isAware = true)
    (hkept : Rule.AllKept (office.editRules principal id edit now)) :
    office.Edited principal.id id edit now (office.perform principal (.edit id edit) now) := by
  obtain ⟨change, hchange, henforces⟩ := edit_enforces regular detects times hnow principal
  obtain ⟨row, hfind, hrules⟩ := allKept_liveRules_iff.1 hkept
  obtain ⟨hrow, rfl, _⟩ := Programme.find?_eq_some_iff_mem.1 hfind
  obtain ⟨hhost, hrevision⟩ := Rule.allKept_cons.1 hrules
  have aware := regular.aware row hrow
  have hmerged := Edit.isAware_applyToWindow aware times
  have hallowed := (Conference.checkEdit_enforces aware hmerged hnow).eq_ok
    (Rule.allKept_append.1 hrevision).1
  rw [perform_of_check_ok (henforces.eq_ok hkept), hchange row hfind, not_not.1 hhost]
  exact edited_commit regular.sound never hfind hallowed

/-- An edit that was made answers with the card. -/
lemma Edited.exists_changed {actorId : Option String} {result : Except Failure Outcome × Office}
    (h : office.Edited actorId id edit now result) : ∃ card, result.1 = .ok (.changed card) := by
  obtain ⟨_, edited, _, _, _, _, hannounced⟩ := h
  exact ⟨office.card edited, hannounced.fst_eq⟩

/-- A conference that is approved and not over may be edited, as long as its window stays. -/
lemma allKept_revisionRules (happroved : row.status = .approved)
    (hends : now.instant < row.window.endsAt.instant) (hstays : edit.movesWindow = false) :
    Rule.AllKept (office.revisionRules row edit now) := by
  have hmoves : ¬ edit.movesWindow = true := Bool.eq_false_iff.1 hstays
  rw [revisionRules, Conference.editRules, if_neg hmoves, if_neg hmoves, List.append_nil,
    List.append_nil]
  refine Rule.allKept_cons.2 ⟨Int.not_le.2 hends, Rule.allKept_cons.2 ⟨?_, Rule.allKept_nil⟩⟩
  intro hrejected
  cases happroved.symm.trans hrejected

/--
After any run, who edits a conference is told the first of the rules that is broken, and nothing
changes; if none is, the edit is carried out and changes nothing but what was sent. So the host of
an approved conference that is not over can edit all but its window.
-/
theorem edits_change_what_was_sent {start : Office} {t : Traffic}
    (hempty : start.programme = .empty) (hrun : Traffic.AwareRun (.quiet start) t)
    (detects : t.office.Detects) (never : t.office.bus.NeverFails) (principal : Principal)
    (id : String) (edit : Edit) (now : Timestamp) (hnow : now.isAware = true)
    (times : ∀ time ∈ (Operation.edit id edit).times, time.isAware = true) :
    let rules := t.office.editRules principal id edit now
    let result := t.office.perform principal (.edit id edit) now
    ((∃ refusal, Rule.First rules refusal ∧ result = (.error (.refused refusal), t.office)) ∨
      Rule.AllKept rules ∧ t.office.Edited principal.id id edit now result) ∧
    ∀ row, t.office.programme.find? id = some row → principal.id = some row.hostId →
      row.status = .approved → now.instant < row.window.endsAt.instant →
      edit.movesWindow = false → ∃ card, result.1 = .ok (.changed card) := by
  intro rules result
  have regular := hrun.isRegular hempty
  constructor
  · obtain ⟨_, _, henforces⟩ := edit_enforces regular detects times hnow principal
    exact (perform_cases henforces).imp_right fun h =>
      ⟨h.1, edited_of_allKept regular detects never times hnow h.1⟩
  · intro row hfind hhost happroved hends hstays
    refine (edited_of_allKept regular detects never times hnow ?_).exists_changed
    exact allKept_liveRules_iff.2 ⟨row, hfind, Rule.allKept_cons.2
      ⟨not_not.2 hhost, allKept_revisionRules happroved hends hstays⟩⟩

/-- The host gives an approved talk of the series another title, and it is announced. -/
theorem edits_change_what_was_sent_of_series :
    let office := (start .standard (.scripted [])).serveAll series
    let alice : Principal := ⟨some "alice", some .user⟩
    let talk := IdSource.numbered 1
    let retitle : Edit := { (default : Edit) with title := "Lean" }
    let result := office.perform alice (.edit talk retitle) (.hour 1)
    (∃ row ∈ office.programme.find? talk, row.status = .approved) ∧
      retitle.sentNames = ["title"] ∧
      office.Edited (some "alice") talk retitle (.hour 1) result ∧
      ∃ card, result.1 = .ok (.changed card) := by
  intro office alice talk retitle result
  have hrun := awareRun_serveAll (start .standard (.scripted [])) series (by decide)
  obtain ⟨hcases, htext⟩ := edits_change_what_was_sent rfl hrun ⟨rfl, by decide⟩
    Bus.chroniclesOnce_standard.never alice talk retitle (.hour 1) rfl (by decide)
  obtain ⟨row, hfind⟩ : ∃ row, office.programme.find? talk = some row :=
    Option.isSome_iff_exists.1 rfl
  have hall : ∀ row ∈ office.programme.find? talk, row.hostId = "alice" ∧
      row.status = .approved ∧ (Timestamp.hour 1).instant < row.window.endsAt.instant := by
    decide +kernel
  obtain ⟨hhost, happroved, hends⟩ := hall row hfind
  obtain ⟨card, hcard⟩ := htext row hfind (by rw [hhost]) happroved hends rfl
  refine ⟨⟨row, hfind, happroved⟩, by decide, ?_, card, hcard⟩
  obtain ⟨refusal, _, hrefused⟩ | ⟨_, hedited⟩ := hcases
  · cases (congrArg Prod.fst hrefused).symm.trans hcard
  · exact hedited

end Office

end Symposium
