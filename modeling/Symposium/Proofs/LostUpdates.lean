import Symposium.Proofs.History
import Symposium.Proofs.Races
import Symposium.Proofs.Rewrites

/-!
# Lost updates

An edit and a decision put a whole row, made of the one that they were checked on. When two calls on
a conference cross, the later write takes the earlier one back, unless it `Spares` it; a withdrawal
loads the row once more and takes nothing back. Main statement: what two calls that succeed leave is
what they leave one after the other exactly if the late one spares the other, or the other one would
leave the row alone if it came second.
-/

namespace Symposium

namespace Edit

variable {edit other : Edit} {c : Conference}

/-- If one value leaves nothing of the other, the other leaves it alone. -/
lemma getD_comm {α : Type} {sent sent' : Option α} {a : α}
    (h : sent.getD (sent'.getD a) = sent'.getD a) : sent'.getD (sent.getD a) = sent'.getD a := by
  cases sent' with
  | none => exact h
  | some _ => rfl

/-- An edit changes nothing if it does so to the talk and to the window. -/
lemma applyTo_eq_self_iff :
    edit.applyTo c = c ↔
      edit.applyToTalk c.talk = c.talk ∧ edit.applyToWindow c.window = c.window := by
  constructor
  · intro h
    exact ⟨congrArg Conference.talk h, congrArg Conference.window h⟩
  · rintro ⟨htalk, hwindow⟩
    rw [applyTo, htalk, hwindow]

/-- An edit leaves nothing of another one if it does so in the talk and in the window. -/
lemma applyTo_applyTo_eq_iff :
    edit.applyTo (other.applyTo c) = edit.applyTo c ↔
      edit.applyToTalk (other.applyToTalk c.talk) = edit.applyToTalk c.talk ∧
        edit.applyToWindow (other.applyToWindow c.window) = edit.applyToWindow c.window := by
  constructor
  · intro h
    exact ⟨congrArg Conference.talk h, congrArg Conference.window h⟩
  · rintro ⟨htalk, hwindow⟩
    rw [applyTo, applyTo, applyTo, htalk, hwindow]

/-- An edit that changes nothing after another one leaves no trace before it. -/
lemma applyTo_comm (h : edit.applyTo (other.applyTo c) = other.applyTo c) :
    other.applyTo (edit.applyTo c) = other.applyTo c := by
  simp only [applyTo, applyToTalk, applyToWindow, Conference.mk.injEq, Talk.mk.injEq,
    Window.mk.injEq, true_and, and_true] at h ⊢
  obtain ⟨⟨htitle, hdescription, hname, hspeaker, haudience, hprerequisites⟩, hstart, hend⟩ := h
  exact ⟨⟨getD_comm htitle, getD_comm hdescription, getD_comm hname, getD_comm hspeaker,
    getD_comm haudience, getD_comm hprerequisites⟩, getD_comm hstart, getD_comm hend⟩

/-- An edit that is allowed leaves a conference that is not over. -/
lemma before?_endsAt_applyTo {now : Timestamp} (h : c.checkEdit edit now = .ok ()) :
    now.before? (edit.applyTo c).window.endsAt = some true := by
  obtain ⟨hopen, _, hmove⟩ := Conference.checkEdit_eq_ok_iff.1 h
  cases hmoves : edit.movesWindow with
  | true =>
    obtain ⟨hahead, hordered⟩ := Window.checkFuture_eq_ok_iff.1 (hmove hmoves).2
    exact Window.before?_endsAt hordered hahead
  | false =>
    show now.before? (edit.applyToWindow c.window).endsAt = some true
    rwa [applyToWindow_of_not_movesWindow hmoves]

end Edit

namespace Office

variable {office : Office} {a b : Call} {row written last : Conference} {ca cb : Change}

/--
A call that was checked on the row of a conference takes nothing back of another one that was
checked on it too and was written first.
-/
inductive Spares (row : Conference) (earlier later : Call) : Prop where
  | withdrawal :
    later.operation = .withdraw row.id →
    Spares row earlier later
  /-- The earlier edit changes nothing, and the other call only changes the status. -/
  | emptyEdit {edit status} :
    earlier.operation = .edit row.id edit →
    later.operation = .decide row.id status →
    edit.applyTo row = row →
    Spares row earlier later
  /-- The later edit leaves nothing of the earlier one, which did not end the conference. -/
  | edits {edit edit'} :
    earlier.operation = .edit row.id edit →
    later.operation = .edit row.id edit' →
    edit'.applyTo (edit.applyTo row) = edit'.applyTo row →
    later.now.before? (edit.applyTo row).window.endsAt = some true →
    Spares row earlier later

section Rows

variable (ha : a.operation.target? = some row.id) (hb : b.operation.target? = some row.id)
  (hallowed : a.operation.IsAllowed a.now row)
  (hwritten : a.operation.rewrite? a.now row = some written) (hlive : written.isLive = true)
  (hlast : b.operation.rewrite? b.now row = some last)

include ha hb hallowed hwritten hlive hlast

/-- The late call takes nothing back if it makes the row that it writes of the written one, too. -/
lemma Spares.of_after (hopen : b.operation.IsAllowed b.now written)
    (hagain : b.operation.rewrite? b.now written = some last) : Spares row a b := by
  obtain ⟨edit', hb⟩ | ⟨status', hb⟩ | hb := Operation.target?_eq_some_iff.1 hb
  · rw [hb] at hlast hopen hagain
    obtain ⟨edit, ha⟩ | ⟨status, ha⟩ | ha := Operation.target?_eq_some_iff.1 ha
    · rw [ha] at hwritten
      cases hwritten
      have hrow := Option.some.inj (hagain.trans hlast.symm)
      have hahead := (Conference.checkEdit_eq_ok_iff.1 hopen).1
      refine .edits ha hb (Edit.applyTo_applyTo_eq_iff.2 ?_) hahead
      exact ⟨congrArg Conference.talk hrow, congrArg Conference.window hrow⟩
    · -- the late edit takes a decision back
      rw [ha] at hallowed hwritten
      cases hwritten
      obtain ⟨hpending, hdecided, _⟩ := Conference.checkDecision_eq_ok_iff.1 hallowed
      have hstatus := congrArg Conference.status (Option.some.inj (hagain.trans hlast.symm))
      exact absurd (hstatus.trans hpending) hdecided
    · rw [ha] at hwritten
      cases hwritten
      cases hlive
  · rw [hb] at hlast hopen hagain
    obtain ⟨edit, ha⟩ | ⟨status, ha⟩ | ha := Operation.target?_eq_some_iff.1 ha
    · rw [ha] at hwritten
      cases hwritten
      have hrow := Option.some.inj (hagain.trans hlast.symm)
      refine .emptyEdit ha hb (Edit.applyTo_eq_self_iff.2 ?_)
      exact ⟨congrArg Conference.talk hrow, congrArg Conference.window hrow⟩
    · -- a conference is not decided about twice
      rw [ha] at hallowed hwritten
      cases hwritten
      obtain ⟨_, hdecided, _⟩ := Conference.checkDecision_eq_ok_iff.1 hallowed
      exact absurd (Conference.checkDecision_eq_ok_iff.1 hopen).1 hdecided
    · rw [ha] at hwritten
      cases hwritten
      cases hlive
  · exact .withdrawal hb

/-- The late call takes nothing back if the other one changes nothing of the row that it writes. -/
lemma Spares.of_before (hallowed' : b.operation.IsAllowed b.now row)
    (hopen : a.operation.IsAllowed a.now last)
    (hagain : a.operation.rewrite? a.now last = some last) : Spares row a b := by
  obtain ⟨edit', hb⟩ | ⟨status', hb⟩ | hb := Operation.target?_eq_some_iff.1 hb
  · rw [hb] at hallowed' hlast
    cases hlast
    obtain ⟨edit, ha⟩ | ⟨status, ha⟩ | ha := Operation.target?_eq_some_iff.1 ha
    · rw [ha] at hallowed hagain
      have hrow := Option.some.inj hagain
      -- the row keeps its stamp only if both calls were made at the same time
      have hnow : a.now = b.now := congrArg Conference.updatedAt hrow
      refine .edits ha hb (Edit.applyTo_comm (Edit.applyTo_eq_self_iff.2 ?_)) ?_
      · exact ⟨congrArg Conference.talk hrow, congrArg Conference.window hrow⟩
      · exact hnow ▸ Edit.before?_endsAt_applyTo hallowed
    · rw [ha] at hallowed hagain
      obtain ⟨hpending, hdecided, _⟩ := Conference.checkDecision_eq_ok_iff.1 hallowed
      have hstatus := congrArg Conference.status (Option.some.inj hagain)
      exact absurd (hstatus.trans hpending) hdecided
    · rw [ha] at hwritten
      cases hwritten
      cases hlive
  · rw [hb] at hallowed' hlast
    cases hlast
    obtain ⟨edit, ha⟩ | ⟨status, ha⟩ | ha := Operation.target?_eq_some_iff.1 ha
    · rw [ha] at hagain
      have hrow := Option.some.inj hagain
      refine .emptyEdit ha hb (Edit.applyTo_eq_self_iff.2 ?_)
      exact ⟨congrArg Conference.talk hrow, congrArg Conference.window hrow⟩
    · rw [ha] at hopen
      obtain ⟨_, hdecided, _⟩ := Conference.checkDecision_eq_ok_iff.1 hallowed'
      exact absurd (Conference.checkDecision_eq_ok_iff.1 hopen).1 hdecided
    · rw [ha] at hwritten
      cases hwritten
      cases hlive
  · exact .withdrawal hb

end Rows

/-- Two calls were checked on the same row, one was written, and then the other one. -/
structure Crosses (office : Office) (a b : Call) (row : Conference) (ca cb : Change)
    (written last : Conference) : Prop where
  found : office.programme.find? row.id = some row
  earlier : office.Passes a row ca
  later : office.Passes b row cb
  rewrites : ca.rewrite? a.now row = some written
  id_eq : written.id = row.id
  live : written.isLive = true
  after : (office.after a).programme = office.programme.put written
  again : cb.rewrite? b.now written = some last
  late : (office.commitLate a b).2.programme = (office.after a).programme.put last
  ok : ∃ outcome, (office.commitLate a b).1 = .ok outcome

/-- Two calls on a conference that cross, if both succeed. -/
lemma Crosses.of_ok {id : String} {outcome outcome' : Outcome}
    (ha : a.operation.target? = some id) (hb : b.operation.target? = some id)
    (hfirst : office.answer a = .ok outcome)
    (hsecond : (office.commitLate a b).1 = .ok outcome') :
    ∃ row ca cb written last, row.id = id ∧ office.Crosses a b row ca cb written last := by
  cases hcheck : office.checked b with
  | error failure =>
    rw [commitLate, hcheck] at hsecond
    cases hsecond
  | ok cb =>
    obtain ⟨row, hfind, hlater⟩ := Passes.of_check hb hcheck
    obtain ⟨_, hid, _⟩ := Programme.find?_eq_some_iff_mem.1 hfind
    subst hid
    have hlate : office.commitLate a b = (office.after a).commit b.now cb := by
      rw [commitLate, hcheck]
      rfl
    rw [hlate] at hsecond
    obtain ⟨_, failure, hfailure⟩ | ⟨row', ca, written, hfind', hearlier, hrewrites, hid, hafter⟩ :=
      after_cases office ha
    · rw [hfirst] at hfailure
      cases hfailure
    obtain rfl := Option.some.inj (hfind.symm.trans hfind')
    obtain ⟨_, failure, hfailure⟩ | ⟨found, last, hfound, hagain, _, hput⟩ :=
      hlater.commit_cases (office.after a)
    · rw [hsecond] at hfailure
      cases hfailure
    -- what the late call finds is the row that was written, which is still live then
    obtain ⟨hmem, hid', hlive⟩ := Programme.find?_eq_some_iff_mem.1 hfound
    rw [hafter] at hmem
    obtain rfl := Table.eq_of_key_eq hmem (Table.mem_rows_put.2 (.inl rfl)) (hid'.trans hid.symm)
    exact ⟨row, ca, cb, found, last, rfl, hfind, hearlier, hlater, hrewrites, hid, hlive, hafter,
      hagain, hlate ▸ hput, outcome', hlate ▸ hsecond⟩

namespace Crosses

variable (h : office.Crosses a b row ca cb written last)

include h

/-- The row that is written last has the id of the row that was loaded. -/
lemma last_id_eq : last.id = row.id := by
  have hagain := h.again
  cases h.later with
  | edit _ _ _ _ => cases hagain; rfl
  | decision _ _ _ _ => cases hagain; rfl
  | withdrawal _ _ => cases hagain; exact h.id_eq

/-- The row that is written first has the host of the row that was loaded. -/
lemma hostId_eq : written.hostId = row.hostId := by
  have hrewrites := h.rewrites
  cases h.earlier with
  | edit _ _ _ _ => cases hrewrites; rfl
  | decision _ _ _ _ => cases hrewrites; rfl
  | withdrawal _ _ => cases hrewrites; rfl

/-- What the late call leaves is the row that it writes. -/
lemma get?_late : (office.commitLate a b).2.programme.get? row.id = some last := by
  rw [h.late, ← h.last_id_eq]
  exact Table.get?_put_self last _

/-- What the earlier call leaves is the row that it writes. -/
lemma find?_after : (office.after a).programme.find? row.id = some written := by
  rw [h.after, ← h.id_eq]
  exact Programme.find?_put_iff.2 (.inl ⟨rfl, h.live⟩)

/-- What the late call writes it would have written without the other call. -/
lemma get?_after_later (hwithdraw : b.operation ≠ .withdraw row.id) :
    (office.after b).programme.get? row.id = some last := by
  obtain ⟨outcome, hok⟩ := h.ok
  have hcheck := h.later.check_eq h.found
  rw [Office.after, perform_of_check_ok hcheck]
  rw [commitLate, checked, hcheck] at hok
  have hagain := h.again
  cases h.later with
  | edit _ _ _ _ =>
    cases hagain
    exact get?_commitRow hok h.after h.id_eq h.found
  | decision _ _ _ _ =>
    cases hagain
    exact get?_commitRow hok h.after h.id_eq h.found
  | withdrawal hoperation _ => exact absurd hoperation hwithdraw

/-- Unless it is a withdrawal, the late call makes what it writes of the row that it has loaded. -/
lemma rewrites_later (hwithdraw : b.operation ≠ .withdraw row.id) :
    b.operation.rewrite? b.now row = some last :=
  (h.later.rewrite?_of_ne hwithdraw written).symm.trans h.again

/-- The earlier call makes its row of the one that was loaded. -/
lemma rewrites_earlier : a.operation.rewrite? a.now row = some written :=
  h.earlier.rewrite?_eq.symm.trans h.rewrites

/-- A late call that takes nothing back passes its checks on the row that was written. -/
lemma later_passes (hspares : Spares row a b) :
    ∃ change, (office.after a).Passes b written change ∧
      (office.after a).commit b.now change = (office.after a).commit b.now cb := by
  have hfree (window : Window) : (office.after a).checkFree window (some written.id) =
      office.checkFree window (some row.id) := by
    rw [h.id_eq]
    apply checkFree_congr (office.policy_after a)
    rw [h.after, Programme.booked_put h.id_eq]
  have hwritten := h.rewrites_earlier
  cases hspares with
  | withdrawal hb =>
    obtain ⟨rfl, hright⟩ := h.later.of_withdraw hb
    refine ⟨.withdraw b.principal.id written.id, .withdrawal ?_ ?_, ?_⟩
    · rw [hb, h.id_eq]
    · rwa [Principal.oversees, h.hostId_eq]
    · rw [h.id_eq]
  | emptyEdit ha hb hempty =>
    obtain ⟨rfl, hrole, hallowed, hbooked⟩ := h.later.of_decide hb
    rw [ha] at hwritten
    cases hwritten
    -- the row that was written differs from the one that was loaded in its stamp alone
    rw [hempty] at hfree ⊢
    refine ⟨_, .decision hb hrole hallowed ?_, rfl⟩
    intro happroved
    exact (hfree _).trans (hbooked happroved)
  | @edits edit edit' ha hb hsame hopen =>
    obtain ⟨rfl, hhost, hallowed, hbooked⟩ := h.later.of_edit hb
    rw [ha] at hwritten
    cases hwritten
    obtain ⟨_, hrejected, hmove⟩ := Conference.checkEdit_eq_ok_iff.1 hallowed
    have hrow : edit'.applyTo (Programme.stamped (edit.applyTo row) a.now) =
        Programme.stamped (edit'.applyTo row) a.now :=
      congrArg (Programme.stamped · a.now) hsame
    refine ⟨_, .edit hb hhost ?_ ?_, ?_⟩
    · apply Conference.checkEdit_eq_ok_iff.2
      rw [hrow]
      exact ⟨hopen, hrejected, hmove⟩
    · rw [hrow]
      intro hmoves
      exact (hfree _).trans (hbooked hmoves)
    · rw [hrow]
      exact commitRow_stamped _ _ _ _ _

/-- A late call that takes nothing back does what it does after the other one. -/
lemma commitLate_eq (hspares : Spares row a b) :
    office.commitLate a b = ((office.after a).answer b, (office.after a).after b) := by
  obtain ⟨change, hpasses, hcommit⟩ := h.later_passes hspares
  have hfind : (office.after a).programme.find? written.id = some written :=
    h.id_eq ▸ h.find?_after
  have hcheck := hpasses.check_eq hfind
  rw [commitLate, checked, h.later.check_eq h.found]
  show (office.after a).commit b.now cb = (office.after a).perform b.principal b.operation b.now
  rw [perform_of_check_ok hcheck, hcommit]

/-- If the calls in turn leave the same row, the late one spares the other or it fails in turn. -/
lemma spares_or_fails (hrow : ((office.after a).after b).programme.get? row.id = some last) :
    Spares row a b ∨
      written = last ∧ ∃ failure, (office.after a).answer b = .error failure := by
  by_cases hwithdraw : b.operation = .withdraw row.id
  · exact .inl (.withdrawal hwithdraw)
  obtain ⟨hsame, hfailure⟩ | ⟨found, change, last', hfind, hpasses, hrewrite, hid, hput⟩ :=
    after_cases (office.after a) h.later.target?_eq
  · -- the second call fails, so the row of the first one is what is left
    have hwritten := (Programme.find?_eq_some_iff.1 h.find?_after).1
    rw [hsame, hwritten] at hrow
    exact .inr ⟨Option.some.inj hrow, hfailure⟩
  · obtain rfl := Option.some.inj (h.find?_after.symm.trans hfind)
    rw [hput, ← hid, Table.get?_put_self] at hrow
    obtain rfl := Option.some.inj hrow
    exact .inl (.of_after h.earlier.target?_eq h.later.target?_eq h.earlier.isAllowed
      h.rewrites_earlier h.live (h.rewrites_later hwithdraw) hpasses.isAllowed
      (hpasses.rewrite?_eq.symm.trans hrewrite))

/-- If the calls the other way around leave the same row, the late one spares the other. -/
lemma spares_of_swapped {outcome : Outcome} (hok : (office.after b).answer a = .ok outcome)
    (hrow : ((office.after b).after a).programme.get? row.id = some last) : Spares row a b := by
  by_cases hwithdraw : b.operation = .withdraw row.id
  · exact .withdrawal hwithdraw
  obtain ⟨_, failure, hfailure⟩ | ⟨found, change, last', hfind, hpasses, hrewrite, hid, hput⟩ :=
    after_cases (office.after b) h.earlier.target?_eq
  · rw [hok] at hfailure
    cases hfailure
  · have hlast := h.get?_after_later hwithdraw
    obtain rfl := Option.some.inj (hlast.symm.trans (Programme.find?_eq_some_iff.1 hfind).1)
    rw [hput, ← hid, Table.get?_put_self] at hrow
    obtain rfl := Option.some.inj hrow
    exact .of_before h.earlier.target?_eq h.later.target?_eq h.earlier.isAllowed
      h.rewrites_earlier h.live (h.rewrites_later hwithdraw) h.later.isAllowed hpasses.isAllowed
      (hpasses.rewrite?_eq.symm.trans hrewrite)

/-- If the late call leaves the row that was written, the other one changes nothing after it. -/
lemma get?_swapped (hwithdraw : b.operation ≠ .withdraw row.id) (hsame : written = last) :
    ((office.after b).after a).programme.get? row.id = some last := by
  have hlast := h.get?_after_later hwithdraw
  obtain ⟨hnothing, _⟩ | ⟨found, change, last', hfind, hpasses, hrewrite, hid, hput⟩ :=
    after_cases (office.after b) h.earlier.target?_eq
  · rw [hnothing, hlast]
  · obtain rfl := Option.some.inj (hlast.symm.trans (Programme.find?_eq_some_iff.1 hfind).1)
    have hagain := Operation.rewrite?_idem h.rewrites_earlier
    rw [hsame, ← hpasses.rewrite?_eq, hrewrite] at hagain
    obtain rfl := Option.some.inj hagain
    rw [hput, ← hid]
    exact Table.get?_put_self last' _

/-- What is left is what the calls leave in one of the two orders in which both succeed. -/
lemma serialises_iff :
    ((office.after a).CarriesOut b ∧ ((office.after a).after b).programme.get? row.id = some last ∨
        office.CarriesOut b ∧ (office.after b).CarriesOut a ∧
          ((office.after b).after a).programme.get? row.id = some last) ↔ Spares row a b := by
  constructor
  · rintro (⟨⟨outcome, hok⟩, hrow⟩ | ⟨_, ⟨outcome, hok⟩, hrow⟩)
    · obtain hspares | ⟨_, failure, hfailure⟩ := h.spares_or_fails hrow
      · exact hspares
      · rw [hok] at hfailure
        cases hfailure
    · exact h.spares_of_swapped hok hrow
  · intro hspares
    have hserial := h.commitLate_eq hspares
    have hok := h.ok
    have hrow := h.get?_late
    rw [hserial] at hok hrow
    exact .inl ⟨hok, hrow⟩

/-- What is left is what the calls leave in one of the two orders, whether both succeed or not. -/
lemma leaves_iff :
    (((office.after a).after b).programme.get? row.id = some last ∨
        ((office.after b).after a).programme.get? row.id = some last) ↔
      Spares row a b ∨ ((office.after b).after a).programme.get? row.id =
        (office.after b).programme.get? row.id := by
  by_cases hwithdraw : b.operation = .withdraw row.id
  · have hspares : Spares row a b := .withdrawal hwithdraw
    have hrow := h.get?_late
    rw [h.commitLate_eq hspares] at hrow
    exact ⟨fun _ => .inl hspares, fun _ => .inl hrow⟩
  rw [h.get?_after_later hwithdraw]
  constructor
  · rintro (hrow | hrow)
    · obtain hspares | ⟨hsame, _⟩ := h.spares_or_fails hrow
      · exact .inl hspares
      · exact .inr (h.get?_swapped hwithdraw hsame)
    · exact .inr hrow
  · rintro (hspares | hrow)
    · have hrow := h.get?_late
      rw [h.commitLate_eq hspares] at hrow
      exact .inl hrow
    · exact .inr hrow

end Crosses

/-- The row of a conference after two calls, one after the other. -/
def rowInOrder (office : Office) (calls : Bool → Call) (first : Bool) (id : String) :
    Option Conference :=
  ((office.after (calls first)).after (calls !first)).programme.get? id

end Office

namespace Race

open Office

/-- The row of a conference after two calls that have taken their phases in turns. -/
def rowAfter (office : Office) (calls : Bool → Call) (turns : List Bool) (id : String) :
    Option Conference :=
  (run calls (start office) turns).office.programme.get? id

/-- One of two things is so exactly if the first or the last is. -/
lemma exists_iff_or {p : Bool → Prop} (last : Bool) : (∃ first, p first) ↔ p (!last) ∨ p last := by
  cases last <;> simp [or_comm]

/--
Two calls that rewrite the same conference take their phases in turns, and both succeed. What they
leave is what they leave in one of the two orders exactly if a call that writes late takes nothing
back, or the other one does nothing after it; and in one of the two orders in which both succeed
exactly if a call that writes late takes nothing back. Otherwise the row is the one that the late
call writes without the other one, unless it withdraws the conference.
-/
theorem calls_serialise_iff (office : Office) (calls : Bool → Call) (id : String)
    (htarget : ∀ i, (calls i).operation.target? = some id) (turns : List Bool)
    (hturns : turns.Perm [false, false, true, true])
    (hdone : ∀ i, (run calls (start office) turns).Succeeds i) :
    ∃ row, office.programme.find? id = some row ∧
      ((∃ first, rowAfter office calls turns id = office.rowInOrder calls first id) ↔
        ∀ late ∈ late? turns, Spares row (calls !late) (calls late) ∨
          office.rowInOrder calls late id = (office.after (calls late)).programme.get? id) ∧
      ((∃ first, office.CarriesOut (calls first) ∧
            (office.after (calls first)).CarriesOut (calls !first) ∧
            rowAfter office calls turns id = office.rowInOrder calls first id) ↔
        ∀ late ∈ late? turns, Spares row (calls !late) (calls late)) ∧
      ∀ late ∈ late? turns, (calls late).operation ≠ .withdraw id →
        rowAfter office calls turns id = (office.after (calls late)).programme.get? id := by
  unfold rowAfter
  obtain ⟨hlate, first, hfirst, hsecond, hoffice⟩ |
      ⟨last, hlate, ⟨_, hfirst⟩, ⟨_, hsecond⟩, hoffice⟩ := inTurn_or_crossed hturns hdone
  · -- one after the other
    have hnone {p : Bool → Prop} : ∀ late ∈ late? turns, p late := by
      rw [hlate]
      exact fun late h => absurd h (Option.not_mem_none late)
    obtain ⟨outcome, hok⟩ := hfirst
    obtain ⟨_, failure, hfailure⟩ | ⟨row, _, _, hfind, _⟩ :=
      after_cases office (htarget first)
    · rw [hok] at hfailure
      cases hfailure
    rw [hoffice]
    refine ⟨row, hfind, ?_, ?_, hnone⟩
    · exact ⟨fun _ => hnone, fun _ => ⟨first, rfl⟩⟩
    · exact ⟨fun _ => hnone, fun _ => ⟨first, ⟨outcome, hok⟩, hsecond, rfl⟩⟩
  · obtain ⟨row, ca, cb, written, final, rfl, h⟩ :=
      Crosses.of_ok (htarget !last) (htarget last) hfirst hsecond
    have hsome {p : Bool → Prop} : (∀ late ∈ late? turns, p late) ↔ p last := by
      rw [hlate]
      simp
    refine ⟨row, h.found, ?_⟩
    rw [hoffice, h.get?_late, hsome, hsome, hsome, exists_iff_or last, exists_iff_or last]
    simp only [rowInOrder, Bool.not_not, eq_comm (a := some final)]
    refine ⟨h.leaves_iff, ?_, h.get?_after_later⟩
    rw [← h.serialises_iff]
    have hfirst : office.CarriesOut (calls !last) := ⟨_, hfirst⟩
    simp only [hfirst, true_and]

/-- An office in which a conference waits for a decision. -/
def undecided : Office :=
  (Office.start .standard (.scripted [])).after (.propose "alice" (.hours 13 15))

/-- The host gives the conference a new title, and a coordinator approves it. -/
def contention : Bool → Call
  | false => .retitle "alice" (IdSource.numbered 1) "Evening"
  | true => .approve (IdSource.numbered 1)

/-- Both calls are on the first conference. -/
lemma target?_contention (i : Bool) :
    (contention i).operation.target? = some (IdSource.numbered 1) := by
  cases i <;> rfl

/-- Both calls succeed, as each was checked before the other was written. -/
lemma succeeds_contention (i : Bool) :
    (run contention (start undecided) [true, false, false, true]).Succeeds i := by
  cases i with
  | false => exact ⟨_, rfl⟩
  | true => exact ⟨_, rfl⟩

/-- What an approval that writes late leaves of a new title. -/
theorem calls_serialise_iff_of_contention :
    ∃ row, undecided.programme.find? (IdSource.numbered 1) = some row ∧
      ((∃ first, rowAfter undecided contention [true, false, false, true] (IdSource.numbered 1) =
          undecided.rowInOrder contention first (IdSource.numbered 1)) ↔
        ∀ late ∈ late? [true, false, false, true],
          Spares row (contention !late) (contention late) ∨
            undecided.rowInOrder contention late (IdSource.numbered 1) =
              (undecided.after (contention late)).programme.get? (IdSource.numbered 1)) := by
  obtain ⟨row, hfind, hleaves, _⟩ :=
    calls_serialise_iff undecided contention (IdSource.numbered 1) target?_contention
      [true, false, false, true] (by decide) succeeds_contention
  exact ⟨row, hfind, hleaves⟩

/--
Of two calls that both succeed, an approval that writes late takes a new title back, and a title
that is written late takes the approval back.
-/
theorem late_writes_undo :
    (Office.start .standard (.scripted [])).IsNew ∧
      (∀ i, (run contention (start undecided) [true, false, false, true]).Succeeds i) ∧
      (∀ first, rowAfter undecided contention [true, false, false, true] (IdSource.numbered 1) ≠
        undecided.rowInOrder contention first (IdSource.numbered 1)) ∧
      (∀ i, (run contention (start undecided) [false, true, true, false]).Succeeds i) ∧
      ∀ first, (rowAfter undecided contention [false, true, true, false] (IdSource.numbered 1)).map
          Conference.status = some .pending ∧
        (undecided.rowInOrder contention first (IdSource.numbered 1)).map Conference.status =
          some .approved := by
  refine ⟨isNew_start, succeeds_contention, ?_, ?_, ?_⟩
  · intro first h
    have htitle := congrArg (Option.map fun c : Conference => c.talk.title) h
    cases first with
    | false => exact absurd htitle (by decide)
    | true => exact absurd htitle (by decide)
  · intro i
    cases i with
    | false => exact ⟨_, rfl⟩
    | true => exact ⟨_, rfl⟩
  · intro first
    cases first with
    | false => exact ⟨rfl, rfl⟩
    | true => exact ⟨rfl, rfl⟩

end Race

end Symposium
