import Symposium.Proofs.Calls

/-!
# Calls that rewrite a conference

An edit, a decision and a withdrawal load the row of one conference, check it and leave another row
in its place. `Passes` says what such a call needs of the row that it loads and which change comes
out, in both directions; `Change.rewrite?` is the row that is left, also by a change that is
committed in another office than the one in which it was checked.
-/

namespace Symposium

/-- The conference that an operation rewrites. -/
def Operation.target? : Operation → Option String
  | .edit id _ => some id
  | .decide id _ => some id
  | .withdraw id => some id
  | _ => none

/-- The operations on a conference are its edits, the decisions about it and its withdrawal. -/
lemma Operation.target?_eq_some_iff {operation : Operation} {id : String} :
    operation.target? = some id ↔
      (∃ edit, operation = .edit id edit) ∨ (∃ status, operation = .decide id status) ∨
        operation = .withdraw id := by
  cases operation <;> simp [target?]

/-- The row that an operation makes of one. -/
def Operation.rewrite? (now : Timestamp) (row : Conference) : Operation → Option Conference
  | .edit _ changes => some (Programme.stamped (changes.applyTo row) now)
  | .decide _ status => some (Programme.stamped { row with status } now)
  | .withdraw _ => some { row with deletedAt := some now, updatedAt := now }
  | _ => none

/-- A row that was rewritten is left alone by the same operation at the same time. -/
lemma Operation.rewrite?_idem {operation : Operation} {now : Timestamp} {row written : Conference}
    (h : operation.rewrite? now row = some written) :
    operation.rewrite? now written = some written := by
  cases operation with
  | edit _ changes =>
    cases h
    have hagain := Edit.applyTo_applyTo changes row
    show some (Programme.stamped (changes.applyTo (changes.applyTo row)) now) = _
    rw [hagain]
  | decide _ _ => cases h; rfl
  | withdraw _ => cases h; rfl
  | _ => cases h

/-- Whether the lifecycle of a conference allows an operation. -/
def Operation.IsAllowed (now : Timestamp) (row : Conference) : Operation → Prop
  | .edit _ changes => row.checkEdit changes now = .ok ()
  | .decide _ status => row.checkDecision status now = .ok ()
  | _ => True

/-- The row that a change leaves in the place of the one that it finds. -/
def Change.rewrite? (now : Timestamp) (found : Conference) : Change → Option Conference
  | .edit row _ time => some (Programme.stamped row time)
  | .decide _ _ row time => some (Programme.stamped row time)
  | .withdraw _ _ => some { found with deletedAt := some now, updatedAt := now }
  | _ => none

namespace Programme

variable {programme : Programme} {row c : Conference}

/-- Putting a row leaves alone what is booked beside it. -/
lemma booked_put (hid : row.id = c.id) :
    booked (Table.put row programme) (some c.id) = programme.booked (some c.id) := by
  obtain ⟨rows, distinct⟩ := programme
  show (Table.putRow Conference.id row rows).filter _ = rows.filter _
  clear distinct
  induction rows with
  | nil => simp [Table.putRow, hid]
  | cons other rows ih =>
    by_cases hother : other.id = row.id
    · simp [Table.putRow, hother, hid]
    · simp only [Table.putRow, hother, if_false, List.filter_cons, ih]

/-- Putting a row leaves alone what its window is checked against. -/
lemma checkOverlap_put (hid : row.id = c.id) :
    checkOverlap (Table.put row programme) c = programme.checkOverlap c := by
  simp only [checkOverlap, booked_put hid]

end Programme

namespace Office

/-- A call passes its checks on the row that it has loaded. -/
inductive Passes (office : Office) (call : Call) (row : Conference) : Change → Prop where
  | edit {edit} :
    call.operation = .edit row.id edit →
    call.principal.id = some row.hostId →
    row.checkEdit edit call.now = .ok () →
    (edit.movesWindow = true →
      office.checkFree (edit.applyTo row).window (some row.id) = .ok ()) →
    Passes office call row (.edit (edit.applyTo row) edit.sentNames call.now)
  | decision {status} :
    call.operation = .decide row.id status →
    call.principal.isRestricted = false →
    row.checkDecision status call.now = .ok () →
    (status = .approved → office.checkFree row.window (some row.id) = .ok ()) →
    Passes office call row
      (.decide call.principal.id row.status { row with status } call.now)
  | withdrawal :
    call.operation = .withdraw row.id →
    call.principal.oversees row = true →
    Passes office call row (.withdraw call.principal.id row.id)

variable {office other : Office} {call : Call} {row : Conference} {change : Change} {id : String}
  {outcome : Outcome}

/-- A call on a conference that passes its checks does so on the row that is there. -/
lemma Passes.of_check (htarget : call.operation.target? = some id)
    (h : office.check call.principal call.operation call.now = .ok change) :
    ∃ row, office.programme.find? id = some row ∧ Passes office call row change := by
  obtain ⟨d, hdraft, hreview⟩ := Failure.bind_eq_ok_iff.1 h
  have hreviewed := Reviewed.of_review hreview
  obtain ⟨principal, operation, now⟩ := call
  -- an operation on a conference loads its row
  cases Drafted.of_draft hdraft with
  | @edit id' edit row hfind hhost =>
    cases htarget
    obtain ⟨_, rfl, _⟩ := Programme.find?_eq_some_iff_mem.1 hfind
    cases hreviewed with
    | edit hallowed hfree => exact ⟨row, hfind, .edit rfl hhost hallowed hfree⟩
  | @decision id' status row hrole hfind =>
    cases htarget
    obtain ⟨_, rfl, _⟩ := Programme.find?_eq_some_iff_mem.1 hfind
    cases hreviewed with
    | decision hallowed hfree => exact ⟨row, hfind, .decision rfl hrole hallowed hfree⟩
  | @withdrawal id' row hfind hright =>
    cases htarget
    obtain ⟨_, rfl, _⟩ := Programme.find?_eq_some_iff_mem.1 hfind
    cases hreviewed with
    | withdrawal => exact ⟨row, hfind, .withdrawal rfl hright⟩
  | _ => cases htarget

/-- A call that passes on the row that is there passes its checks. -/
lemma Passes.check_eq (h : Passes office call row change)
    (hfind : office.programme.find? row.id = some row) :
    office.check call.principal call.operation call.now = .ok change := by
  have hload : office.load row.id = .ok row := load_eq_ok_iff.2 hfind
  cases h with
  | @edit edit hoperation hhost hallowed hfree =>
    rw [hoperation]
    have hdraft : office.draft call.principal (.edit row.id edit) = .ok (.edit row edit) := by
      refine Failure.bind_eq_ok_iff.2 ⟨row, hload, Failure.bind_eq_ok_iff.2 ⟨(), ?_, rfl⟩⟩
      exact Failure.require_eq_ok_iff.2 (Principal.isUser_iff.2 hhost)
    refine Failure.bind_eq_ok_iff.2 ⟨_, hdraft, ?_⟩
    exact Failure.bind_eq_ok_iff.2 ⟨(), hallowed, Failure.when_eq_ok_iff.2 ⟨hfree, rfl⟩⟩
  | @decision status hoperation hrole hallowed hfree =>
    rw [hoperation]
    have hright := Principal.checkUnrestricted_eq_ok_iff.2 hrole
    have hdraft : office.draft call.principal (.decide row.id status) =
        .ok (.decision call.principal.id row status) :=
      Failure.bind_eq_ok_iff.2 ⟨(), hright, Failure.bind_eq_ok_iff.2 ⟨row, hload, rfl⟩⟩
    refine Failure.bind_eq_ok_iff.2 ⟨_, hdraft, ?_⟩
    exact Failure.bind_eq_ok_iff.2 ⟨(), hallowed, Failure.when_eq_ok_iff.2 ⟨hfree, rfl⟩⟩
  | withdrawal hoperation hright =>
    rw [hoperation]
    have hdraft : office.draft call.principal (.withdraw row.id) =
        .ok (.withdrawal call.principal.id row.id) := by
      refine Failure.bind_eq_ok_iff.2 ⟨row, hload, Failure.bind_eq_ok_iff.2 ⟨(), ?_, rfl⟩⟩
      exact Failure.require_eq_ok_iff.2 hright
    exact Failure.bind_eq_ok_iff.2 ⟨_, hdraft, rfl⟩

section Inversion

variable (h : Passes office call row change)

include h

/-- An edit that passes its checks is the host's, comes in time and moves to a free window. -/
lemma Passes.of_edit {edit : Edit} (hoperation : call.operation = .edit id edit) :
    change = .edit (edit.applyTo row) edit.sentNames call.now ∧
      call.principal.id = some row.hostId ∧ row.checkEdit edit call.now = .ok () ∧
      (edit.movesWindow = true →
        office.checkFree (edit.applyTo row).window (some row.id) = .ok ()) := by
  cases h with
  | edit hedit hhost hallowed hfree =>
    cases hoperation.symm.trans hedit
    exact ⟨rfl, hhost, hallowed, hfree⟩
  | decision hdecide _ _ _ => cases hoperation.symm.trans hdecide
  | withdrawal hwithdraw _ => cases hoperation.symm.trans hwithdraw

/--
A decision that passes its checks is a coordinator's, comes in time and finds the window free.
-/
lemma Passes.of_decide {status : Status} (hoperation : call.operation = .decide id status) :
    change = .decide call.principal.id row.status { row with status } call.now ∧
      call.principal.isRestricted = false ∧ row.checkDecision status call.now = .ok () ∧
      (status = .approved → office.checkFree row.window (some row.id) = .ok ()) := by
  cases h with
  | edit hedit _ _ _ => cases hoperation.symm.trans hedit
  | decision hdecide hrole hallowed hfree =>
    cases hoperation.symm.trans hdecide
    exact ⟨rfl, hrole, hallowed, hfree⟩
  | withdrawal hwithdraw _ => cases hoperation.symm.trans hwithdraw

/-- A withdrawal that passes its checks is made by somebody who oversees the conference. -/
lemma Passes.of_withdraw (hoperation : call.operation = .withdraw id) :
    change = .withdraw call.principal.id row.id ∧ call.principal.oversees row = true := by
  cases h with
  | edit hedit _ _ _ => cases hoperation.symm.trans hedit
  | decision hdecide _ _ _ => cases hoperation.symm.trans hdecide
  | withdrawal _ hright => exact ⟨rfl, hright⟩

end Inversion

/-- A call that passes its checks on a row is on the conference of that row. -/
lemma Passes.target?_eq (h : Passes office call row change) :
    call.operation.target? = some row.id := by
  cases h with
  | edit hoperation _ _ _ => rw [hoperation]; rfl
  | decision hoperation _ _ _ => rw [hoperation]; rfl
  | withdrawal hoperation _ => rw [hoperation]; rfl

/-- A call that passes its checks is allowed. -/
lemma Passes.isAllowed (h : Passes office call row change) :
    call.operation.IsAllowed call.now row := by
  cases h with
  | edit hoperation _ hallowed _ =>
    rw [hoperation]
    exact hallowed
  | decision hoperation _ hallowed _ =>
    rw [hoperation]
    exact hallowed
  | withdrawal hoperation _ =>
    rw [hoperation]
    exact trivial

/-- The change that a call brings rewrites the row as the operation says. -/
lemma Passes.rewrite?_eq (h : Passes office call row change) :
    change.rewrite? call.now row = call.operation.rewrite? call.now row := by
  cases h with
  | edit hoperation _ _ _ => rw [hoperation]; rfl
  | decision hoperation _ _ _ => rw [hoperation]; rfl
  | withdrawal hoperation _ => rw [hoperation]; rfl

/-- Only a withdrawal looks at the row that it finds when it is written. -/
lemma Passes.rewrite?_of_ne (h : Passes office call row change)
    (hne : call.operation ≠ .withdraw row.id) (found : Conference) :
    change.rewrite? call.now found = call.operation.rewrite? call.now row := by
  cases h with
  | edit hoperation _ _ _ => rw [hoperation]; rfl
  | decision hoperation _ _ _ => rw [hoperation]; rfl
  | withdrawal hoperation _ => exact absurd hoperation hne

/-- What a call passed in one office it writes in any other, or it fails there. -/
lemma Passes.commit_cases (h : Passes office call row change) (other : Office) :
    (other.commit call.now change).2.programme = other.programme ∧
        (∃ failure, (other.commit call.now change).1 = .error failure) ∨
      ∃ found written, other.programme.find? row.id = some found ∧
        change.rewrite? call.now found = some written ∧ written.id = row.id ∧
        (other.commit call.now change).2.programme = other.programme.put written := by
  have hcommits := Commits.of_commit other call.now change
  generalize other.commit call.now change = result at hcommits
  -- the row that is there now need not be the one that was loaded
  cases h with
  | edit _ _ _ _ =>
    cases hcommits with
    | refused _ => exact .inl ⟨rfl, _, rfl⟩
    | edited hupdate =>
      obtain ⟨⟨found, hfind⟩, _, rfl⟩ := Programme.update_eq_ok_iff.1 hupdate
      exact .inr ⟨found, _, hfind, rfl, rfl, rfl⟩
  | decision _ _ _ _ =>
    cases hcommits with
    | refused _ => exact .inl ⟨rfl, _, rfl⟩
    | decided hupdate =>
      obtain ⟨⟨found, hfind⟩, _, rfl⟩ := Programme.update_eq_ok_iff.1 hupdate
      exact .inr ⟨found, _, hfind, rfl, rfl, rfl⟩
  | withdrawal _ _ =>
    cases hcommits with
    | refused _ => exact .inl ⟨rfl, _, rfl⟩
    | withdrawn hwithdraw =>
      obtain ⟨found, hfind, rfl⟩ := Programme.withdraw_eq_ok_iff.1 hwithdraw
      obtain ⟨_, hid, _⟩ := Programme.find?_eq_some_iff_mem.1 hfind
      exact .inr ⟨found, _, hfind, rfl, hid, rfl⟩

/-- A call leaves the programme alone and fails, or it rewrites the row that it has loaded. -/
lemma after_cases (office : Office) (htarget : call.operation.target? = some id) :
    (office.after call).programme = office.programme ∧
        (∃ failure, office.answer call = .error failure) ∨
      ∃ row change written, office.programme.find? id = some row ∧ Passes office call row change ∧
        change.rewrite? call.now row = some written ∧ written.id = id ∧
        (office.after call).programme = office.programme.put written := by
  cases hcheck : office.check call.principal call.operation call.now with
  | error failure =>
    rw [after, answer, perform_of_check_error hcheck]
    exact .inl ⟨rfl, failure, rfl⟩
  | ok change =>
    obtain ⟨row, hfind, hpasses⟩ := Passes.of_check htarget hcheck
    obtain ⟨_, hid, _⟩ := Programme.find?_eq_some_iff_mem.1 hfind
    rw [after, answer, perform_of_check_ok hcheck]
    obtain hnothing | ⟨found, written, hfound, hrewrite, hwritten, hput⟩ :=
      hpasses.commit_cases office
    · exact .inl hnothing
    · rw [hid] at hfound hwritten
      obtain rfl := Option.some.inj (hfind.symm.trans hfound)
      exact .inr ⟨row, change, written, hfind, hpasses, hrewrite, hwritten, hput⟩

/-- Whether a window is free depends on what is booked. -/
lemma checkFree_congr {window : Window} {except : Option String}
    (hpolicy : other.policy = office.policy)
    (hbooked : other.programme.booked except = office.programme.booked except) :
    other.checkFree window except = office.checkFree window except := by
  simp only [checkFree, conflicts, Programme.conflicting, hpolicy, hbooked]

section CommitRow

variable {news : Event.News} {time : Timestamp}

/-- When a row was last changed does not matter to a write. -/
lemma commitRow_stamped (office : Office) (row : Conference) (earlier : Timestamp)
    (news : Event.News) (time : Timestamp) :
    office.commitRow (Programme.stamped row earlier) news time =
      office.commitRow row news time :=
  rfl

/-- A row that is taken when the row under its id was just rewritten is taken before that, too. -/
lemma get?_commitRow {found earlier : Conference}
    (hok : (other.commitRow row news time).1 = .ok outcome)
    (hput : other.programme = office.programme.put earlier) (hid : earlier.id = row.id)
    (hfind : office.programme.find? row.id = some found) :
    (office.commitRow row news time).2.programme.get? row.id =
      some (Programme.stamped row time) := by
  -- the check of the write leaves out the row under its id, the only one that was rewritten
  have hfree : office.programme.checkOverlap row = .ok () := by
    unfold commitRow at hok
    split at hok
    · cases hok
    · next programme hupdate =>
      have hcheck := (Programme.update_eq_ok_iff.1 hupdate).2.1
      rwa [hput, Programme.checkOverlap_put hid] at hcheck
  have hupdate : office.programme.update row time =
      .ok (office.programme.put (Programme.stamped row time)) :=
    Programme.update_eq_ok_iff.2 ⟨⟨found, hfind⟩, hfree, rfl⟩
  rw [commitRow, hupdate]
  exact Table.get?_put_self (Programme.stamped row time) office.programme

end CommitRow

end Office

end Symposium
