import Symposium.Proofs.Performance
import Symposium.Proofs.Traffic

/-!
# Calls one after the other

A call takes its stages in a row, so calls that nothing overtakes are a run like any other. What a
single call can do to the programme and to the roll is the relation `Does`. Main statement: a fact
that the stages keep holds after all calls.
-/

namespace Symposium

namespace Office

/-- One call of a principal, at the time that the clock shows then. -/
structure Call where
  principal : Principal
  operation : Operation
  now : Timestamp

namespace Call

/-- A user proposes a conference with two seats, at the first hour. -/
def propose (hostId : String) (window : Window) : Call :=
  ⟨⟨some hostId, some .user⟩, .propose ⟨default, 2, window⟩, .hour 0⟩

/-- A host gives their conference another window, at the first hour. -/
def move (hostId id : String) (window : Window) : Call where
  principal := ⟨some hostId, some .user⟩
  operation :=
    .edit id { (default : Edit) with startsAt := window.startsAt, endsAt := window.endsAt }
  now := .hour 0

/-- A host gives their conference another title, at the first hour. -/
def retitle (hostId id title : String) : Call :=
  ⟨⟨some hostId, some .user⟩, .edit id { (default : Edit) with title }, .hour 0⟩

/-- A coordinator approves a conference, at the first hour. -/
def approve (id : String) : Call :=
  ⟨⟨some "root", some .admin⟩, .decide id .approved, .hour 0⟩

/-- A coordinator takes a seat, at the first hour. -/
def register (userId id : String) : Call :=
  ⟨⟨some userId, some .coordinator⟩, .register id, .hour 0⟩

end Call

/-- The office after a call. -/
def after (office : Office) (call : Call) : Office :=
  (office.perform call.principal call.operation call.now).2

/-- What a call answers. -/
def answer (office : Office) (call : Call) : Except Failure Outcome :=
  (office.perform call.principal call.operation call.now).1

/-- Whether a call succeeds. -/
def CarriesOut (office : Office) (call : Call) : Prop :=
  ∃ outcome, office.answer call = .ok outcome

/-- The office after some calls, one after the other. -/
def afterAll (office : Office) (calls : List Call) : Office :=
  calls.foldl after office

/-- Calls in two batches do what they do in one. -/
lemma afterAll_append (office : Office) (calls more : List Call) :
    office.afterAll (calls ++ more) = (office.afterAll calls).afterAll more :=
  List.foldl_append

/-- One more call is made to the office that the others left. -/
lemma afterAll_concat (office : Office) (calls : List Call) (call : Call) :
    office.afterAll (calls ++ [call]) = (office.afterAll calls).after call :=
  afterAll_append office calls [call]

/--
An operation takes its stages in a row: two when it is checked, the last when it is written. Nothing
waits in between but what is drafted of it.
-/
lemma steps_commitChecked (office : Office) (principal : Principal) (operation : Operation)
    (checkedAt writtenAt : Timestamp) :
    Relation.ReflTransGen
      (fun t t' => (∃ now ∈ [checkedAt, writtenAt], Traffic.StepAt now t t') ∧
        ∀ d ∈ t'.drafts, office.draft principal operation = .ok d)
      (.quiet office)
      (.quiet (office.commitChecked writtenAt (office.check principal operation checkedAt)).2) := by
  cases hcheck : office.check principal operation checkedAt with
  | error failure => exact .refl
  | ok change =>
    obtain ⟨d, hdraft, hreview⟩ := Failure.bind_eq_ok_iff.1 hcheck
    -- the draft waits for the review alone, and the change for the commit
    have hdrafted : Traffic.StepAt checkedAt (.quiet office) ⟨office, [d], []⟩ := .draft hdraft
    have hreviewed : Traffic.StepAt checkedAt ⟨office, [d], []⟩ ⟨office, [], [change]⟩ :=
      .review_head hreview
    have hcommitted : Traffic.StepAt writtenAt ⟨office, [], [change]⟩
        (.quiet (office.commit writtenAt change).2) := .commit_head
    have hfirst : checkedAt ∈ [checkedAt, writtenAt] := List.mem_cons_self
    have hlast : writtenAt ∈ [checkedAt, writtenAt] := List.mem_cons_of_mem _ List.mem_cons_self
    exact ((Relation.ReflTransGen.single
      ⟨⟨_, hfirst, hdrafted⟩, List.forall_mem_singleton.2 hdraft⟩).tail
      ⟨⟨_, hfirst, hreviewed⟩, List.forall_mem_nil _⟩).tail
      ⟨⟨_, hlast, hcommitted⟩, List.forall_mem_nil _⟩

/-- Checking and writing in a row is a run that ends without anything waiting. -/
lemma run_commitChecked (office : Office) (principal : Principal) (operation : Operation)
    (checkedAt writtenAt : Timestamp) :
    Traffic.Run (.quiet office)
      (.quiet (office.commitChecked writtenAt (office.check principal operation checkedAt)).2) := by
  have hsteps := office.steps_commitChecked principal operation checkedAt writtenAt
  refine Relation.ReflTransGen.mono ?_ _ _ hsteps
  rintro t t' ⟨⟨_, _, hstep⟩, _⟩
  exact hstep.step

/-- A call is a run of its three stages. -/
lemma run_after (office : Office) (call : Call) :
    Traffic.Run (.quiet office) (.quiet (office.after call)) :=
  office.run_commitChecked call.principal call.operation call.now call.now

/-- Calls one after the other are a run, in which nothing overtakes anything. -/
theorem run_afterAll (office : Office) (calls : List Call) :
    Traffic.Run (.quiet office) (.quiet (office.afterAll calls)) := by
  induction calls generalizing office with
  | nil => exact .refl
  | cons call calls ih => exact (office.run_after call).trans (ih (office.after call))

/-- A fact that the stages keep holds after all calls. -/
theorem afterAll_of_kept {fact : Office → Prop} {ofDraft : Office → Draft → Prop}
    {ofChange : Office → Change → Prop} (kept : Traffic.Kept fact ofDraft ofChange)
    {office : Office} (h : fact office) (calls : List Call) : fact (office.afterAll calls) :=
  (kept.run h (office.run_afterAll calls)).1

/-- No call changes what the office asks for. -/
lemma policy_after (office : Office) (call : Call) :
    (office.after call).policy = office.policy :=
  (Performs.of_perform office call.principal call.operation call.now).policy_eq

/-- How a call rewrites a row of the programme: by an edit, a decision or a withdrawal. -/
inductive Rewrites (office : Office) (call : Call) : Conference → Conference → Prop where
  | edited {row edit} :
    call.operation = .edit row.id edit →
    office.check call.principal call.operation call.now =
      .ok (.edit (edit.applyTo row) edit.sentNames call.now) →
    row.checkEdit edit call.now = .ok () →
    Rewrites office call row (Programme.stamped (edit.applyTo row) call.now)
  | decided {row status} :
    row.checkDecision status call.now = .ok () →
    Rewrites office call row (Programme.stamped { row with status } call.now)
  | withdrawn {row} :
    Rewrites office call row { row with deletedAt := some call.now, updatedAt := call.now }

/-- What a call does to the programme and to the roll. -/
inductive Does (office : Office) (call : Call) : Office → Prop where
  | nothing {later} :
    later.programme = office.programme →
    later.roll = office.roll →
    Does office call later
  | proposes {row later} :
    office.ids.draw.1 = some row.id →
    later.programme = office.programme.put row →
    later.roll = office.roll →
    Does office call later
  | rewrites {row rewritten later} :
    office.programme.find? row.id = some row →
    Rewrites office call row rewritten →
    later.programme = office.programme.put rewritten →
    later.roll = office.roll →
    Does office call later
  | seats {r later} :
    later.programme = office.programme →
    office.roll.add office.programme r = .ok later.roll →
    Does office call later

/-- Inversion of a call. -/
theorem Does.of_after (office : Office) (call : Call) : Does office call (office.after call) := by
  obtain ⟨principal, operation, now⟩ := call
  show Does office _ (office.perform principal operation now).2
  cases hcheck : office.check principal operation now with
  | error failure =>
    rw [perform_of_check_error hcheck]
    exact .nothing rfl rfl
  | ok change =>
    rw [perform_of_check_ok hcheck]
    -- what is written was drafted on a row and reviewed before
    obtain ⟨d, hdraft, hreview⟩ := Failure.bind_eq_ok_iff.1 hcheck
    have hdrafted := Drafted.of_draft hdraft
    have hreviewed := Reviewed.of_review hreview
    have hcommits := Commits.of_commit office now change
    generalize office.commit now change = result at hcommits
    cases hcommits with
    | proposed hdraw hadd =>
      obtain ⟨_, rfl⟩ := Programme.add_eq_ok_iff.1 hadd
      exact .proposes hdraw rfl rfl
    | edited hupdate =>
      obtain ⟨_, _, rfl⟩ := Programme.update_eq_ok_iff.1 hupdate
      cases hreviewed with
      | edit hallowed _ =>
        cases hdrafted with
        | edit hfind _ =>
          obtain ⟨_, rfl, _⟩ := Programme.find?_eq_some_iff_mem.1 hfind
          exact .rewrites hfind (.edited rfl hcheck hallowed) rfl rfl
    | decided hupdate =>
      obtain ⟨_, _, rfl⟩ := Programme.update_eq_ok_iff.1 hupdate
      cases hreviewed with
      | decision hallowed _ =>
        cases hdrafted with
        | decision _ hfind =>
          obtain ⟨_, rfl, _⟩ := Programme.find?_eq_some_iff_mem.1 hfind
          exact .rewrites hfind (.decided hallowed) rfl rfl
    | withdrawn hwithdraw =>
      obtain ⟨row, hfind, rfl⟩ := Programme.withdraw_eq_ok_iff.1 hwithdraw
      obtain ⟨_, rfl, _⟩ := Programme.find?_eq_some_iff_mem.1 hfind
      exact .rewrites hfind .withdrawn rfl rfl
    | registered hadd => exact .seats rfl hadd
    | _ => exact .nothing rfl rfl

end Office

end Symposium
