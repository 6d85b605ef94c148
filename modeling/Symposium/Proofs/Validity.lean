import Symposium.Proofs.Acceptance
import Symposium.Proofs.Bookings
import Symposium.Proofs.Visits

/-!
# Rows that stay acceptable

An edit is put into a row without the row being read again, and so is a decision or a withdrawal.
What keeps the row valid is that the members of an edit are read by the readers of a proposal, that
none of them but the prerequisites can be taken away, and that a window of which an end is new is
looked at as a whole. Main statement: however the operations overtake each other, every row that was
ever stored is taken again as a conference, and its part that a host asks for as a proposal.
-/

namespace Symposium

variable {now : Timestamp} {c : Conference}

/-- What is put in place of a value that may be kept has what both have. -/
lemma Edit.getD_of_forall {α : Type} {P : α → Prop} {sent : Option α} {kept : α}
    (hsent : ∀ a ∈ sent, P a) (hkept : P kept) : P (sent.getD kept) := by
  cases sent with
  | none => exact hkept
  | some a => exact hsent a rfl

/-- A valid talk stays valid when valid texts are put in. -/
lemma Talk.IsValid.edit {talk : Talk} {edit : Edit} (valid : talk.IsValid) (hedit : edit.IsValid) :
    (edit.applyToTalk talk).IsValid where
  title := Edit.getD_of_forall hedit.title valid.title
  description := Edit.getD_of_forall hedit.description valid.description
  speakerName := Edit.getD_of_forall hedit.speakerName valid.speakerName
  speakerTitle := Edit.getD_of_forall hedit.speakerTitle valid.speakerTitle
  targetAudience := Edit.getD_of_forall hedit.targetAudience valid.targetAudience
  prerequisites := Edit.getD_of_forall (P := fun s? : Option String => ∀ s ∈ s?, s.length ≤ 255)
    hedit.prerequisites valid.prerequisites

/-- What a host would ask for to get the conference. -/
def Conference.request (c : Conference) : Proposal :=
  ⟨c.talk, c.seats, c.window⟩

namespace Conference.IsValid

/-- The request that a valid conference stands for is valid. -/
lemma request (valid : c.IsValid) : c.request.IsValid :=
  ⟨valid.talk, valid.seats, valid.startsAt, valid.endsAt⟩

/-- A new time of the last change leaves a conference valid. -/
lemma stamped (valid : c.IsValid) (zoned : now.IsZoned) : (Programme.stamped c now).IsValid :=
  { valid with updatedAt := zoned }

/-- A withdrawal leaves a conference valid. -/
lemma withdrawn (valid : c.IsValid) (zoned : now.IsZoned) :
    Conference.IsValid { c with deletedAt := some now, updatedAt := now } := by
  refine { valid with updatedAt := zoned, deletedAt := ?_ }
  rintro _ ⟨⟩
  exact zoned

/-- A decision leaves a conference valid. -/
lemma decided (valid : c.IsValid) (status : Status) : Conference.IsValid { c with status } :=
  { valid with }

/-- A valid edit leaves a conference valid if its window stays ordered. -/
lemma edited {edit : Edit} (valid : c.IsValid) (hedit : edit.IsValid)
    (ordered : (edit.applyToWindow c.window).isOrdered = true) : (edit.applyTo c).IsValid :=
  { valid with
    talk := valid.talk.edit hedit
    ordered
    startsAt := Edit.getD_of_forall hedit.startsAt valid.startsAt
    endsAt := Edit.getD_of_forall hedit.endsAt valid.endsAt }

/-- A conference that is made of a valid proposal is valid if its window is ordered. -/
lemma of_proposal {p : Proposal} (valid : p.IsValid) (ordered : p.window.isOrdered = true)
    (zoned : now.IsZoned) (id hostId : String) : (p.toConference id hostId now).IsValid where
  talk := valid.talk
  seats := valid.seats
  ordered
  startsAt := valid.startsAt
  endsAt := valid.endsAt
  createdAt := zoned
  updatedAt := zoned
  deletedAt := fun _ hnone => nomatch hnone

end Conference.IsValid

/-- Whether what an operation brings was read. -/
def Operation.IsRead : Operation → Prop
  | .propose p => p.IsRead
  | .edit _ e => e.IsRead
  | _ => True

/-- Whether what a draft brings was read. -/
def Draft.IsRead : Draft → Prop
  | .proposal _ p => p.IsRead
  | .edit _ e => e.IsRead
  | _ => True

/-- Whether the row that a change is going to write will be valid. -/
def Change.IsValid : Change → Prop
  | .propose hostId p time => ∀ id, (p.toConference id hostId time).IsValid
  | .edit row _ time => (Programme.stamped row time).IsValid
  | .decide _ _ row time => (Programme.stamped row time).IsValid
  | _ => True

namespace Office

variable {office : Office}

/-- A draft brings what was read exactly if its operation does. -/
lemma Drafted.isRead_iff {principal : Principal} {operation : Operation} {d : Draft}
    (h : Drafted office principal operation d) : d.IsRead ↔ operation.IsRead := by
  cases h <;> exact Iff.rfl

/-- A review makes a valid row of what was read and of the row that was loaded. -/
lemma Reviewed.isValid {d : Draft} {change : Change} (h : Reviewed office now d change)
    (zoned : now.IsZoned) (hread : d.IsRead) (hrow : ∀ c ∈ d.row?, c.IsValid) :
    change.IsValid := by
  have hordered := fun w hw => h.window_cases w hw
  cases h with
  | proposal hfuture _ _ =>
    have ordered := (Window.checkFuture_eq_ok_iff.1 hfuture).2
    exact fun id => .of_proposal hread.isValid ordered zoned id _
  | @edit row edit hallowed _ =>
    have valid := hrow row rfl
    have ordered : (edit.applyToWindow row.window).isOrdered = true := by
      obtain hfuture | ⟨c, hc, hsame⟩ := hordered _ rfl
      · exact (Window.checkFuture_eq_ok_iff.1 hfuture).2
      · have hkept := (hrow c hc).ordered
        rwa [hsame] at hkept
    exact (valid.edited hread.isValid ordered).stamped zoned
  | @decision _ row status _ _ => exact ((hrow row rfl).decided status).stamped zoned
  | _ => trivial

/-- A commit stores no row that is not valid. -/
lemma Commits.rows_valid {change : Change} {result : Except Failure Outcome × Office}
    (h : Commits office now change result) (zoned : now.IsZoned) (hchange : change.IsValid)
    (rows : ∀ c ∈ office.programme.rows, c.IsValid) :
    ∀ c ∈ result.2.programme.rows, c.IsValid := by
  have put {row : Conference} (hrow : row.IsValid) :
      ∀ c ∈ (office.programme.put row).rows, c.IsValid := by
    intro c hc
    obtain rfl | ⟨hold, _⟩ := Table.mem_rows_put.1 hc
    · exact hrow
    · exact rows c hold
  cases h with
  -- a row that is put is valid, and the others stay as they are
  | proposed _ hadd =>
    obtain ⟨_, rfl⟩ := Programme.add_eq_ok_iff.1 hadd
    exact put (hchange _)
  | edited hupdate =>
    obtain ⟨_, _, rfl⟩ := Programme.update_eq_ok_iff.1 hupdate
    exact put hchange
  | decided hupdate =>
    obtain ⟨_, _, rfl⟩ := Programme.update_eq_ok_iff.1 hupdate
    exact put hchange
  | withdrawn hwithdraw =>
    obtain ⟨old, hfind, rfl⟩ := Programme.withdraw_eq_ok_iff.1 hwithdraw
    exact put ((rows old (Programme.mem_of_find? hfind)).withdrawn zoned)
  | _ => exact rows

end Office

namespace Traffic

variable {t t' : Traffic}

/-- Any number of stages, at times of a calendar with an offset, of operations that were read. -/
abbrev ZonedRun : Traffic → Traffic → Prop :=
  Relation.ReflTransGen fun t t' =>
    (∃ now, now.IsZoned ∧ StepAt now t t') ∧ ∀ d ∈ t'.drafts, d.IsRead

/-- All rows are valid, and all that wait to be written are going to be. -/
structure Valid (t : Traffic) : Prop where
  rows : ∀ c ∈ t.office.programme.rows, c.IsValid
  drafts : ∀ d ∈ t.drafts, d.IsRead ∧ ∀ c ∈ d.row?, c.IsValid
  changes : ∀ change ∈ t.changes, change.IsValid

/-- One stage of an operation that was read leaves all rows valid. -/
lemma Valid.step (h : t.Valid) (zoned : now.IsZoned) (hstep : StepAt now t t')
    (hread : ∀ d ∈ t'.drafts, d.IsRead) : t'.Valid := by
  obtain ⟨rows, drafts, changes⟩ := h
  cases hstep with
  | @draft _ _ _ _ _ d hdraft =>
    have hrow := (Office.Drafted.of_draft hdraft).mem_rows
    refine ⟨rows, List.forall_mem_cons.2 ⟨⟨hread d List.mem_cons_self, ?_⟩, drafts⟩, changes⟩
    exact fun c hc => rows c (hrow c hc)
  | review hmem hreview =>
    obtain ⟨hd, hrow⟩ := drafts _ hmem
    have hchange := (Office.Reviewed.of_review hreview).isValid zoned hd hrow
    refine ⟨rows, fun d hd => ?_, List.forall_mem_cons.2 ⟨hchange, changes⟩⟩
    exact drafts d (List.mem_of_mem_erase hd)
  | @commit office _ _ change hmem =>
    have hcommits := Office.Commits.of_commit office now change
    refine ⟨hcommits.rows_valid zoned (changes change hmem) rows, drafts, fun other hother => ?_⟩
    exact changes other (List.mem_of_mem_erase hother)

/-- In a run on read requests and times with offsets, all that is stored is valid. -/
lemma ZonedRun.valid (h : t.Valid) (hrun : ZonedRun t t') : t'.Valid := by
  induction hrun with
  | refl => exact h
  | tail _ hstep ih =>
    obtain ⟨⟨now, zoned, hstep⟩, hread⟩ := hstep
    exact ih.step zoned hstep hread

end Traffic

/-- The names of the members of a proposal. -/
def Proposal.names : List String :=
  ["title", "description", "speaker_name", "speaker_title", "target_audience", "prerequisites",
    "seats", "starts_at", "ends_at"]

/-- An object with only those of its members that have one of these names. -/
def Json.restrict (names : List String) : Json → Json
  | .obj members => .obj (members.filter fun member => names.contains member.1)
  | json => json

/-- What a proposal asks for is the part of the record that has the names of its members. -/
lemma Conference.restrict_toJson (c : Conference) :
    c.toJson.restrict Proposal.names = c.request.toJson := by
  rfl

/--
However the operations overtook each other: every row is valid, is taken again as a conference
whatever the time is, and is taken as a proposal if only the members of one are kept.
-/
theorem Programme.rows_stay_acceptable {start : Office} {t : Traffic}
    (hempty : start.programme = .empty) (hrun : Traffic.ZonedRun (.quiet start) t) :
    ∀ c ∈ t.office.programme.rows,
      c.IsValid ∧ (∀ now, Conference.ofJson now c.toJson = .ok c) ∧
        Failure.ofRecord Proposal.kind Proposal.read (c.toJson.restrict Proposal.names) =
          .ok c.request := by
  intro c hc
  have hquiet : (Traffic.quiet start).Valid := by
    refine ⟨?_, List.forall_mem_nil _, List.forall_mem_nil _⟩
    show ∀ c ∈ start.programme.rows, c.IsValid
    rw [hempty]
    exact List.forall_mem_nil _
  have valid := (hrun.valid hquiet).rows c hc
  refine ⟨valid, Conference.ofJson_toJson valid, ?_⟩
  rw [c.restrict_toJson]
  exact Proposal.ofRecord_toJson valid.request

namespace Office

/-- Visits one after the other, of operations that were read, are such a run. -/
lemma zonedRun_serveAll (office : Office) (visits : List Visit)
    (zoned : ∀ t ∈ visits.flatMap Visit.readings, t.IsZoned)
    (hread : ∀ visit ∈ visits, visit.operation.IsRead) :
    Traffic.ZonedRun (.quiet office) (.quiet (office.serveAll visits)) := by
  refine office.steps_serveAll visits fun visit hvisit now hnow _ t t' hstep hdrafts => ?_
  refine ⟨⟨now, zoned now (List.mem_flatMap_of_mem hvisit hnow), hstep⟩, fun d hd => ?_⟩
  exact (hdrafts d hd).isRead_iff.2 (hread visit hvisit)

end Office

/-- The hours of the first day are shown by a calendar and a clock. -/
lemma Timestamp.isZoned_hour {n : Int} (hfirst : 0 ≤ n) (hlast : n < 24) : (hour n).IsZoned := by
  have hday : (hour n).clock / day = 0 := by
    show n * 60 * minute / day = 0
    rw [day, minute, second]
    omega
  have hyear : (hour n).date.year = 1970 := by
    rw [date, hday]
    rfl
  refine ⟨⟨⟨by omega, ?_⟩, by omega⟩, rfl⟩
  rintro _ ⟨⟩
  exact isOffset_zero

/-- A talk about proofs. -/
def Talk.onProofs : Talk :=
  ⟨"Proofs", "How they are written", "Ann", "Prover", "Everybody", none⟩

/-- Gives the talk another title and more time, and says what one should know before. -/
def Edit.extension : Edit where
  title := some "Long proofs"
  description := none
  speakerName := none
  speakerTitle := none
  targetAudience := none
  prerequisites := some (some "Short proofs")
  startsAt := none
  endsAt := some (.hour 12)

namespace Office

/-- A talk is proposed, changed, approved and withdrawn, and another one is proposed. -/
def revision : List Visit :=
  let visit (userId : String) (role : Role) (operation : Operation) : Visit :=
    ⟨⟨some userId, some role⟩, operation, .hour 0, .hour 1⟩
  let talk := IdSource.numbered 1
  [visit "ann" .user (.propose ⟨.onProofs, 2, .hours 9 11⟩),
    visit "ann" .user (.edit talk .extension),
    visit "root" .admin (.decide talk .approved), visit "ann" .user (.withdraw talk),
    visit "bob" .user (.propose ⟨.onProofs, 5, .hours 13 15⟩)]

/-- The rows after a revision, one of them changed and withdrawn. -/
theorem rows_stay_acceptable_of_revision :
    ((start .standard (.scripted [])).serveAll revision).programme.rows.map
        (fun c => (c.talk.title, c.isLive)) = [("Long proofs", false), ("Proofs", true)] ∧
      ∀ c ∈ ((start .standard (.scripted [])).serveAll revision).programme.rows,
        c.IsValid ∧ (∀ now, Conference.ofJson now c.toJson = .ok c) ∧
          Failure.ofRecord Proposal.kind Proposal.read (c.toJson.restrict Proposal.names) =
            .ok c.request := by
  refine ⟨by decide +kernel, ?_⟩
  have talk : Talk.onProofs.IsValid := by
    refine ⟨?_, ?_, ?_, ?_, ?_, fun _ hnone => nomatch hnone⟩ <;> exact ⟨by decide, by decide⟩
  have hproposal (seats : Nat) (a b : Int) (hseats : 0 < seats) (ha : 0 ≤ a ∧ a < 24)
      (hb : 0 ≤ b ∧ b < 24) : Proposal.IsRead ⟨.onProofs, seats, .hours a b⟩ :=
    Proposal.isRead_iff_isValid.2
      ⟨talk, hseats, Timestamp.isZoned_hour ha.1 ha.2, Timestamp.isZoned_hour hb.1 hb.2⟩
  have hedit : Edit.extension.IsRead :=
    ⟨.obj [("title", .str "Long proofs"), ("prerequisites", .str "Short proofs"),
      ("ends_at", .str "1970-01-01T12:00:00Z")], rfl⟩
  have htimes : ∀ t ∈ revision.flatMap Visit.readings, t.IsZoned := by
    intro t ht
    -- the visits show one of two hours
    have hhour : t = .hour 0 ∨ t = .hour 1 := by
      revert t
      decide
    rcases hhour with rfl | rfl
    · exact Timestamp.isZoned_hour (by decide) (by decide)
    · exact Timestamp.isZoned_hour (by decide) (by decide)
  have hread : ∀ visit ∈ revision, visit.operation.IsRead := by
    refine List.forall_mem_cons.2 ⟨?_, List.forall_mem_cons.2 ⟨hedit, List.forall_mem_cons.2
      ⟨trivial, List.forall_mem_cons.2 ⟨trivial, List.forall_mem_cons.2
        ⟨?_, List.forall_mem_nil _⟩⟩⟩⟩⟩
    · exact hproposal 2 9 11 (by decide) (by decide) (by decide)
    · exact hproposal 5 13 15 (by decide) (by decide) (by decide)
  have hrun := zonedRun_serveAll (start .standard (.scripted [])) revision htimes hread
  exact Programme.rows_stay_acceptable rfl hrun

end Office

end Symposium
