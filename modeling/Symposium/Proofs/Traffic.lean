import Mathlib.Logic.Relation
import Symposium.Proofs.Stages

/-!
# Traffic in an office

Operations overtake each other between their stages. A step of the traffic takes one stage of one
operation, at whatever time the clock shows then. Main statement: a fact that is `Kept` by the
stages holds after every run, in whatever order the stages are taken.
-/

namespace Symposium

/-- An office, the drafts that wait for their review and the changes that wait to be committed. -/
structure Traffic where
  office : Office
  drafts : List Draft
  changes : List Change

/-- The row that a draft was loaded with and that is going to be written. -/
def Draft.row? : Draft → Option Conference
  | .edit row _ => some row
  | .decision _ row _ => some row
  | _ => none

/-- The row that a change is going to put in the place of an older one. -/
def Change.row? : Change → Option Conference
  | .edit row _ _ => some row
  | .decide _ _ row _ => some row
  | _ => none

/-- The conference at which a draft is going to take a seat, and the user who is to have it. -/
def Draft.seat? : Draft → Option (String × String)
  | .seat (some userId) id _ => some (id, userId)
  | _ => none

/-- The conference at which a change takes a seat, and the user who is to have it. -/
def Change.seat? : Change → Option (String × String)
  | .register (some userId) id => some (id, userId)
  | _ => none

/-- What a draft was made of is a row. -/
lemma Office.Drafted.mem_rows {office : Office} {principal : Principal} {operation : Operation}
    {d : Draft} (h : Drafted office principal operation d) :
    ∀ c ∈ d.row?, c ∈ office.programme.rows := by
  intro c hc
  cases h with
  | edit hfind _ =>
    cases hc
    exact Programme.mem_of_find? hfind
  | decision _ hfind =>
    cases hc
    exact Programme.mem_of_find? hfind
  | _ => cases hc

namespace Traffic

/-- An office in which nothing waits. -/
def quiet (office : Office) : Traffic := ⟨office, [], []⟩

/-- One stage of one operation. An operation whose stage fails goes no further. -/
inductive Step : Traffic → Traffic → Prop where
  | draft {office drafts changes principal operation d} :
    office.draft principal operation = .ok d →
    Step ⟨office, drafts, changes⟩ ⟨office, d :: drafts, changes⟩
  | review {office drafts changes now d change} :
    d ∈ drafts →
    office.review now d = .ok change →
    Step ⟨office, drafts, changes⟩ ⟨office, drafts.erase d, change :: changes⟩
  | commit {office drafts changes now change} :
    change ∈ changes →
    Step ⟨office, drafts, changes⟩ ⟨(office.commit now change).2, drafts, changes.erase change⟩

/-- One stage of one operation, taken at a time. -/
inductive StepAt (now : Timestamp) : Traffic → Traffic → Prop where
  | draft {office drafts changes principal operation d} :
    office.draft principal operation = .ok d →
    StepAt now ⟨office, drafts, changes⟩ ⟨office, d :: drafts, changes⟩
  | review {office drafts changes d change} :
    d ∈ drafts →
    office.review now d = .ok change →
    StepAt now ⟨office, drafts, changes⟩ ⟨office, drafts.erase d, change :: changes⟩
  | commit {office drafts changes change} :
    change ∈ changes →
    StepAt now ⟨office, drafts, changes⟩
      ⟨(office.commit now change).2, drafts, changes.erase change⟩

/-- A step at a time is a step. -/
lemma StepAt.step {now : Timestamp} {t t' : Traffic} (h : StepAt now t t') : Step t t' := by
  cases h with
  | draft hdraft => exact .draft hdraft
  | review hmem hreview => exact .review hmem hreview
  | commit hmem => exact .commit hmem

/-- The draft that was made last is reviewed first. -/
lemma StepAt.review_head {office : Office} {drafts : List Draft} {changes : List Change}
    {now : Timestamp} {d : Draft} {change : Change} (h : office.review now d = .ok change) :
    StepAt now ⟨office, d :: drafts, changes⟩ ⟨office, drafts, change :: changes⟩ := by
  have hstep : StepAt now ⟨office, d :: drafts, changes⟩
      ⟨office, (d :: drafts).erase d, change :: changes⟩ := .review List.mem_cons_self h
  rwa [List.erase_cons_head] at hstep

/-- The change that was reviewed last is committed first. -/
lemma StepAt.commit_head {office : Office} {drafts : List Draft} {changes : List Change}
    {now : Timestamp} {change : Change} :
    StepAt now ⟨office, drafts, change :: changes⟩
      ⟨(office.commit now change).2, drafts, changes⟩ := by
  have hstep : StepAt now ⟨office, drafts, change :: changes⟩
      ⟨(office.commit now change).2, drafts, (change :: changes).erase change⟩ :=
    .commit List.mem_cons_self
  rwa [List.erase_cons_head] at hstep

/-- Any number of stages, in any order. -/
abbrev Run : Traffic → Traffic → Prop := Relation.ReflTransGen Step

/-- The traffic with more that waits. -/
def besides (t : Traffic) (drafts : List Draft) (changes : List Change) : Traffic :=
  ⟨t.office, t.drafts ++ drafts, t.changes ++ changes⟩

/-- A step can be taken beside whatever else waits. -/
lemma Step.besides {t t' : Traffic} (h : Step t t') (drafts : List Draft)
    (changes : List Change) : Step (t.besides drafts changes) (t'.besides drafts changes) := by
  cases h with
  | draft hdraft => exact .draft hdraft
  | review hmem hreview =>
    rw [Traffic.besides, Traffic.besides, ← List.erase_append_left _ hmem]
    exact .review (List.mem_append_left _ hmem) hreview
  | commit hmem =>
    rw [Traffic.besides, Traffic.besides, ← List.erase_append_left _ hmem]
    exact .commit (List.mem_append_left _ hmem)

/-- Whatever else waits, the stages of a run can be taken. -/
lemma Run.besides {t t' : Traffic} (h : Run t t') (drafts : List Draft) (changes : List Change) :
    Run (t.besides drafts changes) (t'.besides drafts changes) := by
  induction h with
  | refl => exact .refl
  | tail _ hstep ih => exact ih.tail (hstep.besides drafts changes)

/--
A fact about the office that the stages keep, by way of what is known of the drafts and of the
changes that wait.
-/
structure Kept (fact : Office → Prop) (ofDraft : Office → Draft → Prop)
    (ofChange : Office → Change → Prop) : Prop where
  draft {office principal operation d} :
    fact office → Office.Drafted office principal operation d → ofDraft office d
  review {office now d change} :
    fact office → ofDraft office d → Office.Reviewed office now d change → ofChange office change
  commit {office now change result} :
    fact office → ofChange office change → Office.Commits office now change result →
      fact result.2
  draftStays {office now change result d} :
    fact office → ofChange office change → Office.Commits office now change result →
      ofDraft office d → ofDraft result.2 d
  changeStays {office now change result other} :
    fact office → ofChange office change → Office.Commits office now change result →
      ofChange office other → ofChange result.2 other

namespace Kept

variable {fact : Office → Prop} {ofDraft : Office → Draft → Prop}
  {ofChange : Office → Change → Prop} {t t' : Traffic} {office : Office}

/-- What is known of an office and of everything that waits in it. -/
def Holds (fact : Office → Prop) (ofDraft : Office → Draft → Prop)
    (ofChange : Office → Change → Prop) (t : Traffic) : Prop :=
  fact t.office ∧ (∀ d ∈ t.drafts, ofDraft t.office d) ∧ ∀ c ∈ t.changes, ofChange t.office c

/-- One stage keeps what is known. -/
theorem step (kept : Kept fact ofDraft ofChange) (h : Holds fact ofDraft ofChange t)
    (hstep : Step t t') : Holds fact ofDraft ofChange t' := by
  obtain ⟨hfact, hdrafts, hchanges⟩ := h
  cases hstep with
  | draft hdraft =>
    have hnew := kept.draft hfact (.of_draft hdraft)
    exact ⟨hfact, List.forall_mem_cons.2 ⟨hnew, hdrafts⟩, hchanges⟩
  | review hmem hreview =>
    have hnew := kept.review hfact (hdrafts _ hmem) (.of_review hreview)
    refine ⟨hfact, ?_, List.forall_mem_cons.2 ⟨hnew, hchanges⟩⟩
    intro d hd
    exact hdrafts d (List.mem_of_mem_erase hd)
  | @commit office _ _ now change hmem =>
    have hchange := hchanges change hmem
    have hcommits := Office.Commits.of_commit office now change
    refine ⟨kept.commit hfact hchange hcommits, ?_, ?_⟩
    · intro d hd
      exact kept.draftStays hfact hchange hcommits (hdrafts d hd)
    · intro c hc
      exact kept.changeStays hfact hchange hcommits (hchanges c (List.mem_of_mem_erase hc))

/-- What is known is still known after every run. -/
theorem run_of_holds (kept : Kept fact ofDraft ofChange) (h : Holds fact ofDraft ofChange t)
    (hrun : Run t t') : Holds fact ofDraft ofChange t' := by
  induction hrun with
  | refl => exact h
  | tail _ hstep ih => exact kept.step ih hstep

/-- A fact that the stages keep holds after every run that starts from a quiet office. -/
theorem run (kept : Kept fact ofDraft ofChange) (h : fact office) (hrun : Run (quiet office) t) :
    Holds fact ofDraft ofChange t :=
  kept.run_of_holds ⟨h, List.forall_mem_nil _, List.forall_mem_nil _⟩ hrun

end Kept

end Traffic

end Symposium
