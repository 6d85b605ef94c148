import Symposium.Proofs.Seats
import Symposium.Proofs.Visits

/-!
# One say of each participant

That a user takes part in a conference and does not host it is looked up when their feedback is
drafted, and that it is their only one when it is reviewed; other operations may come in before the
commit. The first is carried over as seats are never lost and hosts never change, and the second is
looked up again by the book. So feedback that was removed can be given anew, but of two that are on
their way at once only one gets in. Main statement: no user has two live comments on a conference,
each comment is that of a guest with a seat, and none of them changes but by being removed.
-/

namespace Symposium

/-- What may become of a feedback: it stays as it is, or it is removed while it is live. -/
inductive Feedback.Becomes (f : Feedback) : Feedback → Prop where
  | same :
    f.Becomes f
  | removed {time} :
    f.isLive = true →
    f.Becomes { f with deletedAt := some time }

/-- What a comment becomes in two steps it becomes altogether. -/
lemma Feedback.Becomes.trans {f g h : Feedback} (hfg : f.Becomes g) (hgh : g.Becomes h) :
    f.Becomes h := by
  cases hfg with
  | same => exact hgh
  | removed live =>
    cases hgh with
    | same => exact .removed live
    | removed again => cases again

/-- Whatever becomes of a comment, it is by the same user on the same conference. -/
lemma Feedback.Becomes.alike {f g : Feedback} (h : f.Becomes g) :
    g.id = f.id ∧ g.conferenceId = f.conferenceId ∧ g.userId = f.userId := by
  cases h <;> exact ⟨rfl, rfl, rfl⟩

/-- The conference on which a draft comments, and the user who does. -/
def Draft.comment? : Draft → Option (String × String)
  | .feedback userId row _ => some (row.id, userId)
  | _ => none

/-- The conference on which a change comments, and the user who does. -/
def Change.comment? : Change → Option (String × String)
  | .giveFeedback userId id _ _ => some (id, userId)
  | _ => none

namespace FeedbackBook

/-- Whether no user has two live comments on a conference. -/
def Single (book : FeedbackBook) : Prop :=
  ∀ f ∈ book.rows, ∀ g ∈ book.rows, f.isLive = true → g.isLive = true →
    f.conferenceId = g.conferenceId → f.userId = g.userId → f = g

variable {book : FeedbackBook} {f : Feedback}

/-- There is no feedback of a user on a conference exactly if no live row is one. -/
lemma has_eq_false_iff {id userId : String} :
    book.has id userId = false ↔ ∀ f ∈ book.rows, f.isLive = true →
      ¬ (f.conferenceId = id ∧ f.userId = userId) := by
  simp only [has, List.any_eq_false, Feedback.isOf, Bool.and_eq_true, beq_iff_eq]
  exact forall₂_congr fun f _ => ⟨fun h live hsame => h ⟨hsame, live⟩,
    fun h hsame => h hsame.2 hsame.1⟩

/-- A book may take what nobody has said yet. -/
lemma Single.add {book' : FeedbackBook} (h : book.Single) (hadd : book.add f = .ok book') :
    book'.Single := by
  obtain ⟨hfresh, rfl⟩ := add_eq_ok_iff.1 hadd
  have hfresh := has_eq_false_iff.1 hfresh
  intro a ha b hb livea liveb hid huser
  obtain rfl | ⟨olda, _⟩ := Table.mem_rows_put.1 ha
  · obtain rfl | ⟨oldb, _⟩ := Table.mem_rows_put.1 hb
    · rfl
    · exact absurd ⟨hid.symm, huser.symm⟩ (hfresh b oldb liveb)
  · obtain rfl | ⟨oldb, _⟩ := Table.mem_rows_put.1 hb
    · exact absurd ⟨hid, huser⟩ (hfresh a olda livea)
    · exact h a olda b oldb livea liveb hid huser

/-- Nothing is said when a comment is removed. -/
lemma Single.put_removed {time : Timestamp} (h : book.Single) :
    Single (Table.put { f with deletedAt := some time } book) := by
  intro a ha b hb livea liveb hid huser
  obtain rfl | ⟨olda, _⟩ := Table.mem_rows_put.1 ha
  · cases livea
  · obtain rfl | ⟨oldb, _⟩ := Table.mem_rows_put.1 hb
    · cases liveb
    · exact h a olda b oldb livea liveb hid huser

end FeedbackBook

namespace Office

variable {office : Office} {now : Timestamp} {change : Change} {id userId : String}
  {result : Except Failure Outcome × Office}

/-- Whether a user has a seat at a conference that somebody else hosts. -/
def Attends (office : Office) (id userId : String) : Prop :=
  office.roll.has id userId = true ∧ office.programme.HasGuest id userId

/-- Who attends a conference attends it after a commit. -/
lemma Commits.attends (h : Commits office now change result) (orderly : office.Orderly)
    (known : ∀ row ∈ change.row?, office.programme.Knows row)
    (hattends : office.Attends id userId) :
    result.2.Attends id userId := by
  obtain ⟨hseat, hguest⟩ := hattends
  obtain ⟨r, hr, hsame⟩ := Roll.has_iff.1 hseat
  exact ⟨Roll.has_iff.2 ⟨r, h.rows_stay.subset hr, hsame⟩, h.hasGuest orderly known hguest⟩

/--
A commit leaves the book alone, or the book takes the comment that the change brings, under a new
id, or a live comment is removed.
-/
lemma Commits.feedback_cases (h : Commits office now change result) :
    result.2.feedback = office.feedback ∨
      (∃ f : Feedback, (f.conferenceId, f.userId) ∈ change.comment? ∧
        office.ids.draw.1 = some f.id ∧ result.2.ids = office.ids.draw.2 ∧
          office.feedback.add f = .ok result.2.feedback) ∨
      ∃ f ∈ office.feedback.rows, f.isLive = true ∧
        ∃ time, result.2.feedback = office.feedback.put { f with deletedAt := some time } := by
  cases h with
  | commented hdraw hadd => exact .inr (.inl ⟨_, rfl, hdraw, rfl, hadd⟩)
  | removed hremove =>
    obtain ⟨f, hfind, rfl⟩ := FeedbackBook.remove_eq_ok_iff.1 hremove
    obtain ⟨hget, live⟩ := Option.filter_eq_some_iff.1 hfind
    exact .inr (.inr ⟨f, Table.mem_of_get? hget, live, now, rfl⟩)
  | _ => exact .inl rfl

/-- No user has two live comments on a conference, and each comment is that of one who attends. -/
structure Heard (office : Office) : Prop where
  orderly : office.Orderly
  made : ∀ f ∈ office.feedback.rows, office.ids.HasMade f.id
  single : office.feedback.Single
  attended : ∀ f ∈ office.feedback.rows, office.Attends f.conferenceId f.userId

/-- Without feedback there is nothing to be genuine. -/
lemma IsNew.heard (h : office.IsNew) (hempty : office.feedback = .empty) : office.Heard where
  orderly := h.orderly
  made := by
    rw [hempty]
    exact List.forall_mem_nil _
  single := by
    rw [hempty]
    exact List.forall_mem_nil _
  attended := by
    rw [hempty]
    exact List.forall_mem_nil _

/-- Each comment is still there after a commit, unless it was removed by it. -/
lemma Commits.becomes (h : Commits office now change result) (heard : office.Heard) :
    ∀ f ∈ office.feedback.rows, ∃ g ∈ result.2.feedback.rows, f.Becomes g := by
  intro f hf
  obtain hsame | ⟨new, _, hdraw, _, hadd⟩ | ⟨removed, hremoved, live, time, hput⟩ :=
    h.feedback_cases
  · exact ⟨f, hsame ▸ hf, .same⟩
  · -- the id of a new comment was not made before, so it takes the place of none
    obtain ⟨_, hput⟩ := FeedbackBook.add_eq_ok_iff.1 hadd
    have hnew := heard.orderly.neverRepeats.ne_of_draw heard.made hdraw
    rw [← hput]
    exact Table.exists_mem_put (fun _ => .same) (fun old hold hid => absurd hid (hnew old hold)) hf
  · rw [hput]
    refine Table.exists_mem_put (fun _ => .same) (fun old hold hid => ?_) hf
    obtain rfl := Table.eq_of_key_eq hold hremoved hid
    exact .removed live

/-- A comment after a commit was there before, or it is the one that the change brings. -/
lemma Commits.old_or_new (h : Commits office now change result) {f : Feedback}
    (hf : f ∈ result.2.feedback.rows) :
    (∃ old ∈ office.feedback.rows, old.Becomes f) ∨
      (f.conferenceId, f.userId) ∈ change.comment? ∧ result.2.ids.HasMade f.id := by
  obtain hsame | ⟨new, hcomment, hdraw, hids, hadd⟩ | ⟨removed, hremoved, live, time, hput⟩ :=
    h.feedback_cases
  · exact .inl ⟨f, hsame ▸ hf, .same⟩
  · obtain ⟨_, hput⟩ := FeedbackBook.add_eq_ok_iff.1 hadd
    obtain rfl | ⟨hold, _⟩ := Table.mem_rows_put.1 (hput ▸ hf)
    · exact .inr ⟨hcomment, hids ▸ IdSource.hasMade_of_draw hdraw⟩
    · exact .inl ⟨f, hold, .same⟩
  · obtain rfl | ⟨hold, _⟩ := Table.mem_rows_put.1 (hput ▸ hf)
    · exact .inl ⟨removed, hremoved, .removed live⟩
    · exact .inl ⟨f, hold, .same⟩

/-- A commit of a comment of one who attends keeps all this. -/
lemma Commits.heard (h : Commits office now change result) (heard : office.Heard)
    (known : ∀ row ∈ change.row?, office.programme.Knows row)
    (attends : ∀ comment ∈ change.comment?, office.Attends comment.1 comment.2) :
    result.2.Heard where
  orderly := h.orderly heard.orderly known
  made := by
    intro f hf
    -- a row is an old one, which may have been removed, or bears the id that was drawn
    obtain ⟨old, hold, hbecomes⟩ | ⟨_, hmade⟩ := h.old_or_new hf
    · obtain ⟨hid, _, _⟩ := hbecomes.alike
      exact hid ▸ h.hasMade (heard.made old hold)
    · exact hmade
  single := by
    obtain hsame | ⟨_, _, _, _, hadd⟩ | ⟨_, _, _, _, hput⟩ := h.feedback_cases
    · exact hsame ▸ heard.single
    · exact heard.single.add hadd
    · exact hput ▸ heard.single.put_removed
  attended := by
    intro f hf
    refine h.attends heard.orderly known ?_
    obtain ⟨old, hold, hbecomes⟩ | ⟨hcomment, _⟩ := h.old_or_new hf
    · obtain ⟨_, hconference, huser⟩ := hbecomes.alike
      rw [hconference, huser]
      exact heard.attended old hold
    · exact attends _ hcomment

end Office

namespace Traffic

/-- The stages keep all this, as every row that waits is known and whoever comments attends. -/
theorem kept_heard :
    Kept Office.Heard
      (fun office d => (∀ row ∈ d.row?, office.programme.Knows row) ∧
        ∀ comment ∈ d.comment?, office.Attends comment.1 comment.2)
      (fun office change => (∀ row ∈ change.row?, office.programme.Knows row) ∧
        ∀ comment ∈ change.comment?, office.Attends comment.1 comment.2) where
  draft := by
    intro office principal operation d heard hdrafted
    refine ⟨kept_orderly.draft heard.orderly hdrafted, ?_⟩
    intro comment hcomment
    -- only a draft of feedback brings a comment, and it was made for somebody with a seat
    cases hdrafted with
    | @feedback id _ userId row _ hseat hfind _ hguest =>
      cases hcomment
      obtain ⟨hrow, rfl, _⟩ := Programme.find?_eq_some_iff_mem.1 hfind
      exact ⟨hseat, row, hrow, rfl, hguest.symm⟩
    | _ => cases hcomment
  review := by
    intro office now d change heard hd hreviewed
    refine ⟨kept_orderly.review heard.orderly hd.1 hreviewed, ?_⟩
    intro comment hcomment
    cases hreviewed with
    | feedback _ _ =>
      cases hcomment
      exact hd.2 _ rfl
    | _ => cases hcomment
  commit := fun heard hchange hcommits => hcommits.heard heard hchange.1 hchange.2
  draftStays := by
    intro office now change result d heard hchange hcommits hd
    refine ⟨kept_orderly.draftStays heard.orderly hchange.1 hcommits hd.1, ?_⟩
    intro comment hcomment
    exact hcommits.attends heard.orderly hchange.1 (hd.2 comment hcomment)
  changeStays := by
    intro office now change result other heard hchange hcommits hother
    refine ⟨kept_orderly.changeStays heard.orderly hchange.1 hcommits hother.1, ?_⟩
    intro comment hcomment
    exact hcommits.attends heard.orderly hchange.1 (hother.2 comment hcomment)

/-- No step loses a comment or says it anew; it may be removed. -/
lemma Step.becomes {t t' : Traffic} (heard : t.office.Heard) (h : Step t t') :
    ∀ f ∈ t.office.feedback.rows, ∃ g ∈ t'.office.feedback.rows, f.Becomes g := by
  cases h with
  | draft _ => exact fun f hf => ⟨f, hf, .same⟩
  | review _ _ => exact fun f hf => ⟨f, hf, .same⟩
  | @commit office _ _ now change _ =>
    exact (Office.Commits.of_commit office now change).becomes heard

/-- Each comment is still there after a run, and has at most been removed once. -/
lemma Run.becomes {start : Office} {t t' : Traffic} (heard : start.Heard)
    (hrun : Run (.quiet start) t) (hlater : Run t t') :
    ∀ f ∈ t.office.feedback.rows, ∃ g ∈ t'.office.feedback.rows, f.Becomes g := by
  induction hlater with
  | refl => exact fun f hf => ⟨f, hf, .same⟩
  | tail hbefore hstep ih =>
    intro f hf
    obtain ⟨g, hg, hfg⟩ := ih f hf
    have hthen := (kept_heard.run heard (hrun.trans hbefore)).1
    obtain ⟨h, hh, hgh⟩ := hstep.becomes hthen g hg
    exact ⟨h, hh, hfg.trans hgh⟩

end Traffic

namespace Office

/--
However the operations overtake each other in an office that started without anything stored: no
user has two live comments on a conference, each comment, removed or not, is that of a user who has
a seat at a conference that somebody else hosts, and whatever comes later each comment stays as it
is, unless it is removed while it is live.
-/
theorem comments_are_genuine (start : Office) (hnew : start.IsNew)
    (hempty : start.feedback = .empty) (t : Traffic) (hrun : Traffic.Run (.quiet start) t) :
    (∀ f ∈ t.office.feedback.rows, ∀ g ∈ t.office.feedback.rows,
      f.isLive = true → g.isLive = true →
        f.conferenceId = g.conferenceId → f.userId = g.userId → f = g) ∧
      (∀ f ∈ t.office.feedback.rows,
        (∃ r ∈ t.office.roll.rows, r.conferenceId = f.conferenceId ∧ r.userId = f.userId) ∧
          t.office.programme.HasGuest f.conferenceId f.userId) ∧
      ∀ t', Traffic.Run t t' →
        ∀ f ∈ t.office.feedback.rows, ∃ g ∈ t'.office.feedback.rows, f.Becomes g := by
  have hstart := hnew.heard hempty
  have heard := (Traffic.kept_heard.run hstart hrun).1
  refine ⟨heard.single, ?_, ?_⟩
  · intro f hf
    obtain ⟨hseat, hguest⟩ := heard.attended f hf
    exact ⟨Roll.has_iff.1 hseat, hguest⟩
  · intro t' hlater
    exact hrun.becomes hstart hlater

/-- A talk of Alice's is approved, and Ann takes a seat at it. -/
def attended : List Visit :=
  let talk := IdSource.numbered 1
  let visit (userId : String) (role : Role) (operation : Operation) : Visit :=
    ⟨⟨some userId, some role⟩, operation, .hour 0, .hour 0⟩
  [visit "alice" .user (.propose ⟨default, 2, .hours 9 11⟩),
    visit "root" .admin (.decide talk .approved), visit "ann" .user (.register talk)]

/-- Ann's comment is removed, and she gives another one. -/
def retraction : List Visit :=
  [⟨⟨some "root", some .admin⟩, .removeFeedback (IdSource.numbered 2), .hour 13, .hour 13⟩,
    ⟨⟨some "ann", some .user⟩, .giveFeedback (IdSource.numbered 1) "good", .hour 14, .hour 14⟩]

/--
Ann comments twice at once. Both comments pass their checks, but only one of them gets in; it is
removed later, and she gives another one.
-/
theorem comments_are_genuine_of_rush :
    let office := (start .standard (.scripted [])).serveAll attended
    let comment : Change := .giveFeedback "ann" (IdSource.numbered 1) "fine" (.hour 12)
    let rushed := ((office.commit (.hour 12) comment).2.commit (.hour 12) comment).2
    let later := rushed.serveAll retraction
    rushed.feedback.rows.map Feedback.comment = ["fine"] ∧
      later.feedback.rows.map (fun f => (f.comment, f.isLive)) = [("fine", false), ("good", true)] ∧
      (∀ f ∈ later.feedback.rows, ∀ g ∈ later.feedback.rows, f.isLive = true → g.isLive = true →
        f.conferenceId = g.conferenceId → f.userId = g.userId → f = g) ∧
      (∀ f ∈ later.feedback.rows, later.programme.HasGuest f.conferenceId f.userId) ∧
      ∀ f ∈ rushed.feedback.rows, ∃ g ∈ later.feedback.rows, f.Becomes g := by
  intro office comment rushed later
  let ann : Principal := ⟨some "ann", some .user⟩
  let row := (office.programme.find? (IdSource.numbered 1)).getD default
  have hdraft : office.draft ann (.giveFeedback (IdSource.numbered 1) "fine") =
      .ok (.feedback "ann" row "fine") := by rfl
  have hreview : office.review (.hour 12) (.feedback "ann" row "fine") = .ok comment := by rfl
  -- both drafts are made and reviewed before either comment is written
  have hrushed : Traffic.Run (.quiet office) (.quiet rushed) := by
    have hdrafted {drafts : List Draft} : Traffic.Step ⟨office, drafts, []⟩
        ⟨office, .feedback "ann" row "fine" :: drafts, []⟩ := .draft hdraft
    have hreviewed {drafts : List Draft} {changes : List Change} :
        Traffic.Step ⟨office, .feedback "ann" row "fine" :: drafts, changes⟩
          ⟨office, drafts, comment :: changes⟩ :=
      (Traffic.StepAt.review_head hreview).step
    have hcommitted {office : Office} {changes : List Change} :
        Traffic.Step ⟨office, [], comment :: changes⟩
          ⟨(office.commit (.hour 12) comment).2, [], changes⟩ :=
      Traffic.StepAt.commit_head.step
    exact (((((Relation.ReflTransGen.single hdrafted).tail hdrafted).tail hreviewed).tail
      hreviewed).tail hcommitted).tail hcommitted
  have hrun : Traffic.Run (.quiet (start .standard (.scripted []))) (.quiet rushed) :=
    (run_serveAll _ attended).trans hrushed
  have hlater : Traffic.Run (.quiet rushed) (.quiet later) := rushed.run_serveAll retraction
  obtain ⟨_, _, hbecomes⟩ := comments_are_genuine _ isNew_start rfl _ hrun
  have hbecomes := hbecomes _ hlater
  obtain ⟨hsingle, hattended, _⟩ := comments_are_genuine _ isNew_start rfl _ (hrun.trans hlater)
  dsimp only [Traffic.quiet] at hbecomes hsingle hattended
  refine ⟨by rfl, by decide +kernel, hsingle, ?_, hbecomes⟩
  intro f hf
  exact (hattended f hf).2

end Office

end Symposium
