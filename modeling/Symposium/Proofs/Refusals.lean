import Symposium.Proofs.Failures
import Symposium.Proofs.Listings

/-!
# What is refused

A computation `OnlyRefuses` if it gives a result or is refused. Times can be put in order if they
have an offset, and what a store finds wrong with a row is reported as a refusal. Main statements:
every stage of an operation with valid arguments only refuses, and so does every reading, in an
office whose times have offsets; only a seat that nobody takes is reported in another way.
-/

namespace Symposium

namespace Failure

/-- Whether a failure is a refusal. -/
def IsRefusal (failure : Failure) : Prop :=
  ∃ refusal, failure = .refused refusal

/-- Whether a computation gives a result or is refused. -/
abbrev OnlyRefuses {α : Type} (x : Except Failure α) : Prop :=
  Only IsRefusal x

namespace OnlyRefuses

variable {α : Type}

/-- A refusal is one. -/
lemma refused {refusal : Refusal} : OnlyRefuses (.error (.refused refusal) : Except Failure α) :=
  Only.error ⟨refusal, rfl⟩

/-- A requirement only refuses. -/
lemma require {condition : Bool} {refusal : Refusal} :
    OnlyRefuses (Failure.require condition refusal) :=
  Only.require ⟨refusal, rfl⟩

/-- What fails by refusals only refuses. -/
lemma ofRefusal {x : Except Refusal α} : OnlyRefuses (Failure.ofRefusal x) := by
  cases x with
  | error refusal => exact refused
  | ok a => exact Only.ok

end OnlyRefuses

end Failure

open Failure (Only OnlyRefuses IsRefusal)

section Stores

variable {programme : Programme} {rows : List Conference} {window : Window} {c : Conference}
  {query : Query} {request : Page.Request} {now : Timestamp} {ways : Failure → Prop}

/-- With offsets, comparing windows comes to a result. -/
lemma Programme.exists_overlappingInOrder (hwindow : window.isAware = true)
    (hrows : ∀ c ∈ rows, c.window.isAware = true) :
    ∃ found, overlappingInOrder window rows = .ok found := by
  obtain ⟨found, hfound⟩ := exists_overlapping hwindow hrows
  exact ⟨_, Failure.map_eq_ok_iff.2 ⟨found, hfound, rfl⟩⟩

section Programme

variable (aware : ∀ c ∈ programme.rows, c.window.isAware = true)

include aware

/-- A page in order of the starts only refuses its cursors and its limit. -/
lemma Programme.pageByStart_onlyRefuses {descending : Bool} (hrows : rows ⊆ programme.rows) :
    OnlyRefuses (programme.pageByStart request descending rows) := by
  refine Only.bind OnlyRefuses.ofRefusal fun place _ => ?_
  rw [if_pos (allComparable_comparedStarts request hrows aware)]
  exact Only.ok

/-- With offsets, a listing only refuses. -/
lemma Programme.list_onlyRefuses (hquery : query.IsAware) (hnow : now.isAware = true) :
    OnlyRefuses (programme.list query now) := by
  have hlive : programme.live ⊆ programme.rows := List.filter_sublist.subset
  obtain ⟨kept, hkept, hsublist, _⟩ := Failure.exists_keep programme.live fun c hc =>
    hquery.exists_fits hnow (aware c (hlive hc))
  refine Only.bind (Only.of_eq_ok hkept) fun rows hrows => ?_
  obtain rfl : kept = rows := Except.ok.inj (hkept.symm.trans hrows)
  cases query.sortBy with
  | created => exact Only.bind OnlyRefuses.ofRefusal fun _ _ => Only.ok
  | start => exact pageByStart_onlyRefuses aware fun c hc => hlive (hsublist.subset hc)

/-- A row that is not taken overlaps booked ones. -/
lemma Programme.checkOverlap_only (hc : c.window.isAware = true)
    (hoverlap : ∀ conflicts, ways (.violated (.overlap conflicts))) :
    Only ways (programme.checkOverlap c) := by
  have hbooked : ∀ other ∈ programme.booked (some c.id), other.window.isAware = true :=
    fun other hother => aware other (mem_booked_iff.1 hother).1
  obtain ⟨found, hfound⟩ := exists_overlapping hc hbooked
  unfold checkOverlap
  split
  · refine Only.bind (Only.of_eq_ok hfound) fun conflicts _ => ?_
    split
    · exact Only.ok
    · exact Only.error (hoverlap conflicts)
  · exact Only.ok

/-- With offsets, the seats that collide with a window are found. -/
lemma Roll.exists_conflicting (roll : Roll) (userId : String) (hwindow : window.isAware = true) :
    ∃ found, roll.conflicting programme userId window = .ok found := by
  apply Programme.exists_overlappingInOrder hwindow
  intro c hc
  exact aware c (Programme.mem_of_find? (mem_conferencesOf_iff.1 hc).1)

/-- With offsets, a page of conferences with seats only refuses. -/
lemma Roll.conferencePage_onlyRefuses {roll : Roll} {userId : String} {includePast : Bool}
    (hnow : now.isAware = true) :
    OnlyRefuses (roll.conferencePage programme userId includePast request now) := by
  have hrows : roll.conferencesOf programme userId ⊆ programme.rows :=
    fun c hc => Programme.mem_of_find? (mem_conferencesOf_iff.1 hc).1
  obtain ⟨kept, hkept, hsublist, _⟩ := Failure.exists_keep (roll.conferencesOf programme userId)
    fun c hc => Window.exists_isListed (aware c (hrows hc)) hnow includePast
  refine Only.bind (Only.of_eq_ok hkept) fun rows hkept' => ?_
  obtain rfl : kept = rows := Except.ok.inj (hkept.symm.trans hkept')
  exact Programme.pageByStart_onlyRefuses aware fun c hc => hrows (hsublist.subset hc)

end Programme

/-- With offsets, the check of a window only refuses. -/
lemma Window.checkFuture_onlyRefuses (hwindow : window.isAware = true)
    (hnow : now.isAware = true) : OnlyRefuses (window.checkFuture now) := by
  obtain ⟨hstart, hend⟩ := Bool.and_eq_true_iff.1 hwindow
  refine Only.bind (Only.of_eq_ok (Timestamp.isBefore_of_aware hstart hnow)) fun _ _ => ?_
  refine Only.bind OnlyRefuses.require fun _ _ => ?_
  refine Only.bind (Only.of_eq_ok (Timestamp.isBefore_of_aware hstart hend)) fun _ _ => ?_
  exact OnlyRefuses.require

/-- With offsets, the check of an edit only refuses. -/
lemma Conference.checkEdit_onlyRefuses {edit : Edit} (hc : c.window.isAware = true)
    (htimes : ∀ t ∈ edit.startsAt.toList ++ edit.endsAt.toList, t.isAware = true)
    (hnow : now.isAware = true) : OnlyRefuses (c.checkEdit edit now) := by
  have hend : c.window.endsAt.isAware = true := (Bool.and_eq_true_iff.1 hc).2
  refine Only.bind (Only.of_eq_ok (Timestamp.isBefore_of_aware hnow hend)) fun _ _ => ?_
  refine Only.bind OnlyRefuses.require fun _ _ => ?_
  refine Only.bind OnlyRefuses.require fun _ _ => ?_
  split
  · refine Only.bind OnlyRefuses.require fun _ _ => ?_
    exact Window.checkFuture_onlyRefuses (Edit.isAware_applyToWindow hc htimes) hnow
  · exact Only.ok

/-- With offsets, the check of a decision only refuses. -/
lemma Conference.checkDecision_onlyRefuses {status : Status} (hc : c.window.isAware = true)
    (hnow : now.isAware = true) : OnlyRefuses (c.checkDecision status now) := by
  have hstart : c.window.startsAt.isAware = true := (Bool.and_eq_true_iff.1 hc).1
  refine Only.bind OnlyRefuses.require fun _ _ => ?_
  split
  · refine Only.bind (Only.of_eq_ok (Timestamp.isBefore_of_aware hstart hnow)) fun _ _ => ?_
    exact OnlyRefuses.require
  · exact Only.ok

end Stores

/-- Whether the times of all entries have an offset. -/
def Journal.IsAware (journal : Journal) : Prop :=
  ∀ e ∈ journal.timeline, e.time.isAware = true

/-- Whether the times that an operation brings have an offset and a comment is a text. -/
structure Operation.IsValid (operation : Operation) : Prop where
  times : ∀ t ∈ operation.times, t.isAware = true
  comment : ∀ id, operation ≠ .giveFeedback id none

namespace Office

variable {office : Office} {principal : Principal} {operation : Operation} {d : Draft}
  {change : Change} {now : Timestamp} {id : String}

/-- What is not there is refused. -/
lemma load_onlyRefuses : OnlyRefuses (office.load id) := by
  unfold load
  split
  · exact Only.ok
  · exact OnlyRefuses.refused

/-- What is not there or hidden is refused. -/
lemma loadVisible_onlyRefuses : OnlyRefuses (office.loadVisible principal id) :=
  Only.bind load_onlyRefuses fun _ _ => Only.bind OnlyRefuses.require fun _ _ => Only.ok

/-- The check of roles only refuses. -/
lemma checkUnrestricted_onlyRefuses : OnlyRefuses principal.checkUnrestricted := by
  unfold Principal.checkUnrestricted
  split
  · exact Only.ok
  · exact OnlyRefuses.require

/-- Whatever is asked for and by whom, it can be drafted or it is refused. -/
lemma draft_onlyRefuses : OnlyRefuses (office.draft principal operation) := by
  cases operation with
  | propose proposal =>
    show OnlyRefuses (draftProposal principal proposal)
    unfold draftProposal
    split
    · exact OnlyRefuses.refused
    · exact Only.ok
  | edit id changes =>
    exact Only.bind load_onlyRefuses fun _ _ => Only.bind OnlyRefuses.require fun _ _ => Only.ok
  | decide id status =>
    refine Only.bind checkUnrestricted_onlyRefuses fun _ _ => ?_
    exact Only.bind load_onlyRefuses fun _ _ => Only.ok
  | withdraw id =>
    exact Only.bind load_onlyRefuses fun _ _ => Only.bind OnlyRefuses.require fun _ _ => Only.ok
  | register id =>
    apply Only.map
    unfold approach
    split
    · refine Only.bind loadVisible_onlyRefuses fun _ _ => ?_
      exact Only.bind OnlyRefuses.require fun _ _ => Only.ok
    · exact Only.ok
  | giveFeedback id comment =>
    show OnlyRefuses (office.draftFeedback principal id comment)
    unfold draftFeedback
    split
    · exact OnlyRefuses.refused
    · refine Only.bind OnlyRefuses.require fun _ _ => ?_
      refine Only.bind loadVisible_onlyRefuses fun _ _ => ?_
      exact Only.bind OnlyRefuses.require fun _ _ => Only.ok
  | removeFeedback id => exact Only.map checkUnrestricted_onlyRefuses

section Aware

variable (aware : ∀ c ∈ office.programme.rows, c.window.isAware = true)

include aware

/-- With offsets, a window is found free or refused. -/
lemma checkFree_onlyRefuses {window : Window} {except : Option String}
    (hwindow : window.isAware = true) : OnlyRefuses (office.checkFree window except) := by
  unfold checkFree
  split
  · obtain ⟨found, hfound⟩ := Programme.exists_overlappingInOrder hwindow
      fun c hc => aware c (Programme.mem_booked_iff.1 hc).1
    refine Only.bind (Only.map (Only.of_eq_ok hfound)) fun _ _ => ?_
    exact OnlyRefuses.require
  · exact Only.ok

/-- With offsets, a second active proposal is refused. -/
lemma checkActive_onlyRefuses {hostId : String} (hnow : now.isAware = true) :
    OnlyRefuses (office.checkActive hostId now) := by
  refine Only.bind (Programme.list_onlyRefuses aware ⟨nofun, nofun⟩ hnow) fun page _ => ?_
  split
  · exact Only.ok
  · exact OnlyRefuses.refused

/-- With offsets, an admission is given or refused. -/
lemma admission_onlyRefuses {userId : Option String} {row : Conference}
    (hrow : row ∈ office.programme.rows) (hnow : now.isAware = true) :
    OnlyRefuses (office.admission userId row now) := by
  have hend : row.window.endsAt.isAware = true := (Bool.and_eq_true_iff.1 (aware row hrow)).2
  refine Only.bind (Only.of_eq_ok (Timestamp.isBefore_of_aware hnow hend)) fun _ _ => ?_
  refine Only.bind OnlyRefuses.require fun _ _ => ?_
  refine Only.bind OnlyRefuses.require fun _ _ => ?_
  refine Only.bind OnlyRefuses.require fun _ _ => ?_
  refine Only.bind ?_ fun _ _ => OnlyRefuses.require
  cases userId with
  | none => exact Only.ok
  | some userId =>
    obtain ⟨found, hfound⟩ := office.roll.exists_conflicting aware userId (aware row hrow)
    exact Only.of_eq_ok hfound

/-- What was drafted of an operation passes its review or is refused. -/
lemma review_onlyRefuses (hdrafted : Drafted office principal operation d)
    (times : ∀ t ∈ operation.times, t.isAware = true) (hnow : now.isAware = true) :
    OnlyRefuses (office.review now d) := by
  cases hdrafted with
  | @proposal hostId proposal _ =>
    have hwindow : proposal.window.isAware = true := by
      obtain ⟨hstart, hends⟩ := List.forall_mem_cons.1 times
      exact Bool.and_eq_true_iff.2 ⟨hstart, hends _ List.mem_cons_self⟩
    refine Only.bind (Window.checkFuture_onlyRefuses hwindow hnow) fun _ _ => ?_
    refine Only.bind (checkActive_onlyRefuses aware hnow) fun _ _ => ?_
    exact Only.bind (checkFree_onlyRefuses aware hwindow) fun _ _ => Only.ok
  | edit hfind _ =>
    have hrow := aware _ (Programme.mem_of_find? hfind)
    refine Only.bind (Conference.checkEdit_onlyRefuses hrow times hnow) fun _ _ => ?_
    refine Only.when (fun _ => ?_) Only.ok
    exact checkFree_onlyRefuses aware (Edit.isAware_applyToWindow hrow times)
  | decision _ hfind =>
    have hrow := aware _ (Programme.mem_of_find? hfind)
    refine Only.bind (Conference.checkDecision_onlyRefuses hrow hnow) fun _ _ => ?_
    exact Only.when (fun _ => checkFree_onlyRefuses aware hrow) Only.ok
  | withdrawal _ _ => exact Only.ok
  | seat _ hfind _ _ =>
    exact Only.map (admission_onlyRefuses aware (Programme.mem_of_find? hfind) hnow)
  | anySeat _ => exact Only.map Only.ok
  | @feedback _ _ _ row _ _ hfind _ _ =>
    have hrow := aware _ (Programme.mem_of_find? hfind)
    have hend : row.window.endsAt.isAware = true := (Bool.and_eq_true_iff.1 hrow).2
    refine Only.bind (Only.of_eq_ok (Timestamp.isBefore_of_aware hnow hend)) fun _ _ => ?_
    refine Only.bind OnlyRefuses.require fun _ _ => ?_
    exact Only.bind OnlyRefuses.require fun _ _ => Only.ok
  | removal _ => exact Only.ok

/-- A row with offsets is written or refused. -/
lemma commitRow_onlyRefuses {row : Conference} {news : Event.News} (never : office.bus.NeverFails)
    (hrow : row.window.isAware = true) : OnlyRefuses (office.commitRow row news now).1 := by
  have hupdate : Only (fun failure => IsRefusal (unwritten row.id failure))
      (office.programme.update row now) := by
    unfold Programme.update
    split
    · exact Only.error ⟨_, rfl⟩
    · exact Only.map (Programme.checkOverlap_only aware hrow fun conflicts => ⟨_, rfl⟩)
  unfold commitRow
  split
  · next failure hfailure => exact Only.error (hupdate failure hfailure)
  · exact fun _ hfailure => absurd hfailure (announce_ne_error never)

/-- A seat of somebody is given or refused. -/
lemma commitSeat_onlyRefuses {userId : String} (never : office.bus.NeverFails) :
    OnlyRefuses (office.commitSeat (some userId) id now).1 := by
  have hadd : Only (fun failure => IsRefusal (unseated id failure))
      (office.roll.add office.programme ⟨id, userId, now⟩) := by
    unfold Roll.add
    split
    · exact Only.error ⟨_, rfl⟩
    · next row hfind =>
      split
      · exact Only.error ⟨_, rfl⟩
      · split
        · exact Only.error ⟨_, rfl⟩
        -- only the comparison could fail otherwise, and with offsets it does not
        · obtain ⟨found, hfound⟩ := office.roll.exists_conflicting aware userId
            (aware row (Programme.mem_of_find? hfind))
          refine Only.bind (Only.of_eq_ok hfound) fun conflicts _ => ?_
          split
          · exact Only.ok
          · exact Only.error ⟨_, rfl⟩
  unfold commitSeat
  dsimp only
  split
  · next failure hfailure => exact Only.error (hadd failure hfailure)
  · exact fun _ hfailure => absurd hfailure (announce_ne_error never)

end Aware

/-- A proposal is written or refused, also if no id can be made. -/
lemma commitProposal_onlyRefuses {hostId : String} {proposal : Proposal}
    (never : office.bus.NeverFails) :
    OnlyRefuses (office.commitProposal hostId proposal now).1 := by
  unfold commitProposal
  split
  · exact OnlyRefuses.refused
  · next id ids _ =>
    have hpending : (proposal.toConference id hostId now).status = .pending := rfl
    rw [Programme.add_of_pending hpending]
    exact fun _ hfailure => absurd hfailure (announce_ne_error never)

/-- A withdrawal is written or refused. -/
lemma commitWithdrawal_onlyRefuses {actorId : Option String} (never : office.bus.NeverFails) :
    OnlyRefuses (office.commitWithdrawal actorId id now).1 := by
  have hwithdraw : Only (fun failure => IsRefusal (unwritten id failure))
      (office.programme.withdraw id now) := by
    unfold Programme.withdraw
    split
    · exact Only.error ⟨_, rfl⟩
    · exact Only.ok
  unfold commitWithdrawal
  split
  · next failure hfailure => exact Only.error (hwithdraw failure hfailure)
  · exact fun _ hfailure => absurd hfailure (announce_ne_error never)

/-- A feedback with a comment is written or refused. -/
lemma commitFeedback_onlyRefuses {userId comment : String} (never : office.bus.NeverFails) :
    OnlyRefuses (office.commitFeedback userId id (some comment) now).1 := by
  have hadd (f : Feedback) : Only (fun failure => IsRefusal (unsaid failure))
      (office.feedback.add f) := by
    unfold FeedbackBook.add
    split
    · exact Only.error ⟨_, rfl⟩
    · exact Only.ok
  unfold commitFeedback
  split
  · exact OnlyRefuses.refused
  · next hcomment => cases hcomment
  · split
    · next failure hfailure => exact Only.error (hadd _ failure hfailure)
    · exact fun _ hfailure => absurd hfailure (announce_ne_error never)

/-- A removal is written or refused. -/
lemma commitRemoval_onlyRefuses : OnlyRefuses (office.commitRemoval id now).1 := by
  unfold commitRemoval
  split
  · exact OnlyRefuses.refused
  · exact Only.ok

/-- A change with valid times is committed or refused, unless nobody is to have a seat. -/
lemma commit_onlyRefuses (aware : ∀ c ∈ office.programme.rows, c.window.isAware = true)
    (never : office.bus.NeverFails) (hwindow : ∀ w ∈ change.window?, w.isAware = true)
    (hseat : ∀ id, change ≠ .register none id)
    (hcomment : ∀ userId id time, change ≠ .giveFeedback userId id none time) :
    OnlyRefuses (office.commit now change).1 := by
  cases change with
  | propose hostId proposal time => exact commitProposal_onlyRefuses never
  | edit row changedFields time => exact commitRow_onlyRefuses aware never (hwindow _ rfl)
  | decide actorId previous row time => exact commitRow_onlyRefuses aware never (hwindow _ rfl)
  | withdraw actorId id => exact commitWithdrawal_onlyRefuses never
  | register userId? id =>
    cases userId? with
    | none => exact absurd rfl (hseat id)
    | some userId => exact commitSeat_onlyRefuses aware never
  | giveFeedback userId id comment? time =>
    cases comment? with
    | none => exact absurd rfl (hcomment userId id time)
    | some comment => exact commitFeedback_onlyRefuses never
  | removeFeedback id => exact commitRemoval_onlyRefuses

section Readings

variable {request : Page.Request}

/-- A conference is shown or refused. -/
lemma get_onlyRefuses : OnlyRefuses (office.get principal id) :=
  Only.map loadVisible_onlyRefuses

/-- A listing is given or refused. -/
lemma list_onlyRefuses {query : Query}
    (aware : ∀ c ∈ office.programme.rows, c.window.isAware = true) (hquery : query.IsAware)
    (hnow : now.isAware = true) : OnlyRefuses (office.list principal query now) := by
  refine Only.bind OnlyRefuses.ofRefusal fun _ _ => ?_
  have hscope : OnlyRefuses (principal.scope query) := by
    unfold Principal.scope
    split
    · exact Only.ok
    · split
      · exact Only.ok
      · split
        · exact Only.ok
        · exact OnlyRefuses.refused
  refine Only.bind hscope fun narrowed hnarrowed => ?_
  -- a query that is narrowed has the bounds that it had
  obtain ⟨hostId, rfl, _⟩ := Principal.exists_hostId_of_scope hnarrowed
  have hnarrow : Query.IsAware { query with hostId } := ⟨hquery.before, hquery.after⟩
  exact Only.bind (Programme.list_onlyRefuses aware hnarrow hnow) fun _ _ => Only.ok

/-- A timeline whose times have offsets is given or refused. -/
lemma timeline_onlyRefuses (haware : office.journal.IsAware) :
    OnlyRefuses (office.timeline principal id) := by
  unfold timeline
  split
  · exact OnlyRefuses.refused
  · refine Only.bind OnlyRefuses.require fun _ _ => ?_
    have hcomparable : Timestamp.allComparable
        ((office.journal.entriesOf id).map (·.time)) = true := by
      apply Timestamp.allComparable_of_aware
      intro t ht
      obtain ⟨e, he, rfl⟩ := List.mem_map.1 ht
      exact haware e (List.mem_filter.1 he).1
    simp only [Journal.timelineOf, hcomparable, if_true]
    exact Only.ok

/-- Participants are listed or refused. -/
lemma participants_onlyRefuses : OnlyRefuses (office.participants principal id request) := by
  refine Only.bind OnlyRefuses.ofRefusal fun _ _ => ?_
  refine Only.bind loadVisible_onlyRefuses fun _ _ => ?_
  refine Only.bind OnlyRefuses.require fun _ _ => ?_
  exact Only.bind (Only.bind OnlyRefuses.ofRefusal fun _ _ => Only.ok) fun _ _ => Only.ok

/-- The conferences of a user are listed or refused. -/
lemma conferencesOf_onlyRefuses {userId : String} {includePast : Bool}
    (aware : ∀ c ∈ office.programme.rows, c.window.isAware = true) (hnow : now.isAware = true) :
    OnlyRefuses (office.conferencesOf principal userId includePast request now) := by
  refine Only.bind OnlyRefuses.ofRefusal fun _ _ => ?_
  refine Only.bind OnlyRefuses.require fun _ _ => ?_
  exact Only.bind (Roll.conferencePage_onlyRefuses aware hnow) fun _ _ => Only.ok

/-- Feedback is listed or refused. -/
lemma notes_onlyRefuses : OnlyRefuses (office.notes principal id request) := by
  refine Only.bind OnlyRefuses.ofRefusal fun _ _ => ?_
  refine Only.bind loadVisible_onlyRefuses fun _ _ => ?_
  exact Only.bind (Only.bind OnlyRefuses.ofRefusal fun _ _ => Only.ok) fun _ _ => Only.ok

end Readings

end Office

end Symposium
