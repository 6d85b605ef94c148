import Symposium.Proofs.Hidden
import Symposium.Proofs.Records

/-!
# What refusals explain

Most refusals that name conferences do so without asking who may see them: overlaps are looked for
among all booked conferences and among those at which the user has a seat. A computation is discreet
if whatever it is refused with tells only of conferences that are open. Main statement: every
operation of a plain user is, as booked conferences are approved, seats of plain users are at
approved conferences, and what else is told of was shown to the user before.
-/

namespace Symposium

/-- Whether a conference is approved or hosted by a user. -/
def Conference.IsOpenTo (c : Conference) (userId : String) : Prop :=
  c.status = .approved ∨ c.hostId = userId

/-- Whether there is a conference with an id that is open to a user. -/
def Programme.IsOpen (programme : Programme) (userId id : String) : Prop :=
  ∃ c ∈ programme.rows, c.id = id ∧ c.IsOpenTo userId

/-- A conference that is found and open to a user is open in the programme. -/
lemma Programme.isOpen_of_find? {programme : Programme} {userId id : String} {c : Conference}
    (h : programme.find? id = some c) (hopen : c.IsOpenTo userId) : programme.IsOpen userId id := by
  obtain ⟨hrow, hid, _⟩ := find?_eq_some_iff_mem.1 h
  exact ⟨c, hrow, hid, hopen⟩

/-- A plain user sees what is open to them. -/
lemma Principal.sees_plain_iff {userId : String} {c : Conference} :
    (plain userId).sees c = true ↔ c.IsOpenTo userId := by
  rw [sees_iff]
  constructor
  · rintro (happroved | hunrestricted | hhost)
    · exact .inl happroved
    · cases hunrestricted
    · exact .inr (Option.some.inj hhost).symm
  · rintro (happroved | hhost)
    · exact .inl happroved
    · exact .inr (.inr (congrArg some hhost.symm))

namespace Failure

/-- The conferences of which a failure tells, or comes to tell once it is reported. -/
def subjects (asked : Option String) : Failure → List String
  | refused refusal => refusal.subjects asked
  | violated (.overlap conflicts) => conflicts.map Conference.id
  | _ => []

/-- Whether a computation that fails tells of open conferences alone. -/
def IsDiscreet {α : Type} (isOpen : String → Prop) (asked : Option String)
    (x : Except Failure α) : Prop :=
  ∀ failure, x = .error failure → ∀ id ∈ failure.subjects asked, isOpen id

namespace IsDiscreet

variable {α β : Type} {isOpen : String → Prop} {asked : Option String} {x : Except Failure α}
  {failure : Failure}

/-- A result explains nothing. -/
lemma ok {a : α} : IsDiscreet isOpen asked (.ok a : Except Failure α) :=
  Only.ok

/-- A failure may tell of open conferences. -/
lemma error (h : ∀ id ∈ failure.subjects asked, isOpen id) :
    IsDiscreet isOpen asked (.error failure : Except Failure α) :=
  Only.error h

/-- A failure that tells of nothing is discreet. -/
lemma silent (h : failure.subjects asked = []) :
    IsDiscreet isOpen asked (.error failure : Except Failure α) := by
  apply error
  rw [h]
  exact List.forall_mem_nil _

/-- Two steps are discreet if both are. -/
lemma bind {f : α → Except Failure β} (hx : IsDiscreet isOpen asked x)
    (hf : ∀ a, x = .ok a → IsDiscreet isOpen asked (f a)) : IsDiscreet isOpen asked (x >>= f) :=
  Only.bind hx hf

/-- Mapping a result keeps what a failure tells. -/
lemma map {f : α → β} (hx : IsDiscreet isOpen asked x) : IsDiscreet isOpen asked (x.map f) :=
  Only.map hx

/-- A step on a condition has to be discreet only where the condition holds. -/
lemma when {c : Prop} [Decidable c] {x : Except Failure Unit} {f : Unit → Except Failure β}
    (hx : c → IsDiscreet isOpen asked x) (hf : IsDiscreet isOpen asked (f ())) :
    IsDiscreet isOpen asked (if c then x >>= f else f ()) :=
  Only.when hx hf

/-- A requirement is discreet if its refusal is. -/
lemma require {condition : Bool} {refusal : Refusal}
    (h : ∀ id ∈ refusal.subjects asked, isOpen id) :
    IsDiscreet isOpen asked (Failure.require condition refusal) :=
  Only.require h

/-- A requirement that is refused without subjects is discreet. -/
lemma requireSilently {condition : Bool} {refusal : Refusal} (h : refusal.subjects asked = []) :
    IsDiscreet isOpen asked (Failure.require condition refusal) := by
  apply require
  rw [h]
  exact List.forall_mem_nil _

/-- A comparison that fails tells of nothing. -/
lemma ofComparison {found : Option α} : IsDiscreet isOpen asked (Failure.ofComparison found) := by
  cases found with
  | none => exact silent rfl
  | some a => exact ok

/-- Keeping rows is discreet if the test is. -/
lemma keep {test : α → Except Failure Bool} {rows : List α}
    (htest : ∀ a, IsDiscreet isOpen asked (test a)) :
    IsDiscreet isOpen asked (Failure.keep test rows) :=
  Only.keep htest

/-- Going through rows is discreet if the step is. -/
lemma mapM {f : α → Except Failure β} {rows : List α}
    (hf : ∀ a, IsDiscreet isOpen asked (f a)) : IsDiscreet isOpen asked (rows.mapM f) :=
  Only.mapM hf

/-- A combined test is discreet if both are. -/
lemma both {a b : Except Failure Bool} (ha : IsDiscreet isOpen asked a)
    (hb : IsDiscreet isOpen asked b) : IsDiscreet isOpen asked (Failure.both a b) :=
  Only.both ha hb

end IsDiscreet

end Failure

open Failure (IsDiscreet)

variable {isOpen : String → Prop} {asked : Option String} {userId : String}

section Pages

variable {request : Page.Request}

/-- A page that cannot be asked for is refused with what was asked. -/
lemma Page.Request.check_isDiscreet {most : Int} :
    IsDiscreet isOpen asked (Failure.ofRefusal (request.check most)) := by
  unfold check
  split
  · exact .silent rfl
  · split
    · exact .ok
    · exact .silent rfl

/-- A cursor is refused with what was asked. -/
lemma Page.Request.place_isDiscreet {keyOf : String → Option SortKey} :
    IsDiscreet isOpen asked (Failure.ofRefusal (request.place keyOf)) := by
  unfold place
  split
  · exact .silent rfl
  all_goals exact .ok

/-- Whether a window is listed is found out without a word. -/
lemma Window.isListed_isDiscreet {window : Window} {includePast : Bool} {now : Timestamp} :
    IsDiscreet isOpen asked (window.isListed includePast now) := by
  unfold isListed
  split
  · exact .ok
  · exact .ofComparison

/-- A page in order of the starts fails without a word. -/
lemma Programme.pageByStart_isDiscreet {programme : Programme} {descending : Bool}
    {rows : List Conference} :
    IsDiscreet isOpen asked (programme.pageByStart request descending rows) := by
  refine .bind Page.Request.place_isDiscreet fun _ _ => ?_
  split
  · exact .ok
  · exact .silent rfl

/-- A listing fails without a word on what it would have listed. -/
lemma Programme.list_isDiscreet {programme : Programme} {query : Query} {now : Timestamp} :
    IsDiscreet isOpen asked (programme.list query now) := by
  have hfits (c : Conference) : IsDiscreet isOpen asked (query.fits now c) := by
    refine .both .ok (.both Window.isListed_isDiscreet (.both .ok (.both ?_ ?_)))
    · unfold Query.fitsLatest
      split
      · exact .ok
      · exact .ofComparison
    · unfold Query.fitsEarliest
      split
      · exact .ok
      · exact .ofComparison
  refine .bind (.keep hfits) fun rows _ => ?_
  cases query.sortBy with
  | created => exact .bind Page.Request.place_isDiscreet fun _ _ => .ok
  | start => exact pageByStart_isDiscreet

/-- A page of conferences with seats fails without a word. -/
lemma Roll.conferencePage_isDiscreet {roll : Roll} {programme : Programme} {includePast : Bool}
    {now : Timestamp} :
    IsDiscreet isOpen asked (roll.conferencePage programme userId includePast request now) :=
  .bind (.keep fun _ => Window.isListed_isDiscreet) fun _ _ => Programme.pageByStart_isDiscreet

/-- A query that asks for too much is refused with what was asked. -/
lemma Principal.scope_isDiscreet {principal : Principal} {query : Query} :
    IsDiscreet isOpen asked (principal.scope query) := by
  unfold scope
  split
  · exact .ok
  · split
    · exact .ok
    · split
      · exact .ok
      · exact .silent rfl

end Pages

namespace Programme

variable {programme : Programme} {window : Window} {conferences found : List Conference}
  {c : Conference}

/-- What overlaps among some conferences is one of them. -/
lemma mem_of_overlapping (h : overlapping window conferences = .ok found) (hc : c ∈ found) :
    c ∈ conferences :=
  (Failure.of_mem_keep h hc).1

/-- What overlaps among some conferences is one of them, in whatever order. -/
lemma mem_of_overlappingInOrder (h : overlappingInOrder window conferences = .ok found)
    (hc : c ∈ found) : c ∈ conferences := by
  obtain ⟨rows, hrows, rfl⟩ := Failure.map_eq_ok_iff.1 h
  exact mem_of_overlapping hrows ((Page.sortRows_perm ..).mem_iff.1 hc)

/-- Comparing windows fails without a word. -/
lemma overlapping_isDiscreet : IsDiscreet isOpen asked (overlapping window conferences) :=
  .keep fun _ => .ofComparison

/-- What is booked is open to everybody. -/
lemma isOpen_of_booked {except : Option String} (h : c ∈ programme.booked except) :
    programme.IsOpen userId c.id := by
  obtain ⟨hrow, hbooked, _⟩ := mem_booked_iff.1 h
  rw [Conference.isBooked, Bool.and_eq_true, beq_iff_eq] at hbooked
  exact ⟨c, hrow, rfl, .inl hbooked.2⟩

/-- Whether clashes are named does not matter if the conferences are open. -/
lemma forall_subjects_of_clashes (h : ∀ c ∈ found, programme.IsOpen userId c.id) :
    ∀ id ∈ (found.map Clash.ofConference).map Clash.id, programme.IsOpen userId id := by
  intro id hid
  obtain ⟨clash, hclash, rfl⟩ := List.mem_map.1 hid
  obtain ⟨c, hc, rfl⟩ := List.mem_map.1 hclash
  exact h c hc

end Programme

namespace Office

variable {office : Office} {id : String} {now : Timestamp} {window : Window}

/-- A conference that is not there is refused without a word. -/
lemma load_isDiscreet : IsDiscreet isOpen asked (office.load id) := by
  unfold load
  split
  · exact .ok
  · exact .silent rfl

/-- A conference that is hidden is refused as one that is not there. -/
lemma loadVisible_isDiscreet {principal : Principal} :
    IsDiscreet isOpen asked (office.loadVisible principal id) :=
  .bind load_isDiscreet fun _ _ => .bind (.requireSilently rfl) fun _ _ => .ok

/-- A timeline is refused without a word. -/
lemma timeline_isDiscreet {principal : Principal} :
    IsDiscreet isOpen asked (office.timeline principal id) := by
  unfold timeline
  split
  · exact .silent rfl
  · refine .bind (.requireSilently rfl) fun _ _ => ?_
    unfold Journal.timelineOf
    dsimp only
    split
    · exact .ok
    · exact .silent rfl

/-- A window that is not free is refused with what is booked, which is open to all. -/
lemma checkFree_isDiscreet {except : Option String} :
    IsDiscreet (office.programme.IsOpen userId) asked (office.checkFree window except) := by
  unfold checkFree
  split
  · refine .bind (.map (.map Programme.overlapping_isDiscreet)) fun conflicts hconflicts => ?_
    refine .require (Programme.forall_subjects_of_clashes fun c hc => ?_)
    obtain ⟨rows, hrows, rfl⟩ := Failure.map_eq_ok_iff.1 hconflicts
    exact Programme.isOpen_of_booked
      (Programme.mem_of_overlappingInOrder hrows (Page.mem_of_mem_upTo hc))
  · exact .ok

/-- A second proposal is refused with the first one, which is the user's own. -/
lemma checkActive_isDiscreet :
    IsDiscreet (office.programme.IsOpen userId) asked (office.checkActive userId now) := by
  refine .bind Programme.list_isDiscreet fun page hlist => ?_
  split
  · exact .ok
  · next c hhead =>
    refine .error (List.forall_mem_singleton.2 ?_)
    obtain ⟨hfind, hfits⟩ := Programme.of_mem_list hlist (List.mem_of_head? hhead)
    have hhost := Query.fitsHost_iff.1 (Query.of_fits hfits).2 userId rfl
    exact ⟨c, Programme.mem_of_find? hfind, rfl, .inr hhost.symm⟩

end Office

/-- The times of a window may be told if what was asked for is open. -/
lemma Window.checkFuture_isDiscreet {window : Window} {now : Timestamp}
    (h : ∀ id ∈ asked.toList, isOpen id) : IsDiscreet isOpen asked (window.checkFuture now) :=
  .bind .ofComparison fun _ _ => .bind (.require h) fun _ _ =>
    .bind .ofComparison fun _ _ => .require h

/-- An edit is refused with the dates of the conference that it is about. -/
lemma Conference.checkEdit_isDiscreet {row : Conference} {edit : Edit} {now : Timestamp}
    (h : ∀ id ∈ asked.toList, isOpen id) : IsDiscreet isOpen asked (row.checkEdit edit now) := by
  refine .bind .ofComparison fun _ _ => ?_
  refine .bind (.requireSilently rfl) fun _ _ => ?_
  refine .bind (.requireSilently rfl) fun _ _ => ?_
  split
  · exact .bind (.requireSilently rfl) fun _ _ => Window.checkFuture_isDiscreet h
  · exact .ok

namespace Programme

variable {programme : Programme} {c : Conference} {now : Timestamp}

/-- A row that is not taken overlaps booked conferences. -/
lemma checkOverlap_isDiscreet :
    IsDiscreet (programme.IsOpen userId) asked (programme.checkOverlap c) := by
  unfold checkOverlap
  split
  · refine .bind overlapping_isDiscreet fun conflicts hconflicts => ?_
    split
    · exact .ok
    · refine .error fun id hid => ?_
      obtain ⟨other, hother, rfl⟩ := List.mem_map.1 hid
      exact isOpen_of_booked (mem_of_overlapping hconflicts hother)
  · exact .ok

/-- A write is refused with what is booked, which is open to all. -/
lemma update_isDiscreet : IsDiscreet (programme.IsOpen userId) asked (programme.update c now) := by
  unfold update
  split
  · exact .silent rfl
  · exact .map checkOverlap_isDiscreet

/-- A withdrawal that fails tells of nothing. -/
lemma withdraw_isDiscreet {id : String} :
    IsDiscreet isOpen asked (programme.withdraw id now) := by
  unfold withdraw
  split
  · exact .silent rfl
  · exact .ok

end Programme

/-- Entries that cannot be shown are refused without a word. -/
lemma Entry.allShown_isDiscreet {entries : List Entry} :
    IsDiscreet isOpen asked (allShown entries) := by
  refine .map (.mapM fun entry => ?_)
  unfold shown
  split
  · exact .ok
  · exact .silent rfl

/-- A second feedback is refused without a word. -/
lemma FeedbackBook.add_isDiscreet {book : FeedbackBook} {f : Feedback} :
    IsDiscreet isOpen asked (book.add f) := by
  unfold add
  split
  · exact .silent rfl
  · exact .ok

/-- The conference that an operation is about, if it is about one. -/
def Operation.subject? : Operation → Option String
  | propose _ => none
  | edit id _ => some id
  | decide id _ => some id
  | withdraw id => some id
  | register id => some id
  | giveFeedback id _ => some id
  | removeFeedback _ => none

namespace Office

variable {office : Office} {operation : Operation} {d : Draft} {change : Change} {now : Timestamp}
  {window : Window}

/-- Whether a user has seats at open conferences only. -/
def SeatedOpenly (office : Office) (userId : String) : Prop :=
  ∀ c ∈ office.roll.conferencesOf office.programme userId, office.programme.IsOpen userId c.id

/-- Who may not do something is told so and nothing else. -/
lemma checkUnrestricted_isDiscreet {principal : Principal} :
    IsDiscreet isOpen asked principal.checkUnrestricted := by
  unfold Principal.checkUnrestricted
  split
  · exact .ok
  · exact .requireSilently rfl

/-- What a plain user asks for is refused at first without a word. -/
lemma draft_isDiscreet : IsDiscreet isOpen asked (office.draft (.plain userId) operation) := by
  cases operation with
  | propose proposal => exact .ok
  | edit id changes =>
    exact .bind load_isDiscreet fun _ _ => .bind (.requireSilently rfl) fun _ _ => .ok
  | decide id status =>
    exact .bind checkUnrestricted_isDiscreet fun _ _ => .bind load_isDiscreet fun _ _ => .ok
  | withdraw id =>
    exact .bind load_isDiscreet fun _ _ => .bind (.requireSilently rfl) fun _ _ => .ok
  | register id =>
    apply IsDiscreet.map
    unfold approach
    split
    · exact .bind loadVisible_isDiscreet fun _ _ => .bind (.requireSilently rfl) fun _ _ => .ok
    · exact .ok
  | giveFeedback id comment =>
    exact .bind (.requireSilently rfl) fun _ _ => .bind loadVisible_isDiscreet fun _ _ =>
      .bind (.requireSilently rfl) fun _ _ => .ok
  | removeFeedback id =>
    show IsDiscreet isOpen asked
      ((Principal.plain userId).checkUnrestricted.map fun _ => Draft.removal id)
    exact .map checkUnrestricted_isDiscreet

/-- Comparing seats fails without a word. -/
lemma conflicting_isDiscreet :
    IsDiscreet isOpen asked (office.roll.conflicting office.programme userId window) :=
  .map Programme.overlapping_isDiscreet

/-- The seats that collide with a window are at open conferences. -/
lemma isOpen_of_conflicting {conflicts : List Conference} (seated : office.SeatedOpenly userId)
    (h : office.roll.conflicting office.programme userId window = .ok conflicts) :
    ∀ c ∈ conflicts, office.programme.IsOpen userId c.id := by
  intro c hc
  exact seated c (Programme.mem_of_overlappingInOrder h hc)

/-- An admission is refused with the user's own seats and what the conference itself says. -/
lemma admission_isDiscreet {row : Conference} (seated : office.SeatedOpenly userId)
    (h : ∀ id ∈ asked.toList, office.programme.IsOpen userId id) :
    IsDiscreet (office.programme.IsOpen userId) asked
      (office.admission (some userId) row now) := by
  refine .bind .ofComparison fun _ _ => ?_
  refine .bind (.requireSilently rfl) fun _ _ => ?_
  refine .bind (.requireSilently rfl) fun _ _ => ?_
  refine .bind (.require h) fun _ _ => ?_
  refine .bind conflicting_isDiscreet fun conflicts hconflicts => ?_
  exact .require (Programme.forall_subjects_of_clashes (isOpen_of_conflicting seated hconflicts))

/-- What the review of a plain user's draft tells of was loaded for them or is open anyway. -/
lemma review_isDiscreet (seated : office.SeatedOpenly userId)
    (hdrafted : Drafted office (.plain userId) operation d) :
    IsDiscreet (office.programme.IsOpen userId) operation.subject? (office.review now d) := by
  cases hdrafted with
  | proposal hhost =>
    cases hhost
    refine .bind (Window.checkFuture_isDiscreet (List.forall_mem_nil _)) fun _ _ => ?_
    exact .bind checkActive_isDiscreet fun _ _ => .bind checkFree_isDiscreet fun _ _ => .ok
  | edit hfind hhost =>
    -- the host may be told when their own conference starts and ends
    have hopen := Programme.isOpen_of_find? hfind (.inr (Option.some.inj hhost).symm)
    refine .bind (Conference.checkEdit_isDiscreet (List.forall_mem_singleton.2 hopen)) fun _ _ => ?_
    exact .when (fun _ => checkFree_isDiscreet) .ok
  -- a plain user decides about nothing
  | decision hunrestricted _ => cases hunrestricted
  | withdrawal _ _ => exact .ok
  | seat _ hfind hsees _ =>
    have hopen := Programme.isOpen_of_find? hfind (Principal.sees_plain_iff.1 hsees)
    exact .map (admission_isDiscreet seated (List.forall_mem_singleton.2 hopen))
  | anySeat _ => exact .map .ok
  | feedback _ _ hfind hsees _ =>
    have hopen := Programme.isOpen_of_find? hfind (Principal.sees_plain_iff.1 hsees)
    refine .bind .ofComparison fun _ _ => ?_
    refine .bind (.require (List.forall_mem_singleton.2 hopen)) fun _ _ => ?_
    exact .bind (.requireSilently rfl) fun _ _ => .ok
  | removal _ => exact .ok

/-- A failed write is reported with the same subjects. -/
lemma subjects_unwritten {failure : Failure} {id : String} :
    (unwritten id failure).subjects asked = failure.subjects asked := by
  cases failure with
  | violated violation =>
    cases violation with
    | overlap conflicts => exact List.map_map
    | _ => rfl
  | _ => rfl

/-- A seat that was not given is reported with the same subjects. -/
lemma subjects_unseated {failure : Failure} {id : String} :
    (unseated id failure).subjects asked = failure.subjects asked := by
  cases failure with
  | violated violation =>
    cases violation with
    | overlap conflicts => exact List.map_map
    | _ => rfl
  | _ => rfl

/-- A feedback that was not taken is reported with the same subjects. -/
lemma subjects_unsaid {failure : Failure} :
    (unsaid failure).subjects asked = failure.subjects asked := by
  cases failure with
  | violated violation => cases violation <;> rfl
  | _ => rfl

/-- A seat that is not given overlaps conferences at which the user has one. -/
lemma add_isDiscreet {id : String} (seated : office.SeatedOpenly userId) :
    IsDiscreet (office.programme.IsOpen userId) asked
      (office.roll.add office.programme ⟨id, userId, now⟩) := by
  unfold Roll.add
  split
  · exact .silent rfl
  · split
    · exact .silent rfl
    · split
      · exact .silent rfl
      · refine .bind conflicting_isDiscreet fun conflicts hconflicts => ?_
        split
        · exact .ok
        · refine .error fun id hid => ?_
          obtain ⟨other, hother, rfl⟩ := List.mem_map.1 hid
          exact isOpen_of_conflicting seated hconflicts other hother

/-- Handlers that never fail tell of nothing. -/
lemma announce_isDiscreet {event : Event} {answer : Outcome} (never : office.bus.NeverFails) :
    IsDiscreet isOpen asked (office.announce event answer).1 :=
  fun _ hfailure => absurd hfailure (announce_ne_error never)

/-- A row that cannot be written is refused with what is booked. -/
lemma commitRow_isDiscreet {row : Conference} {news : Event.News} (never : office.bus.NeverFails) :
    IsDiscreet (office.programme.IsOpen userId) asked (office.commitRow row news now).1 := by
  unfold commitRow
  split
  · next failure hupdate =>
    refine .error ?_
    rw [subjects_unwritten]
    exact Programme.update_isDiscreet failure hupdate
  · exact announce_isDiscreet never

/-- A proposal that cannot be written is refused with what is booked. -/
lemma commitProposal_isDiscreet {hostId : String} {proposal : Proposal} {time : Timestamp}
    (never : office.bus.NeverFails) :
    IsDiscreet (office.programme.IsOpen userId) asked
      (office.commitProposal hostId proposal time).1 := by
  unfold commitProposal
  split
  · exact .silent rfl
  · split
    · next failure hadd =>
      exact .error (IsDiscreet.map Programme.checkOverlap_isDiscreet failure hadd)
    · exact announce_isDiscreet never

/-- A withdrawal fails without a word. -/
lemma commitWithdrawal_isDiscreet {actorId : Option String} {id : String}
    (never : office.bus.NeverFails) :
    IsDiscreet isOpen asked (office.commitWithdrawal actorId id now).1 := by
  unfold commitWithdrawal
  split
  · next failure hwithdraw =>
    refine .error ?_
    rw [subjects_unwritten]
    exact Programme.withdraw_isDiscreet failure hwithdraw
  · exact announce_isDiscreet never

/-- A seat that is not given is refused with the user's other seats. -/
lemma commitSeat_isDiscreet {id : String} (never : office.bus.NeverFails)
    (seated : office.SeatedOpenly userId) :
    IsDiscreet (office.programme.IsOpen userId) asked
      (office.commitSeat (some userId) id now).1 := by
  unfold commitSeat
  dsimp only
  split
  · next failure hadd =>
    refine .error ?_
    rw [subjects_unseated]
    exact add_isDiscreet seated failure hadd
  · exact announce_isDiscreet never

/-- A feedback that is not taken is refused without a word. -/
lemma commitFeedback_isDiscreet {author id : String} {comment : Option String} {time : Timestamp}
    (never : office.bus.NeverFails) :
    IsDiscreet isOpen asked (office.commitFeedback author id comment time).1 := by
  unfold commitFeedback
  split
  · exact .silent rfl
  · exact .silent rfl
  · split
    · next failure hadd =>
      refine .error ?_
      rw [subjects_unsaid]
      exact FeedbackBook.add_isDiscreet failure hadd
    · exact announce_isDiscreet never

/-- A feedback that is not removed is refused without a word. -/
lemma commitRemoval_isDiscreet {id : String} :
    IsDiscreet isOpen asked (office.commitRemoval id now).1 := by
  unfold commitRemoval
  split
  · exact .silent rfl
  · exact .ok

/-- What a change is refused with in the end, it may be told of as well as before. -/
lemma commit_isDiscreet (never : office.bus.NeverFails) (seated : office.SeatedOpenly userId)
    (hseat : ∀ seat ∈ change.seat?, seat.2 = userId) :
    IsDiscreet (office.programme.IsOpen userId) asked (office.commit now change).1 := by
  cases change with
  | propose hostId proposal time => exact commitProposal_isDiscreet never
  | edit row changedFields time => exact commitRow_isDiscreet never
  | decide actorId previous row time => exact commitRow_isDiscreet never
  | withdraw actorId id => exact commitWithdrawal_isDiscreet never
  | register userId? id =>
    cases userId? with
    | none => exact .silent rfl
    | some other =>
      obtain rfl := hseat _ rfl
      exact commitSeat_isDiscreet never seated
  | giveFeedback author id comment time => exact commitFeedback_isDiscreet never
  | removeFeedback id => exact commitRemoval_isDiscreet

/-- A registration takes a seat for whoever it names. -/
lemma of_mem_seat? {userId? : Option String} {id : String} {seat : String × String}
    (h : seat ∈ (Change.register userId? id).seat?) : seat.1 = id ∧ userId? = some seat.2 := by
  cases userId? with
  | none => cases h
  | some userId =>
    cases h
    exact ⟨rfl, rfl⟩

/-- Who takes a seat at the end of an operation takes it for themselves where they were admitted. -/
lemma Drafted.admits {principal : Principal} (hdrafted : Drafted office principal operation d)
    (hreviewed : Reviewed office now d change) :
    ∀ seat ∈ change.seat?, principal.id = some seat.2 ∧
      (office.policy.checksAdmission = true →
        ∃ row, office.programme.find? seat.1 = some row ∧ principal.sees row = true ∧
          principal.id ≠ some row.hostId) := by
  rintro ⟨id, userId⟩ hseat
  cases hreviewed with
  | seat _ =>
    obtain ⟨rfl, hid⟩ := of_mem_seat? hseat
    cases hdrafted with
    | seat _ hfind hsees hguest => exact ⟨hid, fun _ => ⟨_, hfind, hsees, hguest⟩⟩
    | anySeat hpolicy =>
      refine ⟨hid, fun hadmits => ?_⟩
      rw [hpolicy] at hadmits
      cases hadmits
  | _ => cases hseat

/-- Whatever a visit of a plain user is refused with tells of open conferences alone. -/
theorem serve_isDiscreet (never : office.bus.NeverFails) (seated : office.SeatedOpenly userId)
    {visit : Visit} (hplain : visit.principal = .plain userId) :
    IsDiscreet (office.programme.IsOpen userId) visit.operation.subject?
      (office.serve visit).1 := by
  have hcheck : IsDiscreet (office.programme.IsOpen userId) visit.operation.subject?
      (office.check visit.principal visit.operation visit.checkedAt) := by
    rw [hplain]
    exact .bind draft_isDiscreet fun d hdraft => review_isDiscreet seated (.of_draft hdraft)
  unfold serve
  cases hchange : office.check visit.principal visit.operation visit.checkedAt with
  | error failure => exact .error (hcheck failure hchange)
  | ok change =>
    obtain ⟨d, hdraft, hreview⟩ := Failure.bind_eq_ok_iff.1 hchange
    rw [hplain] at hdraft
    have hadmits := (Drafted.of_draft hdraft).admits (Reviewed.of_review hreview)
    exact commit_isDiscreet never seated fun seat hseat =>
      (Option.some.inj (hadmits seat hseat).1).symm

end Office

end Symposium
