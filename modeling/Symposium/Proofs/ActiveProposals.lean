import Mathlib.Data.List.Induction
import Symposium.Proofs.Origins
import Symposium.Proofs.Pages
import Symposium.Proofs.Performance
import Symposium.Proofs.Visits

/-!
# One active proposal at a time

A host has at most one live conference that is pending and not over. Only a proposal is checked for
this, by way of the first page of a listing. The other operations keep it: an edit finds its
conference pending and not over before, so it never makes a conference active that was not, and a
decision or a withdrawal ends what was active. Main statement: this holds after all visits.
-/

namespace Symposium

/-- Whether a conference of a host is live, pending and not over at an instant. -/
structure Conference.IsActive (hostId : String) (now : Int) (c : Conference) : Prop where
  live : c.isLive = true
  pending : c.status = .pending
  host : c.hostId = hostId
  ahead : now < c.window.endsAt.instant

/-- What is still active later was active before. -/
lemma Conference.IsActive.mono {c : Conference} {hostId : String} {now later : Int}
    (h : c.IsActive hostId later) (hle : now ≤ later) : c.IsActive hostId now where
  __ := h
  ahead := Int.lt_of_le_of_lt hle h.ahead

/-- The first page of a listing is empty only if there is nothing to list. -/
lemma Page.eq_nil_of_cut_start {α : Type} {key : α → SortKey} {descending : Bool} {rows : List α}
    {limit : Nat} (hlimit : 0 < limit) (h : (cut key descending .start limit rows).rows = []) :
    rows = [] := by
  rw [cut_start] at h
  have hsorted : sortRows key descending rows = [] := by
    obtain hzero | hnil := List.take_eq_nil_iff.1 h
    · exact absurd hzero (Nat.ne_of_gt hlimit)
    · exact hnil
  have hperm := sortRows_perm key descending rows
  rw [hsorted] at hperm
  exact hperm.nil_eq.symm

namespace Office

variable {office later : Office} {visit : Visit} {hostId : String} {now : Timestamp}

/-- The listing of active proposals does not leave out a conference that is active. -/
lemma fits_of_isActive {c : Conference} (hactive : c.IsActive hostId now.instant) :
    (activeProposals hostId).fits now c ≠ .ok false := by
  have hfits : (activeProposals hostId).fits now c =
      Failure.both (now.isBefore c.window.endsAt) (.ok true) := by
    simp [Query.fits, activeProposals, Window.isListed, Query.fitsTitle, Query.fitsHost,
      Query.fitsLatest, Query.fitsEarliest, hactive.pending, hactive.host, Failure.both]
  rw [hfits, Timestamp.isBefore]
  cases hbefore : now.before? c.window.endsAt with
  | none =>
    intro h
    cases h
  | some ahead =>
    cases ahead with
    | true =>
      intro h
      cases h
    | false => exact absurd hactive.ahead (Int.not_lt.2 (Timestamp.le_of_before? hbefore))

/-- A host who may make a further proposal has no active one. -/
lemma not_isActive_of_checkActive (h : office.checkActive hostId now = .ok ()) :
    ∀ c ∈ office.programme.rows, ¬ c.IsActive hostId now.instant := by
  obtain ⟨page, hlist, hnone⟩ := Failure.bind_eq_ok_iff.1 h
  obtain ⟨rows, hfitting, hcut⟩ := Failure.bind_eq_ok_iff.1 hlist
  cases hcut
  have hempty : rows = [] := by
    apply Page.eq_nil_of_cut_start Nat.one_pos
    split at hnone
    · next hhead => exact List.head?_eq_none_iff.1 hhead
    · cases hnone
  subst hempty
  intro c hc hactive
  have hlive := List.mem_filter.2 ⟨hc, hactive.live⟩
  exact fits_of_isActive hactive (Failure.keep_eq_nil_iff.1 hfitting c hlive)

/-- No host has two active proposals at an instant. -/
def OneActive (programme : Programme) (now : Int) : Prop :=
  ∀ hostId, ∀ c ∈ programme.rows, ∀ d ∈ programme.rows,
    c.IsActive hostId now → d.IsActive hostId now → c = d

/-- As active proposals only run out, having one at most is kept when time passes. -/
lemma OneActive.mono {programme : Programme} {now later : Int} (h : OneActive programme now)
    (hle : now ≤ later) : OneActive programme later := by
  intro hostId c hc d hd hactive hactive'
  exact h hostId c hc d hd (hactive.mono hle) (hactive'.mono hle)

/-- A row may be put if no other row is active for the same host. -/
lemma OneActive.put {programme : Programme} {row : Conference} {now : Int}
    (h : OneActive programme now)
    (hrow : ∀ hostId, row.IsActive hostId now →
      ∀ c ∈ programme.rows, c.id ≠ row.id → ¬ c.IsActive hostId now) :
    OneActive (programme.put row) now := by
  intro hostId c hc d hd hactive hactive'
  obtain rfl | ⟨hold, hne⟩ := Table.mem_rows_put.1 hc
  · obtain rfl | ⟨hold', hne'⟩ := Table.mem_rows_put.1 hd
    · rfl
    · exact absurd hactive' (hrow hostId hactive d hold' hne')
  · obtain rfl | ⟨hold', _⟩ := Table.mem_rows_put.1 hd
    · exact absurd hactive (hrow hostId hactive' c hold hne)
    · exact h hostId c hold d hold' hactive hactive'

/-- A row may take the place of one that is active if it is. -/
lemma OneActive.put_of_find {programme : Programme} {row rewritten : Conference} {now : Int}
    (h : OneActive programme now) (hfind : programme.find? row.id = some row)
    (hid : rewritten.id = row.id)
    (hactive : ∀ hostId, rewritten.IsActive hostId now → row.IsActive hostId now) :
    OneActive (programme.put rewritten) now := by
  refine h.put fun hostId hnew c hc hne hother => ?_
  have hrow := Programme.mem_of_find? hfind
  obtain rfl := h hostId c hc row hrow hother (hactive hostId hnew)
  exact hne hid.symm

/-- An operation leaves every host with one active proposal, at the time at which it is checked. -/
lemma Performs.oneActive {principal : Principal} {operation : Operation}
    {checkedAt writtenAt : Timestamp} {result : Except Failure Outcome × Office}
    (performs : Performs office principal checkedAt writtenAt operation result)
    (h : OneActive office.programme checkedAt.instant) :
    OneActive result.2.programme checkedAt.instant := by
  cases performs with
  | proposed _ _ hactive _ _ =>
    refine h.put fun hostId hnew c hc _ => ?_
    obtain rfl := hnew.host
    exact not_isActive_of_checkActive hactive c hc
  | edited hfind _ hallowed _ =>
    obtain ⟨hahead, _, _⟩ := Conference.checkEdit_eq_ok_iff.1 hallowed
    refine h.put_of_find hfind rfl fun hostId hnew => ?_
    exact ⟨hnew.live, hnew.pending, hnew.host, Timestamp.lt_of_before? hahead⟩
  | decided _ hfind hallowed _ =>
    obtain ⟨_, hdecides, _⟩ := Conference.checkDecision_eq_ok_iff.1 hallowed
    exact h.put_of_find hfind rfl fun hostId hnew => absurd hnew.pending hdecides
  | withdrawn hfind _ =>
    refine h.put_of_find hfind rfl fun hostId hnew => ?_
    cases hnew.live
  | refused _ => exact h
  | registered _ _ _ _ => exact h
  | commented _ _ _ _ _ _ _ _ => exact h
  | removed _ _ => exact h

/--
From empty stores and with a clock that has an offset and does not go back, every host has at most
one active proposal at the time that the clock shows by then.
-/
theorem active_proposals_are_single (start : Office) (hnew : start.IsNew) (visits : List Visit)
    (timely : Timely visits) (now : Timestamp)
    (hnow : ∀ t ∈ visits.flatMap Visit.readings, t.instant ≤ now.instant) (hostId : String) :
    ∀ c ∈ (start.serveAll visits).programme.rows, ∀ d ∈ (start.serveAll visits).programme.rows,
      c.IsActive hostId now.instant → d.IsActive hostId now.instant → c = d := by
  suffices h : OneActive (start.serveAll visits).programme now.instant from h hostId
  generalize now.instant = clock at hnow
  induction visits using List.reverseRecOn generalizing clock with
  | nil =>
    show OneActive start.programme clock
    rw [hnew.programme]
    intro hostId c hc
    exact absurd hc List.not_mem_nil
  | append_singleton visits visit ih =>
    obtain ⟨htimely, _, hcheckedAt⟩ := timely.of_concat
    have hbefore := ih htimely visit.checkedAt.instant hcheckedAt
    have hmem : visit.checkedAt ∈ (visits ++ [visit]).flatMap Visit.readings := by
      simp [Visit.readings]
    rw [serveAll_concat]
    exact ((Performs.of_serve _ visit).oneActive hbefore).mono (hnow _ hmem)

/-- Alice proposes a talk, proposes another in vain, moves the first, and proposes after its end. -/
def proposals : List Visit :=
  let visit (operation : Operation) (hour : Int) : Visit :=
    ⟨⟨some "alice", some .user⟩, operation, .hour hour, .hour hour⟩
  [visit (.propose ⟨default, 2, .hours 9 11⟩) 0,
    visit (.propose ⟨default, 2, .hours 13 15⟩) 1,
    visit (.edit (IdSource.numbered 1) { (default : Edit) with endsAt := Timestamp.hour 12 }) 2,
    visit (.propose ⟨default, 2, .hours 20 22⟩) 12]

/-- Both of the talks that Alice got to propose are pending, but only one of them is not over. -/
theorem active_proposals_are_single_of_proposals :
    let office := (start .standard (.scripted [])).serveAll proposals
    office.programme.rows.map (fun c => (c.status, c.window)) =
        [(.pending, .hours 9 12), (.pending, .hours 20 22)] ∧
      ∀ c ∈ office.programme.rows, ∀ d ∈ office.programme.rows,
        c.IsActive "alice" (Timestamp.hour 12).instant →
          d.IsActive "alice" (Timestamp.hour 12).instant → c = d := by
  refine ⟨by rfl, ?_⟩
  exact active_proposals_are_single _ isNew_start proposals ⟨by decide, by decide⟩ (.hour 12)
    (by decide) "alice"

end Office

end Symposium
