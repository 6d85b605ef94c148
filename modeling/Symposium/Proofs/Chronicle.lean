import Mathlib.Data.List.Induction
import Symposium.Proofs.Checks
import Symposium.Timeline

/-!
# What a timeline tells

The entries of a conference are replayed one after the other. A `Chronicle` is what is known of the
conference then, and it says which entry may come next. Main statement: entries that can be replayed
follow the rules of a timeline, and what is known after them can be read off them.
-/

namespace Symposium

namespace Entry.Kind

/-- Whether an entry of this kind reports a new row of its conference. -/
def rewrites : Kind → Bool
  | proposed | updated | approved | rejected | deleted => true
  | registered | feedbackGiven => false

/-- Whether an entry of this kind reports a decision. -/
def decides : Kind → Bool
  | approved | rejected => true
  | _ => false

/-- What an entry of one kind says about those that come after it, at any distance. -/
structure MayPrecede (earlier later : Kind) : Prop where
  /-- Only the first entry is a proposal. -/
  unproposed : later ≠ .proposed
  /-- There is one decision at most. -/
  decided : earlier.decides = true → later.decides = false
  /-- A rejected conference is not edited. -/
  closed : earlier = .rejected → later ≠ .updated
  /-- Nothing happens to a conference that was withdrawn. -/
  deleted : earlier ≠ .deleted
  /-- A conference that is over is not edited or approved, and no seat is taken. -/
  ended : earlier = .feedbackGiven → later ≠ .updated ∧ later ≠ .approved ∧ later ≠ .registered

end Entry.Kind

/-- The entries about decisions on a conference with a status. -/
def Status.decisions : Status → List Entry.Kind
  | pending => []
  | approved => [.approved]
  | rejected => [.rejected]

/-- What a timeline tells about a conference. -/
structure Chronicle where
  hostId : Option String
  createdAt : Timestamp
  updatedAt : Timestamp
  status : Status
  deletedAt : Option Timestamp
  seatsTaken : Nat
  /-- How often feedback was given, removed or not. -/
  comments : Nat
  deriving DecidableEq, Repr

namespace Chronicle

/-- What is told by a proposal. -/
def ofProposal (entry : Entry) : Option Chronicle :=
  if entry.kind = .proposed then
    some ⟨entry.actorId, entry.time, entry.time, .pending, none, 0, 0⟩
  else none

/-- Whether an entry of some kind may come next. -/
def Admits (told : Chronicle) (kind : Entry.Kind) : Prop :=
  told.deletedAt = none ∧
    match kind with
    | .proposed => False
    | .updated => told.status ≠ .rejected ∧ told.comments = 0
    | .approved => told.status = .pending ∧ told.comments = 0
    | .rejected => told.status = .pending
    | .registered => told.comments = 0
    | .deleted | .feedbackGiven => True

instance (told : Chronicle) (kind : Entry.Kind) : Decidable (told.Admits kind) := by
  unfold Admits
  cases kind <;> infer_instance

/-- What is told with one more entry. -/
def tell (told : Chronicle) (entry : Entry) : Chronicle :=
  match entry.kind with
  | .proposed => told
  | .updated => { told with updatedAt := entry.time }
  | .approved => { told with status := .approved, updatedAt := entry.time }
  | .rejected => { told with status := .rejected, updatedAt := entry.time }
  | .deleted => { told with deletedAt := some entry.time, updatedAt := entry.time }
  | .registered => { told with seatsTaken := told.seatsTaken + 1 }
  | .feedbackGiven => { told with comments := told.comments + 1 }

/-- What is told with one more entry, if it may come next. -/
def next (told : Chronicle) (entry : Entry) : Option Chronicle :=
  if told.Admits entry.kind then some (told.tell entry) else none

/-- What some entries tell, if they can follow each other. -/
def replay : List Entry → Option Chronicle
  | [] => none
  | entry :: entries => ofProposal entry >>= fun told => entries.foldlM next told

variable {entries : List Entry} {entry : Entry} {told before : Chronicle} {kind : Entry.Kind}

/-- Replaying one more entry goes on from what the others told. -/
lemma replay_concat (h : replay entries = some told) :
    replay (entries ++ [entry]) = told.next entry := by
  cases entries with
  | nil => cases h
  | cons first rest =>
    simp only [replay, Option.bind_eq_bind, Option.bind_eq_some_iff] at h
    obtain ⟨first', hfirst, hrest⟩ := h
    simp only [List.cons_append, replay, hfirst, Option.bind_eq_bind, Option.bind_some,
      List.foldlM_append, hrest]
    simp

/-- What is known after some entries, and what it says about them. -/
structure Recounts (entries : List Entry) (told : Chronicle) : Prop where
  /-- The first entry is the proposal of the host. -/
  proposed : ∃ first rest, entries = first :: rest ∧ first.kind = .proposed ∧
    first.actorId = told.hostId ∧ first.time = told.createdAt
  order : entries.Pairwise fun a b => a.kind.MayPrecede b.kind
  /-- The status is that of the only decision. -/
  decision : (entries.filter (·.kind.decides)).map Entry.kind = told.status.decisions
  /-- The time of the only withdrawal, if there is one. -/
  deleted : (entries.filter (·.kind = .deleted)).map Entry.time = told.deletedAt.toList
  registered : entries.countP (·.kind = .registered) = told.seatsTaken
  commented : entries.countP (·.kind = .feedbackGiven) = told.comments
  /-- The time of the last entry that reports a new row. -/
  updated : (entries.filter (·.kind.rewrites)).getLast?.map Entry.time = some told.updatedAt

namespace Recounts

/-- A first entry that is a proposal recounts a pending conference. -/
lemma of_proposal (h : ofProposal entry = some told) : Recounts [entry] told := by
  unfold ofProposal at h
  split at h
  · next hkind =>
    cases h
    refine ⟨⟨entry, [], rfl, hkind, rfl, rfl⟩, List.pairwise_singleton _ _, ?_, ?_, ?_, ?_, ?_⟩
    · simp [hkind, Entry.Kind.decides, Status.decisions]
    · simp [hkind]
    · simp [hkind]
    · simp [hkind]
    · simp [hkind, Entry.Kind.rewrites]
  · cases h

/-- A decision on the timeline is the one that the status tells of. -/
lemma mem_decisions (h : Recounts entries told) {a : Entry} (ha : a ∈ entries)
    (hdecides : a.kind.decides = true) : a.kind ∈ told.status.decisions := by
  rw [← h.decision]
  exact List.mem_map_of_mem (List.mem_filter.2 ⟨ha, hdecides⟩)

/-- An entry that may come next breaks no rule of any entry before it. -/
lemma mayPrecede (h : Recounts entries told) (admits : told.Admits kind) {a : Entry}
    (ha : a ∈ entries) : a.kind.MayPrecede kind where
  unproposed := by
    rintro rfl
    exact admits.2
  decided := by
    intro hdecides
    have hmem := h.mem_decisions ha hdecides
    obtain ⟨_, admits⟩ := admits
    cases kind with
    | approved =>
      rw [admits.1] at hmem
      cases hmem
    | rejected =>
      rw [admits] at hmem
      cases hmem
    | _ => rfl
  closed := by
    -- only a rejected conference has a rejection among its entries
    rintro hrejected rfl
    have hmem := h.mem_decisions ha (by rw [hrejected]; rfl)
    rw [hrejected] at hmem
    cases hstatus : told.status with
    | pending =>
      rw [hstatus] at hmem
      cases hmem
    | approved =>
      rw [hstatus] at hmem
      cases hmem with
      | tail _ hmem => cases hmem
    | rejected => exact admits.2.1 hstatus
  deleted := by
    intro hdeleted
    have hmem : a.time ∈ told.deletedAt.toList := by
      rw [← h.deleted]
      exact List.mem_map_of_mem (List.mem_filter.2 ⟨ha, by simpa using hdeleted⟩)
    rw [admits.1] at hmem
    cases hmem
  ended := by
    intro hgiven
    have hcomments : told.comments ≠ 0 := by
      have hpos : 0 < entries.countP (·.kind = .feedbackGiven) :=
        List.countP_pos_iff.2 ⟨a, ha, by simpa using hgiven⟩
      rw [h.commented] at hpos
      exact Nat.pos_iff_ne_zero.1 hpos
    refine ⟨?_, ?_, ?_⟩
    · rintro rfl
      exact hcomments admits.2.2
    · rintro rfl
      exact hcomments admits.2.2
    · rintro rfl
      exact hcomments admits.2

/-- One more entry that may come next. -/
lemma concat (h : Recounts entries told) (admits : told.Admits entry.kind) :
    Recounts (entries ++ [entry]) (told.tell entry) where
  proposed := by
    -- the first entry stays, and with it who proposed the conference and when
    obtain ⟨first, rest, rfl, hkind, hactor, htime⟩ := h.proposed
    refine ⟨first, rest ++ [entry], rfl, hkind, ?_, ?_⟩
    · rw [hactor]
      unfold tell
      split <;> rfl
    · rw [htime]
      unfold tell
      split <;> rfl
  order := by
    refine List.pairwise_append.2 ⟨h.order, List.pairwise_singleton _ _, fun a ha b hb => ?_⟩
    obtain rfl := List.mem_singleton.1 hb
    exact h.mayPrecede admits ha
  decision := by
    rw [List.filter_append, List.map_append, h.decision]
    obtain ⟨_, admits⟩ := admits
    cases hkind : entry.kind with
    | approved =>
      rw [hkind] at admits
      simp [tell, hkind, admits.1, Entry.Kind.decides, Status.decisions]
    | rejected =>
      rw [hkind] at admits
      simp [tell, hkind, admits, Entry.Kind.decides, Status.decisions]
    | _ => simp [tell, hkind, Entry.Kind.decides]
  deleted := by
    rw [List.filter_append, List.map_append, h.deleted]
    obtain ⟨hstays, _⟩ := admits
    cases hkind : entry.kind with
    | deleted => simp [tell, hkind, hstays]
    | _ => simp [tell, hkind]
  registered := by
    rw [List.countP_append, h.registered]
    cases hkind : entry.kind with
    | _ => simp [tell, hkind]
  commented := by
    rw [List.countP_append, h.commented]
    cases hkind : entry.kind with
    | _ => simp [tell, hkind]
  updated := by
    rw [List.filter_append]
    cases hkind : entry.kind with
    -- a conference is proposed once, so no later entry is a proposal
    | proposed => exact absurd hkind fun hkind => by rw [hkind] at admits; exact admits.2
    | registered => simpa [tell, hkind, Entry.Kind.rewrites] using h.updated
    | feedbackGiven => simpa [tell, hkind, Entry.Kind.rewrites] using h.updated
    | _ => simp [tell, hkind, Entry.Kind.rewrites]

/-- Going on with more entries keeps what holds of the told ones. -/
lemma foldlM {more : List Entry} (h : Recounts entries before)
    (hmore : more.foldlM next before = some told) : Recounts (entries ++ more) told := by
  -- each entry goes from the front of the further ones to the end of those that are recounted
  induction more generalizing entries before with
  | nil =>
    cases hmore
    rwa [List.append_nil]
  | cons entry more ih =>
    simp only [List.foldlM_cons, Option.bind_eq_bind, Option.bind_eq_some_iff] at hmore
    obtain ⟨after, hnext, hmore⟩ := hmore
    unfold next at hnext
    split at hnext
    · next admits =>
      cases hnext
      rw [List.append_cons]
      exact ih (h.concat admits) hmore
    · cases hnext

/-- Entries that can be replayed follow the rules, and what they tell can be read off them. -/
lemma of_replay (h : replay entries = some told) : Recounts entries told := by
  cases entries with
  | nil => cases h
  | cons first rest =>
    simp only [replay, Option.bind_eq_bind, Option.bind_eq_some_iff] at h
    obtain ⟨before, hfirst, hrest⟩ := h
    exact (of_proposal hfirst).foldlM hrest

end Recounts

end Chronicle

end Symposium
