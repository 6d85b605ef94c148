import Symposium.Proofs.Calls
import Symposium.Proofs.Origins

/-!
# Seats

The number of seats, the host and the presence of a conference come from the programme, which other
operations rewrite while a seat is on its way. What carries the invariant `Seated` through this is
that a conference keeps its origin, so that a guest stays a guest, and that the roll counts once
more when it takes a registration. Main statement: there are never more registrations than seats,
each is that of a guest, and none of them is ever lost.
-/

namespace Symposium

namespace Roll

variable {roll roll' : Roll} {programme : Programme} {r : Registration}

/-- A registration that is taken counts at its conference. -/
lemma count_of_add (h : roll.add programme r = .ok roll') :
    roll'.count r.conferenceId = roll.count r.conferenceId + 1 := by
  simp [count, seatsOf, rows_of_add h]

/-- A registration that is taken counts nowhere else. -/
lemma count_of_add_of_ne {id : String} (h : roll.add programme r = .ok roll')
    (hne : r.conferenceId ≠ id) : roll'.count id = roll.count id := by
  simp [count, seatsOf, rows_of_add h, hne]

end Roll

/-- Whether a conference is in the programme and somebody else than the user hosts it. -/
def Programme.HasGuest (programme : Programme) (id userId : String) : Prop :=
  ∃ c ∈ programme.rows, c.id = id ∧ c.hostId ≠ userId

namespace Office

variable {office : Office} {now : Timestamp} {change : Change} {c : Conference}
  {id userId : String} {result : Except Failure Outcome × Office}

/-- A card that is shown to somebody, in this state of the office. -/
inductive Shows : Office → Card → Prop where
  | single {office principal id card} :
    office.get principal id = .ok card →
    Shows office card
  | listed {office principal query now page card} :
    office.list principal query now = .ok page →
    card ∈ page.rows →
    Shows office card
  | ofUser {office principal userId includePast request now page card} :
    office.conferencesOf principal userId includePast request now = .ok page →
    card ∈ page.rows →
    Shows office card
  | changed {office : Office} {now change card} :
    (office.commit now change).1 = .ok (.changed card) →
    Shows (office.commit now change).2 card

/-- An announcement only answers what it was given. -/
lemma eq_of_announce {event : Event} {answer a : Outcome}
    (h : (office.announce event answer).1 = .ok a) : a = answer := by
  obtain ⟨_, _, rfl⟩ := Failure.map_eq_ok_iff.1 h
  rfl

/-- A commit loses and changes no registration. -/
lemma Commits.rows_stay (h : Commits office now change result) :
    office.roll.rows <+: result.2.roll.rows := by
  obtain hsame | ⟨id, userId, _, _, hadd⟩ := h.roll_eq_or
  · exact hsame ▸ List.prefix_refl office.roll.rows
  · rw [Roll.rows_of_add hadd]
    exact List.prefix_append _ _

/-- A commit keeps the guests of a conference its guests. -/
lemma Commits.hasGuest (h : Commits office now change result) (orderly : office.Orderly)
    (known : ∀ row ∈ change.row?, office.programme.Knows row)
    (hguest : office.programme.HasGuest id userId) : result.2.programme.HasGuest id userId := by
  obtain ⟨c, hc, rfl, hhost⟩ := hguest
  obtain ⟨later, hlater, horigin⟩ := h.knows orderly known (Programme.knows_of_mem hc)
  have hid : later.id = c.id := congrArg Conference.Origin.id horigin
  have hsame : later.hostId = c.hostId := congrArg Conference.Origin.hostId horigin
  exact ⟨later, hlater, hid, hsame ▸ hhost⟩

/--
Users are admitted, every registration is that of a guest, and there are not more of them than
seats.
-/
structure Seated (office : Office) : Prop where
  orderly : office.Orderly
  admits : office.policy.checksAdmission = true
  guests : ∀ r ∈ office.roll.rows, office.programme.HasGuest r.conferenceId r.userId
  fits : ∀ c ∈ office.programme.rows, office.roll.count c.id ≤ c.seats

/-- A new office that admits its users is seated. -/
lemma IsNew.seated (h : office.IsNew) (admits : office.policy.checksAdmission = true) :
    office.Seated where
  orderly := h.orderly
  admits := admits
  guests := by
    rw [h.roll]
    intro r hr
    exact absurd hr List.not_mem_nil
  fits := by
    rw [h.programme]
    intro c hc
    exact absurd hc List.not_mem_nil

/-- Nobody has a seat at a conference whose id was not made yet. -/
lemma Orderly.count_eq_zero (h : office.Orderly) (hnew : ¬ office.ids.HasMade id) :
    office.roll.count id = 0 := by
  have hnone : office.roll.seatsOf id = [] := by
    rw [Roll.seatsOf, List.filter_eq_nil_iff]
    intro r hr hid
    obtain ⟨c, hc, hsame⟩ := h.enrolled r hr
    have hmade := h.made c hc
    rw [hsame, beq_iff_eq.1 hid] at hmade
    exact hnew hmade
  rw [Roll.count, hnone]
  rfl

/-- A commit of a guest's seat keeps the office seated. -/
lemma Commits.seated (h : Commits office now change result) (seated : office.Seated)
    (known : ∀ row ∈ change.row?, office.programme.Knows row)
    (guest : ∀ seat ∈ change.seat?, office.programme.HasGuest seat.1 seat.2) :
    result.2.Seated where
  orderly := h.orderly seated.orderly known
  admits := h.policy_eq ▸ seated.admits
  guests := by
    intro r hr
    refine h.hasGuest seated.orderly known ?_
    obtain hsame | ⟨id, userId, hseat, _, hadd⟩ := h.roll_eq_or
    · exact seated.guests r (hsame ▸ hr)
    · rw [Roll.rows_of_add hadd] at hr
      cases List.mem_append.1 hr with
      | inl hold => exact seated.guests r hold
      | inr hnew =>
        obtain rfl := List.mem_singleton.1 hnew
        exact guest (id, userId) hseat
  fits := by
    intro c hc
    obtain hsame | ⟨id, userId, _, hprogramme, hadd⟩ := h.roll_eq_or
    · -- nobody got a seat: the row has the seats of an older one, or nobody can have one there
      rw [hsame]
      obtain ⟨old, hold, horigin⟩ | ⟨hnew, _⟩ := h.known_or_new seated.orderly known hc
      · have hid : old.id = c.id := congrArg Conference.Origin.id horigin
        have hseats : old.seats = c.seats := congrArg Conference.Origin.seats horigin
        rw [← hid, ← hseats]
        exact seated.fits old hold
      · rw [seated.orderly.count_eq_zero hnew]
        exact Nat.zero_le _
    · rw [hprogramme] at hc
      by_cases hid : id = c.id
      · -- the roll compared with the seats of the very row that is live under this id
        obtain ⟨row, hfind, _, hfree, _, _⟩ := Roll.add_eq_ok_iff.1 hadd
        obtain ⟨hrow, hrowid, _⟩ := Programme.find?_eq_some_iff_mem.1 hfind
        obtain rfl := Table.eq_of_key_eq hrow hc (hrowid.trans hid)
        rw [← hid, Roll.count_of_add hadd]
        exact hfree
      · rw [Roll.count_of_add_of_ne hadd hid]
        exact seated.fits c hc

end Office

namespace Traffic

/-- The stages keep the office seated, as every row that waits is known and every user a guest. -/
theorem kept_seated :
    Kept Office.Seated
      (fun office d => (∀ row ∈ d.row?, office.programme.Knows row) ∧
        ∀ seat ∈ d.seat?, office.programme.HasGuest seat.1 seat.2)
      (fun office change => (∀ row ∈ change.row?, office.programme.Knows row) ∧
        ∀ seat ∈ change.seat?, office.programme.HasGuest seat.1 seat.2) where
  draft := by
    intro office principal operation d seated hdrafted
    refine ⟨kept_orderly.draft seated.orderly hdrafted, ?_⟩
    intro seat hseat
    cases hdrafted with
    -- whoever asks for a seat was found not to be the host
    | @seat id row _ hfind _ hguest =>
      obtain ⟨userId, role⟩ := principal
      cases userId with
      | none => cases hseat
      | some userId =>
        cases hseat
        obtain ⟨hrow, hid, _⟩ := Programme.find?_eq_some_iff_mem.1 hfind
        exact ⟨row, hrow, hid, fun hhost => hguest (congrArg some hhost.symm)⟩
    | anySeat hpolicy =>
      rw [seated.admits] at hpolicy
      cases hpolicy
    | _ => cases hseat
  review := by
    intro office now d change seated hd hreviewed
    refine ⟨kept_orderly.review seated.orderly hd.1 hreviewed, ?_⟩
    intro seat hseat
    cases hreviewed with
    | @seat userId id row _ =>
      cases userId with
      | none => cases hseat
      | some userId =>
        cases hseat
        exact hd.2 (id, userId) rfl
    | _ => cases hseat
  commit := fun seated hchange hcommits => hcommits.seated seated hchange.1 hchange.2
  draftStays := by
    intro office now change result d seated hchange hcommits hd
    refine ⟨kept_orderly.draftStays seated.orderly hchange.1 hcommits hd.1, ?_⟩
    intro seat hseat
    exact hcommits.hasGuest seated.orderly hchange.1 (hd.2 seat hseat)
  changeStays := by
    intro office now change result other seated hchange hcommits hother
    refine ⟨kept_orderly.changeStays seated.orderly hchange.1 hcommits hother.1, ?_⟩
    intro seat hseat
    exact hcommits.hasGuest seated.orderly hchange.1 (hother.2 seat hseat)

/-- A stage loses and changes no registration. -/
lemma Step.rows_stay {t t' : Traffic} (h : Step t t') :
    t.office.roll.rows <+: t'.office.roll.rows := by
  cases h with
  | draft _ => exact List.prefix_refl _
  | review _ _ => exact List.prefix_refl _
  | @commit office _ _ now change _ => exact (Office.Commits.of_commit office now change).rows_stay

/-- A run loses and changes no registration. -/
lemma Run.rows_stay {t t' : Traffic} (h : Run t t') :
    t.office.roll.rows <+: t'.office.roll.rows := by
  induction h with
  | refl => exact List.prefix_refl _
  | tail _ hstep ih => exact ih.trans hstep.rows_stay

end Traffic

end Symposium
