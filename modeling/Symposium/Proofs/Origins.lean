import Symposium.Proofs.Bookings

/-!
# Where rows come from

Under a source that makes no id twice, a commit puts a conference under a new id or one that is
known already, with the same host, the same seats and the same time at which it was made. So
whatever an operation has loaded is still known when it comes to its commit. Main statements: every
commit keeps the office `Orderly`, and no conference is ever forgotten.
-/

namespace Symposium

namespace IdSource

variable {source : IdSource} {id : String}

/-- Whether no id is ever made twice. -/
def NeverRepeats (source : IdSource) : Prop :=
  ∀ m n id, source.stream m = some id → source.stream n = some id → m = n

/-- Whether an id was made already. -/
def HasMade (source : IdSource) (id : String) : Prop :=
  ∃ n < source.drawn, source.stream n = some id

/-- What a source has made stays made. -/
lemma HasMade.draw (h : source.HasMade id) : source.draw.2.HasMade id := by
  obtain ⟨n, hn, hid⟩ := h
  exact ⟨n, Nat.lt_succ_of_lt hn, hid⟩

/-- What was drawn was made. -/
lemma hasMade_of_draw (h : source.draw.1 = some id) : source.draw.2.HasMade id :=
  ⟨source.drawn, Nat.lt_succ_self _, h⟩

/-- An id that is drawn from a source that never repeats one was not made before. -/
lemma NeverRepeats.not_hasMade (never : source.NeverRepeats) (h : source.draw.1 = some id) :
    ¬ source.HasMade id := by
  rintro ⟨n, hn, hid⟩
  exact Nat.ne_of_lt hn (never n source.drawn id hid h)

/-- What bears ids that were made bears none that is drawn. -/
lemma NeverRepeats.ne_of_draw {α : Type} {rows : List α} {key : α → String}
    (never : source.NeverRepeats) (hmade : ∀ a ∈ rows, source.HasMade (key a))
    (h : source.draw.1 = some id) : ∀ a ∈ rows, key a ≠ id := by
  rintro a ha rfl
  exact never.not_hasMade h (hmade a ha)

/-- Numbers that are padded alike are the same. -/
lemma eq_of_padded_eq {width m n : Nat} (h : Text.padded width m = Text.padded width n) :
    m = n := by
  -- reading the digits gives the number back, as leading zeros count nothing
  have value (n : Nat) : Nat.ofDigitChars 10 (Text.padded width n).toList 0 = n := by
    simp only [Text.padded, String.toList_ofList, Nat.ofDigitChars_append,
      Nat.ofDigitChars_replicate_zero, Nat.mul_zero, Nat.ofDigitChars_ten_toDigits]
  rw [← value m, h, value]

/-- A source of numbered ids never repeats one. -/
lemma neverRepeats_numbered : (scripted []).NeverRepeats := by
  intro m n id hm hn
  have hsame : numbered (m + 1) = numbered (n + 1) := Option.some.inj (hm.trans hn.symm)
  have hpadded := (String.append_right_inj _).1 hsame
  exact Nat.succ.inj (eq_of_padded_eq hpadded)

end IdSource

/-- What never changes about a conference. -/
structure Conference.Origin where
  id : String
  hostId : String
  seats : Nat
  createdAt : Timestamp

/-- The origin of a conference. -/
def Conference.origin (c : Conference) : Origin :=
  ⟨c.id, c.hostId, c.seats, c.createdAt⟩

namespace Programme

variable {programme : Programme} {c row : Conference}

/-- Whether there is a row with the origin of a conference. -/
def Knows (programme : Programme) (c : Conference) : Prop :=
  ∃ known ∈ programme.rows, known.origin = c.origin

/-- A conference is known by its origin. -/
lemma Knows.congr (h : programme.Knows c) (horigin : c.origin = row.origin) :
    programme.Knows row := by
  obtain ⟨known, hmem, hknown⟩ := h
  exact ⟨known, hmem, hknown.trans horigin⟩

/-- A row is known. -/
lemma knows_of_mem (hc : c ∈ programme.rows) : programme.Knows c :=
  ⟨c, hc, rfl⟩

/-- What is found is known. -/
lemma knows_of_find? {id : String} (h : programme.find? id = some c) : programme.Knows c :=
  knows_of_mem (find?_eq_some_iff_mem.1 h).1

/-- A row with the id of a known conference has its origin. -/
lemma Knows.origin_eq (h : programme.Knows c) {other : Conference} (hother : other ∈ programme.rows)
    (hid : other.id = c.id) : other.origin = c.origin := by
  obtain ⟨known, hmem, hknown⟩ := h
  have hsame : known.id = c.id := congrArg Conference.Origin.id hknown
  rw [Table.eq_of_key_eq hother hmem (hid.trans hsame.symm)]
  exact hknown

/-- Putting a row forgets no conference, if the row that it replaces has the same origin. -/
lemma Knows.put (h : programme.Knows c)
    (horigin : ∀ other ∈ programme.rows, other.id = row.id → other.origin = row.origin) :
    Knows (Table.put row programme) c := by
  obtain ⟨known, hmem, hknown⟩ := h
  by_cases hid : known.id = row.id
  · exact ⟨row, Table.mem_rows_put.2 (.inl rfl), (horigin known hmem hid).symm.trans hknown⟩
  · exact ⟨known, Table.mem_rows_put.2 (.inr ⟨hmem, hid⟩), hknown⟩

end Programme

namespace Office

/--
The source never repeats an id, it has made the ids of all conferences, and every registration is
for one of them.
-/
structure Orderly (office : Office) : Prop where
  neverRepeats : office.ids.NeverRepeats
  made : ∀ c ∈ office.programme.rows, office.ids.HasMade c.id
  enrolled : ∀ r ∈ office.roll.rows, ∃ c ∈ office.programme.rows, c.id = r.conferenceId

/-- There are no conferences and no registrations yet, and the source never repeats an id. -/
structure IsNew (office : Office) : Prop where
  programme : office.programme = .empty
  roll : office.roll = .empty
  neverRepeats : office.ids.NeverRepeats

/-- The usual office with numbered ids is new. -/
lemma isNew_start : (start .standard (.scripted [])).IsNew :=
  ⟨rfl, rfl, IdSource.neverRepeats_numbered⟩

/-- A new office is orderly, as it stores nothing. -/
lemma IsNew.orderly {office : Office} (h : office.IsNew) : office.Orderly where
  neverRepeats := h.neverRepeats
  made := by
    rw [h.programme]
    intro c hc
    exact absurd hc List.not_mem_nil
  enrolled := by
    rw [h.roll]
    intro r hr
    exact absurd hr List.not_mem_nil

section Commits

variable {office : Office} {now : Timestamp} {change : Change} {c : Conference} {id : String}
  {result : Except Failure Outcome × Office}

/-- A commit draws one id at most. -/
lemma Commits.ids_eq_or (h : Commits office now change result) :
    result.2.ids = office.ids ∨ result.2.ids = office.ids.draw.2 := by
  cases h with
  | refused hids => exact hids
  | proposed _ _ => exact .inr rfl
  | commented _ _ => exact .inr rfl
  | _ => exact .inl rfl

/-- A commit keeps the ids that were made. -/
lemma Commits.hasMade (h : Commits office now change result) (hid : office.ids.HasMade id) :
    result.2.ids.HasMade id := by
  cases h.ids_eq_or with
  | inl hids => rwa [hids]
  | inr hids => exact hids ▸ hid.draw

/-- A commit keeps the source from repeating itself. -/
lemma Commits.neverRepeats (h : Commits office now change result)
    (never : office.ids.NeverRepeats) : result.2.ids.NeverRepeats := by
  cases h.ids_eq_or with
  | inl hids => rwa [hids]
  | inr hids =>
    rw [hids]
    exact never

/-- A commit leaves the roll alone, or the roll takes the registration that the change brings. -/
lemma Commits.roll_eq_or (h : Commits office now change result) :
    result.2.roll = office.roll ∨
      ∃ id userId, (id, userId) ∈ change.seat? ∧ result.2.programme = office.programme ∧
        office.roll.add office.programme ⟨id, userId, now⟩ = .ok result.2.roll := by
  cases h with
  | registered hadd => exact .inr ⟨_, _, rfl, rfl, hadd⟩
  | _ => exact .inl rfl

/-- A commit of a known row puts at most one row: a known one, or one under a new id. -/
lemma Commits.put_cases (h : Commits office now change result) (orderly : office.Orderly)
    (known : ∀ row ∈ change.row?, office.programme.Knows row) :
    result.2.programme = office.programme ∨
      ∃ row, result.2.programme = office.programme.put row ∧
        (office.programme.Knows row ∨
          ¬ office.ids.HasMade row.id ∧ result.2.ids.HasMade row.id) := by
  cases h with
  | proposed hdraw hadd =>
    obtain ⟨_, rfl⟩ := Programme.add_eq_ok_iff.1 hadd
    have hnew := orderly.neverRepeats.not_hasMade hdraw
    exact .inr ⟨_, rfl, .inr ⟨hnew, IdSource.hasMade_of_draw hdraw⟩⟩
  | edited hupdate =>
    obtain ⟨_, _, rfl⟩ := Programme.update_eq_ok_iff.1 hupdate
    exact .inr ⟨_, rfl, .inl ((known _ rfl).congr rfl)⟩
  | decided hupdate =>
    obtain ⟨_, _, rfl⟩ := Programme.update_eq_ok_iff.1 hupdate
    exact .inr ⟨_, rfl, .inl ((known _ rfl).congr rfl)⟩
  | withdrawn hwithdraw =>
    obtain ⟨c, hfind, rfl⟩ := Programme.withdraw_eq_ok_iff.1 hwithdraw
    exact .inr ⟨_, rfl, .inl ((Programme.knows_of_find? hfind).congr rfl)⟩
  | _ => exact .inl rfl

/-- A row after a commit is known from before, or it has an id that was new. -/
lemma Commits.known_or_new (h : Commits office now change result) (orderly : office.Orderly)
    (known : ∀ row ∈ change.row?, office.programme.Knows row)
    (hc : c ∈ result.2.programme.rows) :
    office.programme.Knows c ∨ ¬ office.ids.HasMade c.id ∧ result.2.ids.HasMade c.id := by
  obtain hsame | ⟨row, hput, hrow⟩ := h.put_cases orderly known
  · exact .inl (Programme.knows_of_mem (hsame ▸ hc))
  · rw [hput] at hc
    obtain rfl | ⟨hold, _⟩ := Table.mem_rows_put.1 hc
    · exact hrow
    · exact .inl (Programme.knows_of_mem hold)

/-- A commit forgets no conference, as a row is only put in the place of its own origin. -/
lemma Commits.knows (h : Commits office now change result) (orderly : office.Orderly)
    (known : ∀ row ∈ change.row?, office.programme.Knows row) (hc : office.programme.Knows c) :
    result.2.programme.Knows c := by
  obtain hsame | ⟨row, hput, hrow⟩ := h.put_cases orderly known
  · rwa [hsame]
  · rw [hput]
    -- a row that is known replaces one of the same origin, and a new one replaces none
    refine hc.put fun other hother hid => ?_
    cases hrow with
    | inl hrow => exact hrow.origin_eq hother hid
    | inr hnew => exact absurd (hid ▸ orderly.made other hother) hnew.1

/-- A commit keeps the office orderly if what it rewrites is known. -/
lemma Commits.orderly (h : Commits office now change result) (orderly : office.Orderly)
    (known : ∀ row ∈ change.row?, office.programme.Knows row) : result.2.Orderly where
  neverRepeats := h.neverRepeats orderly.neverRepeats
  made := by
    intro c hc
    cases h.known_or_new orderly known hc with
    | inl hknown =>
      obtain ⟨old, hold, horigin⟩ := hknown
      have hid : old.id = c.id := congrArg Conference.Origin.id horigin
      exact hid ▸ h.hasMade (orderly.made old hold)
    | inr hnew => exact hnew.2
  enrolled := by
    -- no row is ever taken away, so every seat stays at a conference
    have stays {id} (hid : ∃ c ∈ office.programme.rows, c.id = id) :
        ∃ c ∈ result.2.programme.rows, c.id = id := by
      obtain ⟨c, hc, rfl⟩ := hid
      obtain ⟨later, hlater, horigin⟩ := h.knows orderly known (Programme.knows_of_mem hc)
      exact ⟨later, hlater, congrArg Conference.Origin.id horigin⟩
    intro r hr
    obtain hsame | ⟨id, userId, _, _, hadd⟩ := h.roll_eq_or
    · exact stays (orderly.enrolled r (hsame ▸ hr))
    · obtain ⟨c, hfind, _⟩ := Roll.add_eq_ok_iff.1 hadd
      obtain ⟨hc, hid, _⟩ := Programme.find?_eq_some_iff_mem.1 hfind
      rw [Roll.rows_of_add hadd] at hr
      cases List.mem_append.1 hr with
      | inl hold => exact stays (orderly.enrolled r hold)
      | inr hnew =>
        obtain rfl := List.mem_singleton.1 hnew
        exact stays ⟨c, hc, hid⟩

end Commits

end Office

/-- The stages keep the office orderly, as every row that waits is known. -/
theorem Traffic.kept_orderly :
    Traffic.Kept Office.Orderly (fun office d => ∀ row ∈ d.row?, office.programme.Knows row)
      (fun office change => ∀ row ∈ change.row?, office.programme.Knows row) where
  draft := by
    intro office principal operation d _ hdrafted row hrow
    exact Programme.knows_of_mem (hdrafted.mem_rows row hrow)
  review := by
    intro office now d change _ known hreviewed row hrow
    cases hreviewed with
    | edit _ _ =>
      cases hrow
      exact (known _ rfl).congr rfl
    | decision _ _ =>
      cases hrow
      exact (known _ rfl).congr rfl
    | _ => cases hrow
  commit := fun orderly known hcommits => hcommits.orderly orderly known
  draftStays := fun orderly known hcommits h row hrow =>
    hcommits.knows orderly known (h row hrow)
  changeStays := fun orderly known hcommits h row hrow =>
    hcommits.knows orderly known (h row hrow)

namespace Office.IsNew

variable {start : Office}

/-- Calls to a new office leave an orderly one. -/
lemma orderly_afterAll (h : start.IsNew) (calls : List Call) : (start.afterAll calls).Orderly :=
  afterAll_of_kept Traffic.kept_orderly h.orderly calls

/-- Calls to a new office leave a sound programme. -/
lemma sound_afterAll (h : start.IsNew) (calls : List Call) :
    (start.afterAll calls).programme.Sound := by
  have empty : start.programme.Sound := by
    rw [h.programme]
    exact Programme.sound_empty
  exact afterAll_of_kept Traffic.kept_sound empty calls

end Office.IsNew

end Symposium
