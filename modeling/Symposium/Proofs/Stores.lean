import Symposium.FeedbackBook
import Symposium.Proofs.Checks
import Symposium.Roll

/-!
# What the stores write

Inversion of the writes of the stores: each lemma says when a row is taken and which table comes out
then. What comes later cites these lemmas and unfolds no write.
-/

namespace Symposium

namespace Table

variable {α κ : Type} {key : α → κ} [DecidableEq κ]

/-- A row with a new key comes last. -/
lemma rows_put_of_new {table : Table key} {row : α}
    (h : ∀ other ∈ table.rows, key other ≠ key row) :
    (table.put row).rows = table.rows ++ [row] := by
  show putRow key row table.rows = table.rows ++ [row]
  generalize table.rows = rows at h
  induction rows with
  | nil => rfl
  | cons other rows ih =>
    have hother := h other List.mem_cons_self
    have hrows := ih fun r hr => h r (List.mem_cons_of_mem other hr)
    rw [putRow, if_neg hother, hrows]
    rfl

/-- Rows of a table with the same key are the same row. -/
lemma eq_of_key_eq {table : Table key} {a b : α} (ha : a ∈ table.rows) (hb : b ∈ table.rows)
    (h : key a = key b) : a = b := by
  have ha := mem_rows_iff.1 ha
  rw [h, mem_rows_iff.1 hb] at ha
  exact (Option.some.inj ha).symm

/-- Each row has one in its place after a row was put, itself or the row that was put. -/
lemma exists_mem_put {table : Table key} {row before : α} {becomes : α → α → Prop}
    (hsame : ∀ a, becomes a a)
    (hrow : ∀ old ∈ table.rows, key old = key row → becomes old row)
    (hbefore : before ∈ table.rows) : ∃ after ∈ (table.put row).rows, becomes before after := by
  by_cases hkey : key before = key row
  · exact ⟨row, mem_rows_put.2 (.inl rfl), hrow before hbefore hkey⟩
  · exact ⟨before, mem_rows_put.2 (.inr ⟨hbefore, hkey⟩), hsame before⟩

/-- A row that replaces one like it changes nothing of what is alike. -/
lemma map_rows_put {β : Type} {table : Table key} {row old : α} {f : α → β}
    (hold : old ∈ table.rows) (hkey : key old = key row) (hf : f old = f row) :
    (table.put row).rows.map f = table.rows.map f := by
  have alike : ∀ other ∈ table.rows, key other = key row → f other = f row := by
    intro other hother hsame
    rw [eq_of_key_eq hother hold (hsame.trans hkey.symm), hf]
  have found : ∃ other ∈ table.rows, key other = key row := ⟨old, hold, hkey⟩
  -- the induction is on the rows, of which one has the key
  show (putRow key row table.rows).map f = table.rows.map f
  generalize table.rows = rows at alike found
  induction rows with
  | nil =>
    obtain ⟨_, hother, _⟩ := found
    cases hother
  | cons first rows ih =>
    by_cases hfirst : key first = key row
    · have hrow := alike first List.mem_cons_self hfirst
      rw [putRow, if_pos hfirst, List.map_cons, List.map_cons, hrow]
    · rw [putRow, if_neg hfirst, List.map_cons, List.map_cons]
      obtain ⟨other, hother, hsame⟩ := found
      have hrest : other ∈ rows := by
        cases List.mem_cons.1 hother with
        | inl heq => exact absurd (heq ▸ hsame) hfirst
        | inr hrest => exact hrest
      rw [ih (fun r hr => alike r (List.mem_cons_of_mem first hr)) ⟨other, hrest, hsame⟩]

/-- A row that fails a test and is put in the place of another one is missed by the test alone. -/
lemma filter_put_sublist {row : α} {passes : α → Bool} (h : passes row = false)
    (table : Table key) :
    ((table.put row).rows.filter passes).Sublist (table.rows.filter passes) := by
  show ((putRow key row table.rows).filter passes).Sublist _
  generalize table.rows = rows
  induction rows with
  | nil => simp [putRow, h]
  | cons first rows ih =>
    by_cases hfirst : key first = key row
    · rw [putRow, if_pos hfirst, List.filter_cons_of_neg (by simp [h])]
      exact (List.sublist_cons_self first rows).filter passes
    · rw [putRow, if_neg hfirst]
      cases hpasses : passes first with
      | true =>
        rw [List.filter_cons_of_pos hpasses, List.filter_cons_of_pos hpasses]
        exact ih.cons_cons first
      | false =>
        rw [List.filter_cons_of_neg (by simp [hpasses]),
          List.filter_cons_of_neg (by simp [hpasses])]
        exact ih

/-- A row takes the place of one that was put under its key before. -/
lemma put_put {row other : α} (h : key row = key other) (table : Table key) :
    (table.put row).put other = table.put other := by
  apply ext
  show putRow key other (putRow key row table.rows) = putRow key other table.rows
  generalize table.rows = rows
  induction rows with
  | nil => rw [putRow, putRow, putRow, if_pos h]
  | cons first rows ih =>
    by_cases hfirst : key first = key row
    · rw [putRow, if_pos hfirst, putRow, if_pos h, putRow, if_pos (hfirst.trans h)]
    · have hother : key first ≠ key other := fun hsame => hfirst (hsame.trans h.symm)
      rw [putRow, if_neg hfirst, putRow, if_neg hother, putRow, if_neg hother, ih]

/-- A key is not contained if no row has it. -/
lemma contains_eq_false_iff {table : Table key} {k : κ} :
    table.contains k = false ↔ ∀ row ∈ table.rows, key row ≠ k := by
  simp [contains, get?]

end Table

namespace Programme

/-- A conference that is found is a row. -/
lemma mem_of_find? {programme : Programme} {id : String} {c : Conference}
    (h : programme.find? id = some c) : c ∈ programme.rows :=
  (find?_eq_some_iff_mem.1 h).1

/-- A conference that is found was not withdrawn. -/
lemma deletedAt_of_find? {programme : Programme} {id : String} {c : Conference}
    (h : programme.find? id = some c) : c.deletedAt = none :=
  Option.isNone_iff_eq_none.1 (find?_eq_some_iff_mem.1 h).2.2

/-- Each conference has one in its place after a live one was rewritten. -/
lemma exists_mem_put_of_find {programme : Programme} {row rewritten before : Conference}
    {becomes : Conference → Conference → Prop} (hsame : ∀ c, becomes c c)
    (hfind : programme.find? row.id = some row) (hid : rewritten.id = row.id)
    (hrow : becomes row rewritten) (hbefore : before ∈ programme.rows) :
    ∃ after ∈ (Table.put rewritten programme).rows, becomes before after := by
  refine Table.exists_mem_put hsame (fun old hold hkey => ?_) hbefore
  obtain rfl := Table.eq_of_key_eq hold (mem_of_find? hfind) (hkey.trans hid)
  exact hrow

/-- A live row of a programme with a row put is that row, or an older one under another id. -/
lemma find?_put_iff {programme : Programme} {row c : Conference} :
    find? (Table.put row programme) c.id = some c ↔
      c = row ∧ row.isLive = true ∨ c.id ≠ row.id ∧ programme.find? c.id = some c := by
  rw [find?_eq_some_iff_mem, find?_eq_some_iff_mem, Table.mem_rows_put]
  constructor
  · rintro ⟨rfl | ⟨hold, hid⟩, _, live⟩
    · exact .inl ⟨rfl, live⟩
    · exact .inr ⟨hid, hold, rfl, live⟩
  · rintro (⟨rfl, live⟩ | ⟨hid, hold, _, live⟩)
    · exact ⟨.inl rfl, rfl, live⟩
    · exact ⟨.inr ⟨hold, hid⟩, rfl, live⟩

/-- A live row that was put is found. -/
lemma find?_put_of_live {programme : Programme} {row : Conference} (h : row.isLive = true) :
    find? (Table.put row programme) row.id = some row :=
  find?_put_iff.2 (.inl ⟨rfl, h⟩)

/-- A withdrawn row that was put hides what was found before. -/
lemma find?_put_of_not_live {programme : Programme} {row : Conference}
    (h : row.isLive = false) :
    find? (Table.put row programme) row.id = none := by
  rw [find?, Table.get?_put_self, Option.filter_some, h]
  rfl

/-- A row is live if it is found by its own id. -/
lemma mem_live_iff {programme : Programme} {c : Conference} :
    c ∈ programme.live ↔ programme.find? c.id = some c := by
  rw [live, List.mem_filter, find?_eq_some_iff_mem]
  constructor
  · intro h
    exact ⟨h.1, rfl, h.2⟩
  · intro h
    exact ⟨h.1, h.2.2⟩

/-- The overlaps with a window are looked for in vain exactly if no conference overlaps it. -/
lemma overlapping_eq_nil_iff {window : Window} {conferences : List Conference} :
    overlapping window conferences = .ok [] ↔
      ∀ c ∈ conferences, c.window.overlaps? window = some false := by
  simp only [overlapping, Failure.keep_eq_nil_iff, Window.overlaps_eq_ok_iff]

/-- A row passes the check exactly if it is not approved or overlaps no other booked row. -/
lemma checkOverlap_eq_ok_iff {programme : Programme} {c : Conference} :
    programme.checkOverlap c = .ok () ↔
      (c.status = .approved → ∀ other ∈ programme.rows, other.isBooked = true → other.id ≠ c.id →
        other.window.overlaps? c.window = some false) := by
  by_cases h : c.status = .approved
  · have hnil : programme.checkOverlap c = .ok () ↔
        overlapping c.window (programme.booked (some c.id)) = .ok [] := by
      simp only [checkOverlap, if_pos h, Failure.bind_eq_ok_iff]
      constructor
      · rintro ⟨conflicts, hconf, hempty⟩
        cases conflicts with
        | nil => exact hconf
        | cons _ _ => cases hempty
      · intro hconf
        exact ⟨[], hconf, rfl⟩
    rw [hnil, overlapping_eq_nil_iff]
    constructor
    · intro hfree _ other hother hbooked hne
      exact hfree other (mem_booked_iff.2 ⟨hother, hbooked, fun e => hne (Option.some.inj e).symm⟩)
    · intro hfree other hother
      obtain ⟨hrow, hbooked, hne⟩ := mem_booked_iff.1 hother
      exact hfree h other hrow hbooked fun e => hne (congrArg some e.symm)
  · exact ⟨fun _ happ => absurd happ h, fun _ => checkOverlap_of_ne_approved h programme⟩

/-- A row is added exactly if its window may be booked. -/
lemma add_eq_ok_iff {programme programme' : Programme} {c : Conference} :
    programme.add c = .ok programme' ↔
      programme.checkOverlap c = .ok () ∧ programme.put c = programme' := by
  rw [add, Failure.map_eq_ok_iff]
  exact ⟨fun ⟨_, h, e⟩ => ⟨h, e⟩, fun ⟨h, e⟩ => ⟨(), h, e⟩⟩

/-- A pending row is always taken. -/
lemma add_of_pending {programme : Programme} {c : Conference} (h : c.status = .pending) :
    programme.add c = .ok (programme.put c) := by
  have hstatus : c.status ≠ .approved := by
    rw [h]
    decide
  exact add_eq_ok_iff.2 ⟨checkOverlap_of_ne_approved hstatus programme, rfl⟩

/-- A row is updated exactly if a live one is there and its window may be booked. -/
lemma update_eq_ok_iff {programme programme' : Programme} {c : Conference} {now : Timestamp} :
    programme.update c now = .ok programme' ↔
      (∃ current, programme.find? c.id = some current) ∧ programme.checkOverlap c = .ok () ∧
        programme.put (stamped c now) = programme' := by
  cases hfind : programme.find? c.id with
  | none => simp [update, hfind]
  | some current =>
    simp only [update, hfind, Failure.map_eq_ok_iff]
    constructor
    · rintro ⟨_, h, e⟩
      exact ⟨⟨current, rfl⟩, h, e⟩
    · rintro ⟨_, h, e⟩
      exact ⟨(), h, e⟩

/-- A row is withdrawn exactly if it is live; the times of that are set. -/
lemma withdraw_eq_ok_iff {programme programme' : Programme} {id : String} {now : Timestamp} :
    programme.withdraw id now = .ok programme' ↔
      ∃ c, programme.find? id = some c ∧
        programme.put { c with deletedAt := some now, updatedAt := now } = programme' := by
  cases hfind : programme.find? id with
  | none => simp [withdraw, hfind]
  | some c => simp [withdraw, hfind]

end Programme

namespace Roll

/-- A user has a seat if there is a registration. -/
lemma has_iff {roll : Roll} {id userId : String} :
    roll.has id userId = true ↔ ∃ r ∈ roll.rows, r.conferenceId = id ∧ r.userId = userId := by
  simp [has, Table.contains, Table.get?, Registration.key]

/-- The conferences of a user are the live ones at which they have a seat. -/
lemma mem_conferencesOf_iff {roll : Roll} {programme : Programme} {userId : String}
    {c : Conference} :
    c ∈ roll.conferencesOf programme userId ↔
      programme.find? c.id = some c ∧ roll.has c.id userId = true := by
  simp only [conferencesOf, List.mem_filterMap, List.mem_filter, beq_iff_eq]
  constructor
  · rintro ⟨r, ⟨hr, rfl⟩, hfind⟩
    have hid : c.id = r.conferenceId := (Programme.find?_eq_some_iff_mem.1 hfind).2.1
    rw [hid]
    refine ⟨hfind, ?_⟩
    show (roll.get? (Registration.key r)).isSome = true
    rw [Table.mem_rows_iff.1 hr]
    rfl
  · rintro ⟨hfind, hhas⟩
    obtain ⟨r, hr⟩ := Option.isSome_iff_exists.1 hhas
    have hkey := Table.key_of_get? hr
    simp only [Registration.key, Prod.mk.injEq] at hkey
    exact ⟨r, ⟨Table.mem_of_get? hr, hkey.2⟩, hkey.1 ▸ hfind⟩

/-- The conflicts of a user are looked for in vain exactly if no conference of theirs overlaps. -/
lemma conflicting_eq_ok_iff {roll : Roll} {programme : Programme} {userId : String}
    {window : Window} {conflicts : List Conference} (h : conflicts.isEmpty = true) :
    roll.conflicting programme userId window = .ok conflicts ↔
      ∀ other ∈ roll.conferencesOf programme userId,
        other.window.overlaps? window = some false := by
  obtain rfl := List.isEmpty_iff.1 h
  rw [conflicting, Programme.overlappingInOrder, Failure.map_eq_ok_iff,
    ← Programme.overlapping_eq_nil_iff]
  constructor
  · rintro ⟨found, hfound, hnil⟩
    have hperm := Page.sortRows_perm Programme.startKey false found
    rw [hnil] at hperm
    rw [hperm.nil_eq]
    exact hfound
  · intro hfound
    exact ⟨[], hfound, rfl⟩

/--
A registration is taken exactly if its conference is live, the user has no seat there yet, a seat is
left, and no conference of the user overlaps it.
-/
lemma add_eq_ok_iff {roll roll' : Roll} {programme : Programme} {r : Registration} :
    roll.add programme r = .ok roll' ↔
      ∃ c, programme.find? r.conferenceId = some c ∧ roll.has r.conferenceId r.userId = false ∧
        roll.count r.conferenceId < c.seats ∧
        (∀ other ∈ roll.conferencesOf programme r.userId,
          other.window.overlaps? c.window = some false) ∧
        roll.put r = roll' := by
  cases hfind : programme.find? r.conferenceId with
  | none => simp [add, hfind]
  | some c =>
    simp only [add, hfind, Option.some.injEq, exists_eq_left']
    cases hhas : roll.has r.conferenceId r.userId with
    | true => simp
    | false =>
      by_cases hfull : c.seats ≤ roll.count r.conferenceId
      · simp [hfull, Nat.not_lt.2 hfull]
      · simp only [hfull, if_false, Bool.false_eq_true, Nat.not_le.1 hfull, true_and]
        constructor
        -- a report is written unless the conflicts are empty
        · intro h
          obtain ⟨conflicts, hconf, hrest⟩ := Failure.bind_eq_ok_iff.1 h
          by_cases hempty : conflicts.isEmpty = true
          · rw [if_pos hempty] at hrest
            exact ⟨(conflicting_eq_ok_iff hempty).1 hconf, Except.ok.inj hrest⟩
          · rw [if_neg hempty] at hrest
            cases hrest
        · rintro ⟨hfree, rfl⟩
          exact Failure.bind_eq_ok_iff.2 ⟨[], (conflicting_eq_ok_iff rfl).2 hfree, rfl⟩

/-- A registration that is added comes last. -/
lemma rows_of_add {roll roll' : Roll} {programme : Programme} {r : Registration}
    (h : roll.add programme r = .ok roll') : roll'.rows = roll.rows ++ [r] := by
  obtain ⟨c, _, hnew, _, _, rfl⟩ := add_eq_ok_iff.1 h
  have hnew := Table.contains_eq_false_iff.1 hnew
  exact Table.rows_put_of_new hnew

end Roll

namespace FeedbackBook

/-- How often feedback was given on a conference, removed or not. -/
def countOn (book : FeedbackBook) (id : String) : Nat :=
  (book.rows.map (·.conferenceId)).count id

variable {book book' : FeedbackBook} {f : Feedback} {id : String}

/-- A feedback that is found is a row. -/
lemma mem_of_find? (h : book.find? id = some f) : f ∈ book.rows :=
  Table.mem_of_get? (Option.filter_eq_some_iff.1 h).1

/-- A feedback is added exactly if the user has given none. -/
lemma add_eq_ok_iff :
    book.add f = .ok book' ↔ book.has f.conferenceId f.userId = false ∧ book.put f = book' := by
  cases hhas : book.has f.conferenceId f.userId with
  | true => simp [add, hhas]
  | false => simp [add, hhas]

/-- A feedback is removed exactly if it is live. -/
lemma remove_eq_ok_iff {now : Timestamp} :
    book.remove id now = .ok book' ↔
      ∃ f, book.find? id = some f ∧ book.put { f with deletedAt := some now } = book' := by
  cases hfind : book.find? id with
  | none => simp [remove, hfind]
  | some f => simp [remove, hfind]

/-- A new feedback counts at its conference. -/
lemma countOn_put_of_new (hnew : ∀ other ∈ book.rows, other.id ≠ f.id) :
    countOn (Table.put f book) f.conferenceId = book.countOn f.conferenceId + 1 := by
  simp [countOn, Table.rows_put_of_new hnew]

/-- A new feedback does not count at other conferences. -/
lemma countOn_put_of_ne (hnew : ∀ other ∈ book.rows, other.id ≠ f.id)
    (hne : f.conferenceId ≠ id) : countOn (Table.put f book) id = book.countOn id := by
  simp [countOn, Table.rows_put_of_new hnew, hne]

/-- A feedback that is removed still counts. -/
lemma countOn_remove {time : Timestamp} (hf : f ∈ book.rows) :
    countOn (Table.put { f with deletedAt := some time } book) id = book.countOn id := by
  have hsame : (book.put { f with deletedAt := some time }).rows.map (·.conferenceId) =
      book.rows.map (·.conferenceId) := Table.map_rows_put hf rfl rfl
  rw [countOn, hsame]
  rfl

end FeedbackBook

end Symposium
