import Symposium.Proofs.Annals
import Symposium.Proofs.Explanations
import Symposium.Proofs.Readers

/-!
# What is disclosed to plain users

What a plain user has a seat at is shown without a look at who may see it. It is open only because
they were admitted to it when they saw it, and because approval is final: this is what visits keep
if every user comes in one role. Main statement: `Guarded.serve`. Beside it, one lemma for each
reading says why a plain user may get what it returns.
-/

namespace Symposium

open Json (Members)

namespace Office

/-- What requests keep if every user comes in one role. -/
structure Guarded (roleOf : String → Role) (office : Office) : Prop where
  orderly : office.Orderly
  sound : office.programme.Sound
  chronicles : office.bus.ChroniclesOnce
  admits : office.policy.checksAdmission = true
  /-- Each entry on the timelines reports a visit. -/
  reported : ∀ entry ∈ office.journal.timeline, ∃ visit outcome,
    Visit.report? visit outcome = some entry
  /-- Plain users have seats at approved conferences only. -/
  seated : ∀ r ∈ office.roll.rows, roleOf r.userId = .user →
    ∃ c ∈ office.programme.rows, c.id = r.conferenceId ∧ c.status = .approved

/-- A registration was there before, or is that of a principal who was admitted to what they saw. -/
lemma Performs.of_mem_roll {office : Office} {principal : Principal} {operation : Operation}
    {checkedAt writtenAt : Timestamp} {result : Except Failure Outcome × Office}
    (performs : Performs office principal checkedAt writtenAt operation result)
    (admits : office.policy.checksAdmission = true) {r : Registration}
    (hr : r ∈ result.2.roll.rows) :
    r ∈ office.roll.rows ∨ principal.id = some r.userId ∧
      ∃ row, office.programme.find? r.conferenceId = some row ∧
        principal.sees row = true ∧ principal.id ≠ some row.hostId := by
  cases performs with
  | registered huser hfind hadmission hadd =>
    have hr := Roll.rows_of_add hadd ▸ hr
    obtain ⟨hsees, hguest, _⟩ := hadmission admits
    obtain hold | hnew := List.mem_append.1 hr
    · exact .inl hold
    · obtain rfl := List.mem_singleton.1 hnew
      refine .inr ⟨huser, _, hfind, hsees, ?_⟩
      rw [huser]
      exact fun hhost => hguest (Option.some.inj hhost)
  | _ => exact .inl hr

namespace Guarded

variable {roleOf : String → Role} {office : Office} {userId : String}

/-- Where nothing is stored there is nothing to guard. -/
lemma of_isBlank (h : office.IsBlank) (chronicles : office.bus.ChroniclesOnce)
    (admits : office.policy.checksAdmission = true) : office.Guarded roleOf where
  orderly := h.isNew.orderly
  sound := by
    rw [h.isNew.programme]
    exact Programme.sound_empty
  chronicles := chronicles
  admits := admits
  reported := by
    rw [h.timeline]
    exact List.forall_mem_nil _
  seated := by
    rw [h.isNew.roll]
    exact List.forall_mem_nil _

/-- Plain users hold seats at open conferences alone. -/
lemma seatedOpenly (h : office.Guarded roleOf) (hrole : roleOf userId = .user) :
    office.SeatedOpenly userId := by
  intro c hc
  obtain ⟨_, hseat⟩ := Roll.mem_conferencesOf_iff.1 hc
  obtain ⟨r, hr, hid, rfl⟩ := Roll.has_iff.1 hseat
  obtain ⟨approved, happroved, hsame, hstatus⟩ := h.seated r hr hrole
  exact ⟨approved, happroved, hsame.trans hid, .inl hstatus⟩

/-- What is approved stays so over a visit, as approval is final. -/
lemma approved_stays (h : office.Guarded roleOf) (visit : Visit) {id : String}
    (happroved : ∃ c ∈ office.programme.rows, c.id = id ∧ c.status = .approved) :
    ∃ c ∈ (office.serve visit).2.programme.rows, c.id = id ∧ c.status = .approved := by
  obtain ⟨c, hc, rfl, hstatus⟩ := happroved
  have hdecided : c.status ≠ .pending := by
    rw [hstatus]
    decide
  obtain ⟨after, hafter, horigin, hstatus', _⟩ :=
    (Performs.of_serve office visit).decided_stays h.orderly h.sound hc hdecided
  exact ⟨after, hafter, congrArg Conference.Origin.id horigin, hstatus'.trans hstatus⟩

/-- Plain users are only admitted as guests to what is approved. -/
lemma approved_of_admitted {principal : Principal} {row : Conference} {id : String}
    (hid : principal.id = some userId) (hrole : principal.role = some .user)
    (hfind : office.programme.find? id = some row) (hsees : principal.sees row = true)
    (hguest : principal.id ≠ some row.hostId) :
    ∃ c ∈ office.programme.rows, c.id = id ∧ c.status = .approved := by
  obtain rfl : principal = .plain userId := by
    cases principal
    cases hid
    cases hrole
    rfl
  obtain ⟨hrow, hsame, _⟩ := Programme.find?_eq_some_iff_mem.1 hfind
  cases Principal.sees_plain_iff.1 hsees with
  | inl happroved => exact ⟨row, hrow, hsame, happroved⟩
  | inr hhost => exact absurd (congrArg some hhost.symm) hguest

/-- An entry that a visit is reported with is its report of some outcome. -/
lemma exists_report {visit : Visit} {entry : Entry} (h : entry ∈ office.reported visit) :
    ∃ outcome, visit.report? outcome = some entry := by
  unfold Office.reported at h
  split at h
  · exact ⟨_, h⟩
  · cases h

/-- A visit in the role that the visitor always has keeps all of this. -/
theorem serve (h : office.Guarded roleOf) (visit : Visit)
    (hrole : ∀ id ∈ visit.principal.id, visit.principal.role = some (roleOf id)) :
    (office.serve visit).2.Guarded roleOf := by
  have performs := Performs.of_serve office visit
  obtain ⟨_, htimeline⟩ := isServed_serve h.chronicles h.admits visit
  refine ⟨?_, ?_, ?_, ?_, ?_, ?_⟩
  · exact serve_of_kept Traffic.kept_orderly h.orderly visit
  · exact serve_of_kept Traffic.kept_sound h.sound visit
  · rw [performs.bus_eq]
    exact h.chronicles
  · rw [performs.policy_eq]
    exact h.admits
  · rw [htimeline, List.forall_mem_append]
    refine ⟨h.reported, fun entry hentry => ?_⟩
    exact ⟨visit, exists_report (Option.mem_toList.1 hentry)⟩
  · intro r hr huser
    apply h.approved_stays visit
    obtain hold | ⟨hid, row, hfind, hsees, hguest⟩ := performs.of_mem_roll h.admits hr
    · exact h.seated r hold huser
    · have hplain := hrole r.userId hid
      rw [huser] at hplain
      exact approved_of_admitted hid hplain hfind hsees hguest

end Guarded

/-- Whether a value lists participants of the conference asked for, which a user hosts. -/
def ListsUsers (office : Office) (userId : String) (asked : Option String) (json : Json) : Prop :=
  ∃ c ∈ office.programme.rows, asked = some c.id ∧ c.hostId = userId ∧
    ∃ seats ⊆ office.roll.seatsOf c.id,
      json = .arr (seats.map fun r => (Participant.ofRegistration r).toJson)

/-- Whether a value lists what happened to the conference asked for, which a user hosts. -/
def ListsEntries (office : Office) (userId : String) (asked : Option String) (json : Json) :
    Prop :=
  ∃ c ∈ office.programme.rows, asked = some c.id ∧ c.hostId = userId ∧
    ∃ entries ⊆ office.journal.entriesOf c.id, json = .arr (entries.map Entry.toJson)

/-- Whether a value lists feedback on the conference asked for, which is open to a user. -/
def ListsNotes (office : Office) (userId : String) (asked : Option String) (json : Json) : Prop :=
  ∃ c ∈ office.programme.rows, asked = some c.id ∧ c.IsOpenTo userId ∧
    ∃ notes ⊆ office.feedback.notesOn c.id,
      json = .arr (notes.map fun f => (Feedback.Note.ofFeedback f).toJson)

/-- Whether a user may get a record, which tells of open conferences and has no other lists. -/
structure Permits (office : Office) (userId : String) (asked : Option String) (record : Members) :
    Prop where
  tells : ∀ id, Json.Tells asked record id → office.programme.IsOpen userId id
  users : ∀ json, record.lookup "users" = some json → office.ListsUsers userId asked json
  timeline : ∀ json, record.lookup "timeline" = some json → office.ListsEntries userId asked json
  feedbacks : ∀ json, record.lookup "feedbacks" = some json → office.ListsNotes userId asked json

/-- Whether a user may get a value, as they may get all records in it. -/
def PermitsAll (office : Office) (userId : String) (asked : Option String) (json : Json) : Prop :=
  ∀ record, json.Holds record → office.Permits userId asked record

variable {office : Office} {userId id : String} {asked : Option String} {ids : List String}
  {record : Members} {request : Page.Request} {now : Timestamp}

/-- A record that tells of open conferences alone may be shown. -/
lemma Permits.of_confined (h : Json.Confined asked ids record)
    (hopen : ∀ id ∈ ids, office.programme.IsOpen userId id) :
    office.Permits userId asked record := by
  have hlists {name : String} (hname : name ∈ Json.listNames) (json : Json) :
      record.lookup name ≠ some json := by
    rw [Json.lookup_eq_none_of_hasAny h.lists hname]
    exact nofun
  exact {
    tells := fun id htells => hopen id (h.tells id htells)
    users := fun json hjson => absurd hjson (hlists (by decide) json)
    timeline := fun json hjson => absurd hjson (hlists (by decide) json)
    feedbacks := fun json hjson => absurd hjson (hlists (by decide) json) }

/-- A record that tells of nothing may be shown. -/
lemma Permits.of_silent (hcontent : Json.hasAny Json.contentNames record = false)
    (hlists : Json.hasAny Json.listNames record = false) : office.Permits userId asked record :=
  .of_confined (.of_silent hcontent hlists) (List.forall_mem_nil _)

/-- A page of participants may be shown to the host. -/
lemma permits_users {rows info : Json} (h : office.ListsUsers userId asked rows) :
    office.Permits userId asked [("users", rows), ("pagination", info)] where
  tells _ htells := absurd htells (Json.not_tells_of_hasAny rfl)
  users json hjson := by
    cases hjson
    exact h
  timeline _ hjson := nomatch hjson
  feedbacks _ hjson := nomatch hjson

/-- A timeline may be shown to the host. -/
lemma permits_timeline {entries : Json} (h : office.ListsEntries userId asked entries) :
    office.Permits userId asked [("timeline", entries)] where
  tells _ htells := absurd htells (Json.not_tells_of_hasAny rfl)
  users _ hjson := nomatch hjson
  timeline json hjson := by
    cases hjson
    exact h
  feedbacks _ hjson := nomatch hjson

/-- A page of feedback may be shown to whoever the conference is open to. -/
lemma permits_feedbacks {rows info : Json} (h : office.ListsNotes userId asked rows) :
    office.Permits userId asked [("feedbacks", rows), ("pagination", info)] where
  tells _ htells := absurd htells (Json.not_tells_of_hasAny rfl)
  users _ hjson := nomatch hjson
  timeline _ hjson := nomatch hjson
  feedbacks json hjson := by
    cases hjson
    exact h

/-- The card of an open conference may be shown. -/
lemma permitsAll_card {card : Card} (h : office.programme.IsOpen userId card.id) :
    office.PermitsAll userId asked card.toJson :=
  fun _ hrecord => .of_confined (Card.confined_of_holds hrecord) (List.forall_mem_singleton.2 h)

/-- A page may be shown if its rows may, and the record of the page itself. -/
lemma permitsAll_page {α : Type} {page : Page α} {name : String} {row : α → Json}
    (hpage : office.Permits userId asked
      [(name, .arr (page.rows.map row)), ("pagination", page.info.toJson)])
    (hrows : ∀ a ∈ page.rows, office.PermitsAll userId asked (row a)) :
    office.PermitsAll userId asked (page.toJson name "pagination" row) := by
  intro record h
  have h : record = [(name, .arr (page.rows.map row)), ("pagination", page.info.toJson)] ∨
      (∃ a ∈ page.rows, (row a).Holds record) ∨ page.info.toJson.Holds record := by
    simpa [Page.toJson] using h
  obtain rfl | ⟨a, ha, h⟩ | h := h
  · exact hpage
  · exact hrows a ha record h
  · exact .of_confined (Page.Info.confined_of_holds h) (List.forall_mem_nil _)

/-- What a plain user gets is open to them. -/
lemma isOpen_of_get {card : Card} (h : office.get (.plain userId) id = .ok card) :
    office.programme.IsOpen userId card.id := by
  obtain ⟨c, hfind, hsees, rfl⟩ := get_eq_ok_iff.1 h
  exact ⟨c, Programme.mem_of_find? hfind, rfl, Principal.sees_plain_iff.1 hsees⟩

/-- A listing for a plain user is narrowed to what is approved or theirs. -/
lemma isOpen_of_list {query : Query} {page : Page Card}
    (h : office.list (.plain userId) query now = .ok page) :
    ∀ card ∈ page.rows, office.programme.IsOpen userId card.id := by
  intro card hcard
  obtain ⟨_, narrowed, hscope, hrows⟩ := of_list h
  obtain ⟨c, hfind, hfits, rfl⟩ := hrows card hcard
  obtain ⟨hstatus, hhost⟩ := Query.of_fits hfits
  refine ⟨c, Programme.mem_of_find? hfind, rfl, ?_⟩
  cases (Principal.Scopes.of_scope hscope).of_plain with
  | inl happroved => exact .inl (hstatus.trans happroved)
  | inr hown => exact .inr (Query.fitsHost_iff.1 hhost userId hown).symm

/-- Who is restricted only gets their own registrations, and those are at open conferences. -/
lemma isOpen_of_conferencesOf {other : String} {includePast : Bool} {page : Page Card}
    (seated : office.SeatedOpenly userId)
    (h : office.conferencesOf (.plain userId) other includePast request now = .ok page) :
    ∀ card ∈ page.rows, office.programme.IsOpen userId card.id := by
  obtain ⟨_, _, h⟩ := Failure.bind_eq_ok_iff.1 h
  obtain ⟨_, hself, h⟩ := Failure.bind_eq_ok_iff.1 h
  obtain ⟨rows, hrows, h⟩ := Failure.bind_eq_ok_iff.1 h
  cases h
  have hself : (Principal.plain userId).isUser other = true := Failure.require_eq_ok_iff.1 hself
  obtain rfl := Option.some.inj (Principal.isUser_iff.1 hself)
  obtain ⟨kept, hkept, hpage⟩ := Failure.bind_eq_ok_iff.1 hrows
  intro card hcard
  obtain ⟨c, hc, rfl⟩ := List.mem_map.1 hcard
  exact seated c (Failure.of_mem_keep hkept (Programme.mem_of_pageByStart hpage hc)).1

/-- A plain user oversees what they host. -/
lemma hostId_of_oversees {c : Conference} (h : (Principal.plain userId).oversees c = true) :
    c.hostId = userId := by
  have h : (Principal.plain userId).isUser c.hostId = true := h
  exact (Option.some.inj (Principal.isUser_iff.1 h)).symm

/-- A page of seats has seats at the conference asked for. -/
lemma subset_of_pageOf {seats : Page Registration}
    (h : office.roll.pageOf id request = .ok seats) : seats.rows ⊆ office.roll.seatsOf id := by
  obtain ⟨place, _, hcut⟩ := Failure.bind_eq_ok_iff.1 h
  cases hcut
  intro r hr
  exact Page.mem_of_mem_cut hr

/-- A page of feedback has feedback on the conference asked for. -/
lemma subset_of_pageOn {notes : Page Feedback}
    (h : office.feedback.pageOn id request = .ok notes) :
    notes.rows ⊆ office.feedback.notesOn id := by
  obtain ⟨place, _, hcut⟩ := Failure.bind_eq_ok_iff.1 h
  cases hcut
  intro f hf
  exact Page.mem_of_mem_cut hf

/-- Participants are listed for the host only. -/
lemma listsUsers_of_participants {page : Page Participant}
    (h : office.participants (.plain userId) id request = .ok page) :
    office.ListsUsers userId (some id) (.arr (page.rows.map Participant.toJson)) := by
  obtain ⟨_, _, h⟩ := Failure.bind_eq_ok_iff.1 h
  obtain ⟨c, hvisible, h⟩ := Failure.bind_eq_ok_iff.1 h
  obtain ⟨_, hoversees, h⟩ := Failure.bind_eq_ok_iff.1 h
  obtain ⟨seats, hpage, h⟩ := Failure.bind_eq_ok_iff.1 h
  cases h
  obtain ⟨hrow, rfl, _⟩ := Programme.find?_eq_some_iff_mem.1 (loadVisible_eq_ok_iff.1 hvisible).1
  have hhost := hostId_of_oversees (Failure.require_eq_ok_iff.1 hoversees)
  refine ⟨c, hrow, rfl, hhost, seats.rows, subset_of_pageOf hpage, ?_⟩
  exact congrArg Json.arr List.map_map

/-- Feedback is listed for those who see the conference. -/
lemma listsNotes_of_notes {page : Page Feedback.Note}
    (h : office.notes (.plain userId) id request = .ok page) :
    office.ListsNotes userId (some id) (.arr (page.rows.map Feedback.Note.toJson)) := by
  obtain ⟨_, _, h⟩ := Failure.bind_eq_ok_iff.1 h
  obtain ⟨c, hvisible, h⟩ := Failure.bind_eq_ok_iff.1 h
  obtain ⟨notes, hpage, h⟩ := Failure.bind_eq_ok_iff.1 h
  cases h
  obtain ⟨hfind, hsees⟩ := loadVisible_eq_ok_iff.1 hvisible
  obtain ⟨hrow, rfl, _⟩ := Programme.find?_eq_some_iff_mem.1 hfind
  have hopen := Principal.sees_plain_iff.1 hsees
  refine ⟨c, hrow, rfl, hopen, notes.rows, subset_of_pageOn hpage, ?_⟩
  exact congrArg Json.arr List.map_map

/-- An entry that can be shown is shown as it is. -/
lemma shown_eq_ok {entry : Entry} {json : Json} (h : entry.shown = .ok json) :
    json = entry.toJson := by
  unfold Entry.shown at h
  split at h
  · cases h
    rfl
  · cases h

/-- Entries that can all be shown are shown as they are, in their order. -/
lemma allShown_eq_ok {entries : List Entry} {json : Json} (h : Entry.allShown entries = .ok json) :
    json = .arr (entries.map Entry.toJson) := by
  obtain ⟨shown, hshown, rfl⟩ := Failure.map_eq_ok_iff.1 h
  apply congrArg Json.arr
  clear h
  induction entries generalizing shown with
  | nil =>
    cases hshown
    rfl
  | cons entry entries ih =>
    rw [List.mapM_cons] at hshown
    obtain ⟨first, hfirst, hshown⟩ := Failure.bind_eq_ok_iff.1 hshown
    obtain ⟨rest, hrest, hshown⟩ := Failure.bind_eq_ok_iff.1 hshown
    cases hshown
    rw [shown_eq_ok hfirst, List.map_cons, ih rest hrest]

/-- A timeline is that of a conference of the user who gets it. -/
lemma exists_entries_of_timeline {entries : List Entry}
    (h : office.timeline (.plain userId) id = .ok entries) :
    ∃ c ∈ office.programme.rows, c.id = id ∧ c.hostId = userId ∧
      entries ⊆ office.journal.entriesOf c.id := by
  unfold Office.timeline at h
  split at h
  · cases h
  · next row hrow =>
    obtain ⟨_, hoversees, h⟩ := Failure.bind_eq_ok_iff.1 h
    have hhost := hostId_of_oversees (Failure.require_eq_ok_iff.1 hoversees)
    obtain rfl := Table.key_of_get? hrow
    refine ⟨row, Table.mem_of_get? hrow, rfl, hhost, ?_⟩
    rw [Journal.timelineOf] at h
    split at h
    · cases h
      intro entry hentry
      exact (Page.sortRows_perm ..).mem_iff.1 hentry
    · cases h

section Performs

variable {principal : Principal} {operation : Operation} {checkedAt writtenAt : Timestamp}
  {result : Except Failure Outcome × Office}

/-- Where no handler fails, an operation that fails has written nothing. -/
lemma Performs.programme_of_error
    (performs : Performs office principal checkedAt writtenAt operation result)
    (never : office.bus.NeverFails) {failure : Failure} (h : result.1 = .error failure) :
    result.2.programme = office.programme := by
  cases performs with
  | refused _ => rfl
  | removed _ _ => rfl
  | _ => exact absurd h (announce_ne_error never)

/-- The card that a plain user is answered with is that of an open conference. -/
lemma Performs.isOpen_of_changed {card : Card}
    (performs : Performs office (.plain userId) checkedAt writtenAt operation result)
    (h : result.1 = .ok (.changed card)) : result.2.programme.IsOpen userId card.id := by
  cases performs with
  | refused _ => cases h
  | removed _ _ => cases h
  | edited _ hhost _ _ =>
    cases eq_of_announce h
    exact ⟨_, Table.mem_rows_put.2 (.inl rfl), rfl, .inr (Option.some.inj hhost).symm⟩
  | decided hunrestricted _ _ _ => cases hunrestricted
  | _ => cases eq_of_announce h

end Performs

/-- An open conference may be shown under its name. -/
lemma permitsAll_conference {card : Card} (h : office.programme.IsOpen userId card.id) :
    office.PermitsAll userId asked (.obj [("conference", card.toJson)]) := by
  intro record hrecord
  have hrecord : record = [("conference", card.toJson)] ∨ card.toJson.Holds record := by
    simpa using hrecord
  obtain rfl | hcard := hrecord
  · exact .of_silent rfl rfl
  · exact permitsAll_card h record hcard

/-- The host of a conference may be shown its timeline, and the entries tell of nothing else. -/
lemma permitsAll_timeline {entries : List Entry}
    (reported : ∀ entry ∈ office.journal.timeline, ∃ visit outcome,
      Visit.report? visit outcome = some entry)
    (h : office.timeline (.plain userId) id = .ok entries) :
    office.PermitsAll userId (some id) (.obj [("timeline", .arr (entries.map Entry.toJson))]) := by
  obtain ⟨c, hc, rfl, hhost, hsub⟩ := exists_entries_of_timeline h
  intro record hrecord
  have hrecord : record = [("timeline", .arr (entries.map Entry.toJson))] ∨
      ∃ entry ∈ entries, entry.toJson.Holds record := by
    simpa using hrecord
  obtain rfl | ⟨entry, hentry, hrecord⟩ := hrecord
  · exact permits_timeline ⟨c, hc, rfl, hhost, entries, hsub, rfl⟩
  · have hstored : entry ∈ office.journal.timeline := (List.mem_filter.1 (hsub hentry)).1
    obtain ⟨visit, outcome, hreport⟩ := reported entry hstored
    exact .of_confined (Entry.confined_of_holds hreport hrecord) (List.forall_mem_nil _)

end Office

end Symposium
