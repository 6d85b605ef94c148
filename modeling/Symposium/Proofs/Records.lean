import Symposium.Http.Service
import Symposium.Proofs.Visits

/-!
# What records tell

The answers of the service are values in which records stand. A record tells of a conference if one
of its members has a name that only content of conferences has, and it says by its id which one; one
without an id is about the conference that was asked for. Main statements: of which conferences the
records of a card, a clash and a refusal tell.
-/

namespace Symposium

namespace Json

/-- Whether a record stands somewhere in a value. -/
inductive Holds : Json → Members → Prop where
  | here {members} :
    Holds (.obj members) members
  | item {items json record} :
    json ∈ items →
    Holds json record →
    Holds (.arr items) record
  | member {members name json record} :
    (name, json) ∈ members →
    Holds json record →
    Holds (.obj members) record

/-- Whether a record has a member with one of these names. -/
def hasAny (names : List String) (record : Members) : Bool :=
  record.any fun member => names.contains member.1

/-- The names of content of conferences: those of a card, but for what other records have too. -/
def contentNames : List String :=
  ["title", "description", "speaker_name", "speaker_title", "target_audience", "prerequisites",
    "seats", "seats_taken", "starts_at", "ends_at", "host", "status", "updated_at"]

/-- The names of the lists of what belongs to a conference. -/
def listNames : List String :=
  ["users", "timeline", "feedbacks"]

/-- Whether a record tells of a conference. -/
structure Tells (asked : Option String) (record : Members) (id : String) : Prop where
  content : hasAny contentNames record = true
  /-- The record has the id of the conference, or it has none and the conference was asked for. -/
  subject : (record.lookup "id").elim (asked = some id) (· = .str id)

/-- Whether a record has no list and tells of these conferences at most. -/
structure Confined (asked : Option String) (ids : List String) (record : Members) : Prop where
  tells : ∀ id, Tells asked record id → id ∈ ids
  lists : hasAny listNames record = false

variable {members record : Members} {items : List Json} {asked : Option String} {ids : List String}
  {id : String}

/-- An object holds itself and what its members hold. -/
@[simp]
lemma holds_obj_iff :
    Holds (.obj members) record ↔ record = members ∨ ∃ m ∈ members, m.2.Holds record := by
  constructor
  · intro h
    cases h with
    | here => exact .inl rfl
    | member hmem h => exact .inr ⟨_, hmem, h⟩
  · rintro (rfl | ⟨m, hmem, h⟩)
    · exact .here
    · exact .member hmem h

/-- A list holds what its items hold. -/
@[simp]
lemma holds_arr_iff : Holds (.arr items) record ↔ ∃ json ∈ items, json.Holds record := by
  constructor
  · intro h
    cases h with
    | item hmem h => exact ⟨_, hmem, h⟩
  · rintro ⟨json, hmem, h⟩
    exact .item hmem h

/-- A truth value holds no record. -/
@[simp]
lemma not_holds_bool {value : Bool} : ¬ Holds (.bool value) record :=
  nofun

/-- A number holds no record. -/
@[simp]
lemma not_holds_int {value : Int} : ¬ Holds (.int value) record :=
  nofun

/-- A text holds no record. -/
@[simp]
lemma not_holds_str {text : String} : ¬ Holds (.str text) record :=
  nofun

/-- A text or null holds no record. -/
@[simp]
lemma not_holds_ofText? {text : Option String} : ¬ Holds (.ofText? text) record := by
  cases text <;> exact nofun

/-- A timestamp holds no record. -/
@[simp]
lemma not_holds_ofTimestamp {t : Timestamp} : ¬ Holds (.ofTimestamp t) record :=
  nofun

/-- A record without some names has no member under any of them. -/
lemma lookup_eq_none_of_hasAny {names : List String} {name : String}
    (h : hasAny names record = false) (hname : name ∈ names) : record.lookup name = none := by
  rw [List.lookup_eq_none_iff]
  intro member hmember
  rw [bne_iff_ne]
  rintro rfl
  exact List.any_eq_false.1 h member hmember (List.contains_iff_mem.2 hname)

/-- A record without content tells of no conference. -/
lemma not_tells_of_hasAny (h : hasAny contentNames record = false) : ¬ Tells asked record id := by
  intro htells
  rw [htells.content] at h
  cases h

namespace Confined

/-- A record without content and lists tells of nothing. -/
lemma of_silent (hcontent : hasAny contentNames record = false)
    (lists : hasAny listNames record = false) : Confined asked ids record where
  tells _ htells := absurd htells (not_tells_of_hasAny hcontent)
  lists

/-- A record with an id tells of no other conference. -/
lemma of_id (hid : record.lookup "id" = some (.str id)) (hmem : id ∈ ids)
    (lists : hasAny listNames record = false) : Confined asked ids record where
  tells other htells := by
    have hsubject := htells.subject
    rw [hid] at hsubject
    cases hsubject
    exact hmem
  lists

/-- A record without an id tells of what was asked for. -/
lemma of_asked (hid : record.lookup "id" = none) (lists : hasAny listNames record = false) :
    Confined asked asked.toList record where
  tells id htells := by
    have hsubject := htells.subject
    rw [hid] at hsubject
    exact Option.mem_toList.2 hsubject
  lists

/-- A record that tells of some conferences at most tells of more at most. -/
lemma mono {more : List String} (h : Confined asked ids record) (hsub : ids ⊆ more) :
    Confined asked more record :=
  ⟨fun id htells => hsub (h.tells id htells), h.lists⟩

end Confined

end Json

open Json (Members Holds Confined)

variable {record : Members} {asked : Option String} {ids : List String}

/-- A card tells of its conference. -/
lemma Card.confined_of_holds {card : Card} (h : card.toJson.Holds record) :
    Confined asked [card.id] record := by
  have h : .obj record = card.toJson ∨ record = [("id", .str card.hostId)] := by
    simpa [toJson, Talk.members, Window.members, userRefToJson] using h
  cases h with
  | inl hcard =>
    cases hcard
    exact .of_id rfl List.mem_cons_self rfl
  | inr hhost =>
    subst hhost
    exact .of_silent rfl rfl

/-- A clash tells of its conference. -/
lemma Clash.confined_of_holds {clash : Clash} (h : clash.toJson.Holds record) :
    Confined asked [clash.id] record := by
  have h : .obj record = clash.toJson := by
    simpa [toJson, Window.members] using h
  cases h
  exact .of_id rfl List.mem_cons_self rfl

/-- A participant tells of no conference. -/
lemma Participant.confined_of_holds {p : Participant} (h : p.toJson.Holds record) :
    Confined asked ids record := by
  have h : .obj record = p.toJson := by
    simpa [toJson] using h
  cases h
  exact .of_silent rfl rfl

/-- A feedback tells of no conference. -/
lemma Feedback.Note.confined_of_holds {note : Note} (h : note.toJson.Holds record) :
    Confined asked ids record := by
  have h : .obj record = note.toJson ∨ record = [("id", .str note.userId)] := by
    simpa [toJson, userRefToJson] using h
  cases h with
  | inl hnote =>
    cases hnote
    exact .of_silent rfl rfl
  | inr huser =>
    subst huser
    exact .of_silent rfl rfl

/-- What is said of a page tells of no conference. -/
lemma Page.Info.confined_of_holds {info : Info} (h : info.toJson.Holds record) :
    Confined asked ids record := by
  have h : .obj record = info.toJson := by
    simpa [toJson] using h
  cases h
  exact .of_silent rfl rfl

/-- An entry that reports a visit tells of no conference in any of its records. -/
lemma Entry.confined_of_holds {visit : Office.Visit} {outcome : Outcome} {entry : Entry}
    (hreport : visit.report? outcome = some entry) (h : entry.toJson.Holds record) :
    Confined asked ids record := by
  have h : .obj record = entry.toJson ∨ .obj record = Json.obj entry.payload := by
    unfold Office.Visit.report? at hreport
    split at hreport <;> cases hreport <;> simpa [toJson, Office.Visit.entry] using h
  cases h with
  | inl hentry =>
    cases hentry
    exact .of_silent rfl rfl
  | inr hpayload =>
    cases hpayload
    unfold Office.Visit.report? at hreport
    split at hreport <;> cases hreport <;> exact .of_silent rfl rfl

namespace Refusal

/-- The conferences of which the explanation of a refusal tells, if one was asked for. -/
def subjects (asked : Option String) : Refusal → List String
  | timeWindowConflict clashes => clashes.map Clash.id
  | conflictingRegistrations clashes => clashes.map Clash.id
  | userHasActiveProposal c => [c.id]
  | conferenceFull (some _) => asked.toList
  | timeAlreadyPassed _ => asked.toList
  | endTimeBeforeStart _ => asked.toList
  | conferenceNotEnded _ => asked.toList
  | updatePastConferenceStatus _ => asked.toList
  | _ => []

/-- The explanation of clashes tells of the conferences that clash. -/
lemma confined_of_explain {clashes : List Clash} (h : (Clash.explain clashes).Holds record) :
    Confined asked (clashes.map Clash.id) record := by
  have h : record = [("conferences", .arr (clashes.map Clash.toJson))] ∨
      ∃ clash ∈ clashes, clash.toJson.Holds record := by
    simpa [Clash.explain] using h
  obtain rfl | ⟨clash, hclash, h⟩ := h
  · exact .of_silent rfl rfl
  · refine (Clash.confined_of_holds h).mono fun id hid => ?_
    obtain rfl := List.mem_singleton.1 hid
    exact List.mem_map_of_mem hclash

/-- The details of a refusal tell of its subjects. -/
lemma confined_of_details {refusal : Refusal} {details : Json}
    (hdetails : refusal.details = some details) (h : details.Holds record) :
    Confined asked (refusal.subjects asked) record := by
  cases refusal with
  | timeWindowConflict clashes =>
    cases hdetails
    exact confined_of_explain h
  | conflictingRegistrations clashes =>
    cases hdetails
    exact confined_of_explain h
  -- the explanation is a record around that of the proposal, which has its id
  | userHasActiveProposal c =>
    cases hdetails
    have h := by simpa [showTime] using h
    obtain rfl | rfl := h
    · exact .of_silent rfl rfl
    · exact .of_id rfl List.mem_cons_self rfl
  | conferenceFull seats =>
    cases seats with
    | none => cases hdetails
    | some seats =>
      cases hdetails
      obtain rfl := by simpa using h
      exact .of_asked rfl rfl
  | timeAlreadyPassed _ | conferenceNotEnded _ | updatePastConferenceStatus _
  | endTimeBeforeStart _ =>
    cases hdetails
    obtain rfl := by simpa [showTime] using h
    exact .of_asked rfl rfl
  | roleNotAmong role allowed =>
    cases hdetails
    obtain rfl := by simpa [showRole] using h
    exact .of_silent rfl rfl
  -- the other refusals tell of roles, cursors and limits
  | notYourProposals _ | notYourRegistrations _ | forbiddenRole _ | invalidStatusTransition _ _
  | invalidPagination _ _ | invalidLimit _ _ _ | unknownRole _ =>
    cases hdetails
    obtain rfl := by simpa [showRole] using h
    exact .of_silent rfl rfl
  | _ => cases hdetails

/-- A report has the details of its refusal. -/
lemma details_report {refusal : Refusal} {freshTrace : String} :
    (refusal.report freshTrace).details = refusal.details := by
  cases refusal with
  | conferenceFull seats => cases seats <;> rfl
  | _ => rfl

/-- Beside its explanation, the answer to a request that is refused tells of nothing. -/
lemma Report.confined_or_of_holds {report : Report} (h : report.body.Holds record) :
    Confined asked ids record ∨
      ∃ details, report.details = some details ∧ details.Holds record := by
  have h : .obj record = report.body ∨
      ∃ details, report.details = some details ∧ details.Holds record := by
    simpa [body, or_and_right, exists_or] using h
  obtain ⟨kind, message, details, context, trace⟩ := report
  cases h with
  | inl hbody =>
    cases hbody
    cases details with
    | none => cases trace <;> exact .inl (.of_silent rfl rfl)
    | some details => cases trace <;> exact .inl (.of_silent rfl rfl)
  | inr hdetails => exact .inr hdetails

/-- The answer to a refused request tells of the subjects of the refusal. -/
lemma confined_of_body {refusal : Refusal} {freshTrace : String}
    (h : (refusal.report freshTrace).body.Holds record) :
    Confined asked (refusal.subjects asked) record := by
  obtain hbody | ⟨details, hdetails, h⟩ := Report.confined_or_of_holds h
  · exact hbody
  · rw [details_report] at hdetails
    exact confined_of_details hdetails h

end Refusal

/-- The answer to a call that failed tells of what the failure tells of. -/
lemma Http.Problem.confined_of_refusal {refusal : Refusal} {freshTrace : String}
    (h : (ofRefusal refusal freshTrace).body.Holds record) :
    Confined asked (refusal.subjects asked) record :=
  Refusal.confined_of_body h

end Symposium
