import Symposium.Http.Wire
import Symposium.Proofs.Disclosures

/-!
# What answers tell plain users

Conferences leave the service in cards, in clashes and in explanations, and not all of these look at
who may see them. What the service is asked is up to a framework, of which nothing is known but that
it makes calls of requests: what it answers by itself, it answers without the office. Main statement:
if every user always comes in one role, no answer to a plain user tells of a conference that is
neither approved nor theirs.
-/

namespace Symposium

open Failure (IsDiscreet)

namespace Http

namespace Call

/-- The conference that a call asks for, if it asks for one. -/
def subject? : Call → Option String
  | get id => some id
  | timeline id => some id
  | participants id _ => some id
  | notes id _ => some id
  | list _ | conferencesOf .. => none
  | call => call.operation?.bind Operation.subject?

variable {call : Call} {office : Office} {userId : String} {asked : Option String}
  {roleOf : String → Role} {isOpen : String → Prop} {now : Timestamp} {json : Json}

/-- What a plain user reads tells of open conferences alone, whichever reading it is. -/
lemma permitsAll_read (h : office.Guarded roleOf) (hrole : roleOf userId = .user)
    (hread : call.read office ⟨userId, .user⟩ now = .ok json) :
    office.PermitsAll userId call.subject? json := by
  have seated := h.seatedOpenly hrole
  cases call with
  | list query =>
    obtain ⟨page, hlist, rfl⟩ := Failure.map_eq_ok_iff.1 hread
    apply Office.permitsAll_page
    · exact .of_silent rfl rfl
    · intro card hcard
      exact Office.permitsAll_card (Office.isOpen_of_list hlist card hcard)
  | get id =>
    obtain ⟨card, hget, rfl⟩ := Failure.map_eq_ok_iff.1 hread
    exact Office.permitsAll_conference (Office.isOpen_of_get hget)
  | timeline id =>
    obtain ⟨shown, hshown, rfl⟩ := Failure.map_eq_ok_iff.1 hread
    obtain ⟨entries, hentries, hall⟩ := Failure.bind_eq_ok_iff.1 hshown
    obtain rfl := Office.allShown_eq_ok hall
    exact Office.permitsAll_timeline h.reported hentries
  | participants id request =>
    obtain ⟨page, hpage, rfl⟩ := Failure.map_eq_ok_iff.1 hread
    apply Office.permitsAll_page
    · exact Office.permits_users (Office.listsUsers_of_participants hpage)
    · intro p hp record hrecord
      exact .of_confined (Participant.confined_of_holds hrecord) (List.forall_mem_nil _)
  | conferencesOf other includePast request =>
    obtain ⟨page, hlist, rfl⟩ := Failure.map_eq_ok_iff.1 hread
    apply Office.permitsAll_page
    · exact .of_silent rfl rfl
    -- the seats are those of the user, whose role is the same in every request
    · intro card hcard
      exact Office.permitsAll_card (Office.isOpen_of_conferencesOf seated hlist card hcard)
  | notes id request =>
    obtain ⟨page, hpage, rfl⟩ := Failure.map_eq_ok_iff.1 hread
    apply Office.permitsAll_page
    · exact Office.permits_feedbacks (Office.listsNotes_of_notes hpage)
    · intro note hnote record hrecord
      exact .of_confined (Feedback.Note.confined_of_holds hrecord) (List.forall_mem_nil _)
  -- the other calls read nothing
  | _ =>
    cases hread
    intro record hrecord
    cases hrecord

/-- The readings of a plain user are refused without a word on other conferences. -/
lemma read_isDiscreet :
    IsDiscreet isOpen asked (call.read office ⟨userId, .user⟩ now) := by
  cases call with
  | list query =>
    refine .map (.bind Page.Request.check_isDiscreet fun _ _ => ?_)
    refine .bind Principal.scope_isDiscreet fun _ _ => ?_
    exact .bind Programme.list_isDiscreet fun _ _ => .ok
  | get id => exact .map (.map Office.loadVisible_isDiscreet)
  | timeline id =>
    exact .map (.bind Office.timeline_isDiscreet fun _ _ => Entry.allShown_isDiscreet)
  | participants id request =>
    refine .map (.bind Page.Request.check_isDiscreet fun _ _ => ?_)
    refine .bind Office.loadVisible_isDiscreet fun _ _ => ?_
    refine .bind (.requireSilently rfl) fun _ _ => ?_
    exact .bind (.bind Page.Request.place_isDiscreet fun _ _ => .ok) fun _ _ => .ok
  | conferencesOf other includePast request =>
    refine .map (.bind Page.Request.check_isDiscreet fun _ _ => ?_)
    refine .bind (.requireSilently rfl) fun _ _ => ?_
    exact .bind Roll.conferencePage_isDiscreet fun _ _ => .ok
  | notes id request =>
    refine .map (.bind Page.Request.check_isDiscreet fun _ _ => ?_)
    refine .bind Office.loadVisible_isDiscreet fun _ _ => ?_
    exact .bind (.bind Page.Request.place_isDiscreet fun _ _ => .ok) fun _ _ => .ok
  | _ => exact .ok

/-- An outcome tells of nothing but the conference on its card. -/
lemma permitsAll_ofOutcome {name : String} {outcome : Outcome}
    (hcontent : ∀ json, Json.hasAny Json.contentNames [(name, json)] = false)
    (hlists : ∀ json, Json.hasAny Json.listNames [(name, json)] = false)
    (h : ∀ card, outcome = .changed card → office.programme.IsOpen userId card.id) :
    office.PermitsAll userId asked (ofOutcome name outcome).body := by
  intro record hrecord
  cases outcome with
  | created id =>
    have hrecord : record = [(name, .obj [("id", .str id)])] ∨ record = [("id", .str id)] := by
      simpa [ofOutcome] using hrecord
    obtain rfl | rfl := hrecord
    · exact .of_silent (hcontent _) (hlists _)
    · exact .of_silent rfl rfl
  | changed card => exact Office.permitsAll_conference (h card rfl) record hrecord
  | done => cases hrecord

/-- What a change answers tells of nothing but the conference on its card. -/
lemma permitsAll_ofChange {outcome : Outcome}
    (h : ∀ card, outcome = .changed card → office.programme.IsOpen userId card.id) :
    office.PermitsAll userId asked (call.ofChange ⟨userId, .user⟩ outcome).body := by
  cases call with
  | register id =>
    intro record hrecord
    have hrecord : record = [("registration",
          .obj [("conference_id", .str id), ("user_id", .str userId)])] ∨
        record = [("conference_id", .str id), ("user_id", .str userId)] := by
      simpa [ofChange] using hrecord
    obtain rfl | rfl := hrecord
    · exact .of_silent rfl rfl
    · exact .of_silent rfl rfl
  | giveFeedback request => exact permitsAll_ofOutcome (fun _ => rfl) (fun _ => rfl) h
  | _ => exact permitsAll_ofOutcome (fun _ => rfl) (fun _ => rfl) h

/-- A call asks for the conference that its operation is about. -/
lemma subject?_eq {operation : Operation} (h : call.operation? = some operation) :
    call.subject? = operation.subject? := by
  cases call <;> cases h <;> rfl

/-- The answer to a call of a plain user, which they get or which is reported as a failure. -/
theorem permitsAll_answer (call : Call) (checkedAt writtenAt : Timestamp)
    (h : office.Guarded roleOf) (hrole : roleOf userId = .user) :
    let (result, later) := call.answer office ⟨userId, .user⟩ checkedAt writtenAt
    IsDiscreet (later.programme.IsOpen userId) call.subject? result ∧
      ∀ response, result = .ok response →
        later.PermitsAll userId call.subject? response.body := by
  have seated := h.seatedOpenly hrole
  have never := h.chronicles.never
  cases hoperation : call.operation? with
  | none =>
    simp only [answer, hoperation]
    refine ⟨.map read_isDiscreet, fun response hresponse => ?_⟩
    obtain ⟨json, hread, rfl⟩ := Failure.map_eq_ok_iff.1 hresponse
    exact permitsAll_read h hrole hread
  | some operation =>
    simp only [answer, hoperation]
    rw [subject?_eq hoperation]
    -- the operation is a visit of the plain user
    let visit : Office.Visit := ⟨.plain userId, operation, checkedAt, writtenAt⟩
    have performs := Office.Performs.of_serve office visit
    refine ⟨.map fun failure hfailure => ?_, fun response hresponse => ?_⟩
    · have hfailure : (office.serve visit).1 = .error failure := hfailure
      show ∀ id ∈ _, (office.serve visit).2.programme.IsOpen userId id
      rw [performs.programme_of_error never hfailure]
      exact Office.serve_isDiscreet never seated rfl failure hfailure
    · obtain ⟨outcome, hserve, rfl⟩ := Failure.map_eq_ok_iff.1 hresponse
      refine permitsAll_ofChange fun card hcard => performs.isOpen_of_changed ?_
      rw [← hcard]
      exact hserve

end Call

/--
A request, the times when it is checked and when it is written, and the trace under which an internal
failure is reported.
-/
structure Arrival (ρ : Type) where
  request : ρ
  checkedAt : Timestamp
  writtenAt : Timestamp
  freshTrace : String

section Serve

variable {ρ : Type} {framework : Framework ρ} {headers : IdentityHeaders} {office : Office}
  {arrival : Arrival ρ} {caller : Caller} {call : Call} {userId : String}
  {asked : Option String} {roleOf : String → Role}

/-- The answer to an arrival, and the office after it. -/
def Arrival.serve (arrival : Arrival ρ) (framework : Framework ρ) (headers : IdentityHeaders)
    (office : Office) : Response × Office :=
  Http.serve framework headers office arrival.request arrival.checkedAt arrival.writtenAt
    arrival.freshTrace

/-- The office after some arrivals, one after the other. -/
def serveAll (framework : Framework ρ) (headers : IdentityHeaders) (office : Office)
    (arrivals : List (Arrival ρ)) : Office :=
  arrivals.foldl (fun office arrival => (arrival.serve framework headers office).2) office

/-- Whether everybody who makes a request comes in the role that is theirs. -/
def Framework.ComesAs (framework : Framework ρ) (roleOf : String → Role)
    (headers : IdentityHeaders) (request : ρ) : Prop :=
  ∀ caller, framework.caller headers request = .ok caller → caller.role = roleOf caller.id

/-- Whoever makes a request comes as themselves if the role is theirs. -/
lemma Framework.ComesAs.of_caller {request : ρ}
    (h : framework.caller headers request = .ok caller) (hrole : caller.role = roleOf caller.id) :
    framework.ComesAs roleOf headers request := by
  intro other hother
  rw [h] at hother
  cases hother
  exact hrole

/-- Who makes a call that is understood is known, and the endpoint of the call is open to them. -/
lemma Framework.of_understand {request : ρ}
    (h : framework.understand headers request = .ok (caller, call)) :
    framework.caller headers request = .ok caller ∧ call.endpoint.admits caller.role = true := by
  -- each step that fails ends in a problem, so all of them have come to a result
  simp only [understand, Failure.bind_eq_ok_iff] at h
  obtain ⟨endpoint, hroute, _, hbody, identified, hcaller, h⟩ := h
  have hidentified := Failure.eq_ok_of_mapError hcaller
  split at h
  case isTrue hadmits =>
    obtain ⟨made, hcall, hmade⟩ := Failure.bind_eq_ok_iff.1 h
    cases hmade
    rw [framework.endpoint_of_call hcall]
    exact ⟨hidentified, hadmits⟩
  case isFalse => cases h

/-- A call that is understood is answered, and all that goes wrong with it is reported. -/
lemma serve_of_understand
    (h : framework.understand headers arrival.request = .ok (caller, call)) :
    arrival.serve framework headers office =
      let (result, later) := call.answer office caller arrival.checkedAt arrival.writtenAt
      match result with
      | .ok response => (response, later)
      | .error failure => ((Problem.ofFailure failure).response arrival.freshTrace, later) := by
  rw [Arrival.serve, serve, h]
  dsimp only
  generalize call.answer office caller arrival.checkedAt arrival.writtenAt = answer
  obtain ⟨result, later⟩ := answer
  cases result <;> rfl

/-- An arrival leaves an office as it was, or does to it what its call asks for, as a visit. -/
lemma office_of_serve (framework : Framework ρ) (headers : IdentityHeaders) (office : Office)
    (arrival : Arrival ρ) :
    (arrival.serve framework headers office).2 = office ∨ ∃ caller call operation,
      framework.understand headers arrival.request = .ok (caller, call) ∧
        call.operation? = some operation ∧
        (arrival.serve framework headers office).2 =
          (office.serve
            ⟨caller.principal, operation, arrival.checkedAt, arrival.writtenAt⟩).2 := by
  cases hunderstand : framework.understand headers arrival.request with
  | error problem => exact .inl (congrArg Prod.snd (serve_of_problem hunderstand ..))
  | ok understood =>
    obtain ⟨caller, call⟩ := understood
    -- a result and a failure leave the same office
    have hlater : (arrival.serve framework headers office).2 =
        (call.answer office caller arrival.checkedAt arrival.writtenAt).2 := by
      rw [serve_of_understand hunderstand]
      dsimp only
      split <;> rfl
    cases hoperation : call.operation? with
    | none => exact .inl (hlater.trans (Call.answer_of_read hoperation office caller ..))
    | some operation =>
      refine .inr ⟨caller, call, operation, rfl, hoperation, hlater.trans ?_⟩
      simp only [Call.answer, hoperation]
      rfl

/-- An arrival keeps what visits keep, as it is one visit at most. -/
lemma guarded_serve (h : office.Guarded roleOf)
    (hrole : framework.ComesAs roleOf headers arrival.request) :
    (arrival.serve framework headers office).2.Guarded roleOf := by
  obtain hsame | ⟨caller, call, operation, hunderstand, _, hserve⟩ :=
    office_of_serve framework headers office arrival
  · rwa [hsame]
  · obtain ⟨hcaller, _⟩ := Framework.of_understand hunderstand
    rw [hserve]
    refine h.serve _ fun id hid => ?_
    cases hid
    exact congrArg some (hrole caller hcaller)

/-- What visits keep, arrivals keep too, as each of them is a visit at most. -/
lemma guarded_serveAll (h : office.Guarded roleOf) (arrivals : List (Arrival ρ))
    (hroles : ∀ arrival ∈ arrivals, framework.ComesAs roleOf headers arrival.request) :
    (serveAll framework headers office arrivals).Guarded roleOf := by
  induction arrivals generalizing office with
  | nil => exact h
  | cons arrival arrivals ih =>
    obtain ⟨hfirst, hrest⟩ := List.forall_mem_cons.1 hroles
    exact ih (guarded_serve h hfirst) hrest

/-- The report of a failure tells of what the failure tells of. -/
lemma permitsAll_ofFailure {failure : Failure} {freshTrace : String}
    (h : ∀ id ∈ failure.subjects asked, office.programme.IsOpen userId id) :
    office.PermitsAll userId asked ((Problem.ofFailure failure).response freshTrace).body := by
  intro record hrecord
  cases failure with
  | refused refusal => exact .of_confined (Problem.confined_of_refusal hrecord) h
  | _ => exact .of_confined (Problem.confined_of_refusal hrecord) (List.forall_mem_nil _)

/-- The answer to a call of a plain user tells of open conferences alone. -/
theorem permitsAll_serve (h : office.Guarded roleOf) (hrole : roleOf userId = .user)
    (hunderstand : framework.understand headers arrival.request = .ok (⟨userId, .user⟩, call)) :
    (arrival.serve framework headers office).2.PermitsAll userId call.subject?
      (arrival.serve framework headers office).1.body := by
  have hanswer := Call.permitsAll_answer call arrival.checkedAt arrival.writtenAt h hrole
  rw [serve_of_understand hunderstand]
  dsimp only at hanswer ⊢
  generalize call.answer office ⟨userId, .user⟩ arrival.checkedAt arrival.writtenAt = answer
    at hanswer
  obtain ⟨result, later⟩ := answer
  obtain ⟨hdiscreet, hpermits⟩ := hanswer
  cases result with
  | ok response => exact hpermits response rfl
  | error failure => exact permitsAll_ofFailure (hdiscreet failure rfl)

end Serve

/--
From empty stores and if everybody always comes in one role, whatever a plain user is answered: each
record in the answer to a call only tells of conferences that are approved or theirs in the state
then. Lists of participants and of events belong to the conference asked for if it is theirs, and
lists of feedback if it is open to them. A request that is no call is answered from the request
alone, with the same words whatever is stored.
-/
theorem answers_are_discreet {ρ : Type} (framework : Framework ρ) (pageLimit reportLimit : Int)
    (ids : IdSource) (hids : ids.NeverRepeats) (headers : IdentityHeaders)
    (roleOf : String → Role) (past : List (Arrival ρ)) (current : Arrival ρ)
    (hroles : ∀ arrival ∈ past ++ [current], framework.ComesAs roleOf headers arrival.request) :
    let office := serveAll framework headers (.start (.checking pageLimit reportLimit) ids) past
    let answer := current.serve framework headers office
    (∀ userId call,
      framework.understand headers current.request = .ok (⟨userId, .user⟩, call) →
        ∀ record, answer.1.body.Holds record → answer.2.Permits userId call.subject? record) ∧
    ∀ problem, framework.understand headers current.request = .error problem →
      ∀ other, current.serve framework headers other = (answer.1, other) := by
  obtain ⟨hpast, hcurrent⟩ := List.forall_mem_append.1 hroles
  have hblank : (Office.start (.checking pageLimit reportLimit) ids).IsBlank :=
    ⟨⟨rfl, rfl, hids⟩, rfl, rfl⟩
  have hguarded := guarded_serveAll
    (.of_isBlank hblank Bus.chroniclesOnce_standard rfl) past hpast
  constructor
  · intro userId call hunderstand
    obtain ⟨hcaller, _⟩ := Framework.of_understand hunderstand
    have hrole := (List.forall_mem_singleton.1 hcurrent _ hcaller).symm
    exact permitsAll_serve hguarded hrole hunderstand
  · intro problem hunderstand other
    simp only [Arrival.serve, serve_of_problem hunderstand]

/-- Somebody in a role sends a request at the epoch. -/
def Arrival.of (userId role method target : String) (body : Option String) : Arrival Request :=
  ⟨⟨method, target, [("X-User-ID", userId), ("X-User-Role", role)], body⟩, .hour 0, .hour 0, ""⟩

/-- Alice is known by her headers, whatever she asks. -/
lemma Arrival.caller_alice {method target : String} {body : Option String} :
    Framework.standard.caller (.ofSettings .standard)
      (Arrival.of "alice" "user" method target body).request = .ok ⟨"alice", .user⟩ :=
  rfl

/-- Alice proposes a talk. -/
def Arrival.proposal : Arrival Request :=
  .of "alice" "user" "POST" "/conferences" <| some <|
    "\x7b\"title\":\"Talk\",\"description\":\"None\"," ++
    "\"speaker_name\":\"Ada\",\"speaker_title\":\"Dr.\",\"target_audience\":\"All\",\"seats\":2," ++
    "\"starts_at\":\"2026-01-01T10:00Z\",\"ends_at\":\"2026-01-01T11:00Z\"\x7d"

/-- Alice asks for the first talk. -/
def Arrival.inquiry : Arrival Request :=
  .of "alice" "user" "GET" s!"/conferences/{IdSource.numbered 1}" none

/-- Alice proposes a talk and tells nothing of it. -/
def Arrival.blank : Arrival Request :=
  .of "alice" "user" "POST" "/conferences" (some "\x7b\x7d")

/-- The office after Alice has proposed a talk. -/
def afterProposal : Office :=
  serveAll .standard (.ofSettings .standard) (.start .standard (.scripted [])) [.proposal]

/-- As Alice is always a user, what she alone asks is asked in the roles of all. -/
lemma comesAs_alice {arrivals : List (Arrival Request)}
    (h : ∀ arrival ∈ arrivals, ∃ method target body,
      arrival = .of "alice" "user" method target body) :
    ∀ arrival ∈ arrivals,
      Framework.standard.ComesAs (fun _ => .user) (.ofSettings .standard) arrival.request := by
  intro arrival harrival
  obtain ⟨method, target, body, rfl⟩ := h arrival harrival
  exact .of_caller Arrival.caller_alice rfl

/-- The question for the first talk is a call. -/
lemma understand_inquiry :
    (Framework.standard.understand (.ofSettings .standard) Arrival.inquiry.request).isOk = true := by
  decide +kernel

/-- A proposal without content is no call. -/
lemma understand_blank :
    (Framework.standard.understand (.ofSettings .standard) Arrival.blank.request).isOk = false := by
  decide +kernel

/-- Alice gets an answer to her question. -/
lemma status_of_inquiry :
    (Arrival.inquiry.serve .standard (.ofSettings .standard) afterProposal).1.status = 200 := by
  decide +kernel

/-- What is wrong with the proposal is reported. -/
lemma status_of_blank :
    (Arrival.blank.serve .standard (.ofSettings .standard) afterProposal).1.status = 422 := by
  decide +kernel

/--
Alice gets the talk that she has proposed, which is still pending. A proposal of which she tells
nothing is answered in the same way by any office.
-/
theorem answers_are_discreet_of_proposal :
    let headers := IdentityHeaders.ofSettings .standard
    let answer := Arrival.inquiry.serve .standard headers afterProposal
    let report := Arrival.blank.serve .standard headers afterProposal
    (answer.1.status = 200 ∧
      ∃ call, Framework.standard.understand headers Arrival.inquiry.request =
          .ok (⟨"alice", .user⟩, call) ∧
        ∀ record, answer.1.body.Holds record →
          answer.2.Permits "alice" call.subject? record) ∧
    report.1.status = 422 ∧
      ∀ other, Arrival.blank.serve .standard headers other = (report.1, other) := by
  -- whatever Alice sends, she sends as a user
  have hdiscreet (current : Arrival Request) (h : ∀ arrival ∈ [.proposal] ++ [current],
      ∃ method target body, arrival = .of "alice" "user" method target body) :=
    answers_are_discreet .standard 20 10 (.scripted []) IdSource.neverRepeats_numbered
      (.ofSettings .standard) (fun _ => .user) [.proposal] current (comesAs_alice h)
  refine ⟨⟨status_of_inquiry, ?_⟩, status_of_blank, ?_⟩
  · cases hcall : Framework.standard.understand (.ofSettings .standard)
        Arrival.inquiry.request with
    | error problem => exact absurd understand_inquiry (by simp [hcall, Except.isOk, Except.toBool])
    | ok understood =>
      obtain ⟨caller, call⟩ := understood
      have hcaller := (Framework.of_understand hcall).1
      rw [Arrival.inquiry, Arrival.caller_alice] at hcaller
      cases hcaller
      refine ⟨call, rfl, (hdiscreet .inquiry ?_).1 "alice" call hcall⟩
      simp [Arrival.proposal, Arrival.inquiry]
  · cases hcall : Framework.standard.understand (.ofSettings .standard)
        Arrival.blank.request with
    | error problem =>
      refine (hdiscreet .blank ?_).2 problem hcall
      simp [Arrival.proposal, Arrival.blank]
    | ok _ => exact absurd understand_blank (by simp [hcall, Except.isOk, Except.toBool])

end Http

end Symposium
