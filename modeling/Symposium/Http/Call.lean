import Symposium.Edit
import Symposium.Feedback
import Symposium.Http.Route
import Symposium.Query
import Symposium.Registration

/-!
# Calls

A call is what a request asks of an endpoint, with all values that it brings. Main statement: the
call that is read for an endpoint is a call to it.
-/

namespace Symposium.Http

/-- A request that was understood. -/
inductive Call where
  | propose (proposal : Proposal)
  | list (query : Query)
  | get (id : String)
  | edit (id : String) (edit : Edit)
  | withdraw (id : String)
  | decide (id : String) (status : Status)
  | timeline (id : String)
  | register (id : String)
  | participants (id : String) (page : Page.Request)
  | conferencesOf (userId : String) (includePast : Bool) (page : Page.Request)
  | giveFeedback (request : Feedback.Request)
  | notes (id : String) (page : Page.Request)
  | removeFeedback (id : String)

/-- The headers that say who makes a request. -/
structure IdentityHeaders where
  userId : String
  role : String
  deriving DecidableEq, Repr, Inhabited

/-- A user in a role. -/
structure Caller where
  id : String
  role : Role
  deriving DecidableEq, Repr, Inhabited

/-- The principal that a caller is. -/
def Caller.principal (caller : Caller) : Principal :=
  ⟨some caller.id, some caller.role⟩

/-- The endpoint that a call is made to. -/
def Call.endpoint : Call → Endpoint
  | propose _ => .propose
  | list _ => .list
  | get id => .get id
  | edit id _ => .edit id
  | withdraw id => .withdraw id
  | decide id _ => .decide id
  | timeline id => .timeline id
  | register _ => .register
  | participants id _ => .participants id
  | conferencesOf userId _ _ => .conferencesOf userId
  | giveFeedback _ => .giveFeedback
  | notes id _ => .notes id
  | removeFeedback id => .removeFeedback id

/-- What the body of a request is taken for. -/
inductive Body where
  | absent
  /-- The body is not said to be JSON. -/
  | raw (text : String)
  | json (value : Json)

/-- Reads the body of a request, which has to be an object. -/
def Body.read {α : Type} (read : Json → Check.Checked α) : Body → Check.Checked α
  | absent => .faulty [⟨[.member "body"], .missing, .null⟩]
  | raw text => .faulty [⟨[.member "body"], .notBody, .str text⟩]
  | json (.obj members) => (read (.obj members)).under (.member "body")
  | json value => .faulty [⟨[.member "body"], .notBody, value⟩]

/-- A parameter that has to be there; of one that is not, there is nothing to show. -/
def requiredParameter {α : Type} (parameters : Json) (name : String)
    (read : Json → Check.Checked α) : Check.Checked α :=
  match parameters.get? name with
  | some value => (read value).under (.member name)
  | none => .faulty [⟨[.member name], .missing, .null⟩]

/-- Reads which page is asked for; the limit comes first. -/
def readPage (parameters : Json) : Check.Checked Page.Request :=
  (fun limit afterId beforeId => ⟨afterId, beforeId, limit⟩)
    <$> Check.optional parameters "limit" Page.Request.defaultLimit Check.integer
    <*> Check.optional parameters "after_id" none (Check.nullable Check.text)
    <*> Check.optional parameters "before_id" none (Check.nullable Check.text)

/-- Reads which conferences are asked for. -/
def readQuery (parameters : Json) : Check.Checked Query :=
  (fun status page hostId startsBefore startsAfter includePast sortBy descending title =>
      ⟨page, status, hostId, startsBefore, startsAfter, includePast, sortBy, descending, title⟩)
    <$> requiredParameter parameters "status" (Check.choice Status.words)
    <*> readPage parameters
    <*> Check.optional parameters "host_id" none (Check.nullable Check.text)
    <*> Check.optional parameters "starts_before" none (Check.nullable Check.awareTimestamp)
    <*> Check.optional parameters "starts_after" none (Check.nullable Check.awareTimestamp)
    <*> Check.optional parameters "include_past" false Check.boolean
    <*> Check.optional parameters "order_by" .created (Check.choice SortBy.words)
    <*> Check.optional parameters "order" false (Check.choice directionWords)
    <*> Check.optional parameters "title" none (Check.nullable Check.text)

/-- Reads whether past conferences are asked for, and which page. -/
def readOwnPage (parameters : Json) : Check.Checked (Bool × Page.Request) :=
  (fun page includePast => (includePast, page)) <$> readPage parameters
    <*> Check.optional parameters "include_past" false Check.boolean

/-- The call of an endpoint with these parameters and this body. -/
def Endpoint.call (endpoint : Endpoint) (parameters : Json) (body : Body) : Check.Checked Call :=
  match endpoint with
  | propose => .propose <$> body.read Proposal.read
  | list => .list <$> (readQuery parameters).under (.member "query")
  | get id => .fine (.get id)
  | edit id => .edit id <$> body.read Edit.read
  | withdraw id => .fine (.withdraw id)
  | decide id => .decide id <$> body.read Status.readRequest
  | timeline id => .fine (.timeline id)
  | register => .register <$> body.read Registration.readRequest
  | participants id => .participants id <$> (readPage parameters).under (.member "query")
  | conferencesOf userId =>
    (fun (includePast, page) => .conferencesOf userId includePast page)
      <$> (readOwnPage parameters).under (.member "query")
  | giveFeedback => .giveFeedback <$> body.read Feedback.Request.read
  | notes id => .notes id <$> (readPage parameters).under (.member "query")
  | removeFeedback id => .fine (.removeFeedback id)

/-- What is read for an endpoint is a call to it. -/
theorem Endpoint.endpoint_of_call {endpoint : Endpoint} {parameters : Json} {body : Body}
    {made : Call} (h : endpoint.call parameters body = .fine made) : made.endpoint = endpoint := by
  cases endpoint with
  | get id | withdraw id | timeline id | removeFeedback id =>
    cases h
    rfl
  | _ =>
    obtain ⟨_, _, rfl⟩ := Check.Checked.map_eq_fine_iff.1 h
    rfl

end Symposium.Http
