import Symposium.Http.Parameters
import Symposium.Principal

/-!
# Routes

Each path names a resource, and each resource has methods. Beside the resources there are some pages
about the service, which can only be looked at. A path with slashes at its end is sent on to the
path without them. Main statement: the path of a resource leads to it.
-/

namespace Symposium.Http

/-- What a path names. -/
inductive Resource where
  | conferences
  | conference (id : String)
  | decision (id : String)
  | timeline (id : String)
  | registrations
  | participants (id : String)
  | conferencesOf (userId : String)
  | feedbacks
  | feedbackOn (id : String)
  | feedback (id : String)
  deriving DecidableEq, Repr, Inhabited

/-- What can be done with the resources. -/
inductive Endpoint where
  | propose
  | list
  | get (id : String)
  | edit (id : String)
  | withdraw (id : String)
  | decide (id : String)
  | timeline (id : String)
  | register
  | participants (id : String)
  | conferencesOf (userId : String)
  | giveFeedback
  | notes (id : String)
  | removeFeedback (id : String)
  deriving DecidableEq, Repr, Inhabited

namespace Resource

/-- The parts of the path of a resource. -/
def parts : Resource → List String
  | conferences => ["conferences"]
  | conference id => ["conferences", id]
  | decision id => ["conferences", id, "status"]
  | timeline id => ["conferences", id, "timeline"]
  | registrations => ["registrations"]
  | participants id => ["registrations", "conferences", id]
  | conferencesOf userId => ["registrations", "users", userId]
  | feedbacks => ["feedbacks"]
  | feedbackOn id => ["feedbacks", "conferences", id]
  | feedback id => ["feedbacks", id]

/-- The resource named by the parts of a path; a part that is an id is not empty. -/
def ofParts : List String → Option Resource
  | ["conferences"] => some conferences
  | ["conferences", id] => named id conference
  | ["conferences", id, "status"] => named id decision
  | ["conferences", id, "timeline"] => named id timeline
  | ["registrations"] => some registrations
  | ["registrations", "conferences", id] => named id participants
  | ["registrations", "users", id] => named id conferencesOf
  | ["feedbacks"] => some feedbacks
  | ["feedbacks", "conferences", id] => named id feedbackOn
  | ["feedbacks", id] => named id feedback
  | _ => none
where
  /-- A resource with an id. -/
  named (id : String) (resource : String → Resource) : Option Resource :=
    if id = "" then none else some (resource id)

/-- The resource that a path leads to as it is written. -/
def ofWritten : List Char → Option Resource
  | '/' :: cs => ofParts ((Parameters.split '/' cs).map String.ofList)
  | _ => none

/-- A path without one line break at its end. -/
def withoutBreak (path : List Char) : List Char :=
  if path.getLast? = some '\n' then path.dropLast else path

/--
The resource that a path names. A line break at its end does not matter, unless it belongs to an id.
-/
def ofPath (path : List Char) : Option Resource :=
  (ofWritten path).or (ofWritten (withoutBreak path))

/-- What a method does with a resource. -/
def endpoint (resource : Resource) (method : String) : Option Endpoint :=
  match resource, method with
  | conferences, "POST" => some .propose
  | conferences, "GET" => some .list
  | conference id, "GET" => some (.get id)
  | conference id, "PATCH" => some (.edit id)
  | conference id, "DELETE" => some (.withdraw id)
  | decision id, "PATCH" => some (.decide id)
  | timeline id, "GET" => some (.timeline id)
  | registrations, "POST" => some .register
  | participants id, "GET" => some (.participants id)
  | conferencesOf userId, "GET" => some (.conferencesOf userId)
  | feedbacks, "POST" => some .giveFeedback
  | feedbackOn id, "GET" => some (.notes id)
  | feedback id, "DELETE" => some (.removeFeedback id)
  | _, _ => none

end Resource

/-- The paths of the pages about the service. -/
def pages : List String :=
  ["/openapi.json", "/docs", "/docs/oauth2-redirect", "/redoc"]

/-- Whether a path is that of a page about the service. -/
def isPage (path : List Char) : Bool :=
  pages.contains (String.ofList (Resource.withoutBreak path))

/-- Where a path and a method lead. -/
inductive Route where
  | found (endpoint : Endpoint)
  /-- The path is that of a page about the service. -/
  | page
  /-- The path leads somewhere that does not have the method. -/
  | notAllowed
  /-- The path leads somewhere once the slashes at its end are left out. -/
  | elsewhere
  | nowhere
  deriving DecidableEq, Repr, Inhabited

/-- A path without the slashes at its end. -/
def withoutSlashes (path : List Char) : List Char :=
  (path.reverse.dropWhile (· = '/')).reverse

/-- Where a path and a method lead. -/
def Route.of (path : List Char) (method : String) : Route :=
  match Resource.ofPath path with
  | some resource =>
    match resource.endpoint method with
    | some endpoint => .found endpoint
    | none => .notAllowed
  | none =>
    if isPage path then if method = "GET" ∨ method = "HEAD" then .page else .notAllowed
    else if path.getLast? = some '/' ∧
        ((Resource.ofPath (withoutSlashes path)).isSome ∨ isPage (withoutSlashes path)) then
      .elsewhere
    else .nowhere

namespace Endpoint

/-- Whether the endpoint reads the body of the request. -/
def readsBody : Endpoint → Bool
  | propose | edit _ | decide _ | register | giveFeedback => true
  | _ => false

/-- The roles that an endpoint is open to, besides administrators. -/
def roles : Endpoint → List Role
  | propose | edit _ | register | giveFeedback => [.user]
  | decide _ | removeFeedback _ => [.coordinator]
  | list | get _ | withdraw _ | timeline _ | participants _ | conferencesOf _ | notes _ =>
    [.user, .coordinator]

/-- Whether the endpoint is open to a role. -/
def admits (endpoint : Endpoint) (role : Role) : Bool :=
  role == .admin || endpoint.roles.contains role

end Endpoint

/-- Whether no part of the path of a resource is empty. -/
def Resource.IsNamed (resource : Resource) : Prop :=
  ∀ part ∈ resource.parts, part ≠ ""

/-- An id that is not empty names its resource. -/
theorem Resource.named_of_ne {id : String} (h : id ≠ "") (resource : String → Resource) :
    ofParts.named id resource = some (resource id) :=
  if_neg h

/-- The parts of the path of a resource lead back to it. -/
theorem Resource.ofParts_parts {resource : Resource} (h : resource.IsNamed) :
    ofParts resource.parts = some resource := by
  cases resource with
  | conferences => rfl
  | conference id => exact named_of_ne (h id (by simp [parts])) conference
  | decision id => exact named_of_ne (h id (by simp [parts])) decision
  | timeline id => exact named_of_ne (h id (by simp [parts])) timeline
  | registrations => rfl
  | participants id => exact named_of_ne (h id (by simp [parts])) participants
  | conferencesOf userId => exact named_of_ne (h userId (by simp [parts])) conferencesOf
  | feedbacks => rfl
  | feedbackOn id => exact named_of_ne (h id (by simp [parts])) feedbackOn
  | feedback id =>
    rw [parts, ofParts]
    exact named_of_ne (h id (by simp [parts])) feedback

end Symposium.Http
