import Symposium.Http.Framework
import Symposium.Json.Reader

/-!
# Requests over the wire

The framework for requests that are given by a method, an address, headers and the text of a body.
-/

namespace Symposium.Http

namespace Request

/-- Where a request leads. -/
def route (request : Request) : Except Problem Endpoint :=
  match Route.of request.path request.method with
  | .found endpoint => .ok endpoint
  | .page => .error .page
  | .notAllowed => .error .notAllowed
  | .elsewhere => .error .elsewhere
  | .nowhere => .error .notFound

/-- The text of a body in the encoding that its first bytes tell. -/
def text? (body : String) : Option String :=
  let bytes := body.toUTF8.toList.map UInt8.toNat
  ((Text.Encoding.ofBytes bytes).decode? bytes).map String.ofList

/-- What the body of a request is taken for, if somebody reads it. -/
def body? (request : Request) (endpoint : Endpoint) : Except Problem Body :=
  match endpoint.readsBody, request.body with
  | false, _ => .ok .absent
  | true, none => .ok .absent
  | true, some "" => .ok .absent
  | true, some body =>
    if request.saysJson then
      match (text? body).map Json.read with
      | some (.ok json) => .ok (.json json)
      | some (.error (.unexpected slip offset)) =>
        .error (.ofFindings
          [⟨[.member "body", .item offset], .notJson slip.message, .obj []⟩])
      | some (.error _) => .error .unreadable
      | none => .error .unreadable
    else .ok (.raw body)

/-- What a request says to an endpoint. -/
def callOf (request : Request) (endpoint : Endpoint) : Except Problem Call := do
  let body ← request.body? endpoint
  let parameters := Json.obj (Parameters.read request.parameters)
  (endpoint.call parameters body).toExcept.mapError .ofFindings

/-- What a request says to an endpoint is a call to it. -/
theorem endpoint_of_callOf {endpoint : Endpoint} {request : Request} {made : Call}
    (h : request.callOf endpoint = .ok made) : made.endpoint = endpoint := by
  unfold callOf at h
  cases hbody : request.body? endpoint with
  | error problem =>
    rw [hbody] at h
    cases h
  | ok body =>
    rw [hbody] at h
    change (endpoint.call (.obj (Parameters.read request.parameters)) body).toExcept.mapError
      Problem.ofFindings = .ok made at h
    cases hcall : endpoint.call (.obj (Parameters.read request.parameters)) body with
    | fine read =>
      rw [hcall] at h
      cases h
      exact Endpoint.endpoint_of_call hcall
    | faulty findings =>
      rw [hcall] at h
      cases h

end Request

/-- The framework for requests over the wire. -/
def Framework.standard : Framework Request where
  route := Request.route
  header? := Request.header?
  checkBody endpoint request := (request.body? endpoint).map fun _ => ()
  call endpoint request := request.callOf endpoint
  endpoint_of_call := Request.endpoint_of_callOf

end Symposium.Http
