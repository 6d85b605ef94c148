import Symposium.Http.Call
import Symposium.Http.Problem

/-!
# Frameworks

Between the wire and the service stands a web framework, which finds out where a request leads, reads
its headers and its body, and makes a call of what it read. What it does not hand on it answers by
itself. A request is understood in five steps: where it leads, whether its body can be read, who
makes it, whether they may make it, and what it says. The first step that fails decides about the
answer. Who makes a request and who may make it is up to the service, all else to the framework.
-/

namespace Symposium.Http

/-- What a web framework makes of requests, of whatever type they are. -/
structure Framework (ρ : Type) where
  /-- Where a request leads. -/
  route : ρ → Except Problem Endpoint
  /-- The value of a header. -/
  header? : ρ → String → Option String
  /-- Whether an endpoint can be asked with the body of a request, whatever it says. -/
  checkBody : Endpoint → ρ → Except Problem Unit
  /-- What a request says to an endpoint. -/
  call : Endpoint → ρ → Except Problem Call
  /-- A call is made to the endpoint that the request leads to. -/
  endpoint_of_call : ∀ {endpoint request made}, call endpoint request = .ok made →
    made.endpoint = endpoint

namespace Framework

variable {ρ : Type}

/-- The value of a header that is there and not empty. -/
def filled? (framework : Framework ρ) (request : ρ) (name : String) : Option String :=
  (framework.header? request name).filter (· ≠ "")

/-- Who makes a request. -/
def caller (framework : Framework ρ) (headers : IdentityHeaders) (request : ρ) :
    Except Refusal Caller :=
  match framework.filled? request headers.userId, framework.filled? request headers.role with
  | some id, some word =>
    match Role.ofWord? word with
    | some role => .ok ⟨id, role⟩
    | none => .error (.unknownRole word)
  | _, _ => .error .unauthenticated

/-- Understands a request: who makes which call. -/
def understand (framework : Framework ρ) (headers : IdentityHeaders) (request : ρ) :
    Except Problem (Caller × Call) := do
  let endpoint ← framework.route request
  framework.checkBody endpoint request
  let caller ← (framework.caller headers request).mapError .refused
  if endpoint.admits caller.role then
    let call ← framework.call endpoint request
    return (caller, call)
  else .error (.refused (.roleNotAmong caller.role endpoint.roles))

end Framework

end Symposium.Http
