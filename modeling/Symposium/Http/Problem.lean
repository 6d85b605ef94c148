import Symposium.Failure
import Symposium.Http.Message

/-!
# Problems

Why a request is not answered as it was meant, and what is answered instead. Some problems are
answered before the service hears of them. Whatever nobody was prepared for is answered by an opaque
failure, which names a trace and nothing else; so is a report of findings that cannot be shown,
because a value that somebody sent comes back in it.
-/

namespace Symposium.Http

/-- Why a request is not answered as it was meant. -/
inductive Problem where
  /-- The request is answered before the service hears of it. -/
  | foreign (response : Response)
  /-- Something is wrong with what was sent, and this is the report. -/
  | invalid (report : Json)
  | refused (refusal : Refusal)

namespace Problem

/-- The problem that is answered by a text only. -/
def plain (status : Nat) (text : String) : Problem :=
  foreign ⟨status, .obj [("detail", .str text)]⟩

/-- The problem of a path that leads nowhere. -/
def notFound : Problem :=
  plain 404 "Not Found"

/-- The problem of a method that a path does not have. -/
def notAllowed : Problem :=
  plain 405 "Method Not Allowed"

/-- The problem of a path with slashes at its end that leads somewhere without them. -/
def elsewhere : Problem :=
  foreign ⟨307, .null⟩

/-- The problem of a path to a page about the service, the content of which is left out. -/
def page : Problem :=
  foreign ⟨200, .null⟩

/-- The problem of a body that cannot be read as characters, or is too much to be read. -/
def unreadable : Problem :=
  plain 400 "There was an error parsing the body"

/-- The problem of a request with findings. -/
def ofFindings (findings : List Check.Finding) : Problem :=
  invalid (.arr (findings.map Check.Finding.report))

/-- The answer to a request that something is wrong with. -/
def ofReport (report : Json) : Response :=
  ⟨422, .obj [("error_code", .str "VALIDATION_ERROR"),
    ("message",
      .str "There are invalid fields in your request. Please check and try again."),
    ("detail", report)]⟩

/-- The answer to a request that is refused. -/
def ofRefusal (refusal : Refusal) (freshTrace : String) : Response :=
  let report := refusal.report freshTrace
  ⟨report.kind.status, report.body⟩

/-- The answer to a request with a problem. -/
def response (problem : Problem) (freshTrace : String) : Response :=
  match problem with
  | foreign response => response
  | invalid report =>
    if report.isShowable then ofReport report else ofRefusal .unforeseen freshTrace
  | refused refusal => ofRefusal refusal freshTrace

/-- The problem that a failure is: a refusal is reported, all else was not foreseen. -/
def ofFailure : Failure → Problem
  | .refused refusal => refused refusal
  | _ => refused .unforeseen

end Problem

end Symposium.Http
