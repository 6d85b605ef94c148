import Symposium.Json.Display
import Symposium.Refusal

/-!
# Reports

A refusal as it is put on record: shown to whoever made the request, and written to the log.
Internal failures are opaque: the answer only names the trace under which the log has the rest.
-/

namespace Symposium.Refusal

/-- A refusal as it is put on record. -/
structure Report where
  kind : Kind
  message : String
  details : Option Json
  context : Json.Members
  /-- The trace of an internal failure. -/
  trace : Option String

namespace Report

/-- Why a report is not made as it was asked for. -/
inductive Misuse where
  /-- Only an internal failure takes a trace. -/
  | trace
  /-- The context takes no member of this name. -/
  | member (name : String)
  deriving DecidableEq, Repr, Inhabited

/-- The wording of a misuse. -/
def Misuse.message : Misuse → String
  | trace => "AppError.__init__() got an unexpected keyword argument 'trace_id'"
  | member name => "AppError.with_context() got multiple values for argument '" ++ name ++ "'"

/-- Refuses a trace, given as such, that a report of this kind does not take. -/
def checkTrace (kind : Kind) (given : Bool) : Except Misuse Unit :=
  if given ∧ kind ≠ .general .internal then .error .trace else .ok ()

/-- The name that no member of a context may have. -/
def takenName : String := "self"

/-- Refuses members that a context does not take. -/
def checkContext (members : Json.Members) : Except Misuse Unit :=
  if (members.lookup takenName).isSome then .error (.member takenName) else .ok ()

/-- The given text, unless it is empty. -/
def orElse (text : Option String) (otherwise : String) : String :=
  match text with
  | none => otherwise
  | some "" => otherwise
  | some text => text

/-- A report of some kind. What is empty counts as not given, and null is no detail. -/
def make (kind : Kind) (message : Option String) (details : Json) (context : Json.Members)
    (trace : Option String) (freshTrace : String) : Report where
  kind
  message := orElse message kind.message
  details := match details with
    | .null => none
    | details => some details
  context
  trace := if kind = .general .internal then some (orElse trace freshTrace) else none

/-- The context with further members; those that are null are left out. -/
def withContext (report : Report) (members : Json.Members) : Report :=
  { report with
    context := members.foldl (fun context (name, value) =>
      match value with
      | .null => context
      | value => Json.put name value context) report.context }

/-- What is sent to whoever made the request. -/
def body (report : Report) : Json :=
  .obj <| [("error_code", .str report.kind.code), ("message", .str report.message)] ++
    (report.details.map fun details => ("detail", details)).toList ++
    (report.trace.map fun trace => ("trace_id", .str trace)).toList

/-- What is written to the log. -/
def line (report : Report) : String :=
  report.kind.name ++ "(" ++ report.kind.code ++ "): " ++ report.message ++
    (if report.context.isEmpty then "" else " | context=" ++ Json.display (.obj report.context)) ++
    ((report.details.map fun details => " | details=" ++ details.displayAlone).getD "")

/-- Everything about a report. -/
def toJson (report : Report) : Json :=
  .obj <| [("error", .str report.kind.name), ("code", .str report.kind.code),
    ("status", .int report.kind.status), ("message", .str report.message),
    ("context", .obj report.context)] ++
    (report.details.map fun details => ("detail", details)).toList ++
    (report.trace.map fun trace => ("trace_id", .str trace)).toList

end Report

/-- The report of a refusal under a fresh trace. -/
def report (refusal : Refusal) (freshTrace : String) : Report :=
  Report.make refusal.kind none (refusal.details.getD .null) refusal.context none freshTrace

end Symposium.Refusal
