import Symposium.Failure

/-!
# Settings

The settings of the service are read from the environment. The names of variables have a common
beginning and may be written in either case; a later variable wins over an earlier one of the same
name, and unknown ones do not matter.
-/

namespace Symposium

/-- The settings of the service. -/
structure Settings where
  projectName : String
  apiVersion : String
  logLevel : String
  logFile : Option String
  /-- The most rows that a page may have. -/
  pageLimitMax : Int
  /-- The most conflicts that are named when a window is not free. -/
  conflictReportLimit : Int
  /-- The header that names the user. -/
  userIdHeader : String
  /-- The header that names the role of the user. -/
  userRoleHeader : String
  deriving DecidableEq, Repr, Inhabited

namespace Settings

/-- The name of this kind of record. -/
def kind : String := "Settings"

/-- The settings of a service whose environment says nothing. -/
def standard : Settings where
  projectName := "Conference Scheduling Service"
  apiVersion := "1.0.0"
  logLevel := "INFO"
  logFile := none
  pageLimitMax := 20
  conflictReportLimit := 10
  userIdHeader := "X-User-ID"
  userRoleHeader := "X-User-Role"

/-- Reads the settings from named texts. -/
def read (json : Json) : Check.Checked Settings :=
  Settings.mk <$> Check.optional json "project_name" standard.projectName Check.text
    <*> Check.optional json "api_version" standard.apiVersion Check.text
    <*> Check.optional json "log_level" standard.logLevel Check.text
    <*> Check.optional json "log_file" standard.logFile (Check.nullable Check.text)
    <*> Check.optional json "page_limit_max" standard.pageLimitMax Check.atLeastOne
    <*> Check.optional json "conflict_report_limit" standard.conflictReportLimit Check.atLeastOne
    <*> Check.optional json "user_id_header" standard.userIdHeader Check.text
    <*> Check.optional json "user_role_header" standard.userRoleHeader Check.text

/-- What the names of all variables begin with. -/
def variableStart : List Char := "conference_".toList

/-- The setting that a variable is about, if it is about one. -/
def settingOf? (variableName : String) : Option String :=
  let cs := variableName.toList.map Char.toLower
  if variableStart.isPrefixOf cs then some (String.ofList (cs.drop variableStart.length)) else none

/-- What an environment says, by the names of the settings. -/
def membersOf (environment : List (String × String)) : Json.Members :=
  environment.foldl (fun members (name, text) =>
    match settingOf? name with
    | some setting => Json.put setting (.str text) members
    | none => members) []

/-- The settings that an environment asks for. -/
def ofEnvironment (environment : List (String × String)) : Except Failure Settings :=
  Failure.ofRecord kind read (.obj (membersOf environment))

/-- The settings as a record. -/
def toJson (settings : Settings) : Json :=
  .obj [("project_name", .str settings.projectName), ("api_version", .str settings.apiVersion),
    ("log_level", .str settings.logLevel), ("log_file", Json.ofText? settings.logFile),
    ("page_limit_max", .int settings.pageLimitMax),
    ("conflict_report_limit", .int settings.conflictReportLimit),
    ("user_id_header", .str settings.userIdHeader),
    ("user_role_header", .str settings.userRoleHeader)]

/-- Where the environment says nothing, the settings are the standard ones. -/
theorem ofEnvironment_nil : ofEnvironment [] = .ok standard :=
  rfl

end Settings

end Symposium
