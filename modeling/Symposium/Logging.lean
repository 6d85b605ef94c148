import Symposium.Json.Display
import Symposium.Json.Misfit
import Symposium.Time.Calendar

/-!
# Logging

Logging is set up once: a level, a console and possibly a file. A few words are refused as levels
because they stand for something else. Each line of a log has the time, the level, the name of the
logger and the text. What is already set up stays as it is.
-/

namespace Symposium.Logging

/-- The names of the levels of importance. -/
def levels : List (String × Int) :=
  [("CRITICAL", 50), ("ERROR", 40), ("WARNING", 30), ("INFO", 20), ("DEBUG", 10), ("NOTSET", 0),
    ("FATAL", 50), ("WARN", 30)]

/-- The level when another one makes no sense. -/
def usualLevel : Int := 20

/-- Why a word is refused as the name of a level. -/
inductive LevelError where
  /-- The word stands for a text, and no level has that name. -/
  | unknown (name : String)
  /-- The word stands for what is shown like this. -/
  | unfit (shown : String)
  /-- What should be the word is none. -/
  | misfit (cause : Misfit)
  deriving DecidableEq, Repr, Inhabited

/-- The wording of a level error. -/
def LevelError.message : LevelError → String
  | unknown name => "Unknown level: " ++ Text.quoted name
  | unfit shown => "Level not an integer or a valid string: " ++ shown
  | misfit cause => cause.message

/-- The name of a level error. -/
def LevelError.name : LevelError → String
  | unknown _ => "ValueError"
  | unfit _ => "TypeError"
  | misfit cause => cause.name

/-- The layout of a line when nothing else was said. -/
def basicLayout : String :=
  "%(levelname)s:%(name)s:%(message)s"

/-- The styles of layouts, as they are shown. -/
def shownStyles : String :=
  "\x7b'%': (<class 'logging.PercentStyle'>, '%(levelname)s:%(name)s:%(message)s'), " ++
    "'\x7b': (<class 'logging.StrFormatStyle'>, " ++
    "'\x7blevelname\x7d:\x7bname\x7d:\x7bmessage\x7d'), " ++
    "'$': (<class 'logging.StringTemplateStyle'>, " ++
    "'$\x7blevelname\x7d:$\x7bname\x7d:$\x7bmessage\x7d')\x7d"

/-- The words that stand for something else than a level. -/
def otherWords : List (String × LevelError) :=
  [("BASIC_FORMAT", .unknown basicLayout), ("_STYLES", .unfit shownStyles)]

/-- A letter in upper case, if its upper case occurs in one of the words. -/
def upper (c : Char) : List Char :=
  if c = 'ı' then ['I']
  else if c = 'ſ' then ['S']
  else if c = 'ﬅ' || c = 'ﬆ' then ['S', 'T']
  else [c.toUpper]

/--
The level with a name, in whatever case it is written; a name that stands for nothing is the usual
level.
-/
def levelOf (name : String) : Except LevelError Int :=
  let word := String.ofList (name.toList.flatMap upper)
  match levels.lookup word, otherWords.lookup word with
  | some level, _ => .ok level
  | none, some error => .error error
  | none, none => .ok usualLevel

/-- The name of a level. -/
def nameOf (level : Int) : String :=
  match levels.find? (·.2 == level) with
  | some (name, _) => name
  | none => "Level " ++ toString level

/--
How a line shows a level that need not be an integer: by the name of the level it equals, or by the
level of the name it is.
-/
def shownLevel : Json → String
  | .int level => nameOf level
  | .bool false => nameOf 0
  | .real level =>
    match levels.find? (Float.ofInt ·.2 == level.toDouble) with
    | some (name, _) => name
    | none => "Level " ++ (Json.real level).display
  | .str name =>
    match levels.lookup name with
    | some level => toString level
    | none => "Level " ++ name
  | level => "Level " ++ level.display

/-- What a log is written to. -/
inductive Target where
  | console
  | file
  deriving DecidableEq, Repr, Inhabited

/-- How logging is set up. -/
structure Setup where
  level : Int
  targets : List Target
  deriving DecidableEq, Repr, Inhabited

/-- The setup before anything was set up: warnings count, and nothing is written. -/
def Setup.initial : Setup := ⟨30, []⟩

/-- The level that a value names. -/
def levelOfJson : Json → Except LevelError Int
  | .str name => levelOf name
  | json => .error (.misfit (.upperCase json.kindWord))

/-- Sets logging up, unless something is written already. -/
def Setup.configure (setup : Setup) (levelName : Json) (toFile : Bool) :
    Except LevelError Setup :=
  if setup.targets.isEmpty then
    (levelOfJson levelName).map (⟨·, .console :: if toFile then [.file] else []⟩)
  else .ok setup

/-- Why a moment is not written. -/
inductive MomentError where
  /-- The number of the year is too large. -/
  | year
  /-- The year is beyond the calendar. -/
  | calendar
  /-- The number of seconds is too large. -/
  | seconds
  deriving DecidableEq, Repr, Inhabited

/-- The name of a moment error. -/
def MomentError.name : MomentError → String
  | calendar => "OSError"
  | _ => "OverflowError"

/-- The wording of a moment error. -/
def MomentError.message : MomentError → String
  | year => "signed integer is greater than maximum"
  | calendar => "[Errno 75] Value too large for defined data type"
  | seconds => "timestamp out of range for platform time_t"

/-- The seconds from the epoch to the start of a year. -/
def startOfYear (year : Int) : Int :=
  Time.Date.toDays ⟨year, 1, 1⟩ * 86400

/--
Refuses a moment that cannot be written. The years of the calendar are counted from 1900 on, those
that are written from 0 on, and both counts are words of 32 bits.
-/
def checkMoment (seconds : Int) : Except MomentError Unit :=
  if seconds < -0x8000000000000000 ∨ 0x7fffffffffffffff < seconds then .error .seconds
  else if seconds < startOfYear (1900 - 0x80000000) then .error .calendar
  else if startOfYear (1900 + 0x80000000) ≤ seconds then .error .calendar
  else if startOfYear 0x80000000 ≤ seconds then .error .year
  else .ok ()

/-- The whole seconds of a number of seconds. -/
def wholeSeconds (seconds : Float) : Except MomentError Int :=
  if seconds.abs < 9223372036854775808.0 then .ok seconds.floor.toInt64.toInt
  else .error .seconds

/-- A line of a log, by the seconds since the epoch at which it is written. -/
def line (level : Json) (logger text : String) (seconds : Int) : String :=
  let date := Time.Date.ofDays (seconds / 86400)
  let time := (seconds % 86400).toNat
  let two := Text.padded 2
  toString date.year ++ "-" ++ two date.month.toNat ++ "-" ++ two date.day.toNat ++ " " ++
    two (time / 3600) ++ ":" ++ two (time / 60 % 60) ++ ":" ++ two (time % 60) ++
    " [" ++ shownLevel level ++ "] " ++ logger ++ ": " ++ text

end Symposium.Logging
