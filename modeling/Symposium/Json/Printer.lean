import Symposium.Json
import Symposium.Text.Numeral

/-!
# Printing JSON

A value is printed without blanks. In a string the quote, the backslash and the control characters
are escaped, all else stands as it is. A broken string is printed as a replacement character.
-/

namespace Symposium.Json

/-- The text of one character inside a string. -/
def printChar (c : Char) : String :=
  if c = '"' then "\\\""
  else if c = '\\' then "\\\\"
  else if c.toNat < 0x20 then "\\u" ++ Text.hexPadded 4 c.toNat
  else String.singleton c

/-- The text of a string, in quotes. -/
def printString (s : String) : String :=
  s.foldl (fun text c => text ++ printChar c) "\"" ++ "\""

mutual

/-- The text of a value. -/
def print : Json → String
  | null => "null"
  | bool true => "true"
  | bool false => "false"
  | int n => toString n
  | real value => value.print
  | nan => "NaN"
  | infinity false => "Infinity"
  | infinity true => "-Infinity"
  | str s => printString s
  | broken => printString "\uFFFD"
  | arr items => "[" ++ printItems items ++ "]"
  | obj members => "\x7b" ++ printMembers members ++ "\x7d"

/-- The texts of the items, with commas between them. -/
def printItems : List Json → String
  | [] => ""
  | [item] => print item
  | item :: items => print item ++ "," ++ printItems items

/-- The texts of the members, with commas between them. -/
def printMembers : List (String × Json) → String
  | [] => ""
  | [(name, value)] => printString name ++ ":" ++ print value
  | (name, value) :: members =>
    printString name ++ ":" ++ print value ++ "," ++ printMembers members

end

end Symposium.Json
