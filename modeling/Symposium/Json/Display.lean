import Symposium.Decimal.Shortest
import Symposium.Json
import Symposium.Text.Quoted

/-!
# Displaying values

How a value is shown in a log line: a comma or a colon is followed by a space, texts are quoted,
truth values, null and the numbers that are not finite are words, and a number with a point is shown
by the shortest decimal that is worth the same double.
-/

namespace Symposium.Json

mutual

/-- A value as it is shown inside of another. -/
def display : Json → String
  | null => "None"
  | bool true => "True"
  | bool false => "False"
  | int n => toString n
  | real value => (Decimal.ofDouble value.toDouble).display
  | nan => "nan"
  | infinity false => "inf"
  | infinity true => "-inf"
  | str s => Text.quoted s
  | broken => Text.quoted "\uFFFD"
  | arr items => "[" ++ displayItems items ++ "]"
  | obj members => "\x7b" ++ displayMembers members ++ "\x7d"

/-- Items as they are shown in a list. -/
def displayItems : List Json → String
  | [] => ""
  | [item] => display item
  | item :: items => display item ++ ", " ++ displayItems items

/-- Members as they are shown in an object. -/
def displayMembers : List (String × Json) → String
  | [] => ""
  | [(name, value)] => Text.quoted name ++ ": " ++ display value
  | (name, value) :: members =>
    Text.quoted name ++ ": " ++ display value ++ ", " ++ displayMembers members

end

/-- A value as it is shown on its own: a text stands as it is. -/
def displayAlone : Json → String
  | str s => s
  | json => json.display

end Symposium.Json
