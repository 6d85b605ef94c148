import Symposium.Http.Percent
import Symposium.Json

/-!
# Parameters

Parameters are separated by ampersands, and each has a name and possibly a value after an equals
sign. A plus sign is a space, and percent signs stand for bytes of UTF-8. Any other byte is a
character of its own, so a character beyond ASCII that is written as it is stands for as many
characters as it has bytes. The last of several parameters with one name counts.
-/

namespace Symposium.Http.Parameters

/-- The pieces between the occurrences of a separator. -/
def split (separator : Char) : List Char → List (List Char)
  | [] => [[]]
  | c :: cs =>
    if c = separator then [] :: split separator cs
    else
      match split separator cs with
      | piece :: pieces => (c :: piece) :: pieces
      | [] => [[c]]

/-- The bytes of a character, each as the character of that number. -/
def spread (c : Char) : List Char :=
  (String.singleton c).toUTF8.toList.map fun byte => Char.ofNat byte.toNat

/-- The text that a piece stands for. -/
def decode (cs : List Char) : String :=
  String.ofList (Percent.decode spread (cs.map fun c => if c = '+' then ' ' else c))

/-- The name and the value of a parameter. -/
def pair (cs : List Char) : String × String :=
  let name := cs.takeWhile (· ≠ '=')
  (decode name, decode (cs.drop (name.length + 1)))

/-- The parameters by their names. -/
def read (cs : List Char) : Json.Members :=
  ((split '&' cs).filter (!·.isEmpty)).foldl (fun members piece =>
    let (name, value) := pair piece
    Json.put name (.str value) members) []

end Symposium.Http.Parameters
