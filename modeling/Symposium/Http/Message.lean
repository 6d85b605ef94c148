import Symposium.Http.Percent
import Symposium.Json
import Symposium.Text.Blank

/-!
# Messages

What a client sends, and what it gets back.
-/

namespace Symposium.Http

/-- What a client sends. -/
structure Request where
  method : String
  /-- The path, and after a question mark the parameters. -/
  target : String
  headers : List (String × String)
  body : Option String

/-- What a client gets back; an empty body is null. -/
structure Response where
  status : Nat
  body : Json

namespace Request

/-- Whether two header names are the same in one case or the other. -/
def sameName (a b : String) : Bool :=
  a.toList.map Char.toLower == b.toList.map Char.toLower

/-- The value of the first header with a name. -/
def header? (request : Request) (name : String) : Option String :=
  (request.headers.find? fun (other, _) => sameName name other).map (·.2)

/-- The characters that the path of a request stands for. -/
def path (request : Request) : List Char :=
  Percent.decode ([·]) (request.target.toList.takeWhile (· ≠ '?'))

/-- The parameters of a request as they are written. -/
def parameters (request : Request) : List Char :=
  (request.target.toList.dropWhile (· ≠ '?')).drop 1

/-- Whether the type of a content, without what comes after a semicolon, is one of JSON. -/
def isJsonType (contentType : String) : Bool :=
  let name := Text.trimBlanks (contentType.toList.takeWhile (· ≠ ';')) |>.map Char.toLower
  let main := name.takeWhile (· ≠ '/')
  let subtype := name.drop (main.length + 1)
  String.ofList main == "application" && !subtype.contains '/' &&
    (String.ofList subtype == "json" || "+json".toList.isSuffixOf subtype)

/-- Whether the body of a request is there to be read as JSON: nothing, or JSON, is its type. -/
def saysJson (request : Request) : Bool :=
  match request.header? "Content-Type" with
  | none => true
  | some contentType => contentType == "" || isJsonType contentType

end Request

end Symposium.Http
