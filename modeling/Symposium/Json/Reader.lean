import Symposium.Json
import Symposium.Text.Encoding
import Symposium.Text.Numeral

/-!
# Reading JSON

A text is read from left to right. A text that is no JSON is refused at the offset, counted in
characters, of the token that cannot stand where it stands: an unterminated string at its opening
quote, a wrong escape at its backslash or at its `u`, a member without a name where the name should
begin, and a text that ends too early at its end. Besides the standard, `NaN`, `Infinity` and
`-Infinity` are numbers, and the last of several members with one name counts. A string with half of
a surrogate pair is read, but as a broken one. An integer may have at most 4300 digits, and there
are limits to how deep arrays and objects may stand in each other.
-/

namespace Symposium.Json

/-- What is wrong with a token that cannot stand where it stands. -/
inductive Slip where
  /-- A value should begin here. -/
  | value
  /-- The name of a member should begin here. -/
  | name
  /-- A colon should stand between a name and its value. -/
  | colon
  /-- A comma should stand between two items or members. -/
  | comma
  /-- The string that begins here has no end. -/
  | unterminated
  /-- A control character stands in a string. -/
  | control
  /-- There is no such escape. -/
  | escape
  /-- The escape has not four hexadecimal digits. -/
  | unicodeEscape
  /-- Something comes after the value. -/
  | extra
  deriving DecidableEq, Repr

/-- The wording of a slip. -/
def Slip.message : Slip → String
  | value => "Expecting value"
  | name => "Expecting property name enclosed in double quotes"
  | colon => "Expecting ':' delimiter"
  | comma => "Expecting ',' delimiter"
  | unterminated => "Unterminated string starting at"
  | control => "Invalid control character at"
  | escape => "Invalid \\escape"
  | unicodeEscape => "Invalid \\uXXXX escape"
  | extra => "Extra data"

/-- Why a text was not read. -/
inductive ReadError where
  /-- The token at this offset cannot stand there. -/
  | unexpected (slip : Slip) (offset : Nat)
  /-- An integer has too many digits. -/
  | hugeInteger
  /-- Arrays and objects stand too deep in each other. -/
  | tooDeep
  deriving DecidableEq, Repr

/-- The part of a text that is still to be read, and how many characters came before it. -/
structure Cursor where
  offset : Nat
  rest : List Char

/-- The most digits that an integer may have. -/
def integerDigits : Nat := 4300

/-- The most arrays and objects that may stand in each other. -/
def nesting : Nat := 950

namespace Cursor

/-- The cursor some characters further on. -/
def skip (count : Nat) (c : Cursor) : Cursor :=
  ⟨c.offset + count, c.rest.drop count⟩

/-- Whether a character may stand between two tokens. -/
def isSpace (c : Char) : Bool :=
  c == ' ' || c == '\t' || c == '\n' || c == '\r'

/-- The cursor at the next token. -/
def token (c : Cursor) : Cursor :=
  c.skip (c.rest.takeWhile isSpace).length

/-- Whether the text goes on with this word. -/
def startsWith (word : String) (c : Cursor) : Bool :=
  word.toList.isPrefixOf c.rest

end Cursor

/-- The value of four hexadecimal digits. -/
def hexQuad? (a b c d : Char) : Option Nat := do
  let a ← Text.hexDigit? a
  let b ← Text.hexDigit? b
  let c ← Text.hexDigit? c
  let d ← Text.hexDigit? d
  return ((a * 16 + b) * 16 + c) * 16 + d

/-- The character that a one-letter escape stands for. -/
def escape? : Char → Option Char
  | '"' => some '"'
  | '\\' => some '\\'
  | '/' => some '/'
  | 'b' => some '\x08'
  | 'f' => some '\x0c'
  | 'n' => some '\n'
  | 'r' => some '\r'
  | 't' => some '\t'
  | _ => none

/--
The code unit of the escape with which a text goes on, if it does and does not end with it: nothing
inside stands for wrong digits.
-/
def secondUnit? : List Char → Option (Option Nat)
  | '\\' :: 'u' :: a :: b :: c :: d :: _ :: _ => some (hexQuad? a b c d)
  | _ => none

/--
Reads a string after its opening quote, which stood at `start`. The characters read so far come
last first; nothing stands for half of a surrogate pair, and a string that has one is no text.
-/
def readString (start : Nat) :
    Nat → List Char → List (Option Char) → Except ReadError (Option String × Cursor)
  | _, [], _ => .error (.unexpected .unterminated start)
  | offset, '"' :: rest, read =>
    .ok ((read.reverse.mapM id).map String.ofList, ⟨offset + 1, rest⟩)
  | _, ['\\'], _ => .error (.unexpected .unterminated start)
  | offset, '\\' :: 'u' :: a :: b :: c :: d :: next :: rest, read =>
    match hexQuad? a b c d with
    | none => .error (.unexpected .unicodeEscape (offset + 1))
    | some unit =>
      match if Text.isHighSurrogate unit then secondUnit? (next :: rest) else none with
      | none => readString start (offset + 6) (next :: rest) (Text.ofUnit? unit :: read)
      | some none => .error (.unexpected .unicodeEscape (offset + 7))
      | some (some low) =>
        if Text.isLowSurrogate low then
          readString start (offset + 12) ((next :: rest).drop 6)
            (some (Text.ofPair unit low) :: read)
        else readString start (offset + 6) (next :: rest) (Text.ofUnit? unit :: read)
  | offset, '\\' :: c :: rest, read =>
    if c = 'u' then .error (.unexpected .unicodeEscape (offset + 1))
    else
      match escape? c with
      | some e => readString start (offset + 2) rest (some e :: read)
      | none => .error (.unexpected .escape offset)
  | offset, c :: rest, read =>
    if c.toNat < 0x20 then .error (.unexpected .control offset)
    else readString start (offset + 1) rest (some c :: read)
termination_by _ cs _ => cs.length
decreasing_by all_goals simp_wf; try omega

/-- The digits after the point of a number, if it has a point and digits after it. -/
def fractionDigits : List Char → List Char
  | '.' :: rest => rest.takeWhile Text.isDigit
  | _ => []

/-- The digits before the point: a zero stands alone. -/
def integerPart : List Char → List Char
  | '0' :: _ => ['0']
  | cs => cs.takeWhile Text.isDigit

/-- Reads a number; what does not begin with one is refused where it begins. -/
def readNumber (c : Cursor) : Except ReadError (Json × Cursor) :=
  let negative := c.rest.head? == some '-'
  let signs := if negative then 1 else 0
  let whole := integerPart (c.rest.drop signs)
  if whole.isEmpty then .error (.unexpected .value c.offset)
  else
    let fraction := fractionDigits (c.rest.drop (signs + whole.length))
    let point := if fraction.isEmpty then 0 else 1 + fraction.length
    let size := signs + whole.length + point
    let exponent := Text.exponent? (c.rest.drop size)
    let sign : Int := if negative then -1 else 1
    match fraction, exponent with
    | [], none =>
      if whole.length > integerDigits then .error .hugeInteger
      else .ok (.int (sign * Text.ofDigits whole), c.skip size)
    | _, _ =>
      let (power, width) := exponent.getD (0, 0)
      let number : Decimal :=
        ⟨negative, Text.ofDigits (whole ++ fraction), power - fraction.length⟩
      let value := if number.toDouble.isInf then .infinity negative else .real number
      .ok (value, c.skip (size + width))

/-- The values that are written as words. -/
def words : List (String × Json) :=
  [("null", .null), ("true", .bool true), ("false", .bool false), ("NaN", .nan),
    ("Infinity", .infinity false), ("-Infinity", .infinity true)]

/-- Reads a value that is neither an object nor an array. -/
def readScalar (c : Cursor) : Except ReadError (Json × Cursor) :=
  match c.rest with
  | [] => .error (.unexpected .value c.offset)
  | '"' :: rest =>
    match readString c.offset (c.offset + 1) rest [] with
    | .ok (text, c) => .ok (text.elim .broken .str, c)
    | .error e => .error e
  | _ =>
    match words.find? fun (word, _) => c.startsWith word with
    | some (word, value) => .ok (value, c.skip word.length)
    | none => readNumber c

mutual

/--
Reads a value at the cursor, with so many arrays and objects in each other. Every call has less
fuel, and at most two calls begin at one character.
-/
def readValue : Nat → Nat → Cursor → Except ReadError (Json × Cursor)
  | 0, _, c => .error (.unexpected .value c.offset)
  | fuel + 1, depth, c =>
    match c.rest, depth with
    | '{' :: _, depth + 1 =>
      let c := (c.skip 1).token
      match c.rest with
      | '}' :: _ => .ok (.obj [], c.skip 1)
      | _ => readMembers fuel depth c []
    | '[' :: _, depth + 1 =>
      let c := (c.skip 1).token
      match c.rest with
      | ']' :: _ => .ok (.arr [], c.skip 1)
      | _ => readItems fuel depth c []
    | '{' :: _, 0 => .error .tooDeep
    | '[' :: _, 0 => .error .tooDeep
    | _, _ => readScalar c

/-- Reads the members of an object from the name of the next one on. -/
def readMembers : Nat → Nat → Cursor → Members → Except ReadError (Json × Cursor)
  | 0, _, c, _ => .error (.unexpected .name c.offset)
  | fuel + 1, depth, c, members =>
    match c.rest with
    | '"' :: rest =>
      match readString c.offset (c.offset + 1) rest [] with
      | .error e => .error e
      | .ok (name, c) =>
        let c := c.token
        match c.rest with
        | ':' :: _ =>
          match readValue fuel depth (c.skip 1).token with
          | .error e => .error e
          | .ok (value, c) =>
            -- nobody asks for a member whose name is broken, but the object has it
            let members :=
              match name with
              | some name => put name value members
              | none => put "\uFFFD" .broken members
            let c := c.token
            match c.rest with
            | '}' :: _ => .ok (.obj members, c.skip 1)
            | ',' :: _ => readMembers fuel depth (c.skip 1).token members
            | _ => .error (.unexpected .comma c.offset)
        | _ => .error (.unexpected .colon c.offset)
    | _ => .error (.unexpected .name c.offset)

/-- Reads the items of an array from the next one on; those read so far come last first. -/
def readItems : Nat → Nat → Cursor → List Json → Except ReadError (Json × Cursor)
  | 0, _, c, _ => .error (.unexpected .value c.offset)
  | fuel + 1, depth, c, items =>
    match readValue fuel depth c with
    | .error e => .error e
    | .ok (item, c) =>
      let c := c.token
      match c.rest with
      | ']' :: _ => .ok (.arr (item :: items).reverse, c.skip 1)
      | ',' :: _ => readItems fuel depth (c.skip 1).token (item :: items)
      | _ => .error (.unexpected .comma c.offset)

end

/-- Reads a whole text, which may begin with a byte order mark. -/
def read (text : String) : Except ReadError Json :=
  let chars :=
    match text.toList with
    | '\uFEFF' :: rest => rest
    | chars => chars
  match readValue (2 * chars.length + 2) nesting (Cursor.token ⟨0, chars⟩) with
  | .error e => .error e
  | .ok (value, c) =>
    let c := c.token
    if c.rest.isEmpty then .ok value else .error (.unexpected .extra c.offset)

end Symposium.Json
