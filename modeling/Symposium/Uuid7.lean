import Symposium.Text.Numeral

/-!
# Ids that grow with time

An id begins with the millisecond in which it was made, so that ids sort by the time at which they
were made. A source never uses a millisecond twice: if the clock did not move on, it takes the next
one.
-/

namespace Symposium.Uuid7

/-- A source of ids, which remembers the last millisecond it used. -/
structure Source where
  last : Option Nat
  deriving DecidableEq, Repr, Inhabited

/-- A source that has made no id yet. -/
def Source.fresh : Source := ⟨none⟩

/-- The millisecond of the next id. -/
def Source.millisecond (source : Source) (now : Nat) : Nat :=
  match source.last with
  | none => now
  | some last => if now ≤ last then last + 1 else now

/-- Groups of digits with hyphens between them. -/
def hyphenated (groups : List (List Char)) : String :=
  String.ofList (['-'].intercalate groups)

/-- An id made of a millisecond and random bits. -/
def print (millisecond random : Nat) : String :=
  let time := Text.hexPadded 12 (millisecond % 0x1000000000000)
  let version := Text.hexPadded 4 (0x7000 + random / 0x10000000000000000 % 0x1000)
  let variant := Text.hexPadded 16 (0x8000000000000000 + random % 0x4000000000000000)
  hyphenated [time.toList.take 8, time.toList.drop 8, version.toList, variant.toList.take 4,
    variant.toList.drop 4]

/-- The next id, and the source after it. -/
def Source.next (source : Source) (now random : Nat) : String × Source :=
  let millisecond := source.millisecond now
  (print millisecond random, ⟨some millisecond⟩)

/-- Ids made one after the other, at given milliseconds with given random bits. -/
def Source.run (source : Source) : List (Nat × Nat) → List String
  | [] => []
  | (now, random) :: rest =>
    let (id, source) := source.next now random
    id :: source.run rest

/-- The characters of an id at a place: a hyphen, the version, the variant, or any digit. -/
def allowedAt (version : Char) (index : Nat) : List Char :=
  if index = 8 ∨ index = 13 ∨ index = 18 ∨ index = 23 then ['-']
  else if index = 14 then [version]
  else if index = 19 then ['8', '9', 'a', 'b']
  else "0123456789abcdef".toList

/-- The number of characters of an id. -/
def width : Nat := 36

/-- Whether characters are an id of a version, in lower case. -/
def hasVersion (version : Char) (cs : List Char) : Bool :=
  cs.length == width && cs.zipIdx.all fun (c, index) => (allowedAt version index).contains c

/-- Whether a text is an id of this kind, in lower case. -/
def isCanonical (s : String) : Bool :=
  hasVersion '7' s.toList

end Symposium.Uuid7
