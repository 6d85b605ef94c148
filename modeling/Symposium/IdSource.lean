import Symposium.Text.Numeral

/-!
# Sources of ids

New rows get their ids from a source, which may fail to make one. A draw uses the source up by one,
whether it makes an id or not.
-/

namespace Symposium

/-- A source of ids. -/
structure IdSource where
  /-- What each draw makes. -/
  stream : Nat → Option String
  /-- How many draws there have been. -/
  drawn : Nat

namespace IdSource

/-- The next id, if one can be made, and the source after it. -/
def draw (source : IdSource) : Option String × IdSource :=
  (source.stream source.drawn, { source with drawn := source.drawn + 1 })

/-- An id that consists of a number. -/
def numbered (n : Nat) : String :=
  "00000000-0000-7000-8000-" ++ Text.padded 12 n

/-- A source that makes the given ids and after them numbered ones. -/
def scripted (ids : List (Option String)) : IdSource where
  stream n := match ids[n]? with
    | some id => id
    | none => some (numbered (n - ids.length + 1))
  drawn := 0

end IdSource

end Symposium
