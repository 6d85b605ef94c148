import Symposium.Page.Cut
import Symposium.Query
import Symposium.Table

/-!
# The programme

The programme keeps every conference under its id. Approved conferences never overlap: whatever else
was checked before, a row is taken only if it keeps this rule. A withdrawn conference stays as a row
that is not live. Main statements: the check of a row looks at the other booked rows alone, and at
none of them if the row is not approved.
-/

namespace Symposium

/-- All conferences under their ids, in the order in which the ids came. -/
abbrev Programme := Table Conference.id

namespace Programme

/-- The live conference with an id. -/
def find? (programme : Programme) (id : String) : Option Conference :=
  (programme.get? id).filter Conference.isLive

/-- The live conferences. -/
def live (programme : Programme) : List Conference :=
  programme.rows.filter Conference.isLive

/-- The live and approved conferences, without the one that has the given id. -/
def booked (programme : Programme) (except : Option String) : List Conference :=
  programme.rows.filter fun c => c.isBooked && except != some c.id

/-- The conferences among some that overlap a window. -/
def overlapping (window : Window) : List Conference → Except Failure (List Conference) :=
  Failure.keep fun c => c.window.overlaps window

/-- What conferences are sorted by in order of their starts. -/
def startKey (c : Conference) : Page.SortKey :=
  ⟨c.window.startsAt.instant, c.id⟩

/-- What conferences are sorted by in the order in which they were made. -/
def idKey (c : Conference) : Page.SortKey :=
  .ofId c.id

/--
The conferences among some that overlap a window, the earliest first. Their starts were all compared
with the end of the window, so they can be put in order.
-/
def overlappingInOrder (window : Window) (conferences : List Conference) :
    Except Failure (List Conference) :=
  (overlapping window conferences).map (Page.sortRows startKey false)

/-- The booked conferences that overlap a window, the earliest first, up to a bound. -/
def conflicting (programme : Programme) (window : Window) (except : Option String) (bound : Int) :
    Except Failure (List Conference) :=
  (overlappingInOrder window (programme.booked except)).map (Page.upTo bound)

/-- Fails if an approved row overlaps another booked one. -/
def checkOverlap (programme : Programme) (c : Conference) : Except Failure Unit :=
  if c.status = .approved then do
    let conflicts ← overlapping c.window (programme.booked (some c.id))
    if conflicts.isEmpty then return () else .error (.violated (.overlap conflicts))
  else .ok ()

/-- Takes a row, new or in place of the one with its id. -/
def add (programme : Programme) (c : Conference) : Except Failure Programme :=
  (programme.checkOverlap c).map fun _ => programme.put c

/-- The row as it is stored at a change. -/
def stamped (c : Conference) (now : Timestamp) : Conference :=
  { c with updatedAt := now }

/-- Takes a row in place of the live one with its id. -/
def update (programme : Programme) (c : Conference) (now : Timestamp) :
    Except Failure Programme :=
  match programme.find? c.id with
  | none => .error (.violated (.notFound c.id))
  | some _ => (programme.checkOverlap c).map fun _ => programme.put (stamped c now)

/-- Withdraws a live conference. -/
def withdraw (programme : Programme) (id : String) (now : Timestamp) : Except Failure Programme :=
  match programme.find? id with
  | none => .error (.violated (.notFound id))
  | some c => .ok (programme.put { c with deletedAt := some now, updatedAt := now })

/-- The live conferences that fit a query. -/
def fitting (programme : Programme) (query : Query) (now : Timestamp) :
    Except Failure (List Conference) :=
  Failure.keep (query.fits now) programme.live

/-- The key of a cursor in order of starts: that of the row with its id, even if it is not live. -/
def startKeyOf (programme : Programme) (id : String) : Option Page.SortKey :=
  (programme.get? id).map startKey

/-- The starts that have to be put in order to cut a page at a cursor. -/
def comparedStarts (programme : Programme) (request : Page.Request) (rows : List Conference) :
    List Timestamp :=
  let starts := rows.map (·.window.startsAt)
  match request.afterId.or request.beforeId with
  | none => starts
  | some id =>
    match programme.get? id with
    | none => []
    | some cursor => cursor.window.startsAt :: starts

/-- The page of some conferences in order of their starts. -/
def pageByStart (programme : Programme) (request : Page.Request) (descending : Bool)
    (rows : List Conference) : Except Failure (Page Conference) := do
  let place ← Failure.ofRefusal (request.place programme.startKeyOf)
  if Timestamp.allComparable (programme.comparedStarts request rows) then
    return Page.cut startKey descending place request.limit rows
  else .error .incomparable

/-- The page of some conferences in the order in which they were made. -/
def pageById (request : Page.Request) (descending : Bool) (rows : List Conference) :
    Except Failure (Page Conference) := do
  let place ← Failure.ofRefusal (request.place (some ∘ Page.SortKey.ofId))
  return Page.cut idKey descending place request.limit rows

/-- The page of the live conferences that fit a query. -/
def list (programme : Programme) (query : Query) (now : Timestamp) :
    Except Failure (Page Conference) := do
  let rows ← programme.fitting query now
  match query.sortBy with
  | .created => pageById query.page query.descending rows
  | .start => programme.pageByStart query.page query.descending rows

/-- Only what is approved has to be apart from what is booked. -/
theorem checkOverlap_of_ne_approved {c : Conference} (h : c.status ≠ .approved)
    (programme : Programme) : programme.checkOverlap c = .ok () := by
  simp [checkOverlap, h]

/-- A conference is found if a row has its id and is live. -/
theorem find?_eq_some_iff {programme : Programme} {id : String} {c : Conference} :
    programme.find? id = some c ↔ programme.get? id = some c ∧ c.isLive = true := by
  simp only [find?, Option.filter_eq_some_iff]

/-- Finding is membership, as no two rows share an id. -/
theorem find?_eq_some_iff_mem {programme : Programme} {id : String} {c : Conference} :
    programme.find? id = some c ↔ c ∈ programme.rows ∧ c.id = id ∧ c.isLive = true := by
  rw [find?_eq_some_iff]
  constructor
  · rintro ⟨h, live⟩
    exact ⟨Table.mem_of_get? h, Table.key_of_get? h, live⟩
  · rintro ⟨h, rfl, live⟩
    exact ⟨Table.mem_rows_iff.1 h, live⟩

/-- The booked conferences are the live approved rows but the one that is left out. -/
theorem mem_booked_iff {programme : Programme} {except : Option String} {c : Conference} :
    c ∈ programme.booked except ↔
      c ∈ programme.rows ∧ c.isBooked = true ∧ except ≠ some c.id := by
  simp [booked]

end Programme

end Symposium
