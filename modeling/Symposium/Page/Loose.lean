import Symposium.Json.Order
import Symposium.Page.Cut

/-!
# Loose listings

A loose listing has rows whose ranks and ids are whatever values. They are put in order by a stable
sort that looks at few pairs: a first run of rows is taken as it is, and every row after it is put
at its place by halving. Two values that are not put in order are a misfit, and so are cursors and
limits that are of no use.
-/

namespace Symposium.Page.Loose

/-- A row of whatever values. -/
structure Row where
  rank : Json
  id : Json
  deriving Inhabited, Repr

/-- What a row is sorted by: its rank and its id, or its id alone. -/
def Row.key (byRank : Bool) (row : Row) : List Json :=
  if byRank then [row.rank, row.id] else [row.id]

/-- A row as it is shown. -/
def Row.toJson (row : Row) : Json :=
  .arr [row.rank, row.id]

section

variable {α : Type} (isLess : α → α → Except Misfit Bool)

/-- How many rows at the start all rise, or all fall strictly. -/
def runLength (falling : Bool) : List α → Except Misfit Nat
  | a :: b :: rows => do
    if (← isLess b a) == falling then return 1 + (← runLength falling (b :: rows)) else return 1
  | rows => .ok rows.length

/-- The place of a row among sorted rows: between two places, and after the rows that are equal. -/
def placeOf (row : α) (rows : List α) (least most : Nat) : Except Misfit Nat :=
  if least < most then
    let middle := least + (most - least) / 2
    match rows[middle]? with
    | none => .ok least
    | some other => do
      if ← isLess row other then placeOf row rows least middle
      else placeOf row rows (middle + 1) most
  else .ok least
termination_by most - least

/-- Puts a row at its place among sorted rows. -/
def putRow (rows : List α) (row : α) : Except Misfit (List α) := do
  let place ← placeOf isLess row rows 0 rows.length
  return rows.take place ++ row :: rows.drop place

/-- Rows from the least to the greatest; those that are equal stay in the order they were in. -/
def sortRising (rows : List α) : Except Misfit (List α) :=
  match rows with
  | a :: b :: _ => do
    let falling ← isLess b a
    let count ← runLength isLess falling rows
    let run := rows.take count
    (rows.drop count).foldlM (putRow isLess) (if falling then run.reverse else run)
  | rows => .ok rows

/-- Rows in a direction; those that are equal stay in the order they were in. -/
def sortRows (descending : Bool) (rows : List α) : Except Misfit (List α) :=
  if descending then (sortRising isLess rows.reverse).map List.reverse
  else sortRising isLess rows

end

/-- A request for a page of a loose listing; a cursor that is null is none. -/
structure Request where
  afterId : Json
  beforeId : Json
  limit : Except Misfit Int

/-- What a page says about itself, if the ids of its rows are texts. -/
def infoOf (hasMore : Bool) (rows : List Row) : Except Failure Info :=
  Failure.ofRecord Info.kind Info.read <|
    .obj [("has_more", .bool hasMore), ("first_id", (rows.head?.map Row.id).getD .null),
      ("last_id", (rows.getLast?.map Row.id).getD .null)]

/-- The rows that come strictly before a key, or strictly after it. -/
def beyond (byRank before : Bool) (key : List Json) (rows : List Row) :
    Except Misfit (List Row) :=
  rows.filterM fun row => Json.orderedItems? before (row.key byRank) key

/-- The page that is asked for, by the keys that belong to the cursors. -/
def page (byRank descending : Bool) (keyOf : Json → Option (List Json)) (request : Request)
    (rows : List Row) : Except Failure (Page Row) := do
  let isGiven := fun (cursor : Json) => !cursor matches .null
  if isGiven request.afterId && isGiven request.beforeId then
    throw (.refused (.invalidPagination request.afterId.displayAlone request.beforeId.displayAlone))
  let backward := isGiven request.beforeId
  let cursor := if backward then request.beforeId else request.afterId
  let downwards := descending != backward
  let candidates ← if isGiven cursor then
      match keyOf cursor with
      | none => return .empty
      | some key => (beyond byRank downwards key rows).mapError .misfit
    else pure rows
  let isLess := fun (a b : Row) => Json.orderedItems? true (a.key byRank) (b.key byRank)
  let sorted ← (sortRows isLess downwards candidates).mapError .misfit
  let (taken, hasMore) := takeRows (← request.limit.mapError .misfit) sorted
  let shown := if backward then taken.reverse else taken
  return ⟨shown, ← infoOf hasMore shown⟩

end Symposium.Page.Loose
