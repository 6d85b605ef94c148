import Symposium.Failure
import Symposium.Page
import Symposium.Page.Order

/-!
# Cutting pages

A page is cut out of the sorted rows at a cursor: the rows that follow it, or those that precede it.
Rows are taken in the direction away from the cursor, one more than asked for to learn whether there
are more, and are shown in the order of the listing. The row with which a cursor was made need not
be there any more: only its key counts.
-/

namespace Symposium.Page

variable {α : Type}

/-- The least limit that a request may have. -/
def leastLimit : Int := 1

/-- Refuses a request with two cursors, and one that asks for too few or too many rows. -/
def Request.check (request : Request) (most : Int) : Except Refusal Unit :=
  match request.afterId, request.beforeId with
  | some afterId, some beforeId => .error (.invalidPagination afterId beforeId)
  | _, _ =>
    if leastLimit ≤ request.limit ∧ request.limit ≤ most then .ok ()
    else .error (.invalidLimit request.limit leastLimit most)

/-- Where a page is cut out of the sorted rows. -/
inductive Place where
  /-- At the start of the listing. -/
  | start
  /-- At a cursor of which nothing is known. -/
  | nowhere
  | after (cursor : SortKey)
  | before (cursor : SortKey)
  deriving DecidableEq, Repr, Inhabited

/-- The place that a request means, by the keys that belong to the cursors. -/
def Request.place (request : Request) (keyOf : String → Option SortKey) : Except Refusal Place :=
  match request.afterId, request.beforeId with
  | some afterId, some beforeId => .error (.invalidPagination afterId beforeId)
  | some id, none => .ok ((keyOf id).elim .nowhere .after)
  | none, some id => .ok ((keyOf id).elim .nowhere .before)
  | none, none => .ok .start

/-- The first rows, up to a bound; a negative bound leaves out as many rows at the end. -/
def upTo (bound : Int) (rows : List α) : List α :=
  if 0 ≤ bound then rows.take bound.toNat else rows.take (rows.length + bound).toNat

/-- A page of these rows. -/
def ofRows (idOf : α → String) (hasMore : Bool) (rows : List α) : Page α where
  rows
  info := ⟨hasMore, rows.head?.map idOf, rows.getLast?.map idOf⟩

/-- The rows that are taken, in the order in which they are taken, and whether there are more. -/
def takeRows (limit : Int) (rows : List α) : List α × Bool :=
  let fetched := upTo (limit + 1) rows
  (upTo limit fetched, decide (limit < fetched.length))

/-- Whether a row lies beyond a cursor in a direction. -/
def isBeyond (key : α → SortKey) (descending : Bool) (cursor : SortKey) (row : α) : Bool :=
  SortKey.precedes descending cursor (key row)

/-- The page of a listing at a place. -/
def cut (key : α → SortKey) (descending : Bool) (place : Place) (limit : Int) (rows : List α) :
    Page α :=
  let idOf := fun row => (key row).id
  match place with
  | .nowhere => empty
  | .start =>
    let (taken, hasMore) := takeRows limit (sortRows key descending rows)
    ofRows idOf hasMore taken
  | .after cursor =>
    let beyond := rows.filter (isBeyond key descending cursor)
    let (taken, hasMore) := takeRows limit (sortRows key descending beyond)
    ofRows idOf hasMore taken
  | .before cursor =>
    let beyond := rows.filter (isBeyond key (!descending) cursor)
    let (taken, hasMore) := takeRows limit (sortRows key (!descending) beyond)
    ofRows idOf hasMore taken.reverse

/-- A bound that is not negative counts from the front. -/
theorem upTo_of_nonneg {bound : Int} (h : 0 ≤ bound) (rows : List α) :
    upTo bound rows = rows.take bound.toNat := by
  simp [upTo, h]

/-- A limit that is not negative leaves more behind exactly if there are more rows than that. -/
theorem takeRows_of_nonneg {limit : Int} (h : 0 ≤ limit) (rows : List α) :
    takeRows limit rows = (rows.take limit.toNat, decide (limit.toNat < rows.length)) := by
  have h1 : (limit + 1).toNat = limit.toNat + 1 := by omega
  simp only [takeRows, upTo_of_nonneg h, upTo_of_nonneg (show 0 ≤ limit + 1 by omega), h1,
    List.take_take, List.length_take, Prod.mk.injEq, decide_eq_decide]
  constructor
  · congr 1; omega
  · omega

end Symposium.Page
