import Symposium.Failure
import Symposium.Page
import Symposium.Text.Fold

/-!
# Queries

What a listing of conferences is asked for: a status, further conditions, an order and a page.
-/

namespace Symposium

/-- Whether a window is listed: it is not over yet, or past ones are listed too. -/
def Window.isListed (window : Window) (includePast : Bool) (now : Timestamp) :
    Except Failure Bool :=
  if includePast then .ok true else now.isBefore window.endsAt

/-- What the rows of a listing are sorted by. -/
inductive SortBy where
  /-- By id; ids grow with the time at which they were made. -/
  | created
  /-- By the start, and among equal starts by id. -/
  | start
  deriving DecidableEq, Repr, Inhabited

namespace SortBy

/-- Every order with the word for it. -/
def words : List (String × SortBy) :=
  [("created_at", created), ("starts_at", start)]

/-- The word for an order. -/
def word : SortBy → String
  | created => "created_at"
  | start => "starts_at"

end SortBy

/-- The two directions of an order, with the word for each: whether it is descending. -/
def directionWords : List (String × Bool) :=
  [("asc", false), ("desc", true)]

/-- A request for a listing of conferences. -/
structure Query where
  page : Page.Request
  status : Status
  hostId : Option String
  startsBefore : Option Timestamp
  startsAfter : Option Timestamp
  /-- Whether conferences that have ended are listed too. -/
  includePast : Bool
  sortBy : SortBy
  descending : Bool
  /-- What the title contains, whatever the case of its letters; an empty one is no condition. -/
  title : Option String
  deriving DecidableEq, Repr, Inhabited

namespace Query

/-- The name of this kind of record. -/
def kind : String := "ConferenceQuery"

/-- Reads the members of a query. -/
def read (json : Json) : Check.Checked Query :=
  Query.mk <$> Page.Request.read json
    <*> Check.required json "status" (Check.choice Status.words)
    <*> Check.optional json "host_id" none (Check.nullable Check.text)
    <*> Check.optional json "starts_before" none (Check.nullable Check.awareTimestamp)
    <*> Check.optional json "starts_after" none (Check.nullable Check.awareTimestamp)
    <*> Check.optional json "include_past" false Check.boolean
    <*> Check.optional json "order_by" .created (Check.choice SortBy.words)
    <*> Check.optional json "order" false (Check.choice directionWords)
    <*> Check.optional json "title" none (Check.nullable Check.text)

/-- A query as a record. -/
def toJson (query : Query) : Json :=
  .obj <| query.page.members ++ [("status", .str query.status.word),
    ("host_id", Json.ofText? query.hostId),
    ("starts_before", Json.ofTimestamp? query.startsBefore),
    ("starts_after", Json.ofTimestamp? query.startsAfter),
    ("include_past", .bool query.includePast), ("order_by", .str query.sortBy.word),
    ("order", .str (if query.descending then "desc" else "asc")),
    ("title", Json.ofText? query.title)]

/-- Whether a title fits the query. -/
def fitsTitle (query : Query) (title : String) : Bool :=
  query.title.all fun part => Text.containsFolded part title

/-- Whether a host fits the query. -/
def fitsHost (query : Query) (hostId : String) : Bool :=
  query.hostId.all (· == hostId)

/-- Whether a start is early enough for the query. -/
def fitsLatest (query : Query) (startsAt : Timestamp) : Except Failure Bool :=
  match query.startsBefore with
  | none => .ok true
  | some bound => startsAt.isBefore bound

/-- Whether a start is late enough for the query. -/
def fitsEarliest (query : Query) (startsAt : Timestamp) : Except Failure Bool :=
  match query.startsAfter with
  | none => .ok true
  | some bound => bound.isBefore startsAt

/-- Whether a conference fits the query. A condition is looked at only if those before it hold. -/
def fits (query : Query) (now : Timestamp) (c : Conference) : Except Failure Bool :=
  Failure.both (.ok (c.status == query.status)) <|
  Failure.both (c.window.isListed query.includePast now) <|
  Failure.both (.ok (query.fitsTitle c.talk.title && query.fitsHost c.hostId)) <|
  Failure.both (query.fitsLatest c.window.startsAt) (query.fitsEarliest c.window.startsAt)

end Query

end Symposium
