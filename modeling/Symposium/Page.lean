import Symposium.Check.Reader

/-!
# Pages

A listing is read page by page. A request names at most one row that was seen before, and how many
rows it wants; the answer says whether there are more and names its first and its last row.
-/

namespace Symposium

namespace Page

/-- A request for a page. -/
structure Request where
  /-- The row that the page follows. -/
  afterId : Option String
  /-- The row that the page precedes. -/
  beforeId : Option String
  /-- How many rows the page has at most. -/
  limit : Int
  deriving DecidableEq, Repr, Inhabited

namespace Request

/-- The name of this kind of record. -/
def kind : String := "PageRequest"

/-- The limit of a request that names none. -/
def defaultLimit : Int := 10

/-- Reads the members of a request. -/
def read (json : Json) : Check.Checked Request :=
  Request.mk <$> Check.optional json "after_id" none (Check.nullable Check.text)
    <*> Check.optional json "before_id" none (Check.nullable Check.text)
    <*> Check.optional json "limit" defaultLimit Check.integer

/-- The members of a request in a record. -/
def members (request : Request) : Json.Members :=
  [("after_id", Json.ofText? request.afterId), ("before_id", Json.ofText? request.beforeId),
    ("limit", .int request.limit)]

/-- A request as a record. -/
def toJson (request : Request) : Json :=
  .obj request.members

end Request

/-- What a page says about itself. -/
structure Info where
  hasMore : Bool
  firstId : Option String
  lastId : Option String
  deriving DecidableEq, Repr, Inhabited

namespace Info

/-- The name of this kind of record. -/
def kind : String := "PageInfo"

/-- Nothing on the page and nothing beyond it. -/
def empty : Info := ⟨false, none, none⟩

/-- Reads the members of a page's description. -/
def read (json : Json) : Check.Checked Info :=
  Info.mk <$> Check.optional json "has_more" false Check.boolean
    <*> Check.optional json "first_id" none (Check.nullable Check.text)
    <*> Check.optional json "last_id" none (Check.nullable Check.text)

/-- A page's description as a record. -/
def toJson (info : Info) : Json :=
  .obj [("has_more", .bool info.hasMore), ("first_id", Json.ofText? info.firstId),
    ("last_id", Json.ofText? info.lastId)]

end Info

end Page

/-- Some rows of a listing, and what the page says about itself. -/
structure Page (α : Type) where
  rows : List α
  info : Page.Info

namespace Page

/-- A page without rows. -/
def empty {α : Type} : Page α := ⟨[], .empty⟩

/-- The page with every row shown in another way. -/
def map {α β : Type} (f : α → β) (page : Page α) : Page β :=
  ⟨page.rows.map f, page.info⟩

/-- A page as a record, its rows under a name. -/
def toJson {α : Type} (rowsName infoName : String) (row : α → Json) (page : Page α) : Json :=
  .obj [(rowsName, .arr (page.rows.map row)), (infoName, page.info.toJson)]

end Page

end Symposium
