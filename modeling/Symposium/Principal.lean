import Symposium.Check.Reader

/-!
# Principals

Who makes a call: a user in a role, or the system itself, which has no role. Coordinators decide
about proposals and see everything; a user in another role is restricted to what is public and to
what is their own. Main statement: a principal is either restricted, a coordinator or the system.
-/

namespace Symposium

/-- What a user is in the organisation. -/
inductive Role where
  | admin
  | coordinator
  | user
  deriving DecidableEq, Repr, Inhabited

namespace Role

/-- Every role with the word for it. -/
def words : List (String × Role) :=
  [("admin", admin), ("event_coordinator", coordinator), ("user", user)]

/-- The word for a role. -/
def word : Role → String
  | admin => "admin"
  | coordinator => "event_coordinator"
  | user => "user"

/-- The role that a word stands for. -/
def ofWord? (word : String) : Option Role :=
  words.lookup word

/-- Whether the role decides about other people's conferences. -/
def coordinates : Role → Bool
  | admin => true
  | coordinator => true
  | user => false

/-- Every role is the one that its word stands for. -/
theorem ofWord?_word (role : Role) : ofWord? role.word = some role := by
  cases role <;> decide

end Role

/-- Who makes a call. -/
structure Principal where
  id : Option String
  role : Option Role
  deriving DecidableEq, Repr, Inhabited

namespace Principal

/-- The name of this kind of record. -/
def kind : String := "Principal"

/-- The system itself: no user and no role. -/
def system : Principal := ⟨none, none⟩

/-- Whether the system makes the call. -/
def isSystem (principal : Principal) : Bool :=
  principal.role.isNone

/-- Whether the principal decides about other people's conferences. -/
def isCoordinator (principal : Principal) : Bool :=
  principal.role.any Role.coordinates

/-- Whether the principal only has access to what is public or their own. -/
def isRestricted (principal : Principal) : Bool :=
  !principal.isSystem && !principal.isCoordinator

/-- Whether the principal is the user with this id. -/
def isUser (principal : Principal) (id : String) : Bool :=
  principal.id == some id

/-- Reads the members of a principal. -/
def read (json : Json) : Check.Checked Principal :=
  Principal.mk <$> Check.optional json "id" none (Check.nullable Check.text)
    <*> Check.optional json "role" none (Check.nullable (Check.choice Role.words))

/-- A principal as a record. -/
def toJson (principal : Principal) : Json :=
  .obj [("id", Json.ofText? principal.id), ("role", Json.ofText? (principal.role.map Role.word))]

/-- Only plain users are restricted; whoever has no role acts for the system. -/
theorem isRestricted_iff {principal : Principal} :
    principal.isRestricted = true ↔ principal.role = some .user := by
  obtain ⟨id, role⟩ := principal
  cases role with
  | none => simp [isRestricted, isSystem]
  | some role => cases role <;> simp [isRestricted, isSystem, isCoordinator, Role.coordinates]

/-- A principal is the user whose id it has. -/
theorem isUser_iff {principal : Principal} {id : String} :
    principal.isUser id = true ↔ principal.id = some id := by
  simp [isUser]

end Principal

end Symposium
