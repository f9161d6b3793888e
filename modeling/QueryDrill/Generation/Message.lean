import QueryDrill.Json.Decode
/-!
Messages of a conversation with the author of drafts.
-/

namespace QueryDrill

/-- Who a message is from. -/
inductive Role where
  | system
  | user
  | assistant
  deriving DecidableEq, Repr, Inhabited

namespace Role

/-- All roles. -/
def all : List Role := [system, user, assistant]

/-- The word a role is known by. -/
def name : Role → String
  | system => "system"
  | user => "user"
  | assistant => "assistant"

/-- The role with a word. -/
def ofJson? (v : Json) : Option Role := v.among? Json.isNull all name

end Role

/-- A message. -/
structure Message where
  role : Role
  content : String
  deriving DecidableEq, Repr, Inhabited

namespace Message

/-- A message as a record. -/
def toJson (m : Message) : Json := .object [("role", .string m.role.name), ("content", .string m.content)]

/-- The message of a record. -/
def ofJson? (v : Json) : Option Message := do
  let r ← JsonRecord.ofJson? 2 v
  return ⟨← r.required 0 "role" Role.ofJson?, ← r.required 1 "content" Json.string?⟩

end Message

end QueryDrill
