import QueryDrill.Keyed
import QueryDrill.Number.Binary
/-!
JSON values.

A number is whole or it is a binary number of 64 bits. The fields of an object keep their order; what is
read from a text has them in the order of their names, each name once.
-/

namespace QueryDrill

/-- A number of a JSON text. -/
inductive JsonNumber where
  | whole (value : Int)
  | real (value : Binary)
  deriving DecidableEq, Repr, Inhabited

/-- A JSON value. -/
inductive Json where
  | null
  | bool (value : Bool)
  | number (value : JsonNumber)
  | string (value : String)
  | array (items : List Json)
  | object (fields : List (String × Json))
  deriving Repr, Inhabited

namespace Json

/-- A natural number. -/
def nat (n : Nat) : Json := number (.whole n)

/-- An array of strings. -/
def strings (texts : List String) : Json := array (texts.map string)

/-- A value, or null if it is missing. -/
def ofOption {α : Type} (toJson : α → Json) : Option α → Json
  | some a => toJson a
  | none => null

/-- A binary number of 64 bits; null if it is not finite. -/
def ofBinary (x : Binary) : Json :=
  match x with
  | .finite .. => number (.real x)
  | _ => null

/-- The value of a field. -/
def field? (name : String) : Json → Option Json
  | object fields => fields.lookup name
  | _ => none

/-- The text of a string. -/
def string? : Json → Option String
  | string s => some s
  | _ => none

/-- The items of an array. -/
def array? : Json → Option (List Json)
  | array items => some items
  | _ => none

end Json

end QueryDrill
