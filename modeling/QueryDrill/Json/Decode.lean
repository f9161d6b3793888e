import QueryDrill.Json.Basic
/-!
Reading records out of JSON values.

A record is an object, or an array of its fields in their order. Fields with other names are ignored, but
an array must not be too long. A choice between kinds of records is told by a tag: the field `type`, or
the first item of the array.
-/

namespace QueryDrill

namespace Json

/-! ## 1. Simple values -/

/-- The greatest size. -/
def greatestSize : Nat := UInt64.size - 1

/-- A size: a natural number of at most 64 bits. -/
def size? : Json → Option Nat
  | number (.whole n) => if 0 ≤ n ∧ n ≤ (greatestSize : Int) then some n.toNat else none
  | _ => none

/-- A truth value. -/
def bool? : Json → Option Bool
  | bool b => some b
  | _ => none

/-- A list. -/
def list? {α : Type} (item : Json → Option α) : Json → Option (List α)
  | array items => items.mapM item
  | _ => none

/-- A value that may be null. -/
def option? {α : Type} (value : Json → Option α) : Json → Option (Option α)
  | null => some none
  | v => (value v).map some

/-- A word from a list, which may also be written as the only field of an object; `isUnit` tells what its
value may be. -/
def word? (isUnit : Json → Bool) : Json → Option String
  | string s => some s
  | object [(name, v)] => if isUnit v then some name else none
  | _ => none

/-- The value with the name that a word tells. -/
def among? {α : Type} (isUnit : Json → Bool) (all : List α) (name : α → String) (v : Json) : Option α := do
  let word ← v.word? isUnit
  all.find? fun a => name a == word

/-- Whether a value is null. -/
def isNull : Json → Bool
  | null => true
  | _ => false

/-- Whether a value is null or an object without fields. -/
def isEmptyUnit : Json → Bool
  | null => true
  | object [] => true
  | _ => false

end Json

/-! ## 2. Records -/

/-- The fields of a record. -/
inductive JsonRecord where
  | named (fields : List (String × Json))
  | listed (items : List Json)
  deriving Inhabited

namespace JsonRecord

/-- A value as a record with a number of fields. -/
def ofJson? (count : Nat) : Json → Option JsonRecord
  | .object fields => some (named fields)
  | .array items => if items.length ≤ count then some (listed items) else none
  | _ => none

/-- The value of a field, which has a position and a name. -/
def field? (r : JsonRecord) (position : Nat) (name : String) : Option Json :=
  match r with
  | named fields => fields.lookup name
  | listed items => items[position]?

/-- A field that must be there. -/
def required {α : Type} (r : JsonRecord) (position : Nat) (name : String) (value : Json → Option α) :
    Option α :=
  (r.field? position name).bind value

/-- A field with a default. -/
def withDefault {α : Type} (r : JsonRecord) (position : Nat) (name : String) (default : α)
    (value : Json → Option α) : Option α :=
  match r.field? position name with
  | some v => value v
  | none => some default

/-- A field that may be null, and may be missing where fields have names. -/
def optional {α : Type} (r : JsonRecord) (position : Nat) (name : String) (value : Json → Option α) :
    Option (Option α) :=
  match r, r.field? position name with
  | _, some v => Json.option? value v
  | named _, none => some none
  | listed _, none => none

/-- A value as the tag and the fields of a record. -/
def tagged? : Json → Option (String × JsonRecord)
  | .object fields => do return (← (← fields.lookup "type").string?, named fields)
  | .array (.string tag :: items) => some (tag, listed items)
  | _ => none

/-- Whether a record has at most a number of fields, where they have no names. -/
def fits (r : JsonRecord) (count : Nat) : Bool :=
  match r with
  | named _ => true
  | listed items => decide (items.length ≤ count)

end JsonRecord

end QueryDrill
