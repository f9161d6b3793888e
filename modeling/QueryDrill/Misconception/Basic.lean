import QueryDrill.Constraint.Json
import QueryDrill.Difficulty
/-!
Misconceptions: what a student gets wrong, and what an exercise must be like to bring it out.
-/

namespace QueryDrill

/-! ## 1. Levels -/

/-- What an exercise needs at one difficulty. -/
structure Level where
  /-- Further characteristics in plain words. -/
  extraDetails : String
  schema : List SchemaConstraint
  query : List QueryConstraint
  deriving DecidableEq, Inhabited

/-- The levels of a misconception. -/
structure Levels where
  easy : Option Level
  medium : Option Level
  hard : Option Level
  deriving DecidableEq, Inhabited

namespace Levels

/-- No levels. -/
def none : Levels := ⟨.none, .none, .none⟩

/-- The level at a difficulty. -/
def get? (ls : Levels) : Difficulty → Option Level
  | .easy => ls.easy
  | .medium => ls.medium
  | .hard => ls.hard

/-- The difficulties that have a level. -/
def available (ls : Levels) : List Difficulty := Difficulty.all.filter fun d => (ls.get? d).isSome

end Levels

/-- A misconception. -/
structure Misconception where
  id : String
  title : String
  description : String
  levels : Levels
  deriving DecidableEq, Inhabited

/-- A misconception at one difficulty. -/
structure Profile where
  id : String
  title : String
  description : String
  difficulty : Difficulty
  level : Level
  deriving DecidableEq, Inhabited

/-! ## 2. Records -/

namespace Level

/-- A level as a record. -/
def toJson (l : Level) : Json :=
  .object [("extra_details", .string l.extraDetails),
    ("schema", .array (l.schema.map SchemaConstraint.toJson)),
    ("query", .array (l.query.map QueryConstraint.toJson))]

/-- The level of a record. -/
def ofJson? (v : Json) : Option Level := do
  let r ← JsonRecord.ofJson? 3 v
  return {
    extraDetails := ← r.withDefault 0 "extra_details" "" Json.string?
    schema := ← r.withDefault 1 "schema" [] (Json.list? SchemaConstraint.ofJson?)
    query := ← r.withDefault 2 "query" [] (Json.list? QueryConstraint.ofJson?) }

end Level

namespace Levels

/-- Levels as a record. -/
def toJson (ls : Levels) : Json :=
  .object (Difficulty.all.map fun d => (d.name, .ofOption Level.toJson (ls.get? d)))

/-- The levels of a record. -/
def ofJson? (v : Json) : Option Levels := do
  let r ← JsonRecord.ofJson? 3 v
  let level (position : Nat) (d : Difficulty) : Option (Option Level) :=
    r.withDefault position d.name .none (Json.option? Level.ofJson?)
  return ⟨← level 0 .easy, ← level 1 .medium, ← level 2 .hard⟩

end Levels

namespace Misconception

/-- A misconception as a record. -/
def toJson (m : Misconception) : Json :=
  .object [("id", .string m.id), ("title", .string m.title), ("description", .string m.description),
    ("levels", m.levels.toJson)]

/-- The misconception of a record. -/
def ofJson? (v : Json) : Option Misconception := do
  let r ← JsonRecord.ofJson? 4 v
  return {
    id := ← r.required 0 "id" Json.string?
    title := ← r.required 1 "title" Json.string?
    description := ← r.required 2 "description" Json.string?
    levels := ← r.withDefault 3 "levels" .none Levels.ofJson? }

/-- The misconceptions of a file. -/
def listOfJson? (v : Json) : Option (List Misconception) := do
  let r ← JsonRecord.ofJson? 1 v
  r.required 0 "misconception" (Json.list? ofJson?)

end Misconception

end QueryDrill
