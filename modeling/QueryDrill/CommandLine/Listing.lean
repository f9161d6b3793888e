import QueryDrill.CommandLine.Answer
import QueryDrill.CommandLine.Request
import QueryDrill.Json.Print
/-!
The list of the misconceptions, and the profiles of one of them.
-/

namespace QueryDrill.CommandLine

/-! ## 1. The list -/

/-- How wide the names of misconceptions are at least. -/
def idWidth : Nat := 28

/-- The line on a misconception. -/
def misconceptionLine (m : Misconception) : String :=
  "  " ++ padEnd idWidth m.id ++ " " ++ m.title ++ " ["
    ++ ", ".intercalate (m.levels.available.map Difficulty.name) ++ "]\n"

/-- All misconceptions of a registry as text. -/
def registryText (r : Registry) : String :=
  toString r.size ++ " misconception(s):\n" ++ String.join (r.misconceptions.map misconceptionLine)

/-- All misconceptions of a registry as JSON. -/
def registryJson (r : Registry) : Json := .array (r.misconceptions.map Misconception.toJson)

/-! ## 2. Profiles -/

/-- A profile as text. -/
def profileText (l : Language) (p : Profile) : String :=
  p.title ++ " (" ++ p.difficulty.name ++ ")\n  " ++ p.description ++ "\n"
    ++ (if p.level.extraDetails.isEmpty then "" else "  Details: " ++ p.level.extraDetails ++ "\n")
    ++ String.join (p.level.schema.map fun c => "  [schema] " ++ c.description l ++ "\n")
    ++ String.join (p.level.query.map fun c => "  [query]  " ++ c.description l ++ "\n")
    ++ "\n"

/-- A profile as JSON. -/
def profileJson (l : Language) (p : Profile) : Json :=
  .object [("difficulty", .string p.difficulty.name), ("extra_details", .string p.level.extraDetails),
    ("id", .string p.id), ("query", .strings (p.level.query.map (QueryConstraint.description l))),
    ("schema", .strings (p.level.schema.map (SchemaConstraint.description l))),
    ("title", .string p.title)]

/-- The difficulties to show: the given one, else all at which the misconception has a level. -/
def shownDifficulties (r : Registry) (id : String) : Option Difficulty → List Difficulty
  | some d => [d]
  | none => ((r.get? id).map fun m => m.levels.available).getD Difficulty.all

/-! ## 3. Answers -/

/-- The answer to a request for the list. -/
def list (w : World) (r : ListRequest) : Except Complaint Answer := do
  let registry ← w.registry r.registry
  match r.id with
  | none =>
    return .told (if r.asJson then (registryJson registry).pretty ++ "\n" else registryText registry)
  | some id =>
    let profiles ← orComplain ((shownDifficulties registry id r.difficulty).mapM (registry.profile id))
    return .told (if r.asJson then (Json.array (profiles.map (profileJson r.language))).pretty ++ "\n"
      else String.join (profiles.map (profileText r.language)))

end QueryDrill.CommandLine
