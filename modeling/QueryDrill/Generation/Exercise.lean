import QueryDrill.Constraint.Query
import QueryDrill.Generation.Dataset
import QueryDrill.Generation.Refinement
import QueryDrill.Generation.Repair
import QueryDrill.Misconception.Basic
/-!
Exercises: a request in plain words and a query that answers it.
-/

namespace QueryDrill

open Sql Text

/-! ## 1. Exercises -/

/-- An exercise. -/
structure Exercise where
  title : String
  difficulty : Difficulty
  misconceptionId : String
  request : String
  solution : Outline

namespace Exercise

/-- The names that the solution gives to columns of its result. -/
def solutionAliases (e : Exercise) : List String :=
  (e.solution.outputColumns.filter OutputColumn.isAliased).filterMap OutputColumn.label

/-- An exercise as JSON. -/
def toJson (e : Exercise) : Json :=
  .object [("title", .string e.title), ("difficulty", .string e.difficulty.name),
    ("misconception_id", .string e.misconceptionId), ("request", .string e.request),
    ("solution", .string e.solution.text)]

end Exercise

/-! ## 2. Requests and drafts -/

/-- What is asked of an exercise. -/
structure ExerciseRequest where
  title : String
  misconceptionId : String
  misconception : String
  difficulty : Difficulty
  extraDetails : List String
  constraints : List QueryConstraint
  deriving DecidableEq, Inhabited

/-- What a profile asks of an exercise. -/
def ExerciseRequest.ofProfile (p : Profile) : ExerciseRequest where
  title := p.title
  misconceptionId := p.id
  misconception := p.description
  difficulty := p.difficulty
  extraDetails := if isBlankText p.level.extraDetails then [] else [p.level.extraDetails]
  constraints := p.level.query

/-- An exercise in a reply. -/
structure ExerciseDraft where
  request : String
  solution : String
  deriving DecidableEq, Repr, Inhabited

namespace ExerciseDraft

/-- Reads a draft. -/
def reader : JsonReader ExerciseDraft := fun cs => do
  let (fields, rest) ← JsonReader.record "struct ExerciseReply" ["request", "solution"] JsonReader.text cs
  return (⟨fields.getD 0 "", fields.getD 1 ""⟩, rest)

/-- The tables of a query that are not in a catalog. -/
def unknownTables (catalog : Catalog) (o : Outline) : List String :=
  o.tables.filter fun name => (catalog.table? name).isNone

/-- Checks a draft against a request, over a catalog in a dialect. -/
def check (l : Language) (request : ExerciseRequest) (catalog : Catalog) (dialect : Dialect)
    (d : ExerciseDraft) : Outcome (String × Outline) :=
  if isBlankText d.request then .unreadable "`request` is empty"
  else
    .ofRead (Outline.parse dialect (stripFence d.solution)) fun o =>
      if !(unknownTables catalog o).isEmpty then
        .unreadable ("the solution references tables that are not in the schema: "
          ++ ", ".intercalate (unknownTables catalog o))
      else
        .ofReport (.ofOutcomes (request.constraints.map (·.validate o catalog l))) (trim d.request, o)

/-- Checks a reply against a request. -/
def checkReply (l : Language) (request : ExerciseRequest) (catalog : Catalog) (dialect : Dialect)
    (reply : String) : Outcome (String × Outline) :=
  match readReply reader reply with
  | .ok d => d.check l request catalog dialect
  | .error message => .unreadable message

end ExerciseDraft

/-! ## 3. Generation -/

namespace Exercise

/-- The conversation that asks for an exercise. -/
def opening (l : Language) (dataset : DatasetRecord) (request : ExerciseRequest) : List Message :=
  [⟨.system, Prompt.system l dataset.dialect⟩,
    ⟨.user, Prompt.exercise dataset.domain dataset.createCommands request.title request.misconception
      request.difficulty request.extraDetails
      (request.constraints.map (QueryConstraint.description l)) l⟩]

/-- Puts the request of an exercise into other words. -/
def refine (l : Language) (e : Exercise) : Run Exercise := do
  return { e with request := ← refineRequest e.request e.solution.text e.solutionAliases l }

/-- Asks for an exercise over a dataset until one is accepted. -/
def generate (s : Settings) (dataset : Dataset) (request : ExerciseRequest) : Run Exercise := do
  let built ← MonadExcept.ofExcept dataset.catalog.1
  let (text, solution) ←
    QueryDrill.generate "exercise" s (opening s.language dataset.record request)
      (ExerciseDraft.checkReply s.language request built.catalog dataset.record.dialect)
  let e : Exercise := ⟨request.title, request.difficulty, request.misconceptionId, text, solution⟩
  if s.refineRequests then e.refine s.language else return e

end Exercise

end QueryDrill
