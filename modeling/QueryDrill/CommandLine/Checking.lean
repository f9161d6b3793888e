import QueryDrill.CommandLine.Answer
import QueryDrill.CommandLine.Request
import QueryDrill.Json.Print
/-!
The check of SQL files that were written by hand.

The constraints are those of the picked profiles and of a file, those on the schema merged. The schema is
held against them with the rows that are inserted, and the query if there is one.
-/

namespace QueryDrill.CommandLine

open Sql

/-! ## 1. Constraints -/

/-- The profiles that are picked. -/
def pickedProfiles (registry : Registry) (picks : List Pick) : Except Failure (List Profile) :=
  picks.mapM fun (id, d) => registry.profile id d

/-- The constraints of a file. -/
def constraintFile (w : World) (path : String) : Except Complaint Level := do
  let text ← w.content path
  match (Toml.parse? text).bind Level.ofJson? with
  | some level => return level
  | none => .error ⟨"parsing constraints in " ++ path, [Registry.tomlFault]⟩

/-- The constraints that a check goes by. -/
def constraintSet (w : World) (r : CheckRequest) : Except Complaint ConstraintSet := do
  let registry ← w.registry r.registry
  let picked ← orComplain (do ConstraintSet.ofProfiles (← pickedProfiles registry r.picks))
  match r.constraints with
  | none => return picked
  | some path =>
    let level ← constraintFile w path
    orComplain (picked.add level.schema level.query)

/-! ## 2. Results -/

/-- What a check finds. -/
structure CheckResult where
  schema : Report
  /-- The report on the query, if there is one. -/
  query : Option Report
  deriving DecidableEq, Repr, Inhabited

namespace CheckResult

/-- Whether nothing is violated. -/
def isValid (r : CheckResult) : Bool := r.schema.isValid && r.query.all Report.isValid

end CheckResult

/-- The rows that a file inserts; none if there is no file. -/
def fileRows (w : World) (d : Dialect) : Option String → Except Complaint RowCounts
  | none => return .empty
  | some path => do orComplain (RowCounts.ofTexts d [← w.content path])

/-- Holds the files of a check against constraints. -/
def checkResult (w : World) (r : CheckRequest) (s : ConstraintSet) : Except Complaint CheckResult := do
  let catalog ← orComplain (Catalog.ofTexts r.dialect [← w.content r.schema])
  let rows ← fileRows w r.dialect r.data
  let query ← match r.query with
    | none => pure none
    | some path => do
      let o ← orComplain (Outline.parse r.dialect (← w.content path))
      pure (some (s.validateQuery o catalog r.language))
  return ⟨s.validateSchema catalog rows r.language, query⟩

/-! ## 3. Texts -/

/-- A report under a title, as text. -/
def reportText (title : String) (r : Report) : String :=
  if r.isValid then title ++ ": all constraints satisfied.\n"
  else
    title ++ ": " ++ r.summary ++ "\n"
      ++ String.join (r.violations.map fun v => "  [" ++ v.constraint ++ "] " ++ v.message ++ "\n")

/-- A report as JSON. -/
def reportJson (r : Report) : Json :=
  .object [("summary", .string r.summary), ("valid", .bool r.isValid),
    ("violations", .array (r.violations.map fun v =>
      .object [("constraint", .string v.constraint), ("description", .string v.description),
        ("observed", .string v.observed)]))]

namespace CheckResult

/-- A result as text. -/
def text (r : CheckResult) : String :=
  reportText "Schema" r.schema ++ (r.query.map (reportText "Query")).getD ""

/-- A result as JSON. -/
def toJson (r : CheckResult) : Json :=
  .object [("query", .ofOption reportJson r.query), ("schema", reportJson r.schema),
    ("valid", .bool r.isValid)]

/-- The exit status of a check with a result. -/
def exit (r : CheckResult) : Nat := if r.isValid then 0 else 1

end CheckResult

/-- The warning that constraints on the query are passed over, if there is no query but there are some. -/
def skippedWarning (r : CheckRequest) (s : ConstraintSet) : String :=
  if r.query.isNone && !s.query.isEmpty then
    "Warning: no --query given, skipping " ++ toString s.query.length ++ " query constraint(s)\n"
  else ""

/-! ## 4. Answers -/

/-- The answer to a request for a check. -/
def check (w : World) (r : CheckRequest) : Except Complaint Answer := do
  let s ← constraintSet w r
  if s.isEmpty then return .told "No constraints selected. Use --pick or --constraints.\n"
  else
    let result ← checkResult w r s
    return ⟨result.exit, if r.asJson then result.toJson.pretty ++ "\n" else result.text,
      skippedWarning r s, none⟩

end QueryDrill.CommandLine
