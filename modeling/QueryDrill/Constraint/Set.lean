import QueryDrill.Constraint.Query
import QueryDrill.Constraint.Report
import QueryDrill.Constraint.Schema
import QueryDrill.Misconception.Basic
/-!
Sets of constraints: what some misconceptions together ask of a schema and of a query.
-/

namespace QueryDrill

/-- Constraints on a schema and on a query over it. -/
structure ConstraintSet where
  schema : List SchemaConstraint
  query : List QueryConstraint
  deriving DecidableEq, Inhabited

namespace ConstraintSet

/-- The constraints of some profiles: those on the schema merged, those on the query one after the
other. -/
def ofProfiles (ps : List Profile) : Except Failure ConstraintSet := do
  return ⟨← SchemaConstraint.merge (ps.flatMap fun p => p.level.schema), ps.flatMap fun p => p.level.query⟩

/-- Adds constraints. -/
def add (s : ConstraintSet) (schema : List SchemaConstraint) (query : List QueryConstraint) :
    Except Failure ConstraintSet := do
  return ⟨← SchemaConstraint.merge (s.schema ++ schema), s.query ++ query⟩

/-- Whether there are no constraints. -/
def isEmpty (s : ConstraintSet) : Bool := s.schema.isEmpty && s.query.isEmpty

/-- The requirements on the schema in words. -/
def schemaDescriptions (l : Language) (s : ConstraintSet) : List String :=
  s.schema.map (SchemaConstraint.description l)

/-- The requirements on the query in words. -/
def queryDescriptions (l : Language) (s : ConstraintSet) : List String :=
  s.query.map (QueryConstraint.description l)

/-- Validates all constraints on the schema. -/
def validateSchema (catalog : Catalog) (rows : RowCounts) (l : Language) (s : ConstraintSet) : Report :=
  .ofOutcomes (s.schema.map (SchemaConstraint.validate catalog rows l))

/-- Validates all constraints on the query. -/
def validateQuery (o : Outline) (catalog : Catalog) (l : Language) (s : ConstraintSet) : Report :=
  .ofOutcomes (s.query.map (QueryConstraint.validate o catalog l))

end ConstraintSet

end QueryDrill
