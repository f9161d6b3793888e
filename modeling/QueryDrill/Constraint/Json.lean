import QueryDrill.Constraint.Query
import QueryDrill.Constraint.Schema
import QueryDrill.Json.Decode
/-!
Constraints as JSON records.

A record has the name of its constraint as its tag. All fields are written; when a record is read, a bound
and a list may be missing.
-/

namespace QueryDrill

open Sql

/-! ## 1. Words -/

/-- The value with the name that a word tells. -/
def ofWord? {α : Type} (all : List α) (name : α → String) (v : Json) : Option α :=
  v.among? Json.isEmptyUnit all name

/-- Both presences. -/
def Presence.all : List Presence := [present, absent]

/-- All nestings. -/
def Nesting.all : List Nesting := [any, flat, nested]

/-- All modes. -/
def DuplicateMode.all : List DuplicateMode := [allowed, unique, distinctRequired]

/-- All set operators. -/
def setOperators : List SetOperator := [.union, .intersect, .except]

/-- The word a set operator is known by. -/
def setOperatorName : SetOperator → String
  | .union => "union"
  | .intersect => "intersect"
  | .except => "except"

namespace JsonRecord

/-- A size, zero if it is missing. -/
def sizeOrZero (r : JsonRecord) (position : Nat) (name : String) : Option Nat :=
  r.withDefault position name 0 Json.size?

/-- Bounds in the first two fields. -/
def bounds (r : JsonRecord) : Option Bounds := do
  return ⟨← r.sizeOrZero 0 "min", ← r.withDefault 1 "max" none (Json.option? Json.size?)⟩

/-- A presence in the first field. -/
def state (r : JsonRecord) : Option Presence := r.required 0 "state" (ofWord? Presence.all Presence.name)

end JsonRecord

/-- The fields of bounds. -/
def Bounds.fields (b : Bounds) : List (String × Json) :=
  [("min", .nat b.min), ("max", .ofOption .nat b.max)]

/-! ## 2. Constraints on a schema -/

namespace SchemaConstraint

/-- A constraint as a record. -/
def toJson (c : SchemaConstraint) : Json :=
  .object <| ("type", .string c.name) ::
    if c.measure.hasMax then c.bounds.fields else [("min", .nat c.bounds.min)]

/-- The constraint of a record. -/
def ofJson? (v : Json) : Option SchemaConstraint := do
  let (tag, r) ← JsonRecord.tagged? v
  let measure ← SchemaMeasure.all.find? fun m => m.name == tag
  if measure.hasMax then
    if !r.fits 2 then none
    else return of measure (← r.bounds)
  else
    if !r.fits 1 then none
    else return of measure (.atLeast (← r.sizeOrZero 0 "min"))

end SchemaConstraint

/-! ## 3. Constraints on a query -/

namespace QueryConstraint

/-- The fields of a constraint, in their order. -/
def fields : QueryConstraint → List (String × Json)
  | tables b | conditions b | selectedColumns b | wildcardLength b => b.fields
  | joins b kinds => b.fields ++ [("kinds", .strings (kinds.map JoinKind.name))]
  | repeatedColumnConditions min | columnAliases min => [("min", .nat min)]
  | aggregations b functions => b.fields ++ [("functions", .strings functions)]
  | groupBy state min | orderBy state min => [("state", .string state.name), ("min_columns", .nat min)]
  | having state min => [("state", .string state.name), ("min_conditions", .nat min)]
  | distinct state | foreignKeyProjection state | nullChecks state => [("state", .string state.name)]
  | subqueries b nesting => b.fields ++ [("nesting", .string nesting.name)]
  | duplicates mode => [("mode", .string mode.name)]
  | wildcardCharacters required => [("required", .string required)]
  | unionBalance => []
  | setOperations min kinds => [("min", .nat min), ("kinds", .strings (kinds.map setOperatorName))]

/-- A constraint as a record. -/
def toJson (c : QueryConstraint) : Json := .object (("type", .string c.name) :: c.fields)

/-- The number of fields of the constraint with a tag. -/
def fieldCount (tag : String) : Nat :=
  if tag = "union_balance" then 0
  else if ["joins", "aggregations", "subqueries"].contains tag then 3
  else if
      ["tables", "conditions", "group_by", "having", "order_by", "selected_columns", "wildcard_length",
        "set_operations"].contains tag then 2
  else 1

/-- The constraint of a record with a tag. -/
def ofRecord? (tag : String) (r : JsonRecord) : Option QueryConstraint :=
  match tag with
  | "tables" => r.bounds.map tables
  | "joins" => do
    return joins (← r.bounds)
      (← r.withDefault 2 "kinds" [] (Json.list? (ofWord? JoinKind.all JoinKind.name)))
  | "conditions" => r.bounds.map conditions
  | "repeated_column_conditions" => (r.sizeOrZero 0 "min").map repeatedColumnConditions
  | "aggregations" => do
    return aggregations (← r.bounds) (← r.withDefault 2 "functions" [] (Json.list? Json.string?))
  | "group_by" => do return groupBy (← r.state) (← r.sizeOrZero 1 "min_columns")
  | "having" => do return having (← r.state) (← r.sizeOrZero 1 "min_conditions")
  | "order_by" => do return orderBy (← r.state) (← r.sizeOrZero 1 "min_columns")
  | "distinct" => r.state.map distinct
  | "subqueries" => do
    return subqueries (← r.bounds) (← r.withDefault 2 "nesting" .any (ofWord? Nesting.all Nesting.name))
  | "duplicates" => do
    return duplicates (← r.required 0 "mode" (ofWord? DuplicateMode.all DuplicateMode.name))
  | "column_aliases" => (r.sizeOrZero 0 "min").map columnAliases
  | "selected_columns" => r.bounds.map selectedColumns
  | "wildcard_length" => r.bounds.map wildcardLength
  | "wildcard_characters" => (r.required 0 "required" Json.string?).map wildcardCharacters
  | "union_balance" => some unionBalance
  | "set_operations" => do
    return setOperations (← r.sizeOrZero 0 "min")
      (← r.withDefault 1 "kinds" [] (Json.list? (ofWord? setOperators setOperatorName)))
  | "foreign_key_projection" => r.state.map foreignKeyProjection
  | "null_checks" => r.state.map nullChecks
  | _ => none

/-- The constraint of a record. -/
def ofJson? (v : Json) : Option QueryConstraint := do
  let (tag, r) ← JsonRecord.tagged? v
  if r.fits (fieldCount tag) then ofRecord? tag r else none

end QueryConstraint

end QueryDrill
