import QueryDrill.Constraint.Basic
import QueryDrill.Schema.Catalog
import QueryDrill.Schema.Rows
/-!
Constraints on a schema and on the rows inserted into it.

A constraint bounds one measure. Two constraints on the same measure join to one that admits what both
admit, so a list of constraints can be merged to one constraint for each measure.
-/

namespace QueryDrill

/-! ## 1. Measures -/

/-- What a constraint on a schema measures. -/
inductive SchemaMeasure where
  | tables
  /-- The columns of every table. -/
  | columnsPerTable
  /-- The rows inserted into every table. -/
  | rowsPerTable
  | foreignKeys
  /-- Unique keys besides primary keys. -/
  | uniqueKeys
  /-- Tables whose primary key has several columns. -/
  | compositeKeys
  /-- Column names that are declared at least twice. -/
  | sharedColumnNames
  /-- Columns that may be null. -/
  | nullableColumns
  deriving DecidableEq, Repr, Inhabited

namespace SchemaMeasure

/-- All measures. -/
def all : List SchemaMeasure :=
  [tables, columnsPerTable, rowsPerTable, foreignKeys, uniqueKeys, compositeKeys, sharedColumnNames,
   nullableColumns]

/-- The word a measure is known by. -/
def name : SchemaMeasure → String
  | tables => "tables"
  | columnsPerTable => "columns_per_table"
  | rowsPerTable => "rows_per_table"
  | foreignKeys => "foreign_keys"
  | uniqueKeys => "unique_keys"
  | compositeKeys => "composite_keys"
  | sharedColumnNames => "shared_column_names"
  | nullableColumns => "nullable_columns"

/-- Whether a measure may have an upper bound. -/
def hasMax : SchemaMeasure → Bool
  | tables | columnsPerTable | foreignKeys => true
  | _ => false

end SchemaMeasure

/-! ## 2. Constraints -/

/-- A constraint on a schema. -/
structure SchemaConstraint where
  measure : SchemaMeasure
  bounds : Bounds
  max_eq_none : measure.hasMax = false → bounds.max = none

instance : DecidableEq SchemaConstraint := fun a b =>
  if h : a.measure = b.measure ∧ a.bounds = b.bounds then
    isTrue (by cases a; cases b; simp_all)
  else isFalse fun e => h (e ▸ ⟨rfl, rfl⟩)

instance : Inhabited SchemaConstraint := ⟨⟨.tables, ⟨0, none⟩, fun _ => rfl⟩⟩

namespace SchemaConstraint

/-- The constraint on a measure; an upper bound counts only where the measure may have one. -/
def of (measure : SchemaMeasure) (bounds : Bounds) : SchemaConstraint :=
  if h : measure.hasMax then ⟨measure, bounds, fun h' => by simp [h] at h'⟩
  else ⟨measure, .atLeast bounds.min, fun _ => rfl⟩

/-- The word a constraint is known by. -/
def name (c : SchemaConstraint) : String := c.measure.name

/-- The requirement in words. -/
def description (l : Language) (c : SchemaConstraint) : String :=
  let text (opening closing : String) : String := opening ++ " " ++ c.bounds.phrase l ++ " " ++ closing
  match c.measure with
  | .tables =>
    text (l.pick "The schema must contain" "Lo schema deve contenere") (l.pick "tables" "tabelle")
  | .columnsPerTable =>
    text (l.pick "Every table must have" "Ogni tabella deve avere") (l.pick "columns" "colonne")
  | .rowsPerTable =>
    text (l.pick "Insert into every table" "Inserisci in ogni tabella") (l.pick "rows" "righe")
  | .foreignKeys =>
    text (l.pick "The schema must declare" "Lo schema deve dichiarare")
      (l.pick "foreign keys" "chiavi esterne")
  | .uniqueKeys =>
    text (l.pick "The schema must declare" "Lo schema deve dichiarare")
      (l.pick "UNIQUE constraints besides the primary keys" "vincoli UNIQUE oltre alle chiavi primarie")
  | .compositeKeys =>
    text (l.pick "The schema must contain" "Lo schema deve contenere")
      (l.pick "tables whose primary key spans two or more columns"
        "tabelle con una chiave primaria composta da due o più colonne")
  | .sharedColumnNames =>
    text (l.pick "Use" "Usa")
      (l.pick "column names that appear in two or more tables"
        "nomi di colonna presenti in due o più tabelle")
  | .nullableColumns =>
    text (l.pick "The schema must contain" "Lo schema deve contenere")
      (l.pick
        "nullable columns that are not part of a primary key, with some NULL values inserted"
        ("colonne che ammettono NULL e non fanno parte di una chiave primaria, "
          ++ "con alcuni valori NULL inseriti"))

/-! ## 3. Checks -/

/-- Checks the number of columns of every table. -/
def checkColumns (catalog : Catalog) (b : Bounds) : Observation :=
  noneOf ((catalog.tables.filter fun t => !b.admits t.columns.length).map fun t =>
    t.name ++ " has " ++ toString t.columns.length ++ " columns") ", "

/-- Checks the number of rows of every table. -/
def checkRows (catalog : Catalog) (rows : RowCounts) (min : Nat) : Observation :=
  noneOf (catalog.tableNames.filterMap fun name =>
    let n := (rows.get? name).getD 0
    if n < min then some (name ++ " has " ++ toString n ++ " rows") else none) ", "

/-- Checks the column names that tables share. -/
def checkSharedNames (catalog : Catalog) (min : Nat) : Observation :=
  let shared := catalog.sharedColumnNames
  passIf (decide (min ≤ shared.length))
    (if shared.isEmpty then "no column name is shared between tables"
    else "only " ++ toString shared.length ++ " shared: " ++ ", ".intercalate shared)

/-- Checks a constraint on a catalog and the rows inserted into it. -/
def check (catalog : Catalog) (rows : RowCounts) (c : SchemaConstraint) : Observation :=
  match c.measure with
  | .tables => countWithin c.bounds catalog.size "tables"
  | .columnsPerTable => checkColumns catalog c.bounds
  | .rowsPerTable => checkRows catalog rows c.bounds.min
  | .foreignKeys => countWithin c.bounds catalog.foreignKeyCount "foreign keys"
  | .uniqueKeys =>
    countWithin c.bounds (catalog.tables.flatMap Table.uniqueKeys).length "unique keys"
  | .compositeKeys =>
    countWithin c.bounds (catalog.tables.countP fun t => 2 ≤ t.primaryKey.length)
      "tables with a composite primary key"
  | .sharedColumnNames => checkSharedNames catalog c.bounds.min
  | .nullableColumns =>
    countWithin c.bounds
      ((catalog.tables.flatMap Table.columns).countP fun c => c.nullable && !c.isPrimaryKey)
      "nullable columns"

/-- Validates a constraint: nothing, or how it is violated. -/
def validate (catalog : Catalog) (rows : RowCounts) (l : Language) (c : SchemaConstraint) :
    Except Violation Unit :=
  match c.check catalog rows with
  | none => .ok ()
  | some observed => .error ⟨c.name, c.description l, observed⟩

/-- The language words a violation and decides nothing. -/
theorem validate_eq_ok_iff {catalog : Catalog} {rows : RowCounts} {l : Language}
    {c : SchemaConstraint} : c.validate catalog rows l = .ok () ↔ c.check catalog rows = none := by
  unfold validate
  cases c.check catalog rows <;> simp

/-! ## 4. Merging -/

/-- The constraint that admits what both admit, if they measure the same. -/
def join (a b : SchemaConstraint) : Except Failure SchemaConstraint :=
  if h : a.measure = b.measure then
    .ok ⟨a.measure, a.bounds.join b.bounds, fun hm => by
      simp [Bounds.join, a.max_eq_none hm, b.max_eq_none (h ▸ hm), Bounds.joinMax]⟩
  else .error (.merge a.name b.name)

/-- Joins a constraint to the one on the same measure in a list, or puts it at the end. -/
def joinInto : List SchemaConstraint → SchemaConstraint → Except Failure (List SchemaConstraint)
  | [], c => .ok [c]
  | a :: as, c =>
    if a.measure = c.measure then return (← a.join c) :: as
    else return a :: (← joinInto as c)

/-- One constraint for each measure, in the order in which the measures first occur. -/
def merge (cs : List SchemaConstraint) : Except Failure (List SchemaConstraint) := cs.foldlM joinInto []

end SchemaConstraint

end QueryDrill
