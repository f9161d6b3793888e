import QueryDrill.Failure
import QueryDrill.Keyed
import QueryDrill.Outline.Reference
/-!
Catalogs: the tables that definitions declare, with their columns and keys.

Names are kept in lower case. A later definition of a table replaces an earlier one.
-/

namespace QueryDrill

open Sql Text

/-! ## 1. Tables -/

/-- A column and the keys it belongs to. -/
structure Column where
  name : String
  dataType : String
  nullable : Bool
  isPrimaryKey : Bool
  isUnique : Bool
  isForeignKey : Bool
  deriving DecidableEq, Repr, Inhabited

/-- Columns whose values are found in columns of another table. -/
structure ForeignKey where
  columns : List String
  table : String
  referenced : List String
  deriving DecidableEq, Repr, Inhabited

/-- A table. -/
structure Table where
  name : String
  columns : List Column
  primaryKey : List String
  uniqueKeys : List (List String)
  foreignKeys : List ForeignKey
  deriving DecidableEq, Repr, Inhabited

namespace Table

/-- Whether a table has a column. -/
def hasColumn (t : Table) (column : String) : Bool := t.columns.any (·.name == lower column)

/-- The sets of columns that tell rows apart: the primary key, then the unique keys. -/
def candidateKeys (t : Table) : List (List String) :=
  (if t.primaryKey.isEmpty then [] else [t.primaryKey]) ++ t.uniqueKeys

/-- The names of the columns, in order. -/
def columnNames (t : Table) : List String := t.columns.map Column.name

end Table

/-! ## 2. Definitions -/

/-- Names of a list, in lower case. -/
def identKeys (is : List Ident) : List String := is.map fun i => lower i.value

/-- The keys of a table while its definition is read. -/
structure Keys where
  primaryKey : List String
  uniqueKeys : List (List String)
  foreignKeys : List ForeignKey
  notNull : List String

namespace Keys

/-- The keys after an option of a column. A column enters the primary key once. -/
def afterOption (column : String) (keys : Keys) : ColumnOption → Keys
  | .notNull => { keys with notNull := keys.notNull ++ [column] }
  | .primaryKey _ =>
    if keys.primaryKey.contains column then keys
    else { keys with primaryKey := keys.primaryKey ++ [column] }
  | .unique _ => { keys with uniqueKeys := keys.uniqueKeys ++ [[column]] }
  | .references table columns _ =>
    { keys with foreignKeys := keys.foreignKeys ++ [⟨[column], table.key, identKeys columns⟩] }
  | .other _ => keys

/-- The keys after a column. -/
def afterColumn (keys : Keys) (c : ColumnDef) : Keys :=
  c.options.foldl (fun ks o => ks.afterOption (lower c.name.value) o.2) keys

/-- The keys after a constraint of the table. Its primary key replaces the one found so far. -/
def afterConstraint (keys : Keys) : TableConstraint → Keys
  | .primaryKey _ columns _ => { keys with primaryKey := identKeys columns }
  | .unique _ columns _ => { keys with uniqueKeys := keys.uniqueKeys ++ [identKeys columns] }
  | .foreignKey _ columns table referenced _ =>
    { keys with foreignKeys := keys.foreignKeys ++ [⟨identKeys columns, table.key, identKeys referenced⟩] }
  | .other _ => keys

/-- The keys that a definition declares. -/
def ofDefinition (c : CreateTable) : Keys :=
  c.constraints.foldl afterConstraint (c.columns.foldl afterColumn ⟨[], [], [], []⟩)

/-- A column as the keys make it. -/
def column (keys : Keys) (c : ColumnDef) : Column :=
  let name := lower c.name.value
  let isPrimaryKey := keys.primaryKey.contains name
  { name
    dataType := c.dataType
    nullable := !isPrimaryKey && !keys.notNull.contains name
    isPrimaryKey
    isUnique := keys.uniqueKeys.any (·.contains name)
    isForeignKey := keys.foreignKeys.any (·.columns.contains name) }

end Keys

/-- The table that a definition declares. -/
def Table.ofDefinition (c : CreateTable) : Table :=
  let keys := Keys.ofDefinition c
  ⟨c.name.key, c.columns.map keys.column, keys.primaryKey, keys.uniqueKeys, keys.foreignKeys⟩

/-! ## 3. Catalogs -/

/-- The tables of a schema by their names. -/
structure Catalog where
  byName : Keyed Table

namespace Catalog

/-- The catalog without tables. -/
def empty : Catalog := ⟨.empty⟩

instance : Inhabited Catalog := ⟨empty⟩

/-- The tables, in the order of their names. -/
def tables (c : Catalog) : List Table := c.byName.values

/-- The names of the tables, in order. -/
def tableNames (c : Catalog) : List String := c.byName.keys

/-- How many tables there are. -/
def size (c : Catalog) : Nat := c.byName.size

/-- The table with a name. -/
def table? (c : Catalog) (name : String) : Option Table := c.byName.get? (lower name)

/-- How many foreign keys the tables have in all. -/
def foreignKeyCount (c : Catalog) : Nat := (c.tables.flatMap Table.foreignKeys).length

/-- The tables that have a column. -/
def tablesWithColumn (c : Catalog) (column : String) : List Table := c.tables.filter (·.hasColumn column)

/-- How often each column name is declared. -/
def columnCounts (c : Catalog) : Keyed Nat :=
  (c.tables.flatMap Table.columnNames).foldl (fun m n => m.add n 1) .empty

/-- The column names that are declared at least twice. -/
def sharedColumnNames (c : Catalog) : List String :=
  (c.columnCounts.entries.filter fun (_, n) => 2 ≤ n).map Prod.fst

/-- The catalog with a table, in place of one with the same name. -/
def insert (c : Catalog) (t : Table) : Catalog := ⟨c.byName.insert t.name t⟩

/-- The catalog after a statement, which must be a table definition. -/
def afterStatement (c : Catalog) : Statement → Except Failure Catalog
  | .createTable t => .ok (c.insert (.ofDefinition t))
  | s => .error (.unreadable s.sql "expected a CREATE TABLE statement")

/-- The catalog after the statements of a text. -/
def afterText (d : Dialect) (c : Catalog) (text : String) : Except Failure Catalog := do
  (← readStatements d text).foldlM afterStatement c

/-- The catalog that texts of table definitions declare. -/
def ofTexts (d : Dialect) (texts : List String) : Except Failure Catalog :=
  texts.foldlM (afterText d) empty

end Catalog

end QueryDrill
