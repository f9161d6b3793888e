import Mathlib.Data.List.Forall2
import QueryDrill.Proofs.Sql.Lowering
import QueryDrill.Schema.Catalog
import QueryDrill.Schema.Rows
/-!
Catalogs and row counts of statements with their names in lower case.

A definition declares the table that its lowered form declares, and an insertion adds as many rows to the same
table; so catalogs and row counts do not change with the case of names.
-/

namespace QueryDrill

open Sql Text

namespace Sql

/-! ## 1. Lowered statements -/

/-- An option of a column with its names in lower case. -/
def ColumnOption.lowered : ColumnOption → ColumnOption
  | .notNull => .notNull
  | .primaryKey _ => .primaryKey ""
  | .unique _ => .unique ""
  | .references table columns _ => .references (Name.lowered table) (columns.map Ident.lowered) ""
  | .other _ => .other ""

/-- A column definition with its names in lower case. The data type is kept as it is written. -/
def ColumnDef.lowered (c : ColumnDef) : ColumnDef :=
  ⟨c.name.lowered, c.dataType, "", c.options.map fun o => (o.1.map Ident.lowered, o.2.lowered)⟩

/-- A constraint of a table with its names in lower case. -/
def TableConstraint.lowered : TableConstraint → TableConstraint
  | .primaryKey name columns _ => .primaryKey (name.map Ident.lowered) (columns.map Ident.lowered) ""
  | .unique name columns _ => .unique (name.map Ident.lowered) (columns.map Ident.lowered) ""
  | .foreignKey name columns table referenced _ =>
    .foreignKey (name.map Ident.lowered) (columns.map Ident.lowered) (Name.lowered table)
      (referenced.map Ident.lowered) ""
  | .other _ => .other ""

/-- A table definition with its names in lower case. -/
def CreateTable.lowered (c : CreateTable) : CreateTable :=
  ⟨"", Name.lowered c.name, "", c.columns.map ColumnDef.lowered, c.constraints.map TableConstraint.lowered,
    c.showsEmptyList, ""⟩

/-- Two table definitions are the same but for the case of names. -/
def CreateTable.Recased (c d : CreateTable) : Prop := c.lowered = d.lowered

end Sql

/-! ## 2. Tables -/

theorem identKeys_lowered (is : List Ident) : identKeys (is.map Ident.lowered) = identKeys is := by
  simp [identKeys, Function.comp_def]

namespace Keys

theorem afterOption_lowered (column : String) (keys : Keys) (o : ColumnOption) :
    keys.afterOption column o.lowered = keys.afterOption column o := by
  cases o with
  | references table columns => simp [ColumnOption.lowered, afterOption, identKeys_lowered]
  | notNull | primaryKey | unique | other => rfl

theorem afterColumn_lowered (keys : Keys) (c : ColumnDef) :
    keys.afterColumn c.lowered = keys.afterColumn c := by
  simp [afterColumn, ColumnDef.lowered, List.foldl_map, afterOption_lowered]

theorem afterConstraint_lowered (keys : Keys) (c : TableConstraint) :
    keys.afterConstraint c.lowered = keys.afterConstraint c := by
  cases c <;> simp [TableConstraint.lowered, afterConstraint, identKeys_lowered]

theorem ofDefinition_lowered (c : CreateTable) : ofDefinition c.lowered = ofDefinition c := by
  simp [ofDefinition, CreateTable.lowered, List.foldl_map, afterColumn_lowered, afterConstraint_lowered]

theorem column_lowered (keys : Keys) (c : ColumnDef) : keys.column c.lowered = keys.column c := by
  simp [column, ColumnDef.lowered]

end Keys

/-- A definition declares what its lowered form declares. -/
theorem Table.ofDefinition_lowered (c : CreateTable) : ofDefinition c.lowered = ofDefinition c := by
  rw [ofDefinition, Keys.ofDefinition_lowered]
  simp [CreateTable.lowered, ofDefinition, Function.comp_def, Keys.column_lowered]

theorem Table.ofDefinition_recased {c d : CreateTable} (h : c.Recased d) :
    ofDefinition c = ofDefinition d := by
  rw [← ofDefinition_lowered c, ← ofDefinition_lowered d, h]

/-! ## 3. Catalogs -/

namespace Catalog

/-- The catalog that table definitions declare one after the other. -/
def ofDefinitions (definitions : List CreateTable) : Catalog :=
  definitions.foldl (fun c d => c.insert (.ofDefinition d)) empty

/-- It is the catalog that their statements are read as. -/
theorem foldlM_afterStatement (definitions : List CreateTable) :
    (definitions.map Statement.createTable).foldlM afterStatement empty = .ok (ofDefinitions definitions) := by
  unfold ofDefinitions
  generalize empty = c
  induction definitions generalizing c with
  | nil => rfl
  | cons d ds ih => exact ih _

/-- Definitions that are the same but for the case of names declare one catalog. -/
theorem ofDefinitions_recased {definitions definitions' : List CreateTable}
    (h : List.Forall₂ CreateTable.Recased definitions definitions') :
    ofDefinitions definitions = ofDefinitions definitions' := by
  unfold ofDefinitions
  generalize empty = c
  induction h generalizing c with
  | nil => rfl
  | cons hd _ ih => rw [List.foldl_cons, List.foldl_cons, Table.ofDefinition_recased hd, ih]

end Catalog

/-! ## 4. Row counts -/

theorem queryRows_lowered (q : Query) : queryRows q.lowered = queryRows q := by
  rw [queryRows, queryRows, q.body_lowered]
  cases q.body with
  | values rows => simp [Body.lowered, loweredAll_eq_map]
  | _ => simp [Body.lowered]

theorem insertedRows_lowered (i : Insertion) : insertedRows i.lowered = insertedRows i := by
  rw [insertedRows, i.visits_lowered, filterMap_query?_lowered, List.map_map, insertedRows]
  exact congrArg (fun rows => (List.map rows _).foldl _ _) (funext queryRows_lowered)

theorem Sql.Insertion.key_table_lowered (i : Insertion) : i.lowered.table.key = i.table.key := by
  cases i
  simp [lowered]

namespace RowCounts

/-- The rows that insertions add one after the other. -/
def ofInsertions (insertions : List Insertion) : RowCounts :=
  insertions.foldl (fun counts i => counts.add i.table.key (insertedRows i)) .empty

/-- They are the rows that their statements are read as. -/
theorem foldlM_afterStatement (insertions : List Insertion) :
    (insertions.map Statement.insert).foldlM afterStatement .empty = .ok (ofInsertions insertions) := by
  unfold ofInsertions
  generalize Keyed.empty = counts
  induction insertions generalizing counts with
  | nil => rfl
  | cons i is ih => exact ih _

/-- Insertions that are the same but for the case of names add the same rows. -/
theorem ofInsertions_recased {insertions insertions' : List Insertion}
    (h : List.Forall₂ Insertion.Recased insertions insertions') :
    ofInsertions insertions = ofInsertions insertions' := by
  unfold ofInsertions
  generalize Keyed.empty = counts
  induction h generalizing counts with
  | nil => rfl
  | @cons i j _ _ hij _ ih =>
    have hkey : i.table.key = j.table.key := by
      rw [← i.key_table_lowered, ← j.key_table_lowered, hij]
    have hrows : insertedRows i = insertedRows j := by
      rw [← insertedRows_lowered i, ← insertedRows_lowered j, hij]
    rw [List.foldl_cons, List.foldl_cons, hkey, hrows, ih]

end RowCounts

end QueryDrill
