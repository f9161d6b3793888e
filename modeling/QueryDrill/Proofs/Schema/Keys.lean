import QueryDrill.Proofs.Schema.Texts
/-!
The keys that a definition declares, and those of its table.

Options of columns and constraints of a table declare keys alike (`CreateTable.declaredKeys`). A step of the
reading gains the unique and the foreign keys that are declared where it reads (`Keys.Gains`), and so does the
reading of a whole definition. Columns that options declare as primary are gained as well, but a constraint puts
its primary key in place of what has been found. So a table has the keys that its definition declares just if the
last constraint with a primary key, if there is one, has all columns that are declared as primary
(`Table.hasKeys_ofDefinition_iff`).
-/

namespace QueryDrill

open Sql Text

/-! ## 1. Declarations -/

/-- A key as a definition declares it. -/
inductive DeclaredKey where
  | primary (columns : List String)
  | unique (columns : List String)
  | foreign (key : ForeignKey)
  deriving DecidableEq, Repr

namespace DeclaredKey

/-- The columns of a primary key. -/
def primary? : DeclaredKey → Option (List String)
  | primary columns => some columns
  | unique _ => none
  | foreign _ => none

/-- The columns of a unique key. -/
def unique? : DeclaredKey → Option (List String)
  | primary _ => none
  | unique columns => some columns
  | foreign _ => none

/-- The foreign key that is declared. -/
def foreign? : DeclaredKey → Option ForeignKey
  | primary _ => none
  | unique _ => none
  | foreign key => some key

/-- Whether a column is in a primary key among some keys. -/
def IsPrimary (declared : List DeclaredKey) (column : String) : Prop :=
  ∃ columns, primary columns ∈ declared ∧ column ∈ columns

theorem isPrimary_append {ds es : List DeclaredKey} {column : String} :
    IsPrimary (ds ++ es) column ↔ IsPrimary ds column ∨ IsPrimary es column := by
  simp [IsPrimary, or_and_right, exists_or]

end DeclaredKey

namespace Sql

/-- The key that an option declares for its column. -/
def ColumnOption.declaredKey? (column : String) : ColumnOption → Option DeclaredKey
  | .notNull => none
  | .primaryKey _ => some (.primary [column])
  | .unique _ => some (.unique [column])
  | .references table columns _ => some (.foreign ⟨[column], table.key, identKeys columns⟩)
  | .other _ => none

/-- The key that a constraint of a table declares. -/
def TableConstraint.declaredKey? : TableConstraint → Option DeclaredKey
  | .primaryKey _ columns _ => some (.primary (identKeys columns))
  | .unique _ columns _ => some (.unique (identKeys columns))
  | .foreignKey _ columns table referenced _ =>
    some (.foreign ⟨identKeys columns, table.key, identKeys referenced⟩)
  | .other _ => none

namespace CreateTable

/-- The keys that options of columns declare. -/
def optionKeys (c : CreateTable) : List DeclaredKey :=
  c.columns.flatMap fun d => d.options.flatMap fun o => (o.2.declaredKey? (lower d.name.value)).toList

/-- The keys that constraints declare. -/
def constraintKeys (c : CreateTable) : List DeclaredKey := c.constraints.flatMap fun k => k.declaredKey?.toList

/-- The keys that a definition declares, in order. -/
def declaredKeys (c : CreateTable) : List DeclaredKey := c.optionKeys ++ c.constraintKeys

/-- Whether a column is declared as primary, by an option of its own or by a constraint. -/
def DeclaresPrimary (c : CreateTable) (column : String) : Prop := DeclaredKey.IsPrimary c.declaredKeys column

/-- The primary key of the last constraint that declares one. -/
def lastPrimary? (c : CreateTable) : Option (List String) :=
  (c.constraintKeys.filterMap DeclaredKey.primary?).getLast?

/-- Whether a column stays primary: if constraints declare primary keys, the last one counts. -/
def KeepsPrimary (c : CreateTable) (column : String) : Prop :=
  match c.lastPrimary? with
  | some columns => column ∈ columns
  | none => c.DeclaresPrimary column

end CreateTable

end Sql

/-! ## 2. What the reading gains -/

namespace Keys

open DeclaredKey

/-- Unique and foreign keys are followed by those among some declared keys. -/
structure Gains (keys keys' : Keys) (declared : List DeclaredKey) : Prop where
  uniqueKeys : keys'.uniqueKeys = keys.uniqueKeys ++ declared.filterMap unique?
  foreignKeys : keys'.foreignKeys = keys.foreignKeys ++ declared.filterMap foreign?

/-- All declared keys are gained, the columns of primary keys too. -/
structure GainsAll (keys keys' : Keys) (declared : List DeclaredKey) : Prop extends
    Gains keys keys' declared where
  primaryKey : ∀ column, column ∈ keys'.primaryKey ↔ column ∈ keys.primaryKey ∨ IsPrimary declared column

variable {keys keys₁ keys₂ : Keys} {ds es : List DeclaredKey}

theorem Gains.refl (keys : Keys) : Gains keys keys [] := ⟨by simp, by simp⟩

theorem Gains.trans (h : Gains keys keys₁ ds) (h' : Gains keys₁ keys₂ es) : Gains keys keys₂ (ds ++ es) where
  uniqueKeys := by simp [h'.uniqueKeys, h.uniqueKeys]
  foreignKeys := by simp [h'.foreignKeys, h.foreignKeys]

theorem GainsAll.refl (keys : Keys) : GainsAll keys keys [] := ⟨.refl keys, by simp [IsPrimary]⟩

theorem GainsAll.trans (h : GainsAll keys keys₁ ds) (h' : GainsAll keys₁ keys₂ es) :
    GainsAll keys keys₂ (ds ++ es) where
  toGains := h.toGains.trans h'.toGains
  primaryKey column := by rw [h'.primaryKey, h.primaryKey, isPrimary_append, or_assoc]

/-- What each step gains is gained by all steps. -/
theorem gains_foldl {α : Type} {R : Keys → Keys → List DeclaredKey → Prop} (hrefl : ∀ keys, R keys keys [])
    (htrans : ∀ {keys keys₁ keys₂ ds es}, R keys keys₁ ds → R keys₁ keys₂ es → R keys keys₂ (ds ++ es))
    {step : Keys → α → Keys} {declared : α → List DeclaredKey}
    (hstep : ∀ keys x, R keys (step keys x) (declared x)) (xs : List α) (keys : Keys) :
    R keys (xs.foldl step keys) (xs.flatMap declared) := by
  induction xs generalizing keys with
  | nil => exact hrefl keys
  | cons x xs ih => exact htrans (hstep keys x) (ih (step keys x))

theorem gains_afterOption (column : String) (keys : Keys) (o : ColumnOption) :
    Gains keys (keys.afterOption column o) (o.declaredKey? column).toList := by
  cases o with
  | notNull | unique | references | other =>
    constructor <;> simp [afterOption, ColumnOption.declaredKey?, unique?, foreign?]
  | primaryKey rest =>
    simp only [afterOption]
    split <;> constructor <;> simp [ColumnOption.declaredKey?, unique?, foreign?]

/-- An option adds the column that it declares as primary. One that is in the primary key already stays. -/
theorem mem_primaryKey_afterOption (column : String) (keys : Keys) (o : ColumnOption) (c : String) :
    c ∈ (keys.afterOption column o).primaryKey ↔
      c ∈ keys.primaryKey ∨ IsPrimary (o.declaredKey? column).toList c := by
  cases o with
  | notNull | unique | references | other => simp [afterOption, ColumnOption.declaredKey?, IsPrimary]
  | primaryKey rest =>
    have hdeclared : IsPrimary ((ColumnOption.primaryKey rest).declaredKey? column).toList c ↔ c = column := by
      simp [ColumnOption.declaredKey?, IsPrimary]
    simp only [afterOption, hdeclared]
    split
    · rename_i hcolumn
      have hcolumn : column ∈ keys.primaryKey := by simpa using hcolumn
      refine ⟨Or.inl, ?_⟩
      rintro (hc | rfl)
      · exact hc
      · exact hcolumn
    · simp

theorem gainsAll_afterOption (column : String) (keys : Keys) (o : ColumnOption) :
    GainsAll keys (keys.afterOption column o) (o.declaredKey? column).toList :=
  ⟨gains_afterOption column keys o, mem_primaryKey_afterOption column keys o⟩

theorem gainsAll_columns (c : CreateTable) (keys : Keys) :
    GainsAll keys (c.columns.foldl afterColumn keys) c.optionKeys :=
  gains_foldl GainsAll.refl GainsAll.trans
    (fun keys d => gains_foldl GainsAll.refl GainsAll.trans
      (fun keys o => gainsAll_afterOption (lower d.name.value) keys o.2) d.options keys) c.columns keys

theorem gains_afterConstraint (keys : Keys) (k : TableConstraint) :
    Gains keys (keys.afterConstraint k) k.declaredKey?.toList := by
  cases k with
  | other => exact .refl keys
  | primaryKey | unique | foreignKey =>
    constructor <;> simp [afterConstraint, TableConstraint.declaredKey?, unique?, foreign?]

/-- The last primary key of some constraints replaces what was found before. -/
theorem primaryKey_foldl_afterConstraint (ks : List TableConstraint) (keys : Keys) :
    (ks.foldl afterConstraint keys).primaryKey =
      (((ks.flatMap fun k => k.declaredKey?.toList).filterMap primary?).getLast?).getD keys.primaryKey := by
  induction ks generalizing keys with
  | nil => rfl
  | cons k ks ih =>
    rw [List.foldl_cons, ih]
    cases k <;> simp [afterConstraint, TableConstraint.declaredKey?, primary?, List.getLast?_cons]

theorem gains_ofDefinition (c : CreateTable) : Gains ⟨[], [], [], []⟩ (ofDefinition c) c.declaredKeys :=
  (gainsAll_columns c _).toGains.trans
    (gains_foldl Gains.refl Gains.trans gains_afterConstraint c.constraints _)

/-- Without a primary key among the constraints the primary columns are those that options declare. -/
theorem declaresPrimary_iff_of_lastPrimary?_eq_none {c : CreateTable} (h : c.lastPrimary? = none)
    (column : String) : c.DeclaresPrimary column ↔ IsPrimary c.optionKeys column := by
  have hnone : ¬ IsPrimary c.constraintKeys column := by
    rintro ⟨columns, hcolumns, -⟩
    have hnil : c.constraintKeys.filterMap primary? = [] := List.getLast?_eq_none_iff.1 h
    have hprimary := List.filterMap_eq_nil_iff.1 hnil _ hcolumns
    cases hprimary
  rw [CreateTable.DeclaresPrimary, CreateTable.declaredKeys, isPrimary_append, or_iff_left hnone]

theorem mem_primaryKey_ofDefinition (c : CreateTable) (column : String) :
    column ∈ (ofDefinition c).primaryKey ↔ c.KeepsPrimary column := by
  have hlast : (ofDefinition c).primaryKey =
      c.lastPrimary?.getD (c.columns.foldl afterColumn ⟨[], [], [], []⟩).primaryKey :=
    primaryKey_foldl_afterConstraint c.constraints _
  rw [hlast]
  unfold CreateTable.KeepsPrimary
  cases hclause : c.lastPrimary? with
  | some columns => rfl
  | none =>
    have hoptions := (gainsAll_columns c ⟨[], [], [], []⟩).primaryKey column
    rw [declaresPrimary_iff_of_lastPrimary?_eq_none hclause]
    simpa using hoptions

end Keys

/-! ## 3. Tables -/

/-- A table has the unique and foreign keys that a definition declares. Its primary key, and the columns that are
marked as such, are those that are primary in a given sense. -/
structure Table.HasKeys (t : Table) (c : CreateTable) (isPrimary : String → Prop) : Prop where
  primaryKey : ∀ column, column ∈ t.primaryKey ↔ isPrimary column
  uniqueKeys : t.uniqueKeys = c.declaredKeys.filterMap DeclaredKey.unique?
  foreignKeys : t.foreignKeys = c.declaredKeys.filterMap DeclaredKey.foreign?
  columns : List.Forall₂ (fun d column => column.name = lower d.name.value ∧
    (column.isPrimaryKey = true ↔ isPrimary column.name) ∧
    (column.isPrimaryKey = true → column.nullable = false)) c.columns t.columns

namespace Table

/-- In every table the columns that stay primary are the primary key. -/
theorem hasKeys_ofDefinition (c : CreateTable) : (ofDefinition c).HasKeys c c.KeepsPrimary where
  primaryKey := Keys.mem_primaryKey_ofDefinition c
  uniqueKeys := (Keys.gains_ofDefinition c).uniqueKeys
  foreignKeys := (Keys.gains_ofDefinition c).foreignKeys
  columns := by
    rw [ofDefinition, List.forall₂_map_right_iff, List.forall₂_same]
    intro d hd
    refine ⟨rfl, ?_, ?_⟩
    · rw [← Keys.mem_primaryKey_ofDefinition]
      simp [Keys.column]
    · intro hprimary
      simp_all [Keys.column]

/-- Nothing is primary that is not declared so. -/
theorem declaresPrimary_of_keepsPrimary {c : CreateTable} {column : String} (h : c.KeepsPrimary column) :
    c.DeclaresPrimary column := by
  unfold CreateTable.KeepsPrimary at h
  cases hlast : c.lastPrimary? with
  | none => simpa [hlast] using h
  | some columns =>
    obtain ⟨key, hkey, hcolumns⟩ := List.mem_filterMap.1 (List.mem_of_getLast? hlast)
    have hprimary : key = .primary columns := by cases key <;> simp_all [DeclaredKey.primary?]
    refine ⟨columns, ?_, by simpa [hlast] using h⟩
    exact List.mem_append_right _ (hprimary ▸ hkey)

/-- **When the keys of a table are all that are declared.** Unique and foreign keys are those that options and
constraints declare, in order, and what is marked as primary is in the primary key and is not nullable. The
columns of the primary key are those of the last constraint that declares one, or, if none does, those with an
option. So they are all that are declared as primary just if the last such constraint has them all. -/
theorem hasKeys_ofDefinition_iff (c : CreateTable) :
    (ofDefinition c).HasKeys c c.KeepsPrimary ∧
    ((ofDefinition c).HasKeys c c.DeclaresPrimary ↔
      ∀ columns, c.lastPrimary? = some columns → ∀ column, c.DeclaresPrimary column → column ∈ columns) := by
  refine ⟨hasKeys_ofDefinition c, ?_, ?_⟩
  · intro h columns hlast column hdeclared
    have hkeeps := (Keys.mem_primaryKey_ofDefinition c column).1 ((h.primaryKey column).2 hdeclared)
    simpa [CreateTable.KeepsPrimary, hlast] using hkeeps
  · intro h
    have hsame : c.KeepsPrimary = c.DeclaresPrimary := by
      funext column
      refine propext ⟨declaresPrimary_of_keepsPrimary, fun hdeclared => ?_⟩
      unfold CreateTable.KeepsPrimary
      cases hlast : c.lastPrimary? with
      | none => exact hdeclared
      | some columns => exact h columns hlast column hdeclared
    rw [← hsame]
    exact hasKeys_ofDefinition c

/-- `CREATE TABLE t (a INT PRIMARY KEY, b INT, PRIMARY KEY (b))` -/
def replacedKey : CreateTable where
  verb := "CREATE TABLE "
  name := [⟨"t", none⟩]
  beforeColumns := ""
  columns := [⟨⟨"a", none⟩, "INT", "", [(none, .primaryKey "")]⟩, ⟨⟨"b", none⟩, "INT", "", []⟩]
  constraints := [.primaryKey none [⟨"b", none⟩] ""]
  showsEmptyList := true
  rest := ""

/-- The column `a` is declared as the primary key, but the constraint puts `b` in its place, so `a` may be
null. -/
theorem primaryKey_replaced :
    Catalog.definitionsIn .postgres ["CREATE TABLE t (a INT PRIMARY KEY, b INT, PRIMARY KEY (b))"] =
      [replacedKey] ∧
      replacedKey.DeclaresPrimary "a" ∧ (ofDefinition replacedKey).primaryKey = ["b"] ∧
      (ofDefinition replacedKey).columns.map (fun c => (c.name, c.isPrimaryKey, c.nullable)) =
        [("a", false, true), ("b", true, false)] ∧
      ¬ (ofDefinition replacedKey).HasKeys replacedKey replacedKey.DeclaresPrimary := by
  have hdeclared : replacedKey.DeclaresPrimary "a" := ⟨["a"], by decide, by decide⟩
  have hprimary : (ofDefinition replacedKey).primaryKey = ["b"] := by decide
  refine ⟨by decide +kernel, hdeclared, hprimary, by decide, fun h => ?_⟩
  have hmem := (h.primaryKey "a").2 hdeclared
  rw [hprimary] at hmem
  exact absurd hmem (by decide)

end Table

end QueryDrill
