import QueryDrill.Constraint.Query
import QueryDrill.Constraint.Schema
import QueryDrill.Proofs.Outline.Lowering
import QueryDrill.Proofs.Schema.Lowering
/-!
The case of names never matters.

Each check observes of a query what it observes of the lowered query (`QueryConstraint.check_lowered`), and
definitions and insertions make the same catalog and the same row counts as their lowered forms. So two
queries over two schemas that are the same but for the case of names are validated alike, observed texts
included (`validate_recased`).
-/

namespace QueryDrill

open Sql Text

namespace QueryConstraint

/-! ## 1. Selected columns -/

section Blocks

variable (catalog : Catalog) (b : Block)

/-- What is read of output columns as checks read them is read alike of the lowered block. -/
theorem map_outputColumns_lowered {β : Type} {g : OutputColumn → β} (h : ∀ c, g c.lowered = g c) :
    b.lowered.outputColumns.map g = b.outputColumns.map g := by
  have hg : g = g ∘ OutputColumn.lowered := funext fun c => (h c).symm
  rw [hg, ← List.map_map, b.outputColumns_lowered, List.map_map]

theorem selectedBy_lowered : selectedBy catalog b.lowered = selectedBy catalog b := by
  funext c
  unfold selectedBy onlyOwner
  rw [b.tables_lowered]

@[simp] theorem selectedColumnsOf_lowered :
    selectedColumnsOf catalog b.lowered = selectedColumnsOf catalog b := by
  rw [selectedColumnsOf, selectedColumnsOf, List.flatMap_def, List.flatMap_def, selectedBy_lowered,
    map_outputColumns_lowered b fun _ => rfl]

@[simp] theorem selectsKey_lowered : selectsKey catalog b.lowered = selectsKey catalog b := by
  rw [selectsKey, selectsKey, selectedColumnsOf_lowered, b.tables_lowered]

@[simp] theorem guaranteesUnique_lowered (countsDistinct : Bool) :
    guaranteesUnique catalog countsDistinct b.lowered = guaranteesUnique catalog countsDistinct b := by
  have hcolumns := congrArg (List.all · id) (map_outputColumns_lowered b
    (g := fun c => c.realName.isNone && !c.isWildcard) fun _ => rfl)
  simp only [List.all_map, Function.id_comp] at hcolumns
  rw [guaranteesUnique, guaranteesUnique, hcolumns, b.isDistinct_lowered, b.hasGroupBy_lowered,
    b.aggregateCalls_lowered, selectsKey_lowered]

end Blocks

/-! ## 2. Checks -/

section Checks

variable {o o' : Outline} (h : o'.query = o.query.lowered) (catalog : Catalog)

include h

theorem checkTables_lowered (bounds : Bounds) : checkTables o' bounds = checkTables o bounds := by
  rw [checkTables, checkTables, Outline.tables_lowered h]

theorem checkJoins_lowered (bounds : Bounds) (kinds : List JoinKind) :
    checkJoins o' bounds kinds = checkJoins o bounds kinds := by
  have hjoins : o'.mainBlocks.flatMap Block.joins = o.mainBlocks.flatMap Block.joins := by
    simp [Outline.mainBlocks_lowered h, List.flatMap_map]
  rw [checkJoins, checkJoins, hjoins]

theorem checkConditions_lowered (bounds : Bounds) : checkConditions o' bounds = checkConditions o bounds := by
  simp [checkConditions, Outline.mainBlocks_lowered h, Function.comp_def]

theorem checkRepeatedColumns_lowered (min : Nat) :
    checkRepeatedColumns o' min = checkRepeatedColumns o min := by
  have hcolumns : (o'.blocks.flatMap fun k => k.wherePredicate.repeatedColumns) =
      o.blocks.flatMap fun k => k.wherePredicate.repeatedColumns := by
    simp [Outline.blocks_lowered h, List.flatMap_map]
  rw [checkRepeatedColumns, checkRepeatedColumns, hcolumns]

theorem checkAggregations_lowered (bounds : Bounds) (functions : List String) :
    checkAggregations o' bounds functions = checkAggregations o bounds functions := by
  have hcalls : o'.mainBlocks.flatMap Block.aggregateCalls = o.mainBlocks.flatMap Block.aggregateCalls := by
    simp [Outline.mainBlocks_lowered h, List.flatMap_map]
  rw [checkAggregations, checkAggregations, hcalls]

theorem checkGroupBy_lowered (state : Presence) (min : Nat) :
    checkGroupBy o' state min = checkGroupBy o state min := by
  simp [checkGroupBy, Outline.mainBlocks_lowered h, List.filter_map, Function.comp_def,
    Select.groupsAll_lowered, Select.groupBy_lowered]

theorem checkHaving_lowered (state : Presence) (min : Nat) :
    checkHaving o' state min = checkHaving o state min := by
  simp [checkHaving, Outline.mainBlocks_lowered h, List.filter_map, Function.comp_def,
    Select.having_lowered]

theorem checkOrderBy_lowered (state : Presence) (min : Nat) :
    checkOrderBy o' state min = checkOrderBy o state min := by
  simp [checkOrderBy, Outline.mainBlocks_lowered h, List.filter_map, Function.comp_def]

theorem checkDistinct_lowered (state : Presence) : checkDistinct o' state = checkDistinct o state := by
  simp [checkDistinct, Outline.mainBlocks_lowered h, Function.comp_def]

/-- Depths stay, and with them all that is counted by depth. -/
theorem checkSubqueries_lowered (bounds : Bounds) (nesting : Nesting) :
    checkSubqueries o' bounds nesting = checkSubqueries o bounds nesting := by
  have hcount (p : Nat → Bool) :
      (o'.blocks.countP fun b => p b.depth) = o.blocks.countP fun b => p b.depth := by
    rw [Outline.blocks_lowered h, List.countP_map]
    rfl
  have htotal : o'.subqueryCount = o.subqueryCount := hcount fun n => decide (2 ≤ n)
  have htop : o'.topSubqueryCount = o.topSubqueryCount := hcount fun n => n == 2
  have hdepth : o'.maxDepth = o.maxDepth := by
    rw [Outline.maxDepth, Outline.blocks_lowered h, List.foldl_map]
    rfl
  have hnested : o'.hasNestedSubqueries = o.hasNestedSubqueries := by
    rw [Outline.hasNestedSubqueries, Outline.hasNestedSubqueries, htotal, htop]
  simp only [checkSubqueries, htotal, htop, hdepth, hnested]

theorem removesDuplicates_lowered : removesDuplicates o' = removesDuplicates o := by
  rw [removesDuplicates, removesDuplicates, h, o.query.body_lowered]
  cases o.query.body <;> simp [Body.lowered]

theorem checkDuplicates_lowered (mode : DuplicateMode) :
    checkDuplicates o' catalog mode = checkDuplicates o catalog mode := by
  simp [checkDuplicates, Outline.mainBlocks_lowered h, removesDuplicates_lowered h, List.filter_map,
    Function.comp_def]

theorem checkAliases_lowered (min : Nat) : checkAliases o' min = checkAliases o min := by
  have haliased := congrArg (List.countP OutputColumn.isAliased) (Outline.outputColumns_lowered h)
  simp only [List.countP_map, Function.comp_def, OutputColumn.isAliased_lowered] at haliased
  rw [checkAliases, checkAliases, haliased]

theorem checkSelectedColumns_lowered (bounds : Bounds) :
    checkSelectedColumns o' catalog bounds = checkSelectedColumns o catalog bounds := by
  rw [checkSelectedColumns, checkSelectedColumns, Outline.mainBlock?_lowered h]
  cases o.mainBlock? <;> simp

theorem checkForeignKeyProjection_lowered (state : Presence) :
    checkForeignKeyProjection o' catalog state = checkForeignKeyProjection o catalog state := by
  rw [checkForeignKeyProjection, checkForeignKeyProjection, Outline.mainBlock?_lowered h]
  cases o.mainBlock? <;> simp

theorem checkNullChecks_lowered (state : Presence) : checkNullChecks o' state = checkNullChecks o state := by
  have hchecks : o'.blocks.map Block.nullChecks = o.blocks.map Block.nullChecks := by
    simp [Outline.blocks_lowered h, Function.comp_def]
  rw [checkNullChecks, checkNullChecks, hchecks]

/-- Whatever is asked, the same is observed of the lowered query. -/
theorem check_lowered (c : QueryConstraint) : c.check o' catalog = c.check o catalog := by
  cases c with
  | tables bounds => exact checkTables_lowered h bounds
  | joins bounds kinds => exact checkJoins_lowered h bounds kinds
  | conditions bounds => exact checkConditions_lowered h bounds
  | repeatedColumnConditions min => exact checkRepeatedColumns_lowered h min
  | aggregations bounds functions => exact checkAggregations_lowered h bounds functions
  | groupBy state min => exact checkGroupBy_lowered h state min
  | having state min => exact checkHaving_lowered h state min
  | orderBy state min => exact checkOrderBy_lowered h state min
  | distinct state => exact checkDistinct_lowered h state
  | subqueries bounds nesting => exact checkSubqueries_lowered h bounds nesting
  | duplicates mode => exact checkDuplicates_lowered h catalog mode
  | columnAliases min => exact checkAliases_lowered h min
  | selectedColumns bounds => exact checkSelectedColumns_lowered h catalog bounds
  | wildcardLength bounds =>
    rw [check, check, checkWildcardLength, checkWildcardLength, Outline.likePatterns_lowered h]
  | wildcardCharacters required =>
    rw [check, check, checkWildcardCharacters, checkWildcardCharacters, Outline.likePatterns_lowered h]
  | unionBalance => rw [check, check, checkUnionBalance, checkUnionBalance, Outline.setOperations_lowered h]
  | setOperations min kinds =>
    rw [check, check, checkSetOperations, checkSetOperations, Outline.setOperations_lowered h]
  | foreignKeyProjection state => exact checkForeignKeyProjection_lowered h catalog state
  | nullChecks state => exact checkNullChecks_lowered h state

end Checks

theorem check_recased {o o' : Outline} (h : o.query.Recased o'.query) (catalog : Catalog)
    (c : QueryConstraint) : c.check o catalog = c.check o' catalog := by
  have hlowered : (Outline.mk o.text o.dialect o.query.lowered).query = o'.query.lowered := h
  exact (check_lowered (o := o) rfl catalog c).symm.trans (check_lowered hlowered catalog c)

end QueryConstraint

/-! ## 3. Validation -/

section Validation

variable {o o' : Outline} {definitions definitions' : List CreateTable}
  {insertions insertions' : List Insertion}

/-- **The case of names never matters.** Statements that define tables and insert rows are read as a catalog and
as row counts. If a query and such statements are the same as others but for the case of names, then each
constraint is met by both or violated by both in the same words. -/
theorem validate_recased (hquery : o.query.Recased o'.query)
    (hdefinitions : List.Forall₂ CreateTable.Recased definitions definitions')
    (hinsertions : List.Forall₂ Insertion.Recased insertions insertions') (l : Language) :
    ∃ catalog catalog' counts counts',
      (definitions.map Statement.createTable).foldlM Catalog.afterStatement .empty = .ok catalog ∧
      (definitions'.map Statement.createTable).foldlM Catalog.afterStatement .empty = .ok catalog' ∧
      (insertions.map Statement.insert).foldlM RowCounts.afterStatement .empty = .ok counts ∧
      (insertions'.map Statement.insert).foldlM RowCounts.afterStatement .empty = .ok counts' ∧
      (∀ c : QueryConstraint, c.validate o catalog l = c.validate o' catalog' l) ∧
      ∀ c : SchemaConstraint, c.validate catalog counts l = c.validate catalog' counts' l := by
  refine ⟨_, _, _, _, Catalog.foldlM_afterStatement definitions, Catalog.foldlM_afterStatement definitions',
    RowCounts.foldlM_afterStatement insertions, RowCounts.foldlM_afterStatement insertions', ?query, ?schema⟩
  case query =>
    intro c
    rw [Catalog.ofDefinitions_recased hdefinitions]
    exact QueryConstraint.validate_eq_iff.mpr (QueryConstraint.check_recased hquery _ c)
  case schema =>
    intro c
    rw [Catalog.ofDefinitions_recased hdefinitions, RowCounts.ofInsertions_recased hinsertions]

end Validation

/-- `SELECT table.column FROM table` -/
def columnOfTable (table column : String) : Outline where
  text := ""
  dialect := .postgres
  query := ⟨false, [], .select ⟨none, none, [.expr (.column [⟨table, none⟩, ⟨column, none⟩]) none], none,
    [⟨.table [⟨table, none⟩] [] none none [], []⟩], [], none, false, [], [], [], [], none, [], none⟩,
    [], none, [], none, none, []⟩

/-- `CREATE TABLE table (column INT PRIMARY KEY)` -/
def tableOfColumn (table column : String) : CreateTable :=
  ⟨"CREATE TABLE", [⟨table, none⟩], "", [⟨⟨column, none⟩, "INT", "", [(none, .primaryKey "")]⟩], [], false,
    ""⟩

/-- `INSERT INTO table DEFAULT VALUES` -/
def rowOfTable (table : String) : Insertion :=
  ⟨"INSERT INTO", [⟨table, none⟩], none, [], none, [], [], [], []⟩

/-- The last letter of `ΟΔΟΣ` has another lower-case form than the same letter inside a word. -/
theorem validate_recased_streets :
    (columnOfTable "ΟΔΟΣ" "ID").query.Recased (columnOfTable "οδος" "Id").query ∧
      ∃ catalog catalog' counts counts',
        [Statement.createTable (tableOfColumn "Οδος" "id")].foldlM Catalog.afterStatement .empty = .ok catalog ∧
        [Statement.createTable (tableOfColumn "ΟΔΟΣ" "iD")].foldlM Catalog.afterStatement .empty = .ok catalog' ∧
        [Statement.insert (rowOfTable "ΟΔΟΣ")].foldlM RowCounts.afterStatement .empty = .ok counts ∧
        [Statement.insert (rowOfTable "Οδος")].foldlM RowCounts.afterStatement .empty = .ok counts' ∧
        (∀ c : QueryConstraint, c.validate (columnOfTable "ΟΔΟΣ" "ID") catalog .english =
          c.validate (columnOfTable "οδος" "Id") catalog' .english) ∧
        ∀ c : SchemaConstraint, c.validate catalog counts .english = c.validate catalog' counts' .english := by
  have hquery : (columnOfTable "ΟΔΟΣ" "ID").query.Recased (columnOfTable "οδος" "Id").query := by
    have htable : lower "ΟΔΟΣ" = lower "οδος" := by decide +kernel
    have hcolumn : lower "ID" = lower "Id" := by decide +kernel
    simp [Query.Recased, columnOfTable, Query.lowered, Body.lowered, Select.lowered, loweredItems,
      Expr.lowered, loweredSources, FromItem.lowered, TableFactor.lowered, Name.lowered, Ident.lowered,
      htable, hcolumn]
  have hdefinition : (tableOfColumn "Οδος" "id").Recased (tableOfColumn "ΟΔΟΣ" "iD") := by
    unfold CreateTable.Recased
    decide +kernel
  have hinsertion : (rowOfTable "ΟΔΟΣ").Recased (rowOfTable "Οδος") := by
    have htable : lower "ΟΔΟΣ" = lower "Οδος" := by decide +kernel
    simp [Insertion.Recased, rowOfTable, Insertion.lowered, Name.lowered, Ident.lowered, htable]
  exact ⟨hquery, validate_recased hquery (.cons hdefinition .nil) (.cons hinsertion .nil) .english⟩

end QueryDrill
