import QueryDrill.Constraint.Query
import QueryDrill.Proofs.Outline.Inner
/-!
Constraints on the main query do not see the queries nested in it.
-/

namespace QueryDrill

open Sql Text

/-! ## 1. Selected columns -/

namespace QueryConstraint

variable (f : Query → Query) (catalog : Catalog) (b : Block)

theorem selectedBy_mapQueries : selectedBy catalog (b.mapQueries f) = selectedBy catalog b := by
  funext c
  unfold selectedBy onlyOwner
  rw [Block.tables_mapQueries]

/-- What is read of output columns without their names does not change with the queries in a block. -/
theorem map_outputColumns_mapQueries {β : Type} {g : OutputColumn → β}
    (h : ∀ c, g c.unnamed = g c) :
    (b.mapQueries f).outputColumns.map g = b.outputColumns.map g := by
  have hg : g = g ∘ OutputColumn.unnamed := funext fun c => (h c).symm
  rw [hg, ← List.map_map, Block.outputColumns_mapQueries, List.map_map]

@[simp] theorem selectedColumnsOf_mapQueries :
    selectedColumnsOf catalog (b.mapQueries f) = selectedColumnsOf catalog b := by
  rw [selectedColumnsOf, selectedColumnsOf, List.flatMap_def, List.flatMap_def, selectedBy_mapQueries,
    map_outputColumns_mapQueries f b fun _ => rfl]

@[simp] theorem selectsKey_mapQueries : selectsKey catalog (b.mapQueries f) = selectsKey catalog b := by
  rw [selectsKey, selectsKey, selectedColumnsOf_mapQueries, Block.tables_mapQueries]

@[simp] theorem guaranteesUnique_mapQueries (countsDistinct : Bool) :
    guaranteesUnique catalog countsDistinct (b.mapQueries f) =
      guaranteesUnique catalog countsDistinct b := by
  have hcolumns := congrArg (List.all · id) (map_outputColumns_mapQueries f b
    (g := fun c => c.realName.isNone && !c.isWildcard) fun _ => rfl)
  simp only [List.all_map, Function.id_comp] at hcolumns
  rw [guaranteesUnique, guaranteesUnique, hcolumns, Block.isDistinct_mapQueries,
    Block.hasGroupBy_mapQueries, Block.aggregateCalls_mapQueries, selectsKey_mapQueries]

@[simp] theorem countP_isAliased_mapQueries :
    (b.mapQueries f).outputColumns.countP OutputColumn.isAliased =
      b.outputColumns.countP OutputColumn.isAliased := by
  have haliased := congrArg (List.countP id)
    (map_outputColumns_mapQueries f b (g := OutputColumn.isAliased) fun _ => rfl)
  simpa only [List.countP_map, Function.id_comp] using haliased

/-! ## 2. Checks -/

/-- Changes in `SELECT`s do not touch the outermost operation. -/
theorem removesDuplicates_mapMain {onSelect : Select → Select} {onKey : Expr → Expr} {o o' : Outline}
    (h : o'.query = o.query.mapMain onSelect onKey) : removesDuplicates o' = removesDuplicates o := by
  rw [removesDuplicates, removesDuplicates, h, o.query.body_mapMain]
  cases o.query.body <;> rw [Body.mapMain]

section Checks

variable {o o' : Outline} (h : o'.query = o.query.mapInner f)

include h

theorem checkJoins_mapInner (bounds : Bounds) (kinds : List JoinKind) :
    checkJoins o' bounds kinds = checkJoins o bounds kinds := by
  have hjoins : o'.mainBlocks.flatMap Block.joins = o.mainBlocks.flatMap Block.joins := by
    simp [Outline.mainBlocks_mapInner h, List.flatMap_map]
  rw [checkJoins, checkJoins, hjoins]

theorem checkConditions_mapInner (bounds : Bounds) :
    checkConditions o' bounds = checkConditions o bounds := by
  simp [checkConditions, Outline.mainBlocks_mapInner h, Function.comp_def]

theorem checkAggregations_mapInner (bounds : Bounds) (functions : List String) :
    checkAggregations o' bounds functions = checkAggregations o bounds functions := by
  have hcalls :
      o'.mainBlocks.flatMap Block.aggregateCalls = o.mainBlocks.flatMap Block.aggregateCalls := by
    simp [Outline.mainBlocks_mapInner h, List.flatMap_map]
  rw [checkAggregations, checkAggregations, hcalls]

theorem checkGroupBy_mapInner (state : Presence) (min : Nat) :
    checkGroupBy o' state min = checkGroupBy o state min := by
  simp [checkGroupBy, Outline.mainBlocks_mapInner h, List.filter_map, Function.comp_def]

theorem checkHaving_mapInner (state : Presence) (min : Nat) :
    checkHaving o' state min = checkHaving o state min := by
  simp [checkHaving, Outline.mainBlocks_mapInner h, List.filter_map, Function.comp_def]

theorem checkOrderBy_mapInner (state : Presence) (min : Nat) :
    checkOrderBy o' state min = checkOrderBy o state min := by
  simp [checkOrderBy, Outline.mainBlocks_mapInner h, List.filter_map, Function.comp_def]

theorem checkDistinct_mapInner (state : Presence) : checkDistinct o' state = checkDistinct o state := by
  simp [checkDistinct, Outline.mainBlocks_mapInner h, Function.comp_def]

theorem removesDuplicates_mapInner : removesDuplicates o' = removesDuplicates o :=
  removesDuplicates_mapMain (h.trans (o.query.mapInner_eq_mapMain f))

theorem checkDuplicates_mapInner (mode : DuplicateMode) :
    checkDuplicates o' catalog mode = checkDuplicates o catalog mode := by
  simp [checkDuplicates, Outline.mainBlocks_mapInner h, removesDuplicates_mapInner f h, List.filter_map,
    Function.comp_def]

theorem checkAliases_mapInner (min : Nat) : checkAliases o' min = checkAliases o min := by
  have haliased : o'.outputColumns.countP OutputColumn.isAliased =
      o.outputColumns.countP OutputColumn.isAliased := by
    rw [Outline.outputColumns, Outline.outputColumns, Outline.mainBlock?_mapInner h]
    cases o.mainBlock? <;> simp
  rw [checkAliases, checkAliases, haliased]

theorem checkSelectedColumns_mapInner (bounds : Bounds) :
    checkSelectedColumns o' catalog bounds = checkSelectedColumns o catalog bounds := by
  rw [checkSelectedColumns, checkSelectedColumns, Outline.mainBlock?_mapInner h]
  cases o.mainBlock? <;> simp

theorem checkForeignKeyProjection_mapInner (state : Presence) :
    checkForeignKeyProjection o' catalog state = checkForeignKeyProjection o catalog state := by
  rw [checkForeignKeyProjection, checkForeignKeyProjection, Outline.mainBlock?_mapInner h]
  cases o.mainBlock? <;> simp

end Checks

/-! ## 3. Constraints -/

/-- Whether a constraint is on the main query alone. -/
def readsMain : QueryConstraint → Bool
  | joins .. => true
  | conditions _ => true
  | aggregations .. => true
  | groupBy .. => true
  | having .. => true
  | orderBy .. => true
  | distinct _ => true
  | duplicates _ => true
  | columnAliases _ => true
  | selectedColumns _ => true
  | foreignKeyProjection _ => true
  | tables _ => false
  | repeatedColumnConditions _ => false
  | subqueries .. => false
  | wildcardLength _ => false
  | wildcardCharacters _ => false
  | unionBalance => false
  | setOperations .. => false
  | nullChecks _ => false

/-- Other queries inside the main one change nothing that a constraint on the main query observes. -/
theorem check_mapInner {o o' : Outline} (h : o'.query = o.query.mapInner f) {c : QueryConstraint}
    (hc : c.readsMain = true) : c.check o' catalog = c.check o catalog := by
  cases c with
  | joins bounds kinds => exact checkJoins_mapInner f h bounds kinds
  | conditions bounds => exact checkConditions_mapInner f h bounds
  | aggregations bounds functions => exact checkAggregations_mapInner f h bounds functions
  | groupBy state min => exact checkGroupBy_mapInner f h state min
  | having state min => exact checkHaving_mapInner f h state min
  | orderBy state min => exact checkOrderBy_mapInner f h state min
  | distinct state => exact checkDistinct_mapInner f h state
  | duplicates mode => exact checkDuplicates_mapInner f catalog h mode
  | columnAliases min => exact checkAliases_mapInner f h min
  | selectedColumns bounds => exact checkSelectedColumns_mapInner f catalog h bounds
  | foreignKeyProjection state => exact checkForeignKeyProjection_mapInner f catalog h state
  | tables | repeatedColumnConditions | subqueries | wildcardLength | wildcardCharacters | unionBalance
  | setOperations | nullChecks => cases hc

/-- `SELECT * FROM a WHERE EXISTS (q)` -/
def whereExists (q : Query) : Outline where
  text := ""
  dialect := .postgres
  query := ⟨false, [], .select ⟨none, none, [.wildcard [] []], none,
    [⟨.table [⟨"a", none⟩] [] none none [], []⟩], [], some (.subquery .exists q), false, [], [], [], [], none,
    [], none⟩, [], none, [], none, none, []⟩

/-- `SELECT * FROM a WHERE EXISTS (SELECT * FROM a WHERE EXISTS (SELECT * FROM a WHERE EXISTS (q)))` -/
def whereExistsThrice (q : Query) : Outline := whereExists (whereExists (whereExists q).query).query

/-- Constraints on the main query are blind to what is nested in it: of two queries that are the same but
for the queries inside their main `SELECT`s and their sort keys, both meet such a constraint or both violate
it in the same words, however many blocks those inner queries have. -/
theorem validate_blind {o o' : Outline} (h : o.query.SameOutside o'.query) {c : QueryConstraint}
    (hc : c.readsMain = true) (catalog : Catalog) (l : Language) :
    c.validate o catalog l = c.validate o' catalog l := by
  have hquery : (Outline.mk o.text o.dialect (o.query.mapInner fun _ => .blank)).query =
      o'.query.mapInner fun _ => .blank := h
  have hcheck : c.check o catalog = c.check o' catalog :=
    (check_mapInner (fun _ => .blank) catalog rfl hc).symm.trans
      (check_mapInner (fun _ => .blank) catalog hquery hc)
  rw [validate, validate, hcheck]

/-- A query with two more blocks inside the main one has as many conditions. -/
theorem validate_blind_whereExists :
    (whereExists .blank).query.SameOutside (whereExistsThrice .blank).query ∧
      (whereExists .blank).selectCount = 1 ∧ (whereExistsThrice .blank).selectCount = 3 ∧
      (conditions (.atLeast 2)).validate (whereExists .blank) .empty .english =
        (conditions (.atLeast 2)).validate (whereExistsThrice .blank) .empty .english := by
  have hsame : (whereExists .blank).query.SameOutside (whereExistsThrice .blank).query :=
    Query.sameOutside_mapInner (fun q => (whereExists (whereExists q).query).query) (whereExists .blank).query
  refine ⟨hsame, ?_, ?_, validate_blind hsame rfl .empty .english⟩
  all_goals decide +kernel

end QueryConstraint

end QueryDrill
