import QueryDrill.Proofs.Outline.Main
import QueryDrill.Proofs.Sql.Replacement
/-!
The main blocks of a query, and other queries in place of those nested in it.

`Query.mapInner` puts other queries in place of those that stand in the main `SELECT`s and in their sort keys.
What the main blocks tell of themselves does not depend on the queries inside them (`Block.mapQueries`), and
the main blocks of the new query are the old ones with the new queries in them (`mainBlocks_mapInner`).
Numbers of blocks do change: they count the blocks of the nested queries too.
-/

namespace QueryDrill

open Sql Text

namespace Sql

/-! ## 1. Other queries inside the main ones -/

mutual

/-- A query with other queries inside its main `SELECT`s and its sort keys. -/
def Query.mapInner (f : Query → Query) : Query → Query
  | ⟨recursive, ctes, body, orderBy, limit, limitBy, offset, fetch, locks⟩ =>
    ⟨recursive, ctes, body.mapInner f, mapQueriesKeys f orderBy, limit, limitBy, offset, fetch, locks⟩

/-- A body with other queries inside its main `SELECT`s. -/
def Body.mapInner (f : Query → Query) : Body → Body
  | .select s => .select (s.mapQueries f)
  | .paren q => .paren (q.mapInner f)
  | .setOperation op quantifier l r => .setOperation op quantifier (l.mapInner f) (r.mapInner f)
  | .values rows => .values rows
  | .table name => .table name
  | .insert i => .insert i
  | .update u => .update u
  | .toDirectory words q => .toDirectory words q

end

/-- A query that stands in place of any other. -/
def Query.blank : Query := ⟨false, [], .values [], [], none, [], none, none, []⟩

/-- Two queries are the same but for the queries inside their main `SELECT`s and their sort keys. -/
def Query.SameOutside (q p : Query) : Prop :=
  q.mapInner (fun _ => .blank) = p.mapInner (fun _ => .blank)

mutual

theorem Query.mapInner_mapInner (f g : Query → Query) (q : Query) :
    (q.mapInner f).mapInner g = q.mapInner (g ∘ f) := by
  match q with
  | ⟨_, _, body, orderBy, _, _, _, _, _⟩ =>
    simp [Query.mapInner, body.mapInner_mapInner f g, mapQueriesKeys_mapQueriesKeys]

theorem Body.mapInner_mapInner (f g : Query → Query) (b : Body) :
    (b.mapInner f).mapInner g = b.mapInner (g ∘ f) := by
  cases b with
  | select s => simp [Body.mapInner, s.mapQueries_mapQueries]
  | paren q => simp [Body.mapInner, q.mapInner_mapInner f g]
  | setOperation _ _ l r => simp [Body.mapInner, l.mapInner_mapInner f g, r.mapInner_mapInner f g]
  | values | table | insert | update | toDirectory => simp [Body.mapInner]

end

/-- Whatever stands in place of the inner queries, the query around them is the same. -/
theorem Query.sameOutside_mapInner (f : Query → Query) (q : Query) : q.SameOutside (q.mapInner f) :=
  (q.mapInner_mapInner f fun _ => .blank).symm

end Sql

/-! ## 2. Sources and columns -/

section Blocks

variable (f : Query → Query)

mutual

theorem sourceTables_mapQueries (t : TableFactor) : sourceTables (t.mapQueries f) = sourceTables t := by
  cases t with
  | table | derived | computed | turned => rfl
  | joined item => simp [TableFactor.mapQueries, sourceTables, itemTables_mapQueries item]

theorem itemTables_mapQueries (i : FromItem) : itemTables (i.mapQueries f) = itemTables i := by
  match i with
  | ⟨relation, joins⟩ =>
    simp [FromItem.mapQueries, itemTables, sourceTables_mapQueries relation, joinedTables_mapQueries joins]

theorem joinedTables_mapQueries (js : List Join) : joinedTables (mapQueriesJoins f js) = joinedTables js := by
  match js with
  | [] => rfl
  | ⟨relation, _, _⟩ :: js =>
    simp [mapQueriesJoins, joinedTables, sourceTables_mapQueries relation, joinedTables_mapQueries js]

end

mutual

theorem sourceJoins_mapQueries (t : TableFactor) : sourceJoins (t.mapQueries f) = sourceJoins t := by
  cases t with
  | table | derived | computed | turned => rfl
  | joined item => simp [TableFactor.mapQueries, sourceJoins, itemJoins_mapQueries item]

theorem itemJoins_mapQueries (i : FromItem) : itemJoins (i.mapQueries f) = itemJoins i := by
  match i with
  | ⟨relation, joins⟩ =>
    simp [FromItem.mapQueries, itemJoins, sourceJoins_mapQueries relation, chainJoins_mapQueries joins]

theorem chainJoins_mapQueries (js : List Join) : chainJoins (mapQueriesJoins f js) = chainJoins js := by
  match js with
  | [] => rfl
  | ⟨relation, _, _⟩ :: js =>
    simp [mapQueriesJoins, chainJoins, sourceJoins_mapQueries relation, chainJoins_mapQueries js]

end

theorem listJoins_mapQueries (is : List FromItem) :
    listJoins (is.map (FromItem.mapQueries f)) = listJoins is := by
  match is with
  | [] => rfl
  | [i] => simp [listJoins, itemJoins_mapQueries f i]
  | i :: j :: is =>
    change itemJoins (i.mapQueries f) ++ .implicit :: listJoins ((j :: is).map (FromItem.mapQueries f)) =
      itemJoins i ++ .implicit :: listJoins (j :: is)
    rw [itemJoins_mapQueries f i, listJoins_mapQueries (j :: is)]

/-- An output column without the name that the result shows. -/
def OutputColumn.unnamed (c : OutputColumn) : OutputColumn := { c with name := "" }

/-- Other queries change at most the name of a column, which can be the text of its expression. -/
theorem outputColumn_mapQueries (tables : List TableRef) (i : SelectItem) :
    (outputColumn tables (i.mapQueries f)).unnamed = (outputColumn tables i).unnamed := by
  match i with
  | .expr e label => simp [SelectItem.mapQueries, outputColumn, OutputColumn.unnamed]
  | .wildcard [] options => rfl
  | .wildcard (n :: ns) options => rfl

/-! ## 3. Predicates and calls -/

@[simp] theorem isConjunction_mapQueries (e : Expr) : isConjunction (e.mapQueries f) = isConjunction e := by
  cases e with
  | binary _ op _ => cases op <;> rfl
  | _ => rfl

@[simp] theorem isConnective_mapQueries (e : Expr) : isConnective (e.mapQueries f) = isConnective e := by
  cases e with
  | binary _ op _ => cases op <;> rfl
  | _ => rfl

theorem conjuncts_mapQueries (e : Expr) :
    conjuncts (e.mapQueries f) = (conjuncts e).map (Expr.mapQueries f) := by
  fun_induction conjuncts e with
  | case1 l r ihl ihr =>
    rw [Expr.mapQueries, conjuncts, ihl, ihr, List.map_append]
  | case2 e hconj ih =>
    rw [Expr.mapQueries, conjuncts, isConjunction_mapQueries, if_pos hconj, ih]
  | case3 e hconj =>
    rw [Expr.mapQueries, conjuncts, isConjunction_mapQueries, if_neg hconj, List.map_singleton,
      Expr.mapQueries]
  | case4 e hand hnested =>
    cases e with
    | binary l op r =>
      cases op with
      | and => exact absurd rfl (hand l r)
      | or | symbol => rfl
    | nested a => exact absurd rfl (hnested a)
    | _ => rfl

@[simp] theorem connectiveCount_mapQueries (e : Expr) :
    connectiveCount (e.mapQueries f) = connectiveCount e := by
  rw [connectiveCount, connectiveCount, Expr.parts_mapQueries, List.countP_map]
  exact congrArg (List.countP · _) (funext (isConnective_mapQueries f))

/-- Other queries do not change how many conditions a predicate has. -/
theorem total_ofOption_mapQueries (owner : Option String → Option String) (e : Option Expr) :
    (Predicate.ofOption owner (mapQueriesOption f e)).total = (Predicate.ofOption owner e).total := by
  cases e with
  | none => rfl
  | some e =>
    simp [mapQueriesOption, Predicate.ofOption, Predicate.ofExpr, Predicate.total, Predicate.isEmpty,
      conjuncts_mapQueries]

@[simp] theorem aggregate?_mapQueries (e : Expr) :
    Block.aggregate? (e.mapQueries f) = Block.aggregate? e := by
  cases e <;> rfl

/-- What is read of expressions that do not change with their queries does not change in a walk. -/
theorem filterMap_expr?_mapQueries {β : Type} {g : Expr → Option β}
    (h : ∀ e, g (e.mapQueries f) = g e) (visits : List Visit) :
    ((visits.map (Visit.mapQueries f)).filterMap Visit.expr?).filterMap g =
      (visits.filterMap Visit.expr?).filterMap g := by
  rw [List.filterMap_map, List.filterMap_filterMap, List.filterMap_filterMap]
  congr 1
  funext v
  cases v with
  | expr e => exact h e
  | relation | query => rfl

/-! ## 4. Blocks -/

/-- A block with other queries inside it. -/
def Block.mapQueries (b : Block) : Block :=
  { b with select := b.select.mapQueries f, orderBy := b.orderBy.map (Expr.mapQueries f) }

namespace Block

variable (b : Block)

@[simp] theorem tables_mapQueries : (b.mapQueries f).tables = b.tables := by
  change (b.select.sources.map (FromItem.mapQueries f)).flatMap itemTables = _
  rw [List.flatMap_map, tables]
  exact congrArg (List.flatMap · _) (funext (itemTables_mapQueries f))

@[simp] theorem joins_mapQueries : (b.mapQueries f).joins = b.joins :=
  listJoins_mapQueries f b.select.sources

@[simp] theorem outputColumns_mapQueries :
    (b.mapQueries f).outputColumns.map OutputColumn.unnamed = b.outputColumns.map OutputColumn.unnamed := by
  rw [outputColumns, outputColumns, tables_mapQueries]
  simp [mapQueries, Select.mapQueries, outputColumn_mapQueries]

@[simp] theorem isDistinct_mapQueries : (b.mapQueries f).isDistinct = b.isDistinct := by
  change (mapQueriesOption f b.select.distinct).isSome = _
  rw [mapQueriesOption_eq_map, Option.isSome_map, isDistinct]

@[simp] theorem groupsAll_mapQueries : (b.mapQueries f).select.groupsAll = b.select.groupsAll := rfl

@[simp] theorem length_groupBy_mapQueries :
    (b.mapQueries f).select.groupBy.length = b.select.groupBy.length := by
  change (mapQueriesAll f b.select.groupBy).length = _
  rw [mapQueriesAll_eq_map, List.length_map]

@[simp] theorem hasGroupBy_mapQueries : (b.mapQueries f).hasGroupBy = b.hasGroupBy := by
  change (b.select.groupsAll || !(mapQueriesAll f b.select.groupBy).isEmpty) = _
  rw [mapQueriesAll_eq_map, List.isEmpty_map, hasGroupBy]

@[simp] theorem isSome_having_mapQueries :
    (b.mapQueries f).select.having.isSome = b.select.having.isSome := by
  change (mapQueriesOption f b.select.having).isSome = _
  rw [mapQueriesOption_eq_map, Option.isSome_map]

@[simp] theorem total_havingPredicate_mapQueries :
    (b.mapQueries f).havingPredicate.total = b.havingPredicate.total :=
  total_ofOption_mapQueries f id b.select.having

@[simp] theorem total_rawWherePredicate_mapQueries :
    (b.mapQueries f).rawWherePredicate.total = b.rawWherePredicate.total :=
  total_ofOption_mapQueries f id b.select.selection

@[simp] theorem isEmpty_orderBy_mapQueries : (b.mapQueries f).orderBy.isEmpty = b.orderBy.isEmpty :=
  List.isEmpty_map

@[simp] theorem length_orderBy_mapQueries : (b.mapQueries f).orderBy.length = b.orderBy.length :=
  List.length_map _

@[simp] theorem aggregateCalls_mapQueries : (b.mapQueries f).aggregateCalls = b.aggregateCalls := by
  have horder : visitsAll false (b.orderBy.map (Expr.mapQueries f)) =
      (visitsAll false b.orderBy).map (Visit.mapQueries f) := by
    rw [← mapQueriesAll_eq_map, visitsAll_mapQueries]
  rw [aggregateCalls, aggregateCalls]
  change ((visitsItems false (b.select.projection.map (SelectItem.mapQueries f))
    ++ visitsOption false (mapQueriesOption f b.select.having)
    ++ visitsAll false (b.orderBy.map (Expr.mapQueries f))).filterMap _).filterMap _ = _
  rw [visitsItems_mapQueries, visitsOption_mapQueries, horder, ← List.map_append, ← List.map_append,
    filterMap_expr?_mapQueries f (aggregate?_mapQueries f)]

end Block

end Blocks

/-! ## 5. Main blocks -/

section MainBlocks

variable (f : Query → Query)

mutual

/-- Other queries inside the main `SELECT`s are a change of these `SELECT`s. -/
theorem Sql.Query.mapInner_eq_mapMain (q : Query) :
    q.mapInner f = q.mapMain (Select.mapQueries f) (Expr.mapQueries f) := by
  match q with
  | ⟨_, _, body, orderBy, _, _, _, _, _⟩ =>
    rw [Query.mapInner, Query.mapMain, body.mapInner_eq_mapMain, mapQueriesKeys_eq_map]

theorem Sql.Body.mapInner_eq_mapMain (b : Body) :
    b.mapInner f = b.mapMain (Select.mapQueries f) (Expr.mapQueries f) := by
  cases b with
  | select s => rw [Body.mapInner, Body.mapMain]
  | paren q => rw [Body.mapInner, Body.mapMain, q.mapInner_eq_mapMain]
  | setOperation _ _ l r => rw [Body.mapInner, Body.mapMain, l.mapInner_eq_mapMain, r.mapInner_eq_mapMain]
  | values | table | insert | update | toDirectory => rw [Body.mapInner, Body.mapMain]

end

end MainBlocks

namespace Outline

variable {f : Query → Query} {o o' : Outline}

/-- The main blocks are the old ones with the new queries inside them. -/
theorem mainBlocks_mapInner (h : o'.query = o.query.mapInner f) :
    o'.mainBlocks = o.mainBlocks.map (Block.mapQueries f) :=
  mainBlocks_mapMain (h.trans (o.query.mapInner_eq_mapMain f))

theorem mainBlock?_mapInner (h : o'.query = o.query.mapInner f) :
    o'.mainBlock? = o.mainBlock?.map (Block.mapQueries f) := by
  rw [mainBlock?_eq_head?, mainBlock?_eq_head?, mainBlocks_mapInner h, List.head?_map]

end Outline

end QueryDrill
