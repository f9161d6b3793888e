import QueryDrill.Proofs.Outline.Inner
import QueryDrill.Proofs.Sql.Lowering
/-!
Outlines of queries with their names in lower case.

What a block tells is told by names in lower case, so it is the same of the lowered block: its tables, its
columns but for the names they are shown under, its conditions but for their texts, and its calls. The blocks
of a lowered query are the lowered blocks, with the same depths and numbers (`Outline.blocks_lowered`).
-/

namespace QueryDrill

open Sql Text

/-! ## 1. Sources and columns -/

mutual

theorem sourceTables_lowered (t : TableFactor) : sourceTables t.lowered = sourceTables t := by
  cases t with
  | table name _ _ label =>
    simp [TableFactor.lowered, sourceTables, TableAlias.lowered, Function.comp_def]
  | joined item => simp [TableFactor.lowered, sourceTables, itemTables_lowered item]
  | derived | computed | turned => simp [TableFactor.lowered, sourceTables]

theorem itemTables_lowered (i : FromItem) : itemTables i.lowered = itemTables i := by
  match i with
  | ⟨relation, joins⟩ =>
    simp [FromItem.lowered, itemTables, sourceTables_lowered relation, joinedTables_lowered joins]

theorem joinedTables_lowered (js : List Join) : joinedTables (loweredJoins js) = joinedTables js := by
  match js with
  | [] => rfl
  | ⟨relation, _, _⟩ :: js =>
    simp [loweredJoins, joinedTables, sourceTables_lowered relation, joinedTables_lowered js]

end

mutual

theorem sourceJoins_lowered (t : TableFactor) : sourceJoins t.lowered = sourceJoins t := by
  cases t with
  | joined item => simp [TableFactor.lowered, sourceJoins, itemJoins_lowered item]
  | table | derived | computed | turned => simp [TableFactor.lowered, sourceJoins]

theorem itemJoins_lowered (i : FromItem) : itemJoins i.lowered = itemJoins i := by
  match i with
  | ⟨relation, joins⟩ =>
    simp [FromItem.lowered, itemJoins, sourceJoins_lowered relation, chainJoins_lowered joins]

theorem chainJoins_lowered (js : List Join) : chainJoins (loweredJoins js) = chainJoins js := by
  match js with
  | [] => rfl
  | ⟨relation, _, _⟩ :: js =>
    simp [loweredJoins, chainJoins, sourceJoins_lowered relation, chainJoins_lowered js]

end

theorem listJoins_lowered (is : List FromItem) : listJoins (is.map FromItem.lowered) = listJoins is := by
  match is with
  | [] => rfl
  | [i] => simp [listJoins, itemJoins_lowered i]
  | i :: j :: is =>
    change itemJoins i.lowered ++ .implicit :: listJoins ((j :: is).map FromItem.lowered) =
      itemJoins i ++ .implicit :: listJoins (j :: is)
    rw [itemJoins_lowered i, listJoins_lowered (j :: is)]

/-- An output column as checks read it: without the name that the result shows, its label in lower case. -/
def OutputColumn.lowered (c : OutputColumn) : OutputColumn := { c with name := "", label := c.label.map lower }

/-- Checks read columns of a lowered list as those of the list. -/
theorem outputColumn_lowered (tables : List TableRef) (i : SelectItem) :
    (outputColumn tables i.lowered).lowered = (outputColumn tables i).lowered := by
  match i with
  | .expr e label => simp [SelectItem.lowered, outputColumn, OutputColumn.lowered, Function.comp_def]
  | .wildcard [] options => rfl
  | .wildcard (n :: ns) options =>
    have hkey : Name.key (n.lowered :: ns.map Ident.lowered) = Name.key (n :: ns) :=
      Name.key_lowered (n :: ns)
    simp [SelectItem.lowered, Name.lowered, outputColumn, OutputColumn.lowered, hkey]

@[simp] theorem OutputColumn.isAliased_lowered (c : OutputColumn) : c.lowered.isAliased = c.isAliased := by
  obtain ⟨_, _ | label, realName, _, _⟩ := c
  · rfl
  · cases realName with
    | none => rfl
    | some r => simp [OutputColumn.lowered, isAliased]

/-! ## 2. Predicates and calls -/

@[simp] theorem isConjunction_lowered (e : Expr) : isConjunction e.lowered = isConjunction e := by
  cases e with
  | binary _ op _ => cases op <;> rfl
  | _ => rfl

@[simp] theorem isConnective_lowered (e : Expr) : isConnective e.lowered = isConnective e := by
  cases e with
  | binary _ op _ => cases op <;> rfl
  | _ => rfl

theorem conjuncts_lowered (e : Expr) : conjuncts e.lowered = (conjuncts e).map Expr.lowered := by
  fun_induction conjuncts e with
  | case1 l r ihl ihr => rw [Expr.lowered, conjuncts, ihl, ihr, List.map_append]
  | case2 e hconj ih => rw [Expr.lowered, conjuncts, isConjunction_lowered, if_pos hconj, ih]
  | case3 e hconj =>
    rw [Expr.lowered, conjuncts, isConjunction_lowered, if_neg hconj, List.map_singleton, Expr.lowered]
  | case4 e hand hnested =>
    cases e with
    | binary l op r =>
      cases op with
      | and => exact absurd rfl (hand l r)
      | or | symbol => rfl
    | nested a => exact absurd rfl (hnested a)
    | _ => rfl

theorem comparisons_lowered (e : Expr) : comparisons e.lowered = (comparisons e).map Expr.lowered := by
  fun_induction comparisons e with
  | case1 l r ihl ihr => rw [Expr.lowered, comparisons, ihl, ihr, List.map_append]
  | case2 l r ihl ihr => rw [Expr.lowered, comparisons, ihl, ihr, List.map_append]
  | case3 e ih => rw [Expr.lowered, comparisons, ih]
  | case4 e ih => rw [Expr.lowered, comparisons, ih]
  | case5 e hand hor hnested hnot =>
    cases e with
    | binary l op r =>
      cases op with
      | and => exact absurd rfl (hand l r)
      | or => exact absurd rfl (hor l r)
      | symbol => rfl
    | nested a => exact absurd rfl (hnested a)
    | unary op a =>
      cases op with
      | not => exact absurd rfl (hnot a)
      | before | after => rfl
    | _ => rfl

theorem connectiveCount_lowered (e : Expr) : connectiveCount e.lowered = connectiveCount e := by
  rw [connectiveCount, connectiveCount, e.parts_lowered, List.countP_map]
  exact congrArg (List.countP · _) (funext isConnective_lowered)

@[simp] theorem comparedColumns_lowered (owner : Option String → Option String) (e : Expr) :
    comparedColumns owner e.lowered = comparedColumns owner e := by
  rw [comparedColumns, comparedColumns, e.columnRefs_lowered]

theorem Condition.repeatedColumns_lowered (owner : Option String → Option String) (e : Expr) :
    (ofExpr owner e.lowered).repeatedColumns = (ofExpr owner e).repeatedColumns := by
  simp [repeatedColumns, ofExpr, comparisons_lowered, List.flatMap_map]

theorem Predicate.repeatedColumns_lowered (owner : Option String → Option String) (e : Option Expr) :
    (ofOption owner (e.map Expr.lowered)).repeatedColumns = (ofOption owner e).repeatedColumns := by
  cases e with
  | none => rfl
  | some e =>
    simp [ofOption, ofExpr, repeatedColumns, conjuncts_lowered, List.flatMap_map,
      Condition.repeatedColumns_lowered]

theorem Predicate.total_lowered (owner : Option String → Option String) (e : Option Expr) :
    (ofOption owner (e.map Expr.lowered)).total = (ofOption owner e).total := by
  cases e with
  | none => rfl
  | some e =>
    simp [ofOption, ofExpr, total, isEmpty, conjuncts_lowered, connectiveCount_lowered]

@[simp] theorem aggregate?_lowered (e : Expr) : Block.aggregate? e.lowered = Block.aggregate? e := by
  cases e with
  | call => simp [Expr.lowered, Block.aggregate?]
  | _ => rfl

@[simp] theorem isNullTest_lowered (e : Expr) : Block.isNullTest e.lowered = Block.isNullTest e := by
  cases e <;> rfl

@[simp] theorem likePattern?_lowered (e : Expr) : likePattern? e.lowered = likePattern? e := by
  cases e with
  | like _ _ _ pattern => cases pattern <;> rfl
  | _ => rfl

/-- What is read alike of lowered expressions is read alike in a walk. -/
theorem filterMap_visits_lowered {β : Type} {g : Expr → Option β} (h : ∀ e, g e.lowered = g e)
    (visits : List Visit) :
    ((visits.map Visit.lowered).filterMap Visit.expr?).filterMap g =
      (visits.filterMap Visit.expr?).filterMap g := by
  rw [filterMap_expr?_lowered, List.filterMap_map]
  exact congrArg (List.filterMap · _) (funext h)

/-! ## 3. Blocks -/

namespace Block

/-- A block with its names in lower case. -/
def lowered (b : Block) : Block :=
  { b with select := b.select.lowered, orderBy := b.orderBy.map Expr.lowered }

variable (b : Block)

@[simp] theorem depth_lowered : b.lowered.depth = b.depth := rfl

@[simp] theorem select_lowered : b.lowered.select = b.select.lowered := rfl

@[simp] theorem tables_lowered : b.lowered.tables = b.tables := by
  rw [tables, select_lowered, b.select.sources_lowered, List.flatMap_map, tables]
  exact congrArg (List.flatMap · _) (funext itemTables_lowered)

@[simp] theorem joins_lowered : b.lowered.joins = b.joins := by
  rw [joins, select_lowered, b.select.sources_lowered, listJoins_lowered, joins]

theorem outputColumns_lowered :
    b.lowered.outputColumns.map OutputColumn.lowered = b.outputColumns.map OutputColumn.lowered := by
  rw [outputColumns, outputColumns, tables_lowered, select_lowered, b.select.projection_lowered,
    List.map_map, List.map_map, List.map_map]
  exact congrArg (List.map · _) (funext (outputColumn_lowered b.tables))

@[simp] theorem isDistinct_lowered : b.lowered.isDistinct = b.isDistinct := by
  rw [isDistinct, select_lowered, b.select.distinct_lowered, Option.isSome_map, isDistinct]

@[simp] theorem hasGroupBy_lowered : b.lowered.hasGroupBy = b.hasGroupBy := by
  rw [hasGroupBy, select_lowered, b.select.groupsAll_lowered, b.select.groupBy_lowered, List.isEmpty_map,
    hasGroupBy]

@[simp] theorem total_havingPredicate_lowered : b.lowered.havingPredicate.total = b.havingPredicate.total := by
  rw [havingPredicate, select_lowered, b.select.having_lowered, Predicate.total_lowered, havingPredicate]

@[simp] theorem total_rawWherePredicate_lowered :
    b.lowered.rawWherePredicate.total = b.rawWherePredicate.total := by
  rw [rawWherePredicate, select_lowered, b.select.selection_lowered, Predicate.total_lowered,
    rawWherePredicate]

@[simp] theorem conditionOwner_lowered : b.lowered.conditionOwner = b.conditionOwner := by
  funext qualifier
  simp [conditionOwner, resolveTable]

@[simp] theorem repeatedColumns_wherePredicate_lowered :
    b.lowered.wherePredicate.repeatedColumns = b.wherePredicate.repeatedColumns := by
  rw [wherePredicate, conditionOwner_lowered, select_lowered, b.select.selection_lowered,
    Predicate.repeatedColumns_lowered, wherePredicate]

@[simp] theorem length_orderBy_lowered : b.lowered.orderBy.length = b.orderBy.length := List.length_map _

@[simp] theorem isEmpty_orderBy_lowered : b.lowered.orderBy.isEmpty = b.orderBy.isEmpty := List.isEmpty_map

@[simp] theorem aggregateCalls_lowered : b.lowered.aggregateCalls = b.aggregateCalls := by
  have horder : visitsAll false b.lowered.orderBy = (visitsAll false b.orderBy).map Visit.lowered := by
    rw [← visitsAll_lowered, loweredAll_eq_map, lowered]
  rw [aggregateCalls, horder, select_lowered, b.select.projection_lowered, ← loweredItems_eq_map,
    b.select.having_lowered, ← loweredOption_eq_map, visitsItems_lowered, visitsOption_lowered,
    ← List.map_append, ← List.map_append, filterMap_visits_lowered aggregate?_lowered, aggregateCalls]

@[simp] theorem nullChecks_lowered : b.lowered.nullChecks = b.nullChecks := by
  rw [nullChecks, select_lowered, b.select.selection_lowered, b.select.having_lowered,
    ← loweredOption_eq_map, ← loweredOption_eq_map, visitsOption_lowered, visitsOption_lowered,
    ← List.map_append, filterMap_expr?_lowered, List.countP_map, nullChecks]
  exact congrArg (List.countP · _) (funext isNullTest_lowered)

end Block

/-! ## 4. Blocks of a query -/

/-- Lists of lowered blocks are as long as the lists, so their numbers stay. -/
theorem numbered_lowered {α β : Type} {f : α → Nat → List Block} {f' : β → Nat → List Block} {g : α → β}
    {as : List α} (h : ∀ a ∈ as, ∀ n, f' (g a) n = (f a n).map Block.lowered) (n : Nat) :
    numbered f' (as.map g) n = (numbered f as n).map Block.lowered := by
  induction as generalizing n with
  | nil => rfl
  | cons a as ih =>
    rw [List.map_cons, numbered, numbered, h a List.mem_cons_self, List.length_map, List.map_append,
      ih fun a' ha' => h a' (List.mem_cons_of_mem _ ha')]

theorem sortFirst_lowered (keys : List Expr) (bs : List Block) :
    sortFirst (keys.map Expr.lowered) (bs.map Block.lowered) = (sortFirst keys bs).map Block.lowered := by
  cases bs <;> rfl

theorem Sql.Body.isBare_lowered (b : Body) : b.lowered.isBare = b.isBare := by
  cases b <;> simp [Body.lowered, Body.isBare]

theorem queryBlocks_lowered (q : Query) : ∀ depth parent start,
    queryBlocks q.lowered depth parent start = (queryBlocks q depth parent start).map Block.lowered := by
  refine query_blocks_induction
    (P := fun q => ∀ depth parent start,
      queryBlocks q.lowered depth parent start = (queryBlocks q depth parent start).map Block.lowered)
    (Q := fun k => ∀ depth parent start,
      bodyBlocks k.lowered depth parent start = (bodyBlocks k depth parent start).map Block.lowered)
    ?query ?select ?paren ?setOperation ?bare q
  case query =>
    intro q hctes hbody depth parent start
    have hctes' : cteBlocks q.lowered.ctes depth parent start =
        (cteBlocks q.ctes depth parent start).map Block.lowered := by
      rw [q.ctes_lowered]
      exact numbered_lowered (fun c hc n => hctes c hc _ _ n) start
    rw [queryBlocks_eq, queryBlocks_eq, hctes', q.body_lowered, q.sortKeys_lowered, hbody,
      List.length_map, sortFirst_lowered, List.map_append]
  case select =>
    intro s hs depth parent start
    have hinner : innerBlocks s.lowered.subqueries depth start =
        (innerBlocks s.subqueries depth start).map Block.lowered := by
      rw [s.subqueries_lowered]
      exact numbered_lowered (fun q hq n => hs q hq _ _ n) (start + 1)
    rw [Body.lowered, bodyBlocks_select, bodyBlocks_select, hinner]
    rfl
  case paren =>
    intro q hq depth parent start
    rw [Body.lowered, bodyBlocks_paren, bodyBlocks_paren, hq]
  case setOperation =>
    intro op quantifier l r hl hr depth parent start
    rw [Body.lowered, bodyBlocks_setOperation, bodyBlocks_setOperation, hl, hr, List.length_map,
      List.map_append]
  case bare =>
    intro k hk depth parent start
    rw [bodyBlocks_bare hk, bodyBlocks_bare (k.isBare_lowered.trans hk), List.map_nil]

/-! ## 5. Tables, set operations and patterns -/

theorem allQueries_lowered (q : Query) : allQueries q.lowered = (allQueries q).map Query.lowered := by
  rw [allQueries, allQueries, q.visits_lowered, filterMap_query?_lowered, List.map_cons]

@[simp] theorem cteNames_lowered (q : Query) : cteNames q.lowered = cteNames q := by
  rw [cteNames, cteNames, allQueries_lowered, List.flatMap_map]
  refine congrArg (List.flatMap · _) (funext fun p => ?_)
  rw [p.ctes_lowered, List.map_map]
  exact congrArg (List.map · _) (funext fun c => c.name.name.lower_value_lowered)

@[simp] theorem tablesAmong_lowered (hidden : List String) (visits : List Visit) :
    tablesAmong hidden (visits.map Visit.lowered) = tablesAmong hidden visits := by
  rw [tablesAmong, tablesAmong, map_key_relation?_lowered]

theorem bodySetOperations_lowered (hidden : List String) (b : Body) :
    bodySetOperations hidden b.lowered = bodySetOperations hidden b := by
  fun_induction bodySetOperations hidden b with
  | case1 op quantifier l r ihl ihr =>
    rw [Body.lowered, bodySetOperations, ihl, ihr, l.visits_lowered, r.visits_lowered,
      tablesAmong_lowered, tablesAmong_lowered]
  | case2 b hb =>
    cases b with
    | setOperation op quantifier l r => exact absurd rfl (hb op quantifier l r)
    | _ => simp [Body.lowered, bodySetOperations]

namespace Outline

variable {o o' : Outline} (h : o'.query = o.query.lowered)

include h

theorem blocks_lowered : o'.blocks = o.blocks.map Block.lowered := by
  rw [blocks, h, queryBlocks_lowered, blocks]

theorem mainBlocks_lowered : o'.mainBlocks = o.mainBlocks.map Block.lowered := by
  rw [mainBlocks, mainBlocks, blocks_lowered h, List.filter_map]
  rfl

theorem mainBlock?_lowered : o'.mainBlock? = o.mainBlock?.map Block.lowered := by
  rw [mainBlock?_eq_head?, mainBlock?_eq_head?, mainBlocks_lowered h, List.head?_map]

theorem tables_lowered : o'.tables = o.tables := by
  rw [tables, tables, h, cteNames_lowered, o.query.visits_lowered, tablesAmong_lowered]

theorem setOperations_lowered : o'.setOperations = o.setOperations := by
  rw [setOperations, setOperations, h, allQueries_lowered, cteNames_lowered, List.flatMap_map]
  refine congrArg (List.flatMap · _) (funext fun q => ?_)
  rw [q.body_lowered, bodySetOperations_lowered]

theorem likePatterns_lowered : o'.likePatterns = o.likePatterns := by
  rw [likePatterns, likePatterns, h, o.query.visits_lowered, filterMap_visits_lowered likePattern?_lowered]

theorem outputColumns_lowered :
    o'.outputColumns.map OutputColumn.lowered = o.outputColumns.map OutputColumn.lowered := by
  rw [outputColumns, outputColumns, mainBlock?_lowered h]
  cases o.mainBlock? with
  | none => rfl
  | some b => exact b.outputColumns_lowered

end Outline

end QueryDrill
