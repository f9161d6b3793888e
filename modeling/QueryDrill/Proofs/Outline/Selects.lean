import Mathlib.Data.List.Perm.Basic
import QueryDrill.Proofs.Outline.Blocks
import QueryDrill.Proofs.Sql.Walks
/-!
Which `SELECT`s of a query become blocks.

`Query.selects` lists all of them, at any depth and in any clause. The outline looks for blocks in the queries
of `WITH` lists, in parentheses, on the sides of set operations and inside `SELECT`s (`Query.entered`); it
passes over what stands in the sort keys and limits of a query and in rows of `VALUES` (`Query.passedOver`).
So each `SELECT` is one block or stands in a query that was passed over, and never both
(`selects_perm_blocks`).
-/

namespace QueryDrill

open Sql Text
open scoped List

namespace Sql

/-! ## 1. `SELECT`s of a query -/

/-- The `SELECT`s of a body outside nested queries. -/
def Body.selects : Body → List Select
  | .select s => [s]
  | .paren _ => []
  | .setOperation _ _ l r => l.selects ++ r.selects
  | .values _ => []
  | .table _ => []
  | .insert _ => []
  | .update _ => []
  | .toDirectory .. => []

/-- All `SELECT`s of a query, those of nested queries included. -/
def Query.selects (q : Query) : List Select := (allQueries q).flatMap fun p => p.body.selects

mutual

/-- The `SELECT`s that make up the result of a query: the sides of its set operations, parentheses taken
away. -/
def Query.mainSelects : Query → List Select
  | ⟨_, _, body, _, _, _, _, _, _⟩ => body.mainSelects

/-- The `SELECT`s that make up the result of a body. -/
def Body.mainSelects : Body → List Select
  | .select s => [s]
  | .paren q => q.mainSelects
  | .setOperation _ _ l r => l.mainSelects ++ r.mainSelects
  | .values _ => []
  | .table _ => []
  | .insert _ => []
  | .update _ => []
  | .toDirectory .. => []

end

theorem Body.mainSelects_bare {b : Body} (h : b.isBare = true) : b.mainSelects = [] := by
  cases b with
  | select | paren | setOperation => cases h
  | values | table | insert | update | toDirectory => rw [Body.mainSelects]

theorem Query.mainSelects_eq (q : Query) : q.mainSelects = q.body.mainSelects := by
  cases q
  rw [Query.mainSelects]

/-! ## 2. Where blocks are looked for -/

/-- The queries of a body that are looked into for blocks. -/
def Body.entered : Body → List Query
  | .select s => s.subqueries
  | .paren q => [q]
  | .setOperation _ _ l r => l.entered ++ r.entered
  | .values _ => []
  | .table _ => []
  | .insert _ => []
  | .update _ => []
  | .toDirectory .. => []

/-- The queries directly in a query that are looked into for blocks. -/
def Query.entered (q : Query) : List Query := q.ctes.map Cte.query ++ q.body.entered

/-- The queries of a body that are not looked into: those in rows of `VALUES` and in what is no query. -/
def Body.passedOver : Body → List Query
  | .select _ => []
  | .paren _ => []
  | .setOperation _ _ l r => l.passedOver ++ r.passedOver
  | .values rows => queriesAmong (visitsAll false rows)
  | .table _ => []
  | .insert i => queriesAmong (i.visits false)
  | .update u => queriesAmong (u.visits false)
  | .toDirectory _ q => [q]

/-- The queries directly in a query that are not looked into: those of its body, its order and its
limits. -/
def Query.passedOver (q : Query) : List Query := q.body.passedOver ++ queriesAmong q.visitsTail

theorem Body.perm_entered_passedOver (b : Body) :
    (queriesAmong (b.visits false)).Perm (b.entered ++ b.passedOver) := by
  cases b with
  | select s =>
    rw [Body.visits, entered, passedOver, List.append_nil]
    exact .refl _
  | paren | values | table | insert | update | toDirectory => exact .refl _
  | setOperation _ _ l r =>
    rw [Body.visits, queriesAmong_append, entered, passedOver, List.append_assoc]
    refine (l.perm_entered_passedOver.append r.perm_entered_passedOver).trans ?_
    rw [List.append_assoc]
    exact (List.perm_append_comm_assoc _ _ _).append_left _

/-- A query directly in a query is looked into, or it is passed over. -/
theorem Query.perm_entered_passedOver (q : Query) :
    (queriesAmong (q.visits false)).Perm (q.entered ++ q.passedOver) := by
  rw [visits_shallow, queriesAmong_append, queriesAmong_ctes, visitsInside, queriesAmong_append, entered, passedOver,
    List.append_assoc, ← List.append_assoc q.body.entered]
  exact (q.body.perm_entered_passedOver.append_right _).append_left _

theorem Query.sizeOf_entered_lt {q p : Query} (h : p ∈ q.entered) : sizeOf p < sizeOf q :=
  Query.sizeOf_lt_of_mem_visits q (mem_queriesAmong.1
    (q.perm_entered_passedOver.mem_iff.2 (List.mem_append_left _ h)))

/-- The queries that are looked into for blocks, a query itself first. -/
def Query.reached (q : Query) : List Query := q :: q.entered.attach.flatMap fun ⟨p, _⟩ => p.reached
termination_by sizeOf q
decreasing_by exact Query.sizeOf_entered_lt ‹_›

theorem Query.reached_eq (q : Query) : q.reached = q :: q.entered.flatMap Query.reached := by
  rw [reached, List.flatMap_subtype (g := Query.reached) fun _ _ => rfl, List.unattach_attach]

/-- The `SELECT`s of the queries that are looked into. -/
def Query.reachedSelects (q : Query) : List Select := q.reached.flatMap fun p => p.body.selects

/-- The `SELECT`s of the queries that are passed over. -/
def Query.missedSelects (q : Query) : List Select :=
  q.reached.flatMap fun p => p.passedOver.flatMap Query.selects

/-! ## 3. All `SELECT`s -/

/-- The queries of a query are itself and those of the queries directly in it. -/
theorem allQueries_eq (q : Query) :
    allQueries q = q :: (queriesAmong (q.visits false)).flatMap allQueries := by
  rw [allQueries, Query.visits_deep, queriesAmong, List.filterMap_flatMap]
  refine congrArg (q :: ·) ?_
  generalize q.visits false = visits
  induction visits with
  | nil => rfl
  | cons v vs ih => cases v <;> simp [List.filterMap_cons, Visit.query?, ih, allQueries]

/-- The `SELECT`s of a query are those of its body and those of the queries directly in it. -/
theorem Query.selects_eq (q : Query) :
    q.selects = q.body.selects ++ (queriesAmong (q.visits false)).flatMap Query.selects := by
  rw [selects, allQueries_eq, List.flatMap_cons, List.flatMap_assoc]
  rfl

theorem Query.reachedSelects_eq (q : Query) :
    q.reachedSelects = q.body.selects ++ q.entered.flatMap Query.reachedSelects := by
  rw [reachedSelects, reached_eq, List.flatMap_cons, List.flatMap_assoc]
  rfl

theorem Query.missedSelects_eq (q : Query) :
    q.missedSelects = q.passedOver.flatMap Query.selects ++ q.entered.flatMap Query.missedSelects := by
  rw [missedSelects, reached_eq, List.flatMap_cons, List.flatMap_assoc]
  rfl

/-- Each `SELECT` of a query is in a query that is looked into, or in one that is passed over. -/
theorem Query.selects_perm (q : Query) : q.selects ~ q.reachedSelects ++ q.missedSelects := by
  have ih : ∀ p ∈ q.entered, p.selects ~ p.reachedSelects ++ p.missedSelects := by
    intro p hp
    exact p.selects_perm
  have hentered : q.entered.flatMap Query.selects ~
      q.entered.flatMap Query.reachedSelects ++ q.entered.flatMap Query.missedSelects :=
    (List.Perm.flatMap_left _ ih).trans (List.flatMap_append_perm _ _ _).symm
  rw [selects_eq, reachedSelects_eq, missedSelects_eq, List.append_assoc]
  refine List.Perm.append_left _ ?_
  calc (queriesAmong (q.visits false)).flatMap Query.selects
    _ ~ (q.entered ++ q.passedOver).flatMap Query.selects := q.perm_entered_passedOver.flatMap_right _
    _ = q.entered.flatMap Query.selects ++ q.passedOver.flatMap Query.selects := List.flatMap_append
    _ ~ q.entered.flatMap Query.reachedSelects ++ q.entered.flatMap Query.missedSelects
          ++ q.passedOver.flatMap Query.selects := hentered.append_right _
    _ ~ q.entered.flatMap Query.reachedSelects ++
          (q.passedOver.flatMap Query.selects ++ q.entered.flatMap Query.missedSelects) := by
      rw [List.append_assoc]
      exact List.perm_append_comm.append_left _
termination_by sizeOf q
decreasing_by exact Query.sizeOf_entered_lt ‹_›

end Sql

/-! ## 4. Blocks -/

/-- The blocks of a query are the `SELECT`s of the queries that are looked into. -/
theorem selects_queryBlocks_perm (q : Query) : ∀ depth parent start,
    (queryBlocks q depth parent start).map Block.select ~ q.reachedSelects := by
  refine query_blocks_induction
    (P := fun q => ∀ depth parent start,
      (queryBlocks q depth parent start).map Block.select ~ q.reachedSelects)
    (Q := fun k => ∀ depth parent start,
      (bodyBlocks k depth parent start).map Block.select ~
        k.selects ++ k.entered.flatMap Query.reachedSelects)
    ?query ?select ?paren ?setOperation ?bare q
  case query =>
    intro q hctes hbody depth parent start
    have hnamed : (cteBlocks q.ctes depth parent start).map Block.select ~
        q.ctes.flatMap fun c => c.query.reachedSelects :=
      perm_map_numbered (fun c hc n => hctes c hc (depth + 1) parent n) start
    rw [queryBlocks_eq, List.map_append, map_sortFirst fun _ _ => rfl, Query.reachedSelects_eq,
      Query.entered, List.flatMap_append, List.flatMap_map]
    exact (hnamed.append (hbody _ _ _)).trans (List.perm_append_comm_assoc _ _ _)
  case select =>
    intro s hs depth parent start
    rw [bodyBlocks_select, List.map_cons]
    exact (perm_map_numbered (fun p hp n => hs p hp (depth + 1) (some start) n) (start + 1)).cons s
  case paren =>
    intro q hq depth parent start
    rw [bodyBlocks_paren, Body.selects, Body.entered, List.nil_append, List.flatMap_singleton]
    exact hq depth parent start
  case setOperation =>
    intro op quantifier l r hl hr depth parent start
    rw [bodyBlocks_setOperation, List.map_append, Body.selects, Body.entered, List.flatMap_append,
      List.append_assoc]
    refine ((hl _ _ _).append (hr _ _ _)).trans ?_
    rw [List.append_assoc]
    exact (List.perm_append_comm_assoc _ _ _).append_left _
  case bare =>
    intro k hk depth parent start
    rw [bodyBlocks_bare hk]
    cases k with
    | select | paren | setOperation => cases hk
    | values | table | insert | update | toDirectory => exact .nil

/-- The blocks at the depth of a query are those that make up its result, in order. -/
theorem selects_blocksAt_queryBlocks (q : Query) : ∀ depth parent start,
    (blocksAt depth (queryBlocks q depth parent start)).map Block.select = q.mainSelects := by
  refine query_blocks_induction
    (P := fun q => ∀ depth parent start,
      (blocksAt depth (queryBlocks q depth parent start)).map Block.select = q.mainSelects)
    (Q := fun k => ∀ depth parent start,
      (blocksAt depth (bodyBlocks k depth parent start)).map Block.select = k.mainSelects)
    ?query ?select ?paren ?setOperation ?bare q
  case query =>
    intro q _ hbody depth parent start
    have hsort (keys : List Expr) (bs : List Block) :
        (blocksAt depth (sortFirst keys bs)).map Block.select = (blocksAt depth bs).map Block.select := by
      rw [blocksAt_sortFirst]
      split
      · exact map_sortFirst (fun _ _ => rfl) keys _
      · rfl
    rw [queryBlocks_eq, blocksAt_append, blocksAt_eq_nil fun _ => lt_depth_cteBlocks, List.nil_append, hsort,
      hbody, Query.mainSelects_eq]
  case select =>
    intro s _ depth parent start
    rw [blocksAt_select, Body.mainSelects, List.map_singleton]
  case paren =>
    intro q hq depth parent start
    rw [bodyBlocks_paren, hq, Body.mainSelects]
  case setOperation =>
    intro op quantifier l r hl hr depth parent start
    rw [bodyBlocks_setOperation, blocksAt_append, List.map_append, hl, hr, Body.mainSelects]
  case bare =>
    intro k hk depth parent start
    rw [bodyBlocks_bare hk, Body.mainSelects_bare hk]
    rfl

/-! ## 5. Outlines -/

namespace Outline

theorem one_le_depth {o : Outline} {b : Block} (h : b ∈ o.blocks) : 1 ≤ b.depth :=
  le_depth_queryBlocks o.query 1 none 0 b h

/-- A block is a main one or inside another. -/
theorem selectCount_eq (o : Outline) : o.selectCount = o.mainBlocks.length + o.subqueryCount := by
  rw [selectCount, mainBlocks, subqueryCount, ← List.countP_eq_length_filter,
    List.length_eq_countP_add_countP (fun b : Block => b.depth == 1)]
  refine congrArg _ (List.countP_congr fun b hb => ?_)
  have := one_le_depth hb
  simp
  omega

/-- **Each `SELECT` is one block or stands in a query that was passed over.** The blocks are the `SELECT`s
but for those of queries in sort keys, limits and rows of `VALUES` (and in statements that are no queries);
so nothing is missing just when no `SELECT` stands there. The main blocks make up the result, in order, and
all other blocks count as subqueries. -/
theorem selects_perm_blocks (o : Outline) :
    o.query.selects ~ o.blocks.map Block.select ++ o.query.missedSelects ∧
      (o.selectCount = o.query.selects.length ↔ o.query.missedSelects = []) ∧
      o.mainBlocks.map Block.select = o.query.mainSelects ∧
      o.subqueryCount + o.query.mainSelects.length + o.query.missedSelects.length =
        o.query.selects.length := by
  have hperm : o.query.selects ~ o.blocks.map Block.select ++ o.query.missedSelects :=
    o.query.selects_perm.trans ((selects_queryBlocks_perm o.query 1 none 0).symm.append_right _)
  have hmain : o.mainBlocks.map Block.select = o.query.mainSelects :=
    selects_blocksAt_queryBlocks o.query 1 none 0
  have hlength : o.query.selects.length = o.selectCount + o.query.missedSelects.length := by
    rw [hperm.length_eq, List.length_append, List.length_map, selectCount]
  have hcount := o.selectCount_eq
  have hmains : o.mainBlocks.length = o.query.mainSelects.length := by
    rw [← hmain, List.length_map]
  refine ⟨hperm, ?_, hmain, ?_⟩
  · rw [hlength, ← List.length_eq_zero_iff]
    omega
  · omega

/-- A subquery in a sort key is no block. -/
theorem sort_key_missed :
    ∃ o, Outline.parse .postgres "SELECT id FROM a ORDER BY (SELECT max(id) FROM b)" = .ok o ∧
      o.query.selects.length = 2 ∧ o.selectCount = 1 ∧ o.subqueryCount = 0 := by
  have hcounts : ((Outline.parse .postgres "SELECT id FROM a ORDER BY (SELECT max(id) FROM b)").map
      fun o => (o.query.selects.length, o.selectCount, o.subqueryCount)).toOption =
      some (2, 1, 0) := by
    decide +kernel
  obtain ⟨o, ho, hcounts⟩ := exists_parse_eq_ok hcounts
  simp only [Prod.mk.injEq] at hcounts
  exact ⟨o, ho, hcounts⟩

end Outline

end QueryDrill
