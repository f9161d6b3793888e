import QueryDrill.Proofs.Outline.Blocks
/-!
Changes to the main `SELECT`s of a query.

`Query.mapMain` changes the `SELECT`s that make up the result of a query and its sort keys, and leaves the
rest. The blocks inside a changed `SELECT` can be others than before, and there can be more or fewer of them,
so blocks get other numbers; but the main blocks are the old ones with the change made in each
(`Outline.mainBlocks_mapMain`).
-/

namespace QueryDrill

open Sql

/-! ## 1. Changed queries -/

namespace Sql

mutual

/-- A query with a change made in its main `SELECT`s and another one in its sort keys. -/
def Query.mapMain (onSelect : Select → Select) (onKey : Expr → Expr) : Query → Query
  | ⟨recursive, ctes, body, orderBy, limit, limitBy, offset, fetch, locks⟩ =>
    ⟨recursive, ctes, body.mapMain onSelect onKey, orderBy.map fun k => ⟨onKey k.expr, k.order⟩, limit,
      limitBy, offset, fetch, locks⟩

/-- A body with changes made in its main `SELECT`s and in the sort keys of queries in parentheses. -/
def Body.mapMain (onSelect : Select → Select) (onKey : Expr → Expr) : Body → Body
  | .select s => .select (onSelect s)
  | .paren q => .paren (q.mapMain onSelect onKey)
  | .setOperation op quantifier l r =>
    .setOperation op quantifier (l.mapMain onSelect onKey) (r.mapMain onSelect onKey)
  | .values rows => .values rows
  | .table name => .table name
  | .insert i => .insert i
  | .update u => .update u
  | .toDirectory words q => .toDirectory words q

end

end Sql

section MapMain

variable {d : Nat} (onSelect : Select → Select) (onKey : Expr → Expr)

namespace Sql

theorem Body.mapMain_bare {b : Body} (h : b.isBare = true) : b.mapMain onSelect onKey = b := by
  cases b with
  | select | paren | setOperation => cases h
  | values | table | insert | update | toDirectory => rw [Body.mapMain]

theorem Query.ctes_mapMain (q : Query) : (q.mapMain onSelect onKey).ctes = q.ctes := by
  cases q
  rw [Query.mapMain]

theorem Query.body_mapMain (q : Query) :
    (q.mapMain onSelect onKey).body = q.body.mapMain onSelect onKey := by
  cases q
  rw [Query.mapMain]

theorem Query.sortKeys_mapMain (q : Query) :
    (q.mapMain onSelect onKey).orderBy.map SortKey.expr = (q.orderBy.map SortKey.expr).map onKey := by
  cases q
  rw [Query.mapMain, List.map_map, List.map_map]
  rfl

end Sql

/-! ## 2. Blocks -/

/-- A block with changes made in its `SELECT` and in its sort keys. -/
def Block.mapMain (b : Block) : Block :=
  { b with select := onSelect b.select, orderBy := b.orderBy.map onKey }

theorem sortFirst_map_mapMain (keys : List Expr) (bs : List Block) :
    sortFirst (keys.map onKey) (bs.map (Block.mapMain onSelect onKey)) =
      (sortFirst keys bs).map (Block.mapMain onSelect onKey) := by
  cases bs <;> rfl

/-- Blocks at a depth are those of another list with the changes made in each, and the first block of all is
as deep as before. -/
structure MapsMain (d : Nat) (new old : List Block) : Prop where
  blocks : blocksAt d new = (blocksAt d old).map (Block.mapMain onSelect onKey)
  head : headDepth? new = headDepth? old

variable {onSelect onKey}

theorem MapsMain.append {as as' bs bs' : List Block} (ha : MapsMain onSelect onKey d as' as)
    (hb : MapsMain onSelect onKey d bs' bs) : MapsMain onSelect onKey d (as' ++ bs') (as ++ bs) where
  blocks := by rw [blocksAt_append, blocksAt_append, ha.blocks, hb.blocks, List.map_append]
  head := by rw [headDepth?_append, headDepth?_append, ha.head, hb.head]

theorem MapsMain.sortFirst {bs bs' : List Block} (h : MapsMain onSelect onKey d bs' bs)
    (keys : List Expr) :
    MapsMain onSelect onKey d (sortFirst (keys.map onKey) bs') (QueryDrill.sortFirst keys bs) where
  blocks := by
    rw [blocksAt_sortFirst, blocksAt_sortFirst, h.head, h.blocks]
    split
    · exact sortFirst_map_mapMain onSelect onKey keys _
    · rfl
  head := by rw [headDepth?_sortFirst, headDepth?_sortFirst, h.head]

variable (onSelect onKey)

/-- The blocks of a `WITH` list are no main blocks, wherever their numbers start. -/
theorem mapsMain_cteBlocks (ctes : List Cte) (parent : Option Nat) (start start' : Nat) :
    MapsMain onSelect onKey d (cteBlocks ctes d parent start') (cteBlocks ctes d parent start) where
  blocks := by
    rw [blocksAt_eq_nil fun _ => lt_depth_cteBlocks, blocksAt_eq_nil fun _ => lt_depth_cteBlocks,
      List.map_nil]
  head := congrArg List.head?
    (map_numbered_congr (fun c _ _ _ => depths_queryBlocks c.query _ _ _ _ _) start' start)

/-- The blocks inside a `SELECT` are deeper, so the `SELECT` alone is changed. -/
theorem mapsMain_select (s : Select) (parent : Option Nat) (start start' : Nat) :
    MapsMain onSelect onKey d (bodyBlocks (.select (onSelect s)) d parent start')
      (bodyBlocks (.select s) d parent start) where
  blocks := by rw [blocksAt_select, blocksAt_select]; rfl
  head := by rw [bodyBlocks_select, bodyBlocks_select]; rfl

theorem mapsMain_queryBlocks (q : Query) : ∀ d parent start start',
    MapsMain onSelect onKey d (queryBlocks (q.mapMain onSelect onKey) d parent start')
      (queryBlocks q d parent start) := by
  refine query_blocks_induction
    (P := fun q => ∀ d parent start start',
      MapsMain onSelect onKey d (queryBlocks (q.mapMain onSelect onKey) d parent start')
        (queryBlocks q d parent start))
    (Q := fun k => ∀ d parent start start',
      MapsMain onSelect onKey d (bodyBlocks (k.mapMain onSelect onKey) d parent start')
        (bodyBlocks k d parent start))
    ?query ?select ?paren ?setOperation ?bare q
  case query =>
    intro q _ hbody d parent start start'
    rw [queryBlocks_eq, queryBlocks_eq, q.ctes_mapMain, q.body_mapMain, q.sortKeys_mapMain]
    exact (mapsMain_cteBlocks onSelect onKey q.ctes parent start start').append
      ((hbody _ _ _ _).sortFirst _)
  case select =>
    intro s _ d parent start start'
    rw [Body.mapMain]
    exact mapsMain_select onSelect onKey s parent start start'
  case paren =>
    intro q hq d parent start start'
    rw [Body.mapMain, bodyBlocks_paren, bodyBlocks_paren]
    exact hq d parent start start'
  case setOperation =>
    intro op quantifier l r hl hr d parent start start'
    rw [Body.mapMain, bodyBlocks_setOperation, bodyBlocks_setOperation]
    exact (hl d parent start start').append (hr _ _ _ _)
  case bare =>
    intro k hk d parent start start'
    rw [k.mapMain_bare onSelect onKey hk, bodyBlocks_bare hk, bodyBlocks_bare hk]
    exact ⟨rfl, rfl⟩

end MapMain

namespace Outline

variable {onSelect : Select → Select} {onKey : Expr → Expr} {o o' : Outline}

/-- The main blocks of a changed query are the old ones with the changes made in each. -/
theorem mainBlocks_mapMain (h : o'.query = o.query.mapMain onSelect onKey) :
    o'.mainBlocks = o.mainBlocks.map (Block.mapMain onSelect onKey) := by
  rw [mainBlocks, blocks, h]
  exact (mapsMain_queryBlocks onSelect onKey o.query 1 none 0 0).blocks

/-- The first main block is the first among the main blocks. -/
theorem mainBlock?_eq_head? (o : Outline) : o.mainBlock? = o.mainBlocks.head? :=
  (List.head?_filter ..).symm

end Outline

end QueryDrill
