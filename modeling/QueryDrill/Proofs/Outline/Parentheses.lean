import QueryDrill.Proofs.Outline.Blocks
/-!
Queries in parentheses.

`Query.inParens` puts a query in parentheses. Its outline is the old one, but the first block has lost its sort
keys: the query around the parentheses has none and gives them to that block
(`Outline.blocks_inParens`). What is read of blocks but for sort keys is read of `Block.unsorted`, so outlines
whose blocks agree there (`Outline.AlikeUnsorted`) cannot be told apart by it.
-/

namespace QueryDrill

open Sql

/-! ## 1. Blocks without sort keys -/

/-- A block that has forgotten its sort keys. -/
def Block.unsorted (b : Block) : Block := { b with orderBy := [] }

namespace Block

variable (b : Block)

@[simp] theorem select_unsorted : b.unsorted.select = b.select := rfl

@[simp] theorem depth_unsorted : b.unsorted.depth = b.depth := rfl

@[simp] theorem tables_unsorted : b.unsorted.tables = b.tables := rfl

@[simp] theorem joins_unsorted : b.unsorted.joins = b.joins := rfl

@[simp] theorem outputColumns_unsorted : b.unsorted.outputColumns = b.outputColumns := rfl

@[simp] theorem isDistinct_unsorted : b.unsorted.isDistinct = b.isDistinct := rfl

@[simp] theorem hasGroupBy_unsorted : b.unsorted.hasGroupBy = b.hasGroupBy := rfl

@[simp] theorem wherePredicate_unsorted : b.unsorted.wherePredicate = b.wherePredicate := rfl

@[simp] theorem rawWherePredicate_unsorted : b.unsorted.rawWherePredicate = b.rawWherePredicate := rfl

@[simp] theorem havingPredicate_unsorted : b.unsorted.havingPredicate = b.havingPredicate := rfl

@[simp] theorem nullChecks_unsorted : b.unsorted.nullChecks = b.nullChecks := rfl

/-- Of the aggregate functions that a block calls, those outside sort keys remain without sort keys. -/
theorem aggregateCalls_unsorted_subset : b.unsorted.aggregateCalls ⊆ b.aggregateCalls := by
  refine List.filterMap_subset _ (List.filterMap_subset _ ?_)
  exact List.append_subset.2 ⟨List.subset_append_left _ _, List.nil_subset _⟩

/-- Whether a block calls aggregate functions in its sort keys and nowhere else. -/
def aggregatesInKeysAlone : Bool := b.unsorted.aggregateCalls.isEmpty && !b.aggregateCalls.isEmpty

end Block

theorem map_unsorted_sortFirst (keys : List Expr) (bs : List Block) :
    (sortFirst keys bs).map Block.unsorted = bs.map Block.unsorted :=
  map_sortFirst (fun _ _ => rfl) keys bs

/-! ## 2. Outlines that differ in sort keys -/

namespace Outline

/-- Two outlines that tell the same but for the sort keys of blocks. -/
structure AlikeUnsorted (w o : Outline) : Prop where
  blocks : w.blocks.map Block.unsorted = o.blocks.map Block.unsorted
  tables : w.tables = o.tables
  setOperations : w.setOperations = o.setOperations
  likePatterns : w.likePatterns = o.likePatterns

namespace AlikeUnsorted

variable {β : Type} {w o : Outline}

/-- What forgets sort keys is the same of all blocks. -/
theorem blocks_congr (h : w.AlikeUnsorted o) (view : List Block → β)
    (hview : ∀ bs, view (bs.map Block.unsorted) = view bs) : view w.blocks = view o.blocks := by
  rw [← hview w.blocks, h.blocks, hview]

/-- What forgets sort keys is the same of the main blocks. -/
theorem mainBlocks_congr (h : w.AlikeUnsorted o) (view : List Block → β)
    (hview : ∀ bs, view (bs.map Block.unsorted) = view bs) : view w.mainBlocks = view o.mainBlocks := by
  refine h.blocks_congr (fun bs => view (bs.filter (·.depth == 1))) fun bs => ?_
  rw [← hview (bs.filter _), List.filter_map]
  rfl

/-- The first main blocks are the same but for sort keys, or there is none in either outline. -/
theorem mainBlock?_cases (h : w.AlikeUnsorted o) : (w.mainBlock? = none ∧ o.mainBlock? = none) ∨
    ∃ b b', w.mainBlock? = some b ∧ o.mainBlock? = some b' ∧ b.unsorted = b'.unsorted := by
  have hfirst := congrArg (List.find? (·.depth == 1)) h.blocks
  rw [List.find?_map, List.find?_map] at hfirst
  change w.mainBlock?.map Block.unsorted = o.mainBlock?.map Block.unsorted at hfirst
  cases hw : w.mainBlock? <;> cases ho : o.mainBlock? <;> simp_all

theorem subqueryCount (h : w.AlikeUnsorted o) : w.subqueryCount = o.subqueryCount := by
  refine h.blocks_congr (fun bs => bs.countP fun b => 2 ≤ b.depth) fun bs => ?_
  rw [List.countP_map]
  rfl

theorem topSubqueryCount (h : w.AlikeUnsorted o) : w.topSubqueryCount = o.topSubqueryCount := by
  refine h.blocks_congr (fun bs => bs.countP fun b => b.depth == 2) fun bs => ?_
  rw [List.countP_map]
  rfl

theorem maxDepth (h : w.AlikeUnsorted o) : w.maxDepth = o.maxDepth := by
  refine h.blocks_congr (fun bs => bs.foldl (fun n b => max n b.depth) 0) fun bs => ?_
  rw [List.foldl_map]
  rfl

theorem outputColumns (h : w.AlikeUnsorted o) : w.outputColumns = o.outputColumns := by
  rw [Outline.outputColumns, Outline.outputColumns]
  rcases h.mainBlock?_cases with ⟨hw, ho⟩ | ⟨b, b', hw, ho, hsame⟩
  · rw [hw, ho]
  · have hcolumns : b.outputColumns = b'.outputColumns := by
      rw [← b.outputColumns_unsorted, hsame, b'.outputColumns_unsorted]
    rw [hw, ho]
    exact hcolumns

end AlikeUnsorted

end Outline

/-! ## 3. Parentheses -/

/-- A query in parentheses, with no clause outside them. -/
def Sql.Query.inParens (q : Query) : Query := ⟨false, [], .paren q, [], none, [], none, none, []⟩

namespace Sql.Query

variable (q : Query)

/-- A walk over a query in parentheses meets the query and then goes over it. -/
theorem visits_inParens : q.inParens.visits true = .query q :: q.visits true := by
  simp [inParens, Query.visits, Body.visits, visitsCtes, visitsKeys, visitsOption, visitsAll]

theorem allQueries_inParens : allQueries q.inParens = q.inParens :: allQueries q := by
  rw [allQueries, visits_inParens]
  rfl

/-- Parentheses give no name to a query. -/
theorem cteNames_inParens : cteNames q.inParens = cteNames q := by
  rw [cteNames, allQueries_inParens]
  rfl

end Sql.Query

namespace Outline

variable {o w : Outline} (h : w.query = o.query.inParens)

include h

/-- The first block in parentheses has no sort keys, whatever it had before. -/
theorem blocks_inParens : w.blocks = sortFirst [] o.blocks := by
  rw [blocks, h, queryBlocks_eq]
  exact congrArg (sortFirst []) (bodyBlocks_paren o.query 1 none 0)

/-- Parentheses change nothing in an outline but sort keys. -/
theorem alikeUnsorted_inParens : w.AlikeUnsorted o where
  blocks := by rw [blocks_inParens h, map_unsorted_sortFirst]
  tables := by
    rw [tables, h, Query.cteNames_inParens, Query.visits_inParens]
    rfl
  setOperations := by
    rw [setOperations, h, Query.cteNames_inParens, Query.allQueries_inParens]
    rfl
  likePatterns := by
    rw [likePatterns, h, Query.visits_inParens]
    rfl

end Outline

end QueryDrill
