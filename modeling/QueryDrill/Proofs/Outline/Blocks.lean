import QueryDrill.Outline.Basic
/-!
Blocks of a query: how the numbering goes, and what does not depend on it.

* `numbered`: lists of blocks one after the other, each numbered from where the one before ended. The blocks
  of a query and of a body are stated with it once (`queryBlocks_eq`, `bodyBlocks_select`); nothing after
  that looks into the recursion.
* `query_blocks_induction`: what holds of a query when it holds of the queries of its `WITH` list and of its
  body, and of a body when it holds of what the outline looks for in it.
* `le_depth_queryBlocks`, `depths_queryBlocks`: depths start at the depth of the query and do not depend on
  numbers.
* `blocksAt`: the blocks at the depth of a query are its main ones; those of its `WITH` list and those inside
  a `SELECT` are deeper.
-/

namespace QueryDrill

open Sql Text

/-! ## 1. Sizes -/

namespace Sql

theorem Query.sizeOf_cte_lt {q : Query} {c : Cte} (h : c ∈ q.ctes) : sizeOf c.query < sizeOf q := by
  have := List.sizeOf_lt_of_mem h
  obtain ⟨_, p, _⟩ := c
  cases q
  simp at *
  omega

theorem Query.sizeOf_body_lt (q : Query) : sizeOf q.body < sizeOf q := by
  cases q
  simp
  omega

theorem Body.sizeOf_subquery_lt {s : Select} {q : Query} (h : q ∈ s.subqueries) :
    sizeOf q < sizeOf (Body.select s) := by
  have := Select.sizeOf_lt_of_mem_subqueries h
  simp
  omega

/-- Whether a body is none of those that blocks are looked for in. -/
def Body.isBare : Body → Bool
  | .select _ => false
  | .paren _ => false
  | .setOperation .. => false
  | .values _ => true
  | .table _ => true
  | .insert _ => true
  | .update _ => true
  | .toDirectory .. => true

end Sql

/-! ## 2. Numbering -/

/-- Blocks of one thing after the other, each numbered from where the one before ended. -/
def numbered {α : Type} (f : α → Nat → List Block) : List α → Nat → List Block
  | [], _ => []
  | a :: as, n => f a n ++ numbered f as (n + (f a n).length)

section Numbered

variable {α β : Type} {f g : α → Nat → List Block}

theorem foldl_append_eq_numbered (as : List α) (bs : List Block) (n : Nat) :
    as.foldl (fun bs a => bs ++ f a (n + bs.length)) bs = bs ++ numbered f as (n + bs.length) := by
  induction as generalizing bs with
  | nil => simp [numbered]
  | cons a as ih =>
    rw [List.foldl_cons, ih, numbered, List.length_append, List.append_assoc, Nat.add_assoc]

theorem foldl_attach_eq_numbered (f : α → Nat → List Block) (as : List α) (n : Nat) :
    as.attach.foldl (fun bs a => bs ++ f a.1 (n + bs.length)) [] = numbered f as n := by
  rw [List.foldl_attach (f := fun bs a => bs ++ f a (n + bs.length)), foldl_append_eq_numbered,
    List.nil_append, List.length_nil, Nat.add_zero]

theorem mem_numbered {as : List α} {n : Nat} {b : Block} (h : b ∈ numbered f as n) :
    ∃ a ∈ as, ∃ m, b ∈ f a m := by
  induction as generalizing n with
  | nil => simp [numbered] at h
  | cons a as ih =>
    rcases List.mem_append.1 h with h | h
    · exact ⟨a, List.mem_cons_self, n, h⟩
    · obtain ⟨a', ha', m, hm⟩ := ih h
      exact ⟨a', List.mem_cons_of_mem _ ha', m, hm⟩

/-- What does not depend on numbers for each thing does not depend on them for all. -/
theorem map_numbered_congr {as : List α} {view : Block → β}
    (h : ∀ a ∈ as, ∀ n m, (f a n).map view = (g a m).map view) (n m : Nat) :
    (numbered f as n).map view = (numbered g as m).map view := by
  induction as generalizing n m with
  | nil => rfl
  | cons a as ih =>
    rw [numbered, numbered, List.map_append, List.map_append, h a List.mem_cons_self n m,
      ih fun a' ha' => h a' (List.mem_cons_of_mem _ ha')]

theorem map_numbered {as : List α} {view : Block → β} {views : α → List β}
    (h : ∀ a ∈ as, ∀ n, (f a n).map view = views a) (n : Nat) :
    (numbered f as n).map view = as.flatMap views := by
  induction as generalizing n with
  | nil => rfl
  | cons a as ih =>
    rw [numbered, List.map_append, List.flatMap_cons, h a List.mem_cons_self,
      ih fun a' ha' => h a' (List.mem_cons_of_mem _ ha')]

theorem perm_map_numbered {as : List α} {view : Block → β} {views : α → List β}
    (h : ∀ a ∈ as, ∀ n, ((f a n).map view).Perm (views a)) (n : Nat) :
    ((numbered f as n).map view).Perm (as.flatMap views) := by
  induction as generalizing n with
  | nil => exact .nil
  | cons a as ih =>
    rw [numbered, List.map_append, List.flatMap_cons]
    exact (h a List.mem_cons_self n).append (ih (fun a' ha' => h a' (List.mem_cons_of_mem _ ha')) _)

end Numbered

/-- Sort keys change nothing but the sort keys of the first block. -/
theorem map_sortFirst {β : Type} {view : Block → β} (h : ∀ b keys, view { b with orderBy := keys } = view b)
    (keys : List Expr) (bs : List Block) : (sortFirst keys bs).map view = bs.map view := by
  cases bs with
  | nil => rfl
  | cons b bs => rw [sortFirst, List.map_cons, h, List.map_cons]

/-! ## 3. Queries and bodies -/

/-- The blocks of the queries of a `WITH` list. -/
def cteBlocks (ctes : List Cte) (depth : Nat) (parent : Option Nat) (start : Nat) : List Block :=
  numbered (fun c n => queryBlocks c.query (depth + 1) parent n) ctes start

/-- The blocks of queries inside a block with a number. -/
def innerBlocks (qs : List Query) (depth number : Nat) : List Block :=
  numbered (fun q n => queryBlocks q (depth + 1) (some number) n) qs (number + 1)

theorem queryBlocks_eq (q : Query) (depth : Nat) (parent : Option Nat) (start : Nat) :
    queryBlocks q depth parent start =
      cteBlocks q.ctes depth parent start ++ sortFirst (q.orderBy.map SortKey.expr)
        (bodyBlocks q.body depth parent (start + (cteBlocks q.ctes depth parent start).length)) := by
  have hnamed := foldl_attach_eq_numbered (fun c n => queryBlocks c.query (depth + 1) parent n) q.ctes start
  rw [queryBlocks]
  exact congrArg (fun named => named ++ sortFirst (q.orderBy.map SortKey.expr)
    (bodyBlocks q.body depth parent (start + named.length))) hnamed

theorem bodyBlocks_select (s : Select) (depth : Nat) (parent : Option Nat) (start : Nat) :
    bodyBlocks (.select s) depth parent start =
      ⟨s, [], depth, parent⟩ :: innerBlocks s.subqueries depth start := by
  have hinner :=
    foldl_attach_eq_numbered (fun q n => queryBlocks q (depth + 1) (some start) n) s.subqueries (start + 1)
  rw [bodyBlocks]
  exact congrArg (⟨s, [], depth, parent⟩ :: ·) hinner

theorem bodyBlocks_paren (q : Query) (depth : Nat) (parent : Option Nat) (start : Nat) :
    bodyBlocks (.paren q) depth parent start = queryBlocks q depth parent start := by
  rw [bodyBlocks]

theorem bodyBlocks_setOperation (op : SetOperator) (quantifier : SetQuantifier) (l r : Body) (depth : Nat)
    (parent : Option Nat) (start : Nat) :
    bodyBlocks (.setOperation op quantifier l r) depth parent start =
      bodyBlocks l depth parent start
        ++ bodyBlocks r depth parent (start + (bodyBlocks l depth parent start).length) := by
  rw [bodyBlocks]

theorem bodyBlocks_bare {b : Body} (h : b.isBare = true) (depth : Nat) (parent : Option Nat) (start : Nat) :
    bodyBlocks b depth parent start = [] := by
  cases b with
  | select | paren | setOperation => cases h
  | values | table | insert | update | toDirectory => rw [bodyBlocks]

mutual

theorem query_blocks_induction {P : Query → Prop} {Q : Body → Prop}
    (query : ∀ q, (∀ c ∈ q.ctes, P c.query) → Q q.body → P q)
    (select : ∀ s, (∀ q ∈ s.subqueries, P q) → Q (.select s)) (paren : ∀ q, P q → Q (.paren q))
    (setOperation : ∀ op quantifier l r, Q l → Q r → Q (.setOperation op quantifier l r))
    (bare : ∀ b, b.isBare = true → Q b) (q : Query) : P q :=
  query q (fun c _ => query_blocks_induction query select paren setOperation bare c.query)
    (body_blocks_induction query select paren setOperation bare q.body)
termination_by sizeOf q
decreasing_by
  · exact Query.sizeOf_cte_lt ‹_›
  · exact q.sizeOf_body_lt

theorem body_blocks_induction {P : Query → Prop} {Q : Body → Prop}
    (query : ∀ q, (∀ c ∈ q.ctes, P c.query) → Q q.body → P q)
    (select : ∀ s, (∀ q ∈ s.subqueries, P q) → Q (.select s)) (paren : ∀ q, P q → Q (.paren q))
    (setOperation : ∀ op quantifier l r, Q l → Q r → Q (.setOperation op quantifier l r))
    (bare : ∀ b, b.isBare = true → Q b) (b : Body) : Q b :=
  match b with
  | .select s => select s fun q _ => query_blocks_induction query select paren setOperation bare q
  | .paren q => paren q (query_blocks_induction query select paren setOperation bare q)
  | .setOperation op quantifier l r =>
    setOperation op quantifier l r (body_blocks_induction query select paren setOperation bare l)
      (body_blocks_induction query select paren setOperation bare r)
  | .values _ | .table _ | .insert _ | .update _ | .toDirectory .. => bare _ rfl
termination_by sizeOf b
decreasing_by
  · exact Body.sizeOf_subquery_lt ‹_›
  all_goals simp <;> omega

end

/-! ## 4. Depths -/

/-- Sort keys move no block to another depth. -/
theorem depth_mem_sortFirst {keys : List Expr} {bs : List Block} {b : Block} (h : b ∈ sortFirst keys bs) :
    ∃ b' ∈ bs, b'.depth = b.depth := by
  have hmem : b.depth ∈ (sortFirst keys bs).map Block.depth := List.mem_map_of_mem h
  rw [map_sortFirst fun _ _ => rfl] at hmem
  exact List.mem_map.1 hmem

/-- No block of a query is at a lower depth than the query. -/
theorem le_depth_queryBlocks (q : Query) :
    ∀ depth parent start, ∀ b ∈ queryBlocks q depth parent start, depth ≤ b.depth := by
  refine query_blocks_induction
    (P := fun q => ∀ depth parent start, ∀ b ∈ queryBlocks q depth parent start, depth ≤ b.depth)
    (Q := fun k => ∀ depth parent start, ∀ b ∈ bodyBlocks k depth parent start, depth ≤ b.depth)
    ?query ?select ?paren ?setOperation ?bare q
  case query =>
    intro q hctes hbody depth parent start b hb
    rw [queryBlocks_eq] at hb
    rcases List.mem_append.1 hb with hb | hb
    · obtain ⟨c, hc, m, hb⟩ := mem_numbered hb
      exact Nat.le_of_succ_le (hctes c hc _ _ _ b hb)
    · obtain ⟨b', hb', hdepth⟩ := depth_mem_sortFirst hb
      exact hdepth ▸ hbody _ _ _ b' hb'
  case select =>
    intro s hs depth parent start b hb
    rw [bodyBlocks_select] at hb
    rcases List.mem_cons.1 hb with rfl | hb
    · exact Nat.le_refl _
    · obtain ⟨p, hp, m, hb⟩ := mem_numbered hb
      exact Nat.le_of_succ_le (hs p hp _ _ _ b hb)
  case paren =>
    intro q hq depth parent start b hb
    exact hq _ _ _ b (bodyBlocks_paren q depth parent start ▸ hb)
  case setOperation =>
    intro op quantifier l r hl hr depth parent start b hb
    rw [bodyBlocks_setOperation] at hb
    rcases List.mem_append.1 hb with hb | hb
    · exact hl _ _ _ b hb
    · exact hr _ _ _ b hb
  case bare =>
    intro k hk depth parent start b hb
    rw [bodyBlocks_bare hk] at hb
    cases hb

/-- The blocks of a `WITH` list are deeper than the query. -/
theorem lt_depth_cteBlocks {ctes : List Cte} {depth start : Nat} {parent : Option Nat} {b : Block}
    (h : b ∈ cteBlocks ctes depth parent start) : depth < b.depth := by
  obtain ⟨c, -, m, hb⟩ := mem_numbered h
  exact le_depth_queryBlocks c.query _ _ _ b hb

/-- The blocks inside a block are deeper than it. -/
theorem lt_depth_innerBlocks {qs : List Query} {depth number : Nat} {b : Block}
    (h : b ∈ innerBlocks qs depth number) : depth < b.depth := by
  obtain ⟨p, -, m, hb⟩ := mem_numbered h
  exact le_depth_queryBlocks p _ _ _ b hb

/-- Depths do not depend on the numbers of blocks. -/
theorem depths_queryBlocks (q : Query) : ∀ depth parent parent' start start',
    (queryBlocks q depth parent start).map Block.depth =
      (queryBlocks q depth parent' start').map Block.depth := by
  refine query_blocks_induction
    (P := fun q => ∀ depth parent parent' start start',
      (queryBlocks q depth parent start).map Block.depth =
        (queryBlocks q depth parent' start').map Block.depth)
    (Q := fun k => ∀ depth parent parent' start start',
      (bodyBlocks k depth parent start).map Block.depth =
        (bodyBlocks k depth parent' start').map Block.depth)
    ?query ?select ?paren ?setOperation ?bare q
  case query =>
    intro q hctes hbody depth parent parent' start start'
    rw [queryBlocks_eq, queryBlocks_eq, List.map_append, List.map_append, map_sortFirst fun _ _ => rfl,
      map_sortFirst fun _ _ => rfl, hbody depth parent parent' _ _]
    exact congrArg (· ++ _)
      (map_numbered_congr (fun c hc n m => hctes c hc _ parent parent' n m) start start')
  case select =>
    intro s hs depth parent parent' start start'
    rw [bodyBlocks_select, bodyBlocks_select, List.map_cons, List.map_cons]
    exact congrArg (depth :: ·)
      (map_numbered_congr (fun p hp n m => hs p hp _ (some start) (some start') n m) _ _)
  case paren =>
    intro q hq depth parent parent' start start'
    rw [bodyBlocks_paren, bodyBlocks_paren]
    exact hq depth parent parent' start start'
  case setOperation =>
    intro op quantifier l r hl hr depth parent parent' start start'
    rw [bodyBlocks_setOperation, bodyBlocks_setOperation, List.map_append, List.map_append,
      hl depth parent parent' start start', hr depth parent parent' _ _]
  case bare =>
    intro k hk depth parent parent' start start'
    rw [bodyBlocks_bare hk, bodyBlocks_bare hk]

/-! ## 5. Blocks at a depth -/

/-- The blocks at a depth. -/
def blocksAt (depth : Nat) (bs : List Block) : List Block := bs.filter (·.depth == depth)

/-- The depth of the first of some blocks. -/
def headDepth? (bs : List Block) : Option Nat := (bs.map Block.depth).head?

section AtDepth

variable {d : Nat}

theorem blocksAt_append (as bs : List Block) : blocksAt d (as ++ bs) = blocksAt d as ++ blocksAt d bs :=
  List.filter_append as bs

theorem headDepth?_append (as bs : List Block) :
    headDepth? (as ++ bs) = (headDepth? as).or (headDepth? bs) := by
  rw [headDepth?, List.map_append, List.head?_append, headDepth?, headDepth?]

/-- No block is at a depth above all of them. -/
theorem blocksAt_eq_nil {bs : List Block} (h : ∀ b ∈ bs, d < b.depth) : blocksAt d bs = [] := by
  refine List.filter_eq_nil_iff.2 fun b hb => ?_
  have := h b hb
  simp
  omega

theorem blocksAt_select (s : Select) (parent : Option Nat) (start : Nat) :
    blocksAt d (bodyBlocks (.select s) d parent start) = [⟨s, [], d, parent⟩] := by
  have hinner : blocksAt d (innerBlocks s.subqueries d start) = [] :=
    blocksAt_eq_nil fun _ => lt_depth_innerBlocks
  rw [bodyBlocks_select, blocksAt, List.filter_cons, if_pos (beq_self_eq_true d), ← blocksAt, hinner]

theorem headDepth?_sortFirst (keys : List Expr) (bs : List Block) :
    headDepth? (sortFirst keys bs) = headDepth? bs := by
  rw [headDepth?, map_sortFirst fun _ _ => rfl, headDepth?]

/-- Sort keys reach the blocks at a depth just if the first block of all is there. -/
theorem blocksAt_sortFirst (keys : List Expr) (bs : List Block) :
    blocksAt d (sortFirst keys bs) =
      if headDepth? bs = some d then sortFirst keys (blocksAt d bs) else blocksAt d bs := by
  cases bs with
  | nil => rfl
  | cons b bs => by_cases h : b.depth = d <;> simp [sortFirst, blocksAt, headDepth?, h]

end AtDepth

end QueryDrill
