import QueryDrill.Failure
import QueryDrill.Outline.Block
/-!
The outline of a query: its select blocks, the tables it reads, its set operations and patterns.

Blocks are numbered in the order in which the outline lists them: the blocks of a `WITH` list, then
those of the body, each `SELECT` before the blocks inside it.
-/

namespace QueryDrill

open Sql Text

/-! ## 1. Blocks -/

/-- Gives sort keys to the first of some blocks. -/
def sortFirst (keys : List Expr) : List Block → List Block
  | [] => []
  | b :: bs => { b with orderBy := keys } :: bs

mutual

/-- The blocks of a query at a depth, the first of which gets the number `start`. -/
def queryBlocks (q : Query) (depth : Nat) (parent : Option Nat) (start : Nat) : List Block :=
  let named := q.ctes.attach.foldl (fun bs ⟨c, _⟩ =>
    bs ++ queryBlocks c.query (depth + 1) parent (start + bs.length)) []
  named ++ sortFirst (q.orderBy.map SortKey.expr) (bodyBlocks q.body depth parent (start + named.length))
termination_by sizeOf q
decreasing_by
  · rename_i h
    have := List.sizeOf_lt_of_mem h
    obtain ⟨_, p, _⟩ := c
    cases q
    simp at *
    omega
  · cases q
    simp
    omega

/-- The blocks of a query body. -/
def bodyBlocks (b : Body) (depth : Nat) (parent : Option Nat) (start : Nat) : List Block :=
  match b with
  | .select s =>
    let inner := s.subqueries.attach.foldl (fun bs ⟨q, _⟩ =>
      bs ++ queryBlocks q (depth + 1) (some start) (start + 1 + bs.length)) []
    ⟨s, [], depth, parent⟩ :: inner
  | .paren q => queryBlocks q depth parent start
  | .setOperation _ _ l r =>
    let left := bodyBlocks l depth parent start
    left ++ bodyBlocks r depth parent (start + left.length)
  | .values _ | .table _ | .insert _ | .update _ | .toDirectory .. => []
termination_by sizeOf b
decreasing_by
  · rename_i h
    have := Select.sizeOf_lt_of_mem_subqueries h
    simp
    omega
  all_goals simp <;> omega

end

/-! ## 2. Tables and set operations -/

/-- The queries of a statement that is a query, itself first. -/
def allQueries (q : Query) : List Query := q :: (q.visits true).filterMap Visit.query?

/-- The names that some `WITH` list of a query gives. -/
def cteNames (q : Query) : List String :=
  (allQueries q).flatMap fun p => p.ctes.map fun c => lower c.name.name.value

/-- The tables among what a walk meets, those with one of the `hidden` names left out. -/
def tablesAmong (hidden : List String) (visits : List Visit) : List String :=
  sortedSet (((visits.filterMap Visit.relation?).map Name.key).filter fun n => !hidden.contains n)

/-- A set operation and the tables that its sides read. -/
structure SetOperation where
  operator : SetOperator
  all : Bool
  left : List String
  right : List String
  deriving DecidableEq, Repr

/-- A set operation as messages show it. -/
def SetOperation.text (o : SetOperation) : String :=
  o.operator.sql ++ (if o.all then " ALL" else "") ++ " of \x7b" ++ ", ".intercalate o.left
    ++ "\x7d and \x7b" ++ ", ".intercalate o.right ++ "\x7d"

/-- The set operations of a body outside nested queries, outermost first. -/
def bodySetOperations (hidden : List String) : Body → List SetOperation
  | .setOperation op quantifier l r =>
    ⟨op, quantifier == .all || quantifier == .allByName, tablesAmong hidden (l.visits true),
      tablesAmong hidden (r.visits true)⟩
      :: (bodySetOperations hidden l ++ bodySetOperations hidden r)
  | _ => []

/-- The pattern of a match, if it is written out as a string. -/
def likePattern? : Expr → Option String
  | .like kind _ _ pattern _ =>
    if kind = .like || kind = .ilike then
      match pattern with
      | .literal (.singleQuoted s) => some s
      | .literal (.doubleQuoted s) => some s
      | .literal (.escaped s) => some s
      | _ => none
    else none
  | _ => none

/-! ## 3. Outlines -/

/-- A query that was read from a text. -/
structure Outline where
  text : String
  dialect : Dialect
  query : Query

namespace Outline

/-- The blocks, the first of which is that of the main query unless `WITH` comes before it. -/
def blocks (o : Outline) : List Block := queryBlocks o.query 1 none 0

/-- The blocks that are in no other. -/
def mainBlocks (o : Outline) : List Block := o.blocks.filter (·.depth == 1)

/-- The first block that is in no other. -/
def mainBlock? (o : Outline) : Option Block := o.blocks.find? (·.depth == 1)

/-- How many blocks there are. -/
def selectCount (o : Outline) : Nat := o.blocks.length

/-- How many blocks are inside another one. -/
def subqueryCount (o : Outline) : Nat := o.blocks.countP (2 ≤ ·.depth)

/-- How many blocks are directly inside a main block. -/
def topSubqueryCount (o : Outline) : Nat := o.blocks.countP (·.depth == 2)

/-- How deep blocks are nested. -/
def maxDepth (o : Outline) : Nat := o.blocks.foldl (fun n b => max n b.depth) 0

/-- Whether some block is inside a block that is inside another. -/
def hasNestedSubqueries (o : Outline) : Bool := decide (o.topSubqueryCount < o.subqueryCount)

/-- The tables that are read anywhere, without the names that `WITH` gives. -/
def tables (o : Outline) : List String :=
  tablesAmong (cteNames o.query) (o.query.visits true)

/-- The columns of the result. -/
def outputColumns (o : Outline) : List OutputColumn :=
  match o.mainBlock? with
  | some b => b.outputColumns
  | none => []

/-- All set operations, outermost first. -/
def setOperations (o : Outline) : List SetOperation :=
  (allQueries o.query).flatMap fun q => bodySetOperations (cteNames o.query) q.body

/-- The patterns of all matches by `LIKE` or `ILIKE`. -/
def likePatterns (o : Outline) : List String :=
  ((o.query.visits true).filterMap Visit.expr?).filterMap likePattern?

/-- Reads a text that is one query. -/
def parse (d : Dialect) (text : String) : Except Failure Outline := do
  match ← readStatements d text with
  | [.query q] => return ⟨trim text, d, q⟩
  | [_] => throw (.unreadable text "expected a SELECT query")
  | statements =>
    throw (.unreadable text
      ("expected a single query, found " ++ toString statements.length ++ " statements"))

/-- What is seen of an outline is seen of one that was read. -/
theorem exists_parse_eq_ok {β : Type} {d : Dialect} {text : String} {view : Outline → β} {b : β}
    (h : ((parse d text).map view).toOption = some b) : ∃ o, parse d text = .ok o ∧ view o = b :=
  exists_of_map_toOption h

end Outline

end QueryDrill
