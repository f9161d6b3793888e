import Mathlib.Data.List.Count
import Mathlib.Data.List.Dedup
import Mathlib.Data.List.Lattice
import Mathlib.Data.List.Nodup
import QueryDrill.Proofs.Constraint.Uniqueness
import QueryDrill.Proofs.Outline.Selects
/-!
Duplicate rows of set operations.

A query whose result is made up of blocks by set operations is a `SetTree`; its rows are computed from rows of
each block, with the multiplicities that SQL gives to each operation (`SetOperator.count_rows`). The check of
duplicate rows looks at the outermost operation and at the blocks. That settles all operations but `UNION ALL`:
two sides without repeated rows can have a row in common. Where they have none, a query that passes the check
repeats no row (`QueryConstraint.nodup_rows_of_checkUnique`).
-/

namespace QueryDrill

open Sql

variable {α : Type} [DecidableEq α]

/-! ## 1. Rows of an operation -/

namespace Sql.SetOperator

/-- How often a row stands in the result of an operation, if it stands `m` times on the left and `n` times on
the right. Without `ALL` no row of the result is repeated. -/
def times (keepsAll : Bool) (m n : Nat) : SetOperator → Nat
  | union => if keepsAll then m + n else min 1 (m + n)
  | intersect => if keepsAll then min m n else min 1 (min m n)
  | except => if keepsAll then m - n else min 1 m - n

/-- The rows of an operation over the rows of its sides. -/
def rows (keepsAll : Bool) (l r : List α) : SetOperator → List α
  | union => if keepsAll then l ++ r else (l ++ r).dedup
  | intersect => if keepsAll then l.bagInter r else (l.bagInter r).dedup
  | except => if keepsAll then l.diff r else l.dedup.diff r

/-- Without repetition a row stands once if it stands at all. -/
theorem count_dedup_eq_min (l : List α) (a : α) : l.dedup.count a = min 1 (l.count a) := by
  rw [List.count_dedup]
  split
  · have := List.count_pos_iff.2 ‹a ∈ l›
    omega
  · rw [List.count_eq_zero_of_not_mem ‹a ∉ l›, Nat.min_zero]

/-- Rows stand in the result as often as the operation says. -/
theorem count_rows (op : SetOperator) (keepsAll : Bool) (l r : List α) (a : α) :
    (op.rows keepsAll l r).count a = op.times keepsAll (l.count a) (r.count a) := by
  cases op <;> cases keepsAll <;> simp [rows, times, count_dedup_eq_min, List.count_diff]

/-- Without `ALL` no row is repeated, whatever the sides are. -/
theorem nodup_rows_of_not_keepsAll (op : SetOperator) (l r : List α) : (op.rows false l r).Nodup := by
  refine List.nodup_iff_count_le_one.2 fun a => ?_
  rw [count_rows]
  cases op <;> simp only [times, Bool.false_eq_true, if_false] <;> omega

end Sql.SetOperator

/-! ## 2. Trees of operations -/

/-- A tree of set operations over numbered blocks. -/
inductive SetTree where
  | block (number : Nat)
  | operation (op : SetOperator) (keepsAll : Bool) (left right : SetTree)
  deriving DecidableEq, Repr

namespace SetTree

/-- The numbers of the blocks of a tree, from left to right. -/
def blocks : SetTree → List Nat
  | block n => [n]
  | operation _ _ l r => l.blocks ++ r.blocks

/-- The rows of a tree over the rows of its blocks. -/
def rows (blockRows : Nat → List α) : SetTree → List α
  | block n => blockRows n
  | operation op keepsAll l r => op.rows keepsAll (l.rows blockRows) (r.rows blockRows)

/-- The two sides of each `UNION ALL` have no row in common. Operations without `ALL`, and sides that an
operation only takes rows away by, can be as they are. -/
def Apart (blockRows : Nat → List α) : SetTree → Prop
  | block _ => True
  | operation _ false _ _ => True
  | operation .union true l r =>
    l.Apart blockRows ∧ r.Apart blockRows ∧ (l.rows blockRows).Disjoint (r.rows blockRows)
  | operation .intersect true l r => l.Apart blockRows ∨ r.Apart blockRows
  | operation .except true l _ => l.Apart blockRows

/-- Over blocks that repeat no row, a tree repeats none where the sides of each `UNION ALL` have no row in
common. -/
theorem nodup_rows {blockRows : Nat → List α} {t : SetTree}
    (hblocks : ∀ n ∈ t.blocks, (blockRows n).Nodup) (hapart : t.Apart blockRows) :
    (t.rows blockRows).Nodup := by
  induction t with
  | block n => exact hblocks n List.mem_cons_self
  | operation op keepsAll l r ihl ihr =>
    have hl := ihl fun n hn => hblocks n (List.mem_append_left _ hn)
    have hr := ihr fun n hn => hblocks n (List.mem_append_right _ hn)
    cases keepsAll with
    | false => exact op.nodup_rows_of_not_keepsAll _ _
    | true =>
      cases op with
      | union =>
        obtain ⟨hal, har, hdisjoint⟩ := hapart
        exact (hl hal).append (hr har) hdisjoint
      | intersect =>
        rcases hapart with hal | har
        · exact (hl hal).bagInter_right
        · exact (hr har).bagInter_left
      | except => exact (hl hapart).diff

end SetTree

/-! ## 3. Queries as trees -/

namespace Sql

mutual

/-- The tree of a query in parentheses that shows all its rows; the first block gets the number `start`. -/
def Query.setTree? (start : Nat) : Query → Option SetTree
  | ⟨_, _, body, _, none, [], none, none, _⟩ => body.setTree? start
  | _ => none

/-- The tree of a body that is made up of `SELECT`s by set operations. -/
def Body.setTree? (start : Nat) : Body → Option SetTree
  | .select _ => some (.block start)
  | .paren q => q.setTree? start
  | .setOperation op quantifier l r => do
    let left ← l.setTree? start
    let right ← r.setTree? (start + l.mainSelects.length)
    return .operation op (quantifier == .all || quantifier == .allByName) left right
  | .values _ => none
  | .table _ => none
  | .insert _ => none
  | .update _ => none
  | .toDirectory .. => none

end

mutual

theorem Query.blocks_of_setTree? (q : Query) {start : Nat} {t : SetTree}
    (h : q.setTree? start = some t) : t.blocks = List.range' start q.mainSelects.length := by
  match q with
  | ⟨_, _, body, _, limit, limitBy, offset, fetch, _⟩ =>
    unfold Query.setTree? at h
    split at h
    · rename_i heq
      cases heq
      rw [Query.mainSelects]
      exact body.blocks_of_setTree? h
    · cases h

/-- Each main block stands once in the tree of a body, in order. -/
theorem Body.blocks_of_setTree? (b : Body) {start : Nat} {t : SetTree}
    (h : b.setTree? start = some t) : t.blocks = List.range' start b.mainSelects.length := by
  cases b with
  | select s =>
    rw [Body.setTree?, Option.some.injEq] at h
    subst h
    rfl
  | paren q =>
    rw [Body.setTree?] at h
    rw [Body.mainSelects, q.blocks_of_setTree? h]
  | setOperation op quantifier l r =>
    rw [Body.setTree?] at h
    simp only [Option.bind_eq_bind, Option.bind_eq_some_iff, Option.pure_def, Option.some.injEq] at h
    obtain ⟨left, hleft, right, hright, rfl⟩ := h
    rw [SetTree.blocks, l.blocks_of_setTree? hleft, r.blocks_of_setTree? hright, List.range'_append_1,
      Body.mainSelects, List.length_append]
  | values | table | insert | update | toDirectory =>
    rw [Body.setTree?] at h
    cases h

end

end Sql

theorem Outline.length_mainBlocks (o : Outline) : o.mainBlocks.length = o.query.body.mainSelects.length := by
  have hselects : o.mainBlocks.map Block.select = o.query.mainSelects :=
    selects_blocksAt_queryBlocks o.query 1 none 0
  rw [← o.query.mainSelects_eq, ← hselects, List.length_map]

/-! ## 4. The check of duplicate rows -/

namespace QueryConstraint

variable {o : Outline} {catalog : Catalog} {t : SetTree}

/-- A query whose outermost operation is said to remove duplicates repeats no row. -/
theorem nodup_rows_of_removesDuplicates (htree : o.query.body.setTree? 0 = some t)
    (h : removesDuplicates o = true) (blockRows : Nat → List α) : (t.rows blockRows).Nodup := by
  unfold removesDuplicates at h
  cases hbody : o.query.body with
  | setOperation op quantifier l r =>
    rw [hbody] at h htree
    rw [Body.setTree?] at htree
    simp only [Option.bind_eq_bind, Option.bind_eq_some_iff, Option.pure_def, Option.some.injEq] at htree
    obtain ⟨left, -, right, -, rfl⟩ := htree
    have hkeeps : (quantifier == .all || quantifier == .allByName) = false := by
      simpa [bne] using h
    rw [hkeeps, SetTree.rows]
    exact op.nodup_rows_of_not_keepsAll _ _
  | select | paren | values | table | insert | update | toDirectory => simp [hbody] at h

/-- **A query that passes as one without duplicate rows has none, if the sides of `UNION ALL` have no row in
common.** Each block that is guaranteed unique has rows without repetition, others can have any. -/
theorem nodup_rows_of_checkUnique (htree : o.query.body.setTree? 0 = some t) {blockRows : Nat → List α}
    (hblocks : ∀ i b, o.mainBlocks[i]? = some b → guaranteesUnique catalog true b = true →
      (blockRows i).Nodup)
    (hcheck : checkDuplicates o catalog .unique = none) (hapart : t.Apart blockRows) :
    (t.rows blockRows).Nodup := by
  rcases checkUnique_eq_none_iff.1 hcheck with hremoves | ⟨-, hall⟩
  · exact nodup_rows_of_removesDuplicates htree hremoves blockRows
  · refine SetTree.nodup_rows (fun n hn => ?_) hapart
    rw [o.query.body.blocks_of_setTree? htree, List.mem_range'_1, ← o.length_mainBlocks] at hn
    obtain ⟨-, hlt⟩ := hn
    rw [Nat.zero_add] at hlt
    exact hblocks n _ (List.getElem?_eq_getElem hlt) (hall _ (List.getElem_mem hlt))

/-- The tree of a query, and whether it passes as one without duplicate rows. -/
def treeVerdict (o : Outline) : Option SetTree × Observation :=
  (o.query.body.setTree? 0, checkDuplicates o numbers .unique)

/-- Two queries with `UNION ALL` that pass as without duplicate rows, since each block selects a key. -/
theorem treeVerdict_unions :
    ((Outline.parse .postgres "(SELECT id FROM a UNION ALL SELECT id FROM b) EXCEPT ALL SELECT id FROM a").map
        treeVerdict).toOption =
      some (some (.operation .except true (.operation .union true (.block 0) (.block 1)) (.block 2)), none) ∧
      ((Outline.parse .postgres "SELECT id FROM a UNION ALL SELECT id FROM a").map treeVerdict).toOption =
        some (some (.operation .union true (.block 0) (.block 1)), none) := by
  decide +kernel

/-- Over tables without a common number, and whatever the last block gives,
`(SELECT id FROM a UNION ALL SELECT id FROM b) EXCEPT ALL SELECT id FROM a` repeats no number. -/
theorem nodup_rows_numbers :
    ∃ o t, Outline.parse .postgres
        "(SELECT id FROM a UNION ALL SELECT id FROM b) EXCEPT ALL SELECT id FROM a" = .ok o ∧
      o.query.body.setTree? 0 = some t ∧ checkDuplicates o numbers .unique = none ∧
      t.Apart (fun n => [10 * n, 10 * n + 1]) ∧ (t.rows fun n => [10 * n, 10 * n + 1]).Nodup := by
  obtain ⟨o, ho, hverdict⟩ := Outline.exists_parse_eq_ok treeVerdict_unions.1
  obtain ⟨htree, hcheck⟩ := Prod.mk.inj hverdict
  have hapart : (SetTree.operation .except true (.operation .union true (.block 0) (.block 1))
      (.block 2)).Apart fun n => [10 * n, 10 * n + 1] := by
    simp [SetTree.Apart, SetTree.rows]
  refine ⟨o, _, ho, htree, hcheck, hapart, nodup_rows_of_checkUnique htree (fun i _ _ _ => ?_) hcheck hapart⟩
  simp

/-- `SELECT id FROM a UNION ALL SELECT id FROM a` passes as a query without duplicate rows, and shows each number
of the table twice. -/
theorem repeated_by_unionAll :
    ∃ (o : Outline) (t : SetTree) (blockRows : Nat → List Nat),
      Outline.parse .postgres "SELECT id FROM a UNION ALL SELECT id FROM a" = .ok o ∧
      o.query.body.setTree? 0 = some t ∧
      (∀ (i : Nat) (b : Block), o.mainBlocks[i]? = some b → guaranteesUnique numbers true b = true →
        (blockRows i).Nodup) ∧
      checkDuplicates o numbers .unique = none ∧ t.rows blockRows = [1, 1] ∧
      ¬ (t.rows blockRows).Nodup := by
  obtain ⟨o, ho, hverdict⟩ := Outline.exists_parse_eq_ok treeVerdict_unions.2
  obtain ⟨htree, hcheck⟩ := Prod.mk.inj hverdict
  refine ⟨o, _, fun _ => [1], ho, htree, fun _ _ _ _ => List.nodup_singleton 1, hcheck, rfl, ?_⟩
  simp [SetTree.rows, SetOperator.rows]

end QueryConstraint

end QueryDrill
