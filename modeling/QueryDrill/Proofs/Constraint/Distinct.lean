import QueryDrill.Proofs.Constraint.Blindness
import QueryDrill.Proofs.Constraint.Uniqueness
/-!
Whether a query that is said to need `DISTINCT` does.

`Query.withoutDistinct` deletes `DISTINCT` from all main `SELECT`s. A block without it is guaranteed unique just
when the old block was so for another reason (`QueryConstraint.guaranteesUnique_withoutDistinct`). So where
`DISTINCT` is said to be needed, the rows of the blocks are no longer unique without it; the rows of the query
still are, if its outermost set operation removes duplicates (`QueryConstraint.unique_withoutDistinct_iff`).
-/

namespace QueryDrill

open Sql

/-! ## 1. Deleting `DISTINCT` -/

/-- A `SELECT` without `DISTINCT`. -/
def Sql.Select.withoutDistinct (s : Select) : Select := { s with distinct := none }

/-- A query without `DISTINCT` in its main `SELECT`s. -/
def Sql.Query.withoutDistinct (q : Query) : Query := q.mapMain Select.withoutDistinct id

/-- A block without `DISTINCT`. -/
def Block.withoutDistinct (b : Block) : Block := b.mapMain Select.withoutDistinct id

namespace Block

variable (b : Block)

@[simp] theorem isDistinct_withoutDistinct : b.withoutDistinct.isDistinct = false := rfl

@[simp] theorem orderBy_withoutDistinct : b.withoutDistinct.orderBy = b.orderBy := List.map_id _

@[simp] theorem tables_withoutDistinct : b.withoutDistinct.tables = b.tables := rfl

@[simp] theorem outputColumns_withoutDistinct : b.withoutDistinct.outputColumns = b.outputColumns := rfl

@[simp] theorem hasGroupBy_withoutDistinct : b.withoutDistinct.hasGroupBy = b.hasGroupBy := rfl

@[simp] theorem aggregateCalls_withoutDistinct : b.withoutDistinct.aggregateCalls = b.aggregateCalls := by
  rw [aggregateCalls, orderBy_withoutDistinct]
  rfl

end Block

namespace QueryConstraint

variable (catalog : Catalog)

@[simp] theorem selectsKey_withoutDistinct (b : Block) :
    selectsKey catalog b.withoutDistinct = selectsKey catalog b := rfl

/-- Without `DISTINCT` a block is guaranteed unique just when its `DISTINCT` was redundant. -/
@[simp] theorem guaranteesUnique_withoutDistinct (countsDistinct : Bool) (b : Block) :
    guaranteesUnique catalog countsDistinct b.withoutDistinct = guaranteesUnique catalog false b := by
  simp [guaranteesUnique]

/-! ## 2. Queries without `DISTINCT` -/

variable {catalog} {o o' : Outline}

/-- Rows of a query without `DISTINCT` are guaranteed unique if the set operation removes duplicates, or if
`DISTINCT` is redundant in each block. -/
theorem checkUnique_withoutDistinct_iff (h : o'.query = o.query.withoutDistinct) :
    checkDuplicates o' catalog .unique = none ↔
      removesDuplicates o = true ∨
        o.mainBlocks ≠ [] ∧ ∀ b ∈ o.mainBlocks, guaranteesUnique catalog false b = true := by
  have hblocks : o'.mainBlocks = o.mainBlocks.map Block.withoutDistinct := Outline.mainBlocks_mapMain h
  have hoperation : removesDuplicates o' = removesDuplicates o := removesDuplicates_mapMain h
  simp [checkUnique_eq_none_iff, hblocks, hoperation]

/-- Where `DISTINCT` is required and found so, some block that says it would not be unique otherwise. -/
theorem exists_of_checkRequired (h : checkDuplicates o catalog .distinctRequired = none) :
    ∃ b ∈ o.mainBlocks, b.isDistinct = true ∧ guaranteesUnique catalog false b = false := by
  by_cases hnone : (o.mainBlocks.filter Block.isDistinct).isEmpty = true
  · simp [checkDuplicates, hnone] at h
  · simp only [checkDuplicates, hnone, Bool.false_eq_true, if_false, passIf_eq_none_iff,
      Bool.not_eq_true', List.all_eq_false, List.mem_filter] at h
    obtain ⟨b, ⟨hb, hdistinct⟩, hunique⟩ := h
    exact ⟨b, hb, hdistinct, by simpa using hunique⟩

/-- **A required `DISTINCT` is needed, but for set operations that remove duplicates.** Where a query passes as
one that needs `DISTINCT`, some block that says it is not unique without it. So the query without `DISTINCT`
is no longer taken for unique, unless its outermost operation is a set operation without `ALL`: then it
always is, and no `DISTINCT` was needed. -/
theorem unique_withoutDistinct_iff (h : o'.query = o.query.withoutDistinct)
    (hrequired : checkDuplicates o catalog .distinctRequired = none) :
    o'.mainBlocks.any Block.isDistinct = false ∧
      (∃ b ∈ o'.mainBlocks, guaranteesUnique catalog true b = false) ∧
      (checkDuplicates o' catalog .unique = none ↔ removesDuplicates o = true) := by
  have hblocks : o'.mainBlocks = o.mainBlocks.map Block.withoutDistinct := Outline.mainBlocks_mapMain h
  obtain ⟨b, hb, -, hunique⟩ := exists_of_checkRequired hrequired
  refine ⟨?distinct, ?block, ?verdict⟩
  case distinct => simp [hblocks]
  case block =>
    refine ⟨b.withoutDistinct, hblocks ▸ List.mem_map_of_mem hb, ?_⟩
    rw [guaranteesUnique_withoutDistinct, hunique]
  case verdict =>
    rw [checkUnique_withoutDistinct_iff h, or_iff_left_iff_imp]
    rintro ⟨-, hall⟩
    rw [hall b hb] at hunique
    cases hunique

/-- Whether a query passes as one that needs `DISTINCT`, and whether a set operation removes duplicates of it. -/
def distinctVerdict (o : Outline) : Observation × Bool :=
  (checkDuplicates o numbers .distinctRequired, removesDuplicates o)

/-- Two unions that pass as needing `DISTINCT`; the second one removes duplicates. -/
theorem distinctVerdict_unions :
    ((Outline.parse .postgres "SELECT DISTINCT name FROM a UNION ALL SELECT id FROM b").map
        distinctVerdict).toOption = some (none, false) ∧
      ((Outline.parse .postgres "SELECT DISTINCT name FROM a UNION SELECT name FROM b").map
        distinctVerdict).toOption = some (none, true) := by
  decide +kernel

/-- In `SELECT DISTINCT name FROM a UNION ALL SELECT id FROM b` the second block selects a key and the first
one needs its `DISTINCT`. -/
theorem unique_withoutDistinct_names :
    ∃ o, Outline.parse .postgres "SELECT DISTINCT name FROM a UNION ALL SELECT id FROM b" = .ok o ∧
      checkDuplicates o numbers .distinctRequired = none ∧
      ∀ o' : Outline, o'.query = o.query.withoutDistinct → checkDuplicates o' numbers .unique ≠ none := by
  obtain ⟨o, ho, hverdict⟩ := Outline.exists_parse_eq_ok distinctVerdict_unions.1
  obtain ⟨hrequired, hoperation⟩ := Prod.mk.inj hverdict
  refine ⟨o, ho, hrequired, fun o' h hunique => ?_⟩
  have hremoves := (unique_withoutDistinct_iff h hrequired).2.2.1 hunique
  rw [hoperation] at hremoves
  cases hremoves

/-- `SELECT DISTINCT name FROM a UNION SELECT name FROM b` passes as a query that needs `DISTINCT`, and without
it passes as one that has no duplicate rows. -/
theorem distinct_not_needed :
    ∃ o, Outline.parse .postgres "SELECT DISTINCT name FROM a UNION SELECT name FROM b" = .ok o ∧
      checkDuplicates o numbers .distinctRequired = none ∧
      ∀ o' : Outline, o'.query = o.query.withoutDistinct → checkDuplicates o' numbers .unique = none := by
  obtain ⟨o, ho, hverdict⟩ := Outline.exists_parse_eq_ok distinctVerdict_unions.2
  obtain ⟨hrequired, hoperation⟩ := Prod.mk.inj hverdict
  exact ⟨o, ho, hrequired, fun o' h => (checkUnique_withoutDistinct_iff h).2 (.inl hoperation)⟩

end QueryConstraint

end QueryDrill
