import QueryDrill.Constraint.Query
import QueryDrill.Proofs.Constraint.Uniqueness
import QueryDrill.Proofs.Outline.Parentheses
/-!
Constraints on queries in parentheses.

A constraint that reads no sort keys cannot tell outlines apart that differ in nothing else
(`QueryConstraint.check_alike`), so parentheses around a query change nothing for it. The check of duplicate
rows does notice them: it looks for a set operation that removes duplicates as the body of the query itself,
where parentheses hide it, and it looks for aggregate functions in sort keys, which parentheses take away.
Where neither matters it gives the same verdict too (`QueryConstraint.transparent_inParens`).
-/

namespace QueryDrill

open Sql Text

namespace QueryConstraint

/-! ## 1. Constraints without sort keys -/

@[simp] theorem selectedColumnsOf_unsorted (catalog : Catalog) (b : Block) :
    selectedColumnsOf catalog b.unsorted = selectedColumnsOf catalog b := rfl

theorem selectedColumnsOf_eq_of_unsorted {catalog : Catalog} {b b' : Block} (h : b.unsorted = b'.unsorted) :
    selectedColumnsOf catalog b = selectedColumnsOf catalog b' := by
  rw [← selectedColumnsOf_unsorted, h, selectedColumnsOf_unsorted]

section Alike

variable {w o : Outline} (h : w.AlikeUnsorted o)

include h

theorem checkTables_alike (bounds : Bounds) : checkTables w bounds = checkTables o bounds := by
  rw [checkTables, checkTables, h.tables]

theorem checkJoins_alike (bounds : Bounds) (kinds : List JoinKind) :
    checkJoins w bounds kinds = checkJoins o bounds kinds := by
  have hjoins := h.mainBlocks_congr (fun bs => bs.flatMap Block.joins) fun bs => by
    simp [List.flatMap_map]
  rw [checkJoins, checkJoins, hjoins]

theorem checkConditions_alike (bounds : Bounds) : checkConditions w bounds = checkConditions o bounds := by
  have htotals := h.mainBlocks_congr (fun bs => bs.map fun b => b.rawWherePredicate.total) fun bs => by
    simp
  rw [checkConditions, checkConditions, htotals]

theorem checkRepeatedColumns_alike (min : Nat) :
    checkRepeatedColumns w min = checkRepeatedColumns o min := by
  have hcolumns := h.blocks_congr (fun bs => bs.flatMap fun b => b.wherePredicate.repeatedColumns)
    fun bs => by simp [List.flatMap_map]
  rw [checkRepeatedColumns, checkRepeatedColumns, hcolumns]

theorem checkGroupBy_alike (state : Presence) (min : Nat) :
    checkGroupBy w state min = checkGroupBy o state min := by
  have hsizes := h.mainBlocks_congr (fun bs => (bs.filter Block.hasGroupBy).map fun b =>
    if b.select.groupsAll then 0 else b.select.groupBy.length) fun bs => by
      rw [List.filter_map, List.map_map]
      rfl
  rw [checkGroupBy, checkGroupBy, hsizes]

theorem checkHaving_alike (state : Presence) (min : Nat) :
    checkHaving w state min = checkHaving o state min := by
  have hsizes := h.mainBlocks_congr (fun bs => (bs.filter fun b => b.select.having.isSome).map fun b =>
    b.havingPredicate.total) fun bs => by
      rw [List.filter_map, List.map_map]
      rfl
  rw [checkHaving, checkHaving, hsizes]

theorem checkDistinct_alike (state : Presence) : checkDistinct w state = checkDistinct o state := by
  have hfound := h.mainBlocks_congr (fun bs => bs.any Block.isDistinct) fun bs => by
    simp [List.any_map, Function.comp_def]
  rw [checkDistinct, checkDistinct, hfound]

theorem checkSubqueries_alike (bounds : Bounds) (nesting : Nesting) :
    checkSubqueries w bounds nesting = checkSubqueries o bounds nesting := by
  unfold checkSubqueries Outline.hasNestedSubqueries
  rw [h.subqueryCount, h.topSubqueryCount, h.maxDepth]

theorem checkAliases_alike (min : Nat) : checkAliases w min = checkAliases o min := by
  rw [checkAliases, checkAliases, h.outputColumns]

theorem checkSelectedColumns_alike (catalog : Catalog) (bounds : Bounds) :
    checkSelectedColumns w catalog bounds = checkSelectedColumns o catalog bounds := by
  rw [checkSelectedColumns, checkSelectedColumns]
  rcases h.mainBlock?_cases with ⟨hw, ho⟩ | ⟨b, b', hw, ho, hsame⟩
  · rw [hw, ho]
  · have hselected : selectedColumnsOf catalog b = selectedColumnsOf catalog b' :=
      selectedColumnsOf_eq_of_unsorted hsame
    simp only [hw, ho, hselected]

theorem checkForeignKeyProjection_alike (catalog : Catalog) (state : Presence) :
    checkForeignKeyProjection w catalog state = checkForeignKeyProjection o catalog state := by
  rw [checkForeignKeyProjection, checkForeignKeyProjection]
  rcases h.mainBlock?_cases with ⟨hw, ho⟩ | ⟨b, b', hw, ho, hsame⟩
  · rw [hw, ho]
  · have hselected : selectedColumnsOf catalog b = selectedColumnsOf catalog b' :=
      selectedColumnsOf_eq_of_unsorted hsame
    simp only [hw, ho, hselected]

theorem checkWildcardLength_alike (bounds : Bounds) :
    checkWildcardLength w bounds = checkWildcardLength o bounds := by
  rw [checkWildcardLength, checkWildcardLength, h.likePatterns]

theorem checkWildcardCharacters_alike (required : String) :
    checkWildcardCharacters w required = checkWildcardCharacters o required := by
  rw [checkWildcardCharacters, checkWildcardCharacters, h.likePatterns]

theorem checkUnionBalance_alike : checkUnionBalance w = checkUnionBalance o := by
  rw [checkUnionBalance, checkUnionBalance, h.setOperations]

theorem checkSetOperations_alike (min : Nat) (kinds : List SetOperator) :
    checkSetOperations w min kinds = checkSetOperations o min kinds := by
  rw [checkSetOperations, checkSetOperations, h.setOperations]

theorem checkNullChecks_alike (state : Presence) : checkNullChecks w state = checkNullChecks o state := by
  have hcounts := h.blocks_congr (fun bs => bs.map Block.nullChecks) fun bs => by simp
  rw [checkNullChecks, checkNullChecks, hcounts]

end Alike

/-- Whether the sort keys of blocks matter for a constraint. -/
def readsSortKeys : QueryConstraint → Bool
  | aggregations .. => true
  | orderBy .. => true
  | duplicates _ => true
  | tables _ => false
  | joins .. => false
  | conditions _ => false
  | repeatedColumnConditions _ => false
  | groupBy .. => false
  | having .. => false
  | distinct _ => false
  | subqueries .. => false
  | columnAliases _ => false
  | selectedColumns _ => false
  | wildcardLength _ => false
  | wildcardCharacters _ => false
  | unionBalance => false
  | setOperations .. => false
  | foreignKeyProjection _ => false
  | nullChecks _ => false

/-- Sort keys change nothing that a constraint without them observes. -/
theorem check_alike {w o : Outline} (h : w.AlikeUnsorted o) (catalog : Catalog) {c : QueryConstraint}
    (hc : c.readsSortKeys = false) : c.check w catalog = c.check o catalog := by
  cases c with
  | tables bounds => exact checkTables_alike h bounds
  | joins bounds kinds => exact checkJoins_alike h bounds kinds
  | conditions bounds => exact checkConditions_alike h bounds
  | repeatedColumnConditions min => exact checkRepeatedColumns_alike h min
  | groupBy state min => exact checkGroupBy_alike h state min
  | having state min => exact checkHaving_alike h state min
  | distinct state => exact checkDistinct_alike h state
  | subqueries bounds nesting => exact checkSubqueries_alike h bounds nesting
  | columnAliases min => exact checkAliases_alike h min
  | selectedColumns bounds => exact checkSelectedColumns_alike h catalog bounds
  | wildcardLength bounds => exact checkWildcardLength_alike h bounds
  | wildcardCharacters required => exact checkWildcardCharacters_alike h required
  | unionBalance => exact checkUnionBalance_alike h
  | setOperations min kinds => exact checkSetOperations_alike h min kinds
  | foreignKeyProjection state => exact checkForeignKeyProjection_alike h catalog state
  | nullChecks state => exact checkNullChecks_alike h state
  | aggregations | orderBy | duplicates => cases hc

/-! ## 2. Duplicate rows -/

section Unsorted

variable {catalog : Catalog} {countsDistinct : Bool} {b : Block}

theorem guaranteesUnique_eq_true_iff : guaranteesUnique catalog countsDistinct b = true ↔
    (((countsDistinct = true ∧ b.isDistinct = true) ∨ b.hasGroupBy = true) ∨
      (b.outputColumns.all (fun c => c.realName.isNone && !c.isWildcard) = true ∧
        b.aggregateCalls ≠ [])) ∨ selectsKey catalog b = true := by
  simp only [guaranteesUnique, Bool.or_eq_true, Bool.and_eq_true, Bool.not_eq_true',
    List.isEmpty_eq_false_iff]

/-- What is guaranteed without sort keys is guaranteed with them. -/
theorem guaranteesUnique_of_unsorted (h : guaranteesUnique catalog countsDistinct b.unsorted = true) :
    guaranteesUnique catalog countsDistinct b = true := by
  have hcalls : b.aggregateCalls = [] → b.unsorted.aggregateCalls = [] := fun hnone =>
    List.subset_nil.1 (hnone ▸ b.aggregateCalls_unsorted_subset)
  rw [guaranteesUnique_eq_true_iff] at h ⊢
  exact h.imp_left (Or.imp_right (And.imp_right (mt hcalls)))

/-- Sort keys guarantee nothing unless the only aggregate functions stand there. -/
theorem guaranteesUnique_unsorted (h : b.aggregatesInKeysAlone = false) :
    guaranteesUnique catalog countsDistinct b.unsorted = guaranteesUnique catalog countsDistinct b := by
  refine Bool.eq_iff_iff.2 ⟨guaranteesUnique_of_unsorted, fun hunique => ?_⟩
  have hcalls : b.unsorted.aggregateCalls = [] → b.aggregateCalls = [] := by
    simpa [Block.aggregatesInKeysAlone] using h
  rw [guaranteesUnique_eq_true_iff] at hunique ⊢
  exact hunique.imp_left (Or.imp_right (And.imp_right (mt hcalls)))

end Unsorted

section InParens

variable {catalog : Catalog} {w o : Outline} (h : w.query = o.query.inParens)

include h

/-- In parentheses no set operation is the body of the query. -/
theorem removesDuplicates_inParens : removesDuplicates w = false := by
  rw [removesDuplicates, h, Query.inParens]

/-- In parentheses the first block of all, if it is a main block, loses its sort keys. -/
theorem mainBlocks_inParens_cases : w.mainBlocks = o.mainBlocks ∨
    ∃ b bs, b ∈ o.blocks.head? ∧ o.mainBlocks = b :: bs ∧ w.mainBlocks = b.unsorted :: bs := by
  rw [Outline.mainBlocks, Outline.blocks_inParens h, Outline.mainBlocks]
  cases o.blocks with
  | nil => exact .inl rfl
  | cons b bs =>
    by_cases hmain : b.depth = 1
    · refine .inr ⟨b, bs.filter (·.depth == 1), rfl, ?_, ?_⟩ <;> simp [sortFirst, hmain, Block.unsorted]
    · exact .inl (by simp [sortFirst, hmain])

/-- What passes as without duplicate rows in parentheses passes so without them. -/
theorem checkUnique_of_inParens (hunique : checkDuplicates w catalog .unique = none) :
    checkDuplicates o catalog .unique = none := by
  rw [checkUnique_eq_none_iff, removesDuplicates_inParens h] at hunique
  obtain ⟨hsome, hall⟩ := hunique.resolve_left Bool.false_ne_true
  refine checkUnique_eq_none_iff.2 (.inr ?_)
  rcases mainBlocks_inParens_cases h with hsame | ⟨b, bs, -, ho, hw⟩
  · exact ⟨hsame ▸ hsome, hsame ▸ hall⟩
  · rw [hw, List.forall_mem_cons] at hall
    rw [ho, List.forall_mem_cons]
    exact ⟨List.cons_ne_nil b bs, guaranteesUnique_of_unsorted hall.1, hall.2⟩

section KeysNeutral

variable (catalog) (hkeys : ∀ b ∈ o.blocks.head?, b.aggregatesInKeysAlone = false)

include hkeys

/-- The main blocks are sure to have unique rows in parentheses as without them. -/
theorem all_guaranteesUnique_inParens :
    (!w.mainBlocks.isEmpty && w.mainBlocks.all (guaranteesUnique catalog true)) =
      (!o.mainBlocks.isEmpty && o.mainBlocks.all (guaranteesUnique catalog true)) := by
  rcases mainBlocks_inParens_cases h with hsame | ⟨b, bs, hb, ho, hw⟩
  · rw [hsame]
  · simp [ho, hw, guaranteesUnique_unsorted (hkeys b hb)]

/-- `DISTINCT` is needed in parentheses where it is needed without them. -/
theorem checkRequired_inParens :
    checkDuplicates w catalog .distinctRequired = checkDuplicates o catalog .distinctRequired := by
  rcases mainBlocks_inParens_cases h with hsame | ⟨b, bs, hb, ho, hw⟩
  · rw [checkDuplicates, checkDuplicates, hsame]
  · cases hdistinct : b.isDistinct <;>
      simp [checkDuplicates, ho, hw, hdistinct, guaranteesUnique_unsorted (hkeys b hb)]

/-- The check of duplicate rows does not notice parentheses just if it does not need the set operation in
them. -/
theorem checkDuplicates_inParens_iff :
    (∀ mode, checkDuplicates w catalog mode = checkDuplicates o catalog mode) ↔
      (removesDuplicates o = true →
        o.mainBlocks ≠ [] ∧ ∀ b ∈ o.mainBlocks, guaranteesUnique catalog true b = true) := by
  have hblocks := all_guaranteesUnique_inParens catalog h hkeys
  have hoperation := removesDuplicates_inParens h
  refine ⟨fun hsame hremoves => ?needed, fun hneeded mode => ?same⟩
  case needed =>
    have hunique := (hsame .unique).trans (checkUnique_eq_none_iff.2 (.inl hremoves))
    simpa [checkDuplicates, hoperation, hblocks] using hunique
  case same =>
    have hverdict : (removesDuplicates w ||
          (!w.mainBlocks.isEmpty && w.mainBlocks.all (guaranteesUnique catalog true))) =
        (removesDuplicates o ||
          (!o.mainBlocks.isEmpty && o.mainBlocks.all (guaranteesUnique catalog true))) := by
      rw [hoperation, hblocks, Bool.false_or]
      cases hremoves : removesDuplicates o with
      | false => rfl
      | true => simpa using hneeded hremoves
    cases mode with
    | allowed | unique => simp only [checkDuplicates, hverdict]
    | distinctRequired => exact checkRequired_inParens catalog h hkeys

end KeysNeutral

end InParens

/-! ## 3. Parentheses -/

/-- **Parentheses around a query change next to nothing.** The outline in parentheses is the old one but for
the sort keys of the first block, so constraints that read no sort keys are met or violated in the same words.
What passes as without duplicate rows in parentheses passes so without them. Unless the first block calls
aggregate functions in its sort keys alone, all that is asked about duplicate rows is answered alike just if
the query has unique rows without the help of a set operation, or has no such operation. -/
theorem transparent_inParens {w o : Outline} (h : w.query = o.query.inParens) :
    w.AlikeUnsorted o ∧
      (∀ catalog l (c : QueryConstraint), c.readsSortKeys = false →
        c.validate w catalog l = c.validate o catalog l) ∧
      ∀ catalog, (checkDuplicates w catalog .unique = none → checkDuplicates o catalog .unique = none) ∧
        ((∀ b ∈ o.blocks.head?, b.aggregatesInKeysAlone = false) →
          ((∀ l mode, (duplicates mode).validate w catalog l = (duplicates mode).validate o catalog l) ↔
            (removesDuplicates o = true →
              o.mainBlocks ≠ [] ∧ ∀ b ∈ o.mainBlocks, guaranteesUnique catalog true b = true))) := by
  have halike := Outline.alikeUnsorted_inParens h
  refine ⟨halike, fun catalog l c hc => ?constraint, fun catalog => ⟨checkUnique_of_inParens h, ?modes⟩⟩
  case constraint => exact validate_eq_iff.2 (check_alike halike catalog hc)
  case modes =>
    intro hkeys
    rw [← checkDuplicates_inParens_iff catalog h hkeys]
    exact ⟨fun hsame mode => validate_eq_iff.1 (hsame .english mode),
      fun hsame l mode => validate_eq_iff.2 (hsame mode)⟩

/-- Whether the outermost operation of a query removes duplicates, whether its first block calls aggregate
functions in its sort keys alone, and whether its main blocks are sure to have unique rows. -/
def operationVerdict (o : Outline) : Bool × Bool × Bool :=
  (removesDuplicates o, o.blocks.head?.any Block.aggregatesInKeysAlone,
    !o.mainBlocks.isEmpty && o.mainBlocks.all (guaranteesUnique numbers true))

/-- Two unions, one of which selects keys. -/
theorem operationVerdict_unions :
    ((Outline.parse .postgres "SELECT id FROM a UNION SELECT id FROM b").map operationVerdict).toOption =
        some (true, false, true) ∧
      ((Outline.parse .postgres "SELECT name FROM a UNION SELECT name FROM b").map
        operationVerdict).toOption = some (true, false, false) := by
  decide +kernel

/-- Both sides of `SELECT id FROM a UNION SELECT id FROM b` select a key, so parentheses around it are not
noticed. -/
theorem transparent_inParens_numbers :
    ∃ o, Outline.parse .postgres "SELECT id FROM a UNION SELECT id FROM b" = .ok o ∧
      removesDuplicates o = true ∧ ∀ l mode,
        (duplicates mode).validate ⟨"(" ++ o.text ++ ")", o.dialect, o.query.inParens⟩ numbers l =
          (duplicates mode).validate o numbers l := by
  obtain ⟨o, ho, hverdict⟩ := Outline.exists_parse_eq_ok operationVerdict_unions.1
  simp only [operationVerdict, Prod.mk.injEq] at hverdict
  obtain ⟨hremoves, hkeys, hblocks⟩ := hverdict
  obtain ⟨-, -, hduplicates⟩ := transparent_inParens (o := o)
    (w := ⟨"(" ++ o.text ++ ")", o.dialect, o.query.inParens⟩) rfl
  refine ⟨o, ho, hremoves, ((hduplicates numbers).2 ?_).2 fun _ => ?_⟩
  · simpa using (Option.any_eq_false _ _).1 hkeys
  · simpa using hblocks

/-- `SELECT name FROM a UNION SELECT name FROM b` passes as a query without duplicate rows, in parentheses it
does not. -/
theorem operation_hidden_inParens :
    ∃ o, Outline.parse .postgres "SELECT name FROM a UNION SELECT name FROM b" = .ok o ∧
      (duplicates .unique).validate o numbers .english = .ok () ∧
      ∀ w : Outline, w.query = o.query.inParens →
        (duplicates .unique).validate w numbers .english ≠ .ok () := by
  obtain ⟨o, ho, hverdict⟩ := Outline.exists_parse_eq_ok operationVerdict_unions.2
  simp only [operationVerdict, Prod.mk.injEq] at hverdict
  obtain ⟨hremoves, hkeys, hblocks⟩ := hverdict
  refine ⟨o, ho, validate_eq_ok_iff.2 (checkUnique_eq_none_iff.2 (.inl hremoves)), fun w h hw => ?_⟩
  have hsame := all_guaranteesUnique_inParens numbers h (by simpa using (Option.any_eq_false _ _).1 hkeys)
  have hcheck : checkDuplicates w numbers .unique = none := validate_eq_ok_iff.1 hw
  simp [checkDuplicates, removesDuplicates_inParens h, hsame, hblocks] at hcheck

end QueryConstraint

end QueryDrill
