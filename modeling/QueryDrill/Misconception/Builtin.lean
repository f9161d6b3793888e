import QueryDrill.Misconception.Registry
/-!
The misconceptions that are known from the start.
-/

namespace QueryDrill

namespace Misconception

/-- Ambiguous column reference. -/
def ambiguousColumn : Misconception where
  id := "ambiguous_column"
  title := "Ambiguous column reference"
  description :=
    "The student omits the table qualifier of a column whose name exists in more than one joined table."
  levels :=
    { easy := some {
        extraDetails :=
          "Two joined tables share a column name that the query must select."
        schema :=
          [.of .tables ⟨2, none⟩, .of .sharedColumnNames ⟨1, none⟩]
        query :=
          [.joins ⟨1, some 1⟩ []] }
      medium := some {
        extraDetails :=
          "Several joined tables share column names; the query must select and filter on them."
        schema :=
          [.of .tables ⟨3, none⟩, .of .sharedColumnNames ⟨2, none⟩]
        query :=
          [.joins ⟨2, none⟩ [], .conditions ⟨1, none⟩] }
      hard := some {
        extraDetails := ""
        schema :=
          [.of .tables ⟨4, none⟩, .of .sharedColumnNames ⟨3, none⟩]
        query :=
          [.joins ⟨3, none⟩ [], .conditions ⟨2, none⟩, .columnAliases 1] } }

/-- AND instead of OR. -/
def andInsteadOfOr : Misconception where
  id := "and_instead_of_or"
  title := "AND instead of OR"
  description :=
    ("The student combines alternative values of the same column with AND, which can never be "
      ++ "true, instead of OR or IN.")
  levels :=
    { easy := some {
        extraDetails :=
          "The request asks for rows matching either of two values of one column."
        schema :=
          [.of .tables ⟨1, none⟩, .of .rowsPerTable ⟨5, none⟩]
        query :=
          [.repeatedColumnConditions 1, .conditions ⟨2, some 2⟩] }
      medium := some {
        extraDetails := ""
        schema :=
          [.of .tables ⟨2, none⟩, .of .rowsPerTable ⟨5, none⟩]
        query :=
          [.repeatedColumnConditions 1, .conditions ⟨3, none⟩, .joins ⟨1, none⟩ []] }
      hard := some {
        extraDetails := ""
        schema :=
          [.of .tables ⟨3, none⟩, .of .rowsPerTable ⟨6, none⟩]
        query :=
          [.repeatedColumnConditions 2, .conditions ⟨4, none⟩, .joins ⟨2, none⟩ []] } }

/-- Missing join condition. -/
def missingJoin : Misconception where
  id := "missing_join"
  title := "Missing join condition"
  description :=
    "The student lists several tables in FROM without a join condition, producing a cartesian product."
  levels :=
    { easy := some {
        extraDetails := ""
        schema :=
          [.of .tables ⟨2, none⟩, .of .foreignKeys ⟨1, none⟩]
        query :=
          [.tables ⟨2, some 2⟩, .joins ⟨1, none⟩ [.inner, .implicit]] }
      medium := some {
        extraDetails := ""
        schema :=
          [.of .tables ⟨3, none⟩, .of .foreignKeys ⟨2, none⟩]
        query :=
          [.tables ⟨3, none⟩, .joins ⟨2, none⟩ [.inner, .implicit]] }
      hard := some {
        extraDetails := ""
        schema :=
          [.of .tables ⟨4, none⟩, .of .foreignKeys ⟨3, none⟩, .of .compositeKeys ⟨1, none⟩]
        query :=
          [.tables ⟨4, none⟩, .joins ⟨3, none⟩ [], .conditions ⟨1, none⟩] } }

/-- Unexpected duplicate rows. -/
def duplicateRows : Misconception where
  id := "duplicate_rows"
  title := "Unexpected duplicate rows"
  description :=
    "The student does not realise that the projection can repeat rows and forgets DISTINCT."
  levels :=
    { easy := some {
        extraDetails :=
          "Select a non-key column that takes the same value in several rows."
        schema :=
          [.of .rowsPerTable ⟨6, none⟩]
        query :=
          [.duplicates .distinctRequired, .tables ⟨1, some 1⟩] }
      medium := some {
        extraDetails := ""
        schema :=
          [.of .tables ⟨2, none⟩, .of .rowsPerTable ⟨6, none⟩]
        query :=
          [.duplicates .distinctRequired, .joins ⟨1, none⟩ []] }
      hard := some {
        extraDetails := ""
        schema :=
          [.of .tables ⟨3, none⟩, .of .rowsPerTable ⟨8, none⟩]
        query :=
          [.duplicates .distinctRequired, .joins ⟨2, none⟩ [], .conditions ⟨1, none⟩] } }

/-- Unnecessary DISTINCT. -/
def unnecessaryDistinct : Misconception where
  id := "unnecessary_distinct"
  title := "Unnecessary DISTINCT"
  description :=
    "The student adds DISTINCT to a query whose rows are already unique because a key is selected."
  levels :=
    { easy := some {
        extraDetails := ""
        schema :=
          [.of .uniqueKeys ⟨1, none⟩]
        query :=
          [.duplicates .unique, .distinct .absent] }
      medium := some {
        extraDetails := ""
        schema :=
          [.of .tables ⟨2, none⟩, .of .uniqueKeys ⟨1, none⟩]
        query :=
          [.duplicates .unique, .distinct .absent, .joins ⟨1, none⟩ []] }
      hard := some {
        extraDetails := ""
        schema :=
          [.of .tables ⟨3, none⟩, .of .compositeKeys ⟨1, none⟩]
        query :=
          [.duplicates .unique, .distinct .absent, .groupBy .absent 0, .joins ⟨2, none⟩ []] } }

/-- Improper subquery nesting. -/
def improperNesting : Misconception where
  id := "improper_nesting"
  title := "Improper subquery nesting"
  description :=
    "The student nests a subquery inside another one where two independent subqueries are needed."
  levels :=
    { medium := some {
        extraDetails := ""
        schema :=
          [.of .tables ⟨3, none⟩]
        query :=
          [.subqueries ⟨2, none⟩ .flat] }
      hard := some {
        extraDetails := ""
        schema :=
          [.of .tables ⟨3, none⟩, .of .foreignKeys ⟨2, none⟩]
        query :=
          [.subqueries ⟨3, none⟩ .flat, .conditions ⟨3, none⟩] }
      easy := none }

/-- LIKE wildcard confusion. -/
def likeWildcards : Misconception where
  id := "like_wildcards"
  title := "LIKE wildcard confusion"
  description :=
    "The student confuses the `_` and `%` wildcards or forgets that `_` matches exactly one character."
  levels :=
    { easy := some {
        extraDetails := ""
        schema :=
          [.of .rowsPerTable ⟨5, none⟩]
        query :=
          [.wildcardLength ⟨1, some 3⟩, .wildcardCharacters "%"] }
      medium := some {
        extraDetails := ""
        schema :=
          [.of .rowsPerTable ⟨6, none⟩]
        query :=
          [.wildcardLength ⟨2, some 4⟩, .wildcardCharacters "_%"] }
      hard := some {
        extraDetails := ""
        schema :=
          [.of .rowsPerTable ⟨8, none⟩]
        query :=
          [.wildcardLength ⟨3, none⟩, .wildcardCharacters "__%", .conditions ⟨2, none⟩] } }

/-- UNION versus UNION ALL. -/
def unionVsUnionAll : Misconception where
  id := "union_vs_union_all"
  title := "UNION versus UNION ALL"
  description :=
    "The student uses UNION where duplicates must be kept, or UNION ALL where they must be removed."
  levels :=
    { medium := some {
        extraDetails := ""
        schema :=
          [.of .tables ⟨2, none⟩, .of .sharedColumnNames ⟨1, none⟩]
        query :=
          [.setOperations 1 [.union], .unionBalance] }
      hard := some {
        extraDetails := ""
        schema :=
          [.of .tables ⟨3, none⟩, .of .sharedColumnNames ⟨2, none⟩]
        query :=
          [.setOperations 2 [.union], .unionBalance] }
      easy := none }

/-- Aggregate without GROUP BY. -/
def aggregateWithoutGroupBy : Misconception where
  id := "aggregate_without_group_by"
  title := "Aggregate without GROUP BY"
  description :=
    "The student mixes aggregated and non-aggregated columns without grouping by the latter."
  levels :=
    { easy := some {
        extraDetails := ""
        schema :=
          [.of .rowsPerTable ⟨6, none⟩]
        query :=
          [.aggregations ⟨1, some 1⟩ [], .groupBy .present 1] }
      medium := some {
        extraDetails := ""
        schema :=
          [.of .tables ⟨2, none⟩, .of .rowsPerTable ⟨6, none⟩]
        query :=
          [.aggregations ⟨1, none⟩ [], .groupBy .present 2, .joins ⟨1, none⟩ []] }
      hard := some {
        extraDetails := ""
        schema :=
          [.of .tables ⟨2, none⟩, .of .rowsPerTable ⟨8, none⟩]
        query :=
          [.aggregations ⟨2, none⟩ [], .groupBy .present 2, .having .present 1, .orderBy .present 0] } }

/-- Column alias used in WHERE. -/
def aliasInWhere : Misconception where
  id := "alias_in_where"
  title := "Column alias used in WHERE"
  description :=
    "The student refers to a SELECT alias inside WHERE, where it is not yet defined."
  levels :=
    { easy := some {
        extraDetails := ""
        schema :=
          []
        query :=
          [.columnAliases 1, .conditions ⟨1, none⟩] }
      medium := some {
        extraDetails := ""
        schema :=
          [.of .tables ⟨2, none⟩]
        query :=
          [.columnAliases 2, .conditions ⟨2, none⟩, .joins ⟨1, none⟩ []] }
      hard := none }

/-- Comparison with NULL. -/
def nullComparison : Misconception where
  id := "null_comparison"
  title := "Comparison with NULL"
  description :=
    "The student writes `= NULL` or `<> NULL` instead of IS NULL / IS NOT NULL."
  levels :=
    { easy := some {
        extraDetails := ""
        schema :=
          [.of .nullableColumns ⟨1, none⟩, .of .rowsPerTable ⟨5, none⟩]
        query :=
          [.nullChecks .present] }
      medium := some {
        extraDetails := ""
        schema :=
          [.of .nullableColumns ⟨2, none⟩, .of .tables ⟨2, none⟩]
        query :=
          [.nullChecks .present, .joins ⟨1, none⟩ [.left]] }
      hard := none }

/-- Foreign key instead of referenced value. -/
def foreignKeyProjection : Misconception where
  id := "foreign_key_projection"
  title := "Foreign key instead of referenced value"
  description :=
    ("The student returns the foreign key value instead of joining the referenced table to "
      ++ "return the requested attribute.")
  levels :=
    { easy := some {
        extraDetails := ""
        schema :=
          [.of .tables ⟨2, none⟩, .of .foreignKeys ⟨1, none⟩]
        query :=
          [.foreignKeyProjection .absent, .joins ⟨1, none⟩ []] }
      medium := some {
        extraDetails := ""
        schema :=
          [.of .tables ⟨3, none⟩, .of .foreignKeys ⟨2, none⟩]
        query :=
          [.foreignKeyProjection .absent, .joins ⟨2, none⟩ [], .selectedColumns ⟨2, none⟩] }
      hard := none }

/-- HAVING instead of WHERE. -/
def havingInsteadOfWhere : Misconception where
  id := "having_instead_of_where"
  title := "HAVING instead of WHERE"
  description :=
    "The student filters individual rows in HAVING, or filters groups in WHERE."
  levels :=
    { medium := some {
        extraDetails := ""
        schema :=
          [.of .rowsPerTable ⟨6, none⟩]
        query :=
          [.conditions ⟨1, none⟩, .groupBy .present 0, .having .present 1] }
      hard := some {
        extraDetails := ""
        schema :=
          [.of .tables ⟨2, none⟩, .of .rowsPerTable ⟨8, none⟩]
        query :=
          [.conditions ⟨2, none⟩, .groupBy .present 0, .having .present 2, .aggregations ⟨2, none⟩ []] }
      easy := none }

end Misconception

/-- The misconceptions that are known from the start, by their names. -/
def builtinMisconceptions : List Misconception :=
  [.ambiguousColumn, .andInsteadOfOr, .missingJoin, .duplicateRows, .unnecessaryDistinct,
   .improperNesting, .likeWildcards, .unionVsUnionAll, .aggregateWithoutGroupBy, .aliasInWhere,
   .nullComparison, .foreignKeyProjection, .havingInsteadOfWhere]

/-- The registry of the misconceptions that are known from the start. -/
def Registry.builtin : Registry := Registry.empty.registerAll builtinMisconceptions

end QueryDrill
