import Mathlib.Algebra.GroupWithZero.Nat
import QueryDrill.Proofs.Schema.Texts
import QueryDrill.Proofs.Sql.Walks
/-!
How many rows an insertion is taken to add.

The rows of a table are those of the insertions into it, added up (`RowCounts.getD_ofTexts`). What an insertion
adds is said of the queries that stand directly in it: its source, and the queries of its other clauses
(`insertedRows_eq`). A source that is a list of values counts one row for each tuple, whatever stands in the
tuples, unless it is in parentheses; and queries of other clauses, such as that of a conflict, count too. So an
insertion adds what its source lists just if neither is the case (`RowCounts.counts_sources`).
-/

namespace QueryDrill

open Sql

namespace Sql

/-! ## 1. Sources -/

mutual

/-- How many rows a source lists: the tuples of a list of values, in parentheses or not. Any other source counts
as one row. -/
def Query.listedRows : Query → Nat
  | ⟨_, _, body, _, _, _, _, _, _⟩ => body.listedRows

/-- How many rows a body lists. -/
def Body.listedRows : Body → Nat
  | .values rows => rows.length
  | .paren q => q.listedRows
  | .select _ => 1
  | .setOperation .. => 1
  | .table _ => 1
  | .insert _ => 1
  | .update _ => 1
  | .toDirectory .. => 1

end

theorem Query.listedRows_eq (q : Query) : q.listedRows = q.body.listedRows := by
  cases q
  rw [Query.listedRows]

/-- Whether a query is another one in parentheses. -/
def Query.isInParens (q : Query) : Bool :=
  match q.body with
  | .paren _ => true
  | _ => false

/-- The queries directly in an insertion, its source left out: those of its partition, of its conflict clause
and of the columns that it returns. -/
def Insertion.otherQueries (i : Insertion) : List Query :=
  queriesAmong (visitsAll false i.partition ++ visitsAll false i.conflict ++ visitsItems false i.returning)

/-- How many rows an insertion adds for its source. -/
def Insertion.sourceRows (i : Insertion) : Nat := (i.source.map queryRows).getD 0

/-- How many rows an insertion adds for the queries of its other clauses. -/
def Insertion.strayRows (i : Insertion) : Nat := (i.otherQueries.map queryRows).sum

end Sql

/-! ## 2. One insertion -/

/-- The tuples of a source count one by one, unless they are in parentheses. -/
theorem queryRows_eq (q : Query) : queryRows q = if q.isInParens then 1 else q.listedRows := by
  rw [queryRows, Query.isInParens, q.listedRows_eq]
  cases q.body <;> simp [Body.listedRows]

theorem queryRows_eq_zero_iff {q : Query} : queryRows q = 0 ↔ q.body = .values [] := by
  rw [queryRows]
  cases q.body <;> simp

/-- The queries directly in an insertion. -/
theorem queriesAmong_visits (i : Insertion) :
    queriesAmong (i.visits false) = i.source.toList ++ i.otherQueries := by
  obtain ⟨_, table, _, _, source, _, _, _, _⟩ := i
  have htable (vs : List Visit) : queriesAmong (.relation table :: vs) = queriesAmong vs := rfl
  have hsource (q : Query) (vs : List Visit) : queriesAmong (.query q :: vs) = q :: queriesAmong vs := rfl
  cases source <;> simp [Insertion.visits, Insertion.otherQueries, visitsQuery, htable, hsource]

theorem insertedRows_eq (i : Insertion) : insertedRows i = i.sourceRows + i.strayRows := by
  have hqueries : (i.visits false).filterMap Visit.query? = i.source.toList ++ i.otherQueries :=
    queriesAmong_visits i
  rw [insertedRows, hqueries, ← List.sum_eq_foldl, List.map_append, List.sum_append, Insertion.strayRows,
    Insertion.sourceRows]
  cases i.source <;> simp

theorem strayRows_eq_zero_iff {i : Insertion} : i.strayRows = 0 ↔ ∀ p ∈ i.otherQueries, p.body = .values [] := by
  simp [Insertion.strayRows, List.sum_eq_zero_iff_forall_eq_nat, queryRows_eq_zero_iff]

/-! ## 3. All insertions -/

namespace RowCounts

/-- An insertion adds to the rows of its table and to no others. -/
theorem getD_afterStatement (counts : RowCounts) (i : Insertion) :
    ∃ counts', counts.afterStatement (.insert i) = .ok counts' ∧
      ∀ k, (counts'.get? k).getD 0 = (counts.get? k).getD 0 + if k = i.table.key then insertedRows i else 0 := by
  refine ⟨_, rfl, fun k => ?_⟩
  rw [get?_add_eq_merge]
  split <;> cases counts.get? k <;> simp

theorem getD_ofInsertions (is : List Insertion) (k : String) :
    ((ofInsertions is).get? k).getD 0 = ((is.filter (·.table.key == k)).map insertedRows).sum := by
  induction is with
  | nil => rfl
  | cons i is ih =>
    rw [ofInsertions, List.foldl_cons, get?_foldl_add, get?_add_eq_merge, Keyed.get?_empty,
      Option.merge_none_left, List.filter_cons]
    by_cases hk : k = i.table.key
    · subst hk
      rw [if_pos rfl, if_pos (beq_self_eq_true _), List.map_cons, List.sum_cons, ← ih]
      cases (ofInsertions is).get? i.table.key <;> simp
    · have hkey : ¬(i.table.key == k) = true := fun h => hk (eq_of_beq h).symm
      rw [if_neg hk, if_neg hkey, Option.merge_none_left, ih]

/-- The rows of a table are those that the insertions into it add. -/
theorem getD_ofTexts {d : Dialect} {texts : List String} {counts : RowCounts}
    (h : ofTexts d texts = .ok counts) (k : String) :
    (counts.get? k).getD 0 =
      (((insertionsIn d texts).filter (·.table.key == k)).map insertedRows).sum := by
  obtain ⟨-, rfl⟩ := ofTexts_eq_ok_iff.1 h
  exact getD_ofInsertions _ k

/-- **An insertion adds the rows of its source and those of the queries in its other clauses.** The source counts
as many rows as it lists unless it is in parentheses, when it counts one. So an insertion adds what its source
lists just if no query stands in its other clauses (but for lists of no values), and no list of values in
parentheses is its source. -/
theorem counts_sources {i : Insertion} {q : Query} (hq : i.source = some q) :
    (∀ counts : RowCounts, ∃ counts', counts.afterStatement (.insert i) = .ok counts' ∧
      ∀ k, (counts'.get? k).getD 0 =
        (counts.get? k).getD 0 + if k = i.table.key then i.sourceRows + i.strayRows else 0) ∧
    (∀ d texts counts, ofTexts d texts = .ok counts → (counts.get? i.table.key).getD 0 =
      (((insertionsIn d texts).filter (·.table.key == i.table.key)).map
        fun j => j.sourceRows + j.strayRows).sum) ∧
    i.sourceRows = (if q.isInParens then 1 else q.listedRows) ∧
    ((q.isInParens = true → q.listedRows = 1) →
      (i.sourceRows + i.strayRows = q.listedRows ↔ ∀ p ∈ i.otherQueries, p.body = .values [])) := by
  have hsource : i.sourceRows = if q.isInParens then 1 else q.listedRows := by
    rw [Insertion.sourceRows, hq, Option.map_some, Option.getD_some, queryRows_eq]
  refine ⟨fun counts => ?step, fun d texts counts h => ?run, hsource, fun hparens => ?listed⟩
  case step =>
    rw [← insertedRows_eq]
    exact getD_afterStatement counts i
  case run => rw [getD_ofTexts h, funext insertedRows_eq]
  case listed =>
    have hlisted : i.sourceRows = q.listedRows := by
      rw [hsource]
      split
      · exact (hparens ‹_›).symm
      · rfl
    rw [hlisted, Nat.add_eq_left, strayRows_eq_zero_iff]

/-- What is seen of an insertion: its table, the rows that its source lists, whether the source is in
parentheses, and how many queries stand in other clauses. -/
structure InsertionView where
  table : String
  listed : Option Nat
  inParens : Option Bool
  others : Nat
  deriving DecidableEq

/-- A view of an insertion. -/
def insertionView (i : Insertion) : InsertionView :=
  ⟨i.table.key, i.source.map Query.listedRows, i.source.map Query.isInParens, i.otherQueries.length⟩

/-- Two tuples, one of which holds a query. -/
def queryInTuple : String := "INSERT INTO a VALUES ((SELECT 1)), (2)"

/-- A tuple, and a query in the conflict clause. -/
def onConflict : String := "INSERT INTO a (id) VALUES (1) ON CONFLICT (id) DO UPDATE SET id = (SELECT 2)"

/-- Two tuples in parentheses. -/
def inParentheses : String := "INSERT INTO a (id) WITH b AS (SELECT 1) (VALUES (1), (2))"

/-- The rows that a text inserts, and what is seen of its insertions. -/
def insertionReading (text : String) : Option (List (String × Nat)) × List InsertionView :=
  (((ofTexts .postgres [text]).map Keyed.entries).toOption, (insertionsIn .postgres [text]).map insertionView)

theorem insertionReading_letters :
    insertionReading queryInTuple = (some [("a", 2)], [⟨"a", some 2, some false, 0⟩]) ∧
      insertionReading onConflict = (some [("a", 2)], [⟨"a", some 1, some false, 1⟩]) ∧
      insertionReading inParentheses = (some [("a", 1)], [⟨"a", some 2, some true, 0⟩]) := by
  decide +kernel

/-- A text with one insertion. -/
theorem exists_of_insertionReading {text : String} {rows listed others : Nat} {inParens : Bool}
    (h : insertionReading text = (some [("a", rows)], [⟨"a", some listed, some inParens, others⟩])) :
    ∃ counts i q, ofTexts .postgres [text] = .ok counts ∧ counts.entries = [("a", rows)] ∧
      insertionsIn .postgres [text] = [i] ∧ i.table.key = "a" ∧ i.source = some q ∧ q.listedRows = listed ∧
      q.isInParens = inParens ∧ i.otherQueries.length = others := by
  obtain ⟨hcounts, hview⟩ := Prod.mk.inj h
  obtain ⟨counts, hcounts, hentries⟩ := exists_of_map_toOption hcounts
  obtain ⟨i, his, hview⟩ := List.map_eq_singleton_iff.1 hview
  obtain ⟨htable, hlisted, hparens, hothers⟩ := InsertionView.mk.inj hview
  obtain ⟨q, hq, hlisted⟩ := Option.map_eq_some_iff.1 hlisted
  rw [hq, Option.map_some, Option.some.injEq] at hparens
  exact ⟨counts, i, q, hcounts, hentries, his, htable, hq, hlisted, hparens, hothers⟩

/-- An insertion of two tuples adds two rows to its table, though one of them holds a query. -/
theorem counts_sources_letters :
    ∃ counts i q, ofTexts .postgres [queryInTuple] = .ok counts ∧ insertionsIn .postgres [queryInTuple] = [i] ∧
      i.source = some q ∧ q.listedRows = 2 ∧ i.sourceRows + i.strayRows = 2 ∧
      (counts.get? "a").getD 0 = 2 := by
  obtain ⟨counts, i, q, hcounts, -, his, htable, hq, hlisted, hparens, hothers⟩ :=
    exists_of_insertionReading insertionReading_letters.1
  obtain ⟨-, hrun, -, hadds⟩ := counts_sources hq
  have hadded : i.sourceRows + i.strayRows = 2 :=
    hlisted ▸ (hadds (by simp [hparens])).2 (by simp [List.length_eq_zero_iff.1 hothers])
  have hrows := hrun _ _ _ hcounts
  rw [his, htable] at hrows
  exact ⟨counts, i, q, hcounts, his, hq, hlisted, hadded, by simp [hrows, htable, hadded]⟩

/-- An insertion of one tuple adds two rows, since its conflict clause holds a query; and one of two tuples in
parentheses adds one. -/
theorem rows_miscounted :
    (∃ counts i q, ofTexts .postgres [onConflict] = .ok counts ∧ insertionsIn .postgres [onConflict] = [i] ∧
      i.source = some q ∧ q.listedRows = 1 ∧ counts.entries = [("a", 2)]) ∧
    ∃ counts i q, ofTexts .postgres [inParentheses] = .ok counts ∧
      insertionsIn .postgres [inParentheses] = [i] ∧ i.source = some q ∧ q.listedRows = 2 ∧
      counts.entries = [("a", 1)] := by
  obtain ⟨counts, i, q, hcounts, hentries, his, -, hq, hlisted, -⟩ :=
    exists_of_insertionReading insertionReading_letters.2.1
  obtain ⟨counts', i', q', hcounts', hentries', his', -, hq', hlisted', -⟩ :=
    exists_of_insertionReading insertionReading_letters.2.2
  exact ⟨⟨counts, i, q, hcounts, his, hq, hlisted, hentries⟩,
    counts', i', q', hcounts', his', hq', hlisted', hentries'⟩

end RowCounts

end QueryDrill
