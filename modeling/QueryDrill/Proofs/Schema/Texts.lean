import Mathlib.Data.List.Nodup
import QueryDrill.Constraint.Schema
import QueryDrill.Proofs.Fallible
import QueryDrill.Proofs.Schema.Lowering
/-!
Lists of texts that declare tables and insert rows.

A list of texts is read just when each of its texts is, and what it gives depends on the statements of the
texts alone, taken one after the other (`Takes.texts_eq_ok_iff`). So two lists put together are read when
both are. The rows that they insert are added up; of two tables with one name the later stays
(`Catalog.ofTexts_append`, `RowCounts.ofTexts_append`). Tables with different names, and all insertions, can
come in any order (`Catalog.ofTexts_perm`, `RowCounts.ofTexts_perm`), so constraints on a schema do not
depend on the order of commands (`SchemaConstraint.validateTexts_rearranged`).
-/

namespace QueryDrill

open Sql Text
open scoped List

/-! ## 1. Texts and their statements -/

namespace Sql

/-- The table definition that a statement is. -/
def Statement.definition? : Statement → Option CreateTable
  | .createTable c => some c
  | _ => none

/-- The insertion that a statement is. -/
def Statement.insertion? : Statement → Option Insertion
  | .insert i => some i
  | _ => none

end Sql

section Statements

variable {α σ : Type}

/-- A text can be read, and all its statements are of a kind. -/
def ConsistsOf (kind : Statement → Option α) (d : Dialect) (text : String) : Prop :=
  ∃ statements, readStatements d text = .ok statements ∧ ∀ s ∈ statements, (kind s).isSome

/-- The statements of a kind in a text. -/
def piecesOf (kind : Statement → Option α) (d : Dialect) (text : String) : List α :=
  match readStatements d text with
  | .ok statements => statements.filterMap kind
  | .error _ => []

/-- A step takes the statements of a kind and refuses all others. -/
structure Takes (kind : Statement → Option α) (step : σ → Statement → Except Failure σ) (f : σ → α → σ) :
    Prop where
  eq_ok : ∀ {s a}, kind s = some a → ∀ state, step state s = .ok (f state a)
  ne_ok : ∀ {s}, kind s = none → ∀ state state', step state s ≠ .ok state'

variable {kind : Statement → Option α} {step : σ → Statement → Except Failure σ} {f : σ → α → σ}
  {state state' : σ}

theorem Takes.foldlM_statements_eq_ok_iff (h : Takes kind step f) {statements : List Statement} :
    statements.foldlM step state = .ok state' ↔
      (∀ s ∈ statements, (kind s).isSome) ∧ state' = (statements.filterMap kind).foldl f state := by
  induction statements generalizing state with
  | nil => simp [pure, Except.pure, eq_comm (b := state)]
  | cons s statements ih =>
    rw [List.foldlM_cons, bind_eq_ok_iff]
    cases hkind : kind s with
    | none => simp [h.ne_ok hkind, hkind]
    | some a => simp [h.eq_ok hkind, hkind, ih]

theorem Takes.text_eq_ok_iff (h : Takes kind step f) {d : Dialect} {text : String} :
    (do (← readStatements d text).foldlM step state) = .ok state' ↔
      ConsistsOf kind d text ∧ state' = (piecesOf kind d text).foldl f state := by
  rw [bind_eq_ok_iff, ConsistsOf, piecesOf]
  cases readStatements d text with
  | error failure => simp
  | ok statements => simp [h.foldlM_statements_eq_ok_iff]

/-- A list of texts is read just when each of its texts is, and its statements are taken in order. -/
theorem Takes.texts_eq_ok_iff (h : Takes kind step f) {d : Dialect} {texts : List String} :
    texts.foldlM (fun state text => do (← readStatements d text).foldlM step state) state = .ok state' ↔
      (∀ text ∈ texts, ConsistsOf kind d text) ∧
        state' = (texts.flatMap (piecesOf kind d)).foldl f state := by
  induction texts generalizing state with
  | nil => simp [pure, Except.pure, eq_comm (b := state)]
  | cons text texts ih =>
    rw [List.foldlM_cons, bind_eq_ok_iff]
    simp only [h.text_eq_ok_iff, ih, List.forall_mem_cons, List.flatMap_cons, List.foldl_append]
    constructor
    · rintro ⟨next, ⟨htext, rfl⟩, htexts, rfl⟩
      exact ⟨⟨htext, htexts⟩, rfl⟩
    · rintro ⟨⟨htext, htexts⟩, rfl⟩
      exact ⟨_, ⟨htext, rfl⟩, htexts, rfl⟩

end Statements
/-! ## 2. Catalogs -/

namespace Catalog

theorem takes_definitions :
    Takes Statement.definition? afterStatement fun c d => c.insert (.ofDefinition d) where
  eq_ok := by
    intro s d hkind c
    cases s <;> simp_all [Statement.definition?, afterStatement]
  ne_ok := by
    intro s hkind c c'
    cases s <;> simp_all [Statement.definition?, afterStatement]

/-- The definitions in a list of texts. -/
def definitionsIn (d : Dialect) (texts : List String) : List CreateTable :=
  texts.flatMap (piecesOf Statement.definition? d)

variable {d : Dialect} {texts texts' : List String} {catalog : Catalog}

theorem ofTexts_eq_ok_iff : ofTexts d texts = .ok catalog ↔
    (∀ text ∈ texts, ConsistsOf Statement.definition? d text) ∧
      catalog = ofDefinitions (definitionsIn d texts) :=
  takes_definitions.texts_eq_ok_iff

theorem isOk_ofTexts_iff : (ofTexts d texts).isOk = true ↔
    ∀ text ∈ texts, ConsistsOf Statement.definition? d text := by
  rw [isOk_iff]
  simp [ofTexts_eq_ok_iff]

/-- Tables with different names are declared alike in any order. -/
theorem ofDefinitions_perm {ds ds' : List CreateTable} (hnames : (ds.map fun d => d.name.key).Nodup)
    (h : ds ~ ds') : ofDefinitions ds = ofDefinitions ds' := by
  refine h.foldl_eq' (fun x hx y hy c => ?_) _
  by_cases hkeys : x.name.key = y.name.key
  · rw [List.inj_on_of_nodup_map hnames hx hy hkeys]
  · exact congrArg Catalog.mk (c.byName.insert_comm hkeys _ _)

/-- Of definitions that follow a catalog, the tables come before those of the catalog. -/
theorem get?_foldl_insert (ds : List CreateTable) (c : Catalog) (k : String) :
    (ds.foldl (fun c d => c.insert (.ofDefinition d)) c).byName.get? k =
      ((ofDefinitions ds).byName.get? k).or (c.byName.get? k) := by
  induction ds generalizing c with
  | nil => rfl
  | cons d ds ih =>
    have hinsert (c : Catalog) : (c.insert (.ofDefinition d)).byName.get? k =
        if k = d.name.key then some (.ofDefinition d) else c.byName.get? k :=
      c.byName.get?_insert _ _ _
    rw [ofDefinitions, List.foldl_cons, List.foldl_cons, ih, ih (empty.insert _), hinsert, hinsert,
      Option.or_assoc]
    split <;> rfl

/-- Texts that declare tables with different names can come in any order. -/
theorem ofTexts_perm (hnames : ((definitionsIn d texts).map fun c => c.name.key).Nodup)
    (h : texts ~ texts') (hread : ofTexts d texts = .ok catalog) : ofTexts d texts' = .ok catalog := by
  obtain ⟨hconsists, rfl⟩ := ofTexts_eq_ok_iff.1 hread
  refine ofTexts_eq_ok_iff.2 ⟨fun text htext => hconsists text (h.mem_iff.2 htext), ?_⟩
  exact ofDefinitions_perm hnames (h.flatMap_right _)

/-- Lists of texts put together are read when both are, and tables of the second replace those of the
first. -/
theorem ofTexts_append (d : Dialect) (as bs : List String) :
    (ofTexts d (as ++ bs)).isOk = ((ofTexts d as).isOk && (ofTexts d bs).isOk) ∧
      ∀ a b c, ofTexts d as = .ok a → ofTexts d bs = .ok b → ofTexts d (as ++ bs) = .ok c →
        ∀ k, c.byName.get? k = (b.byName.get? k).or (a.byName.get? k) := by
  refine ⟨?_, fun a b c ha hb hc k => ?_⟩
  · rw [Bool.eq_iff_iff, Bool.and_eq_true, isOk_ofTexts_iff, isOk_ofTexts_iff, isOk_ofTexts_iff,
      List.forall_mem_append]
  · obtain ⟨-, rfl⟩ := ofTexts_eq_ok_iff.1 ha
    obtain ⟨-, rfl⟩ := ofTexts_eq_ok_iff.1 hb
    obtain ⟨-, rfl⟩ := ofTexts_eq_ok_iff.1 hc
    rw [definitionsIn, List.flatMap_append, ofDefinitions, List.foldl_append]
    exact get?_foldl_insert _ _ k

end Catalog

/-! ## 3. Row counts -/

namespace RowCounts

theorem takes_insertions :
    Takes Statement.insertion? afterStatement fun counts i => counts.add i.table.key (insertedRows i) where
  eq_ok := by
    intro s i hkind counts
    cases s <;> simp_all [Statement.insertion?, afterStatement]
  ne_ok := by
    intro s hkind counts counts'
    cases s <;> simp_all [Statement.insertion?, afterStatement]

/-- The insertions in a list of texts. -/
def insertionsIn (d : Dialect) (texts : List String) : List Insertion :=
  texts.flatMap (piecesOf Statement.insertion? d)

variable {d : Dialect} {texts texts' : List String} {counts : RowCounts}

theorem ofTexts_eq_ok_iff : ofTexts d texts = .ok counts ↔
    (∀ text ∈ texts, ConsistsOf Statement.insertion? d text) ∧
      counts = ofInsertions (insertionsIn d texts) :=
  takes_insertions.texts_eq_ok_iff

theorem isOk_ofTexts_iff : (ofTexts d texts).isOk = true ↔
    ∀ text ∈ texts, ConsistsOf Statement.insertion? d text := by
  rw [isOk_iff]
  simp [ofTexts_eq_ok_iff]

theorem ofInsertions_perm {is is' : List Insertion} (h : is ~ is') : ofInsertions is = ofInsertions is' :=
  h.foldl_eq' (fun _ _ _ _ counts => counts.add_comm _ _ _ _) _

theorem get?_add_eq_merge (counts : RowCounts) (key k : String) (n : Nat) :
    (counts.add key n).get? k = Option.merge (· + ·) (counts.get? k) (if k = key then some n else none) := by
  rw [Keyed.get?_add]
  split
  · rename_i hkey
    rw [hkey]
    cases counts.get? key <;> simp
  · exact Option.merge_none_right.symm

/-- The rows of insertions that follow counts are added to them. -/
theorem get?_foldl_add (is : List Insertion) (counts : RowCounts) (k : String) :
    (is.foldl (fun counts i => counts.add i.table.key (insertedRows i)) counts).get? k =
      Option.merge (· + ·) (counts.get? k) ((ofInsertions is).get? k) := by
  induction is generalizing counts with
  | nil => exact Option.merge_none_right.symm
  | cons i is ih =>
    have hassoc (a b c : Option Nat) : Option.merge (· + ·) (Option.merge (· + ·) a b) c =
        Option.merge (· + ·) a (Option.merge (· + ·) b c) := by
      cases a <;> cases b <;> cases c <;> simp [Nat.add_assoc]
    rw [ofInsertions, List.foldl_cons, List.foldl_cons, ih, ih (Keyed.add ..), get?_add_eq_merge,
      get?_add_eq_merge, hassoc, Keyed.get?_empty, Option.merge_none_left]

/-- Texts of insertions can come in any order. -/
theorem ofTexts_perm (h : texts ~ texts') (hread : ofTexts d texts = .ok counts) :
    ofTexts d texts' = .ok counts := by
  obtain ⟨hconsists, rfl⟩ := ofTexts_eq_ok_iff.1 hread
  refine ofTexts_eq_ok_iff.2 ⟨fun text htext => hconsists text (h.mem_iff.2 htext), ?_⟩
  exact ofInsertions_perm (h.flatMap_right _)

/-- Lists of texts put together are read when both are, and their rows are added up. -/
theorem ofTexts_append (d : Dialect) (as bs : List String) :
    (ofTexts d (as ++ bs)).isOk = ((ofTexts d as).isOk && (ofTexts d bs).isOk) ∧
      ∀ a b c, ofTexts d as = .ok a → ofTexts d bs = .ok b → ofTexts d (as ++ bs) = .ok c →
        ∀ k, c.get? k = Option.merge (· + ·) (a.get? k) (b.get? k) := by
  refine ⟨?_, fun a b c ha hb hc k => ?_⟩
  · rw [Bool.eq_iff_iff, Bool.and_eq_true, isOk_ofTexts_iff, isOk_ofTexts_iff, isOk_ofTexts_iff,
      List.forall_mem_append]
  · obtain ⟨-, rfl⟩ := ofTexts_eq_ok_iff.1 ha
    obtain ⟨-, rfl⟩ := ofTexts_eq_ok_iff.1 hb
    obtain ⟨-, rfl⟩ := ofTexts_eq_ok_iff.1 hc
    rw [insertionsIn, List.flatMap_append, ofInsertions, List.foldl_append]
    exact get?_foldl_add _ _ k

end RowCounts

/-! ## 4. Constraints on a schema -/

namespace SchemaConstraint

/-- Validates a constraint on the schema that texts declare and the rows that other texts insert. -/
def validateTexts (d : Dialect) (creates inserts : List String) (l : Language) (c : SchemaConstraint) :
    Except Failure (Except Violation Unit) := do
  return c.validate (← Catalog.ofTexts d creates) (← RowCounts.ofTexts d inserts) l

/-- **Neither the order of commands nor how they are grouped matters.** Where the commands can be read and
declare tables with different names, rearranged commands give the same catalog and the same row counts, so each
constraint is met or violated in the same words. Two lists of commands put together can be read just when both
can: rows are added up, and tables of the second list replace those of the first. -/
theorem validateTexts_rearranged (d : Dialect) :
    (∀ creates creates' inserts inserts' catalog counts,
      Catalog.ofTexts d creates = .ok catalog → RowCounts.ofTexts d inserts = .ok counts →
      ((Catalog.definitionsIn d creates).map fun c => c.name.key).Nodup →
      creates ~ creates' → inserts ~ inserts' →
        Catalog.ofTexts d creates' = .ok catalog ∧ RowCounts.ofTexts d inserts' = .ok counts ∧
        ∀ l c, validateTexts d creates' inserts' l c = validateTexts d creates inserts l c) ∧
    (∀ as bs, (RowCounts.ofTexts d (as ++ bs)).isOk =
        ((RowCounts.ofTexts d as).isOk && (RowCounts.ofTexts d bs).isOk) ∧
      ∀ a b c, RowCounts.ofTexts d as = .ok a → RowCounts.ofTexts d bs = .ok b →
        RowCounts.ofTexts d (as ++ bs) = .ok c →
        ∀ k, c.get? k = Option.merge (· + ·) (a.get? k) (b.get? k)) ∧
    (∀ as bs, (Catalog.ofTexts d (as ++ bs)).isOk =
        ((Catalog.ofTexts d as).isOk && (Catalog.ofTexts d bs).isOk) ∧
      ∀ a b c, Catalog.ofTexts d as = .ok a → Catalog.ofTexts d bs = .ok b →
        Catalog.ofTexts d (as ++ bs) = .ok c →
        ∀ k, c.byName.get? k = (b.byName.get? k).or (a.byName.get? k)) := by
  refine ⟨?_, RowCounts.ofTexts_append d, Catalog.ofTexts_append d⟩
  intro creates creates' inserts inserts' catalog counts hcatalog hcounts hnames hcreates hinserts
  have hcatalog' := Catalog.ofTexts_perm hnames hcreates hcatalog
  have hcounts' := RowCounts.ofTexts_perm hinserts hcounts
  refine ⟨hcatalog', hcounts', fun l c => ?_⟩
  rw [validateTexts, validateTexts, hcatalog, hcatalog', hcounts, hcounts']

/-- What commands for the tables a and b declare and insert. -/
theorem readings_letters :
    ((Catalog.ofTexts .postgres ["CREATE TABLE b (id INT)", "CREATE TABLE A (id INT)"]).map
        Catalog.tableNames).toOption = some ["a", "b"] ∧
      ((RowCounts.ofTexts .postgres ["INSERT INTO b VALUES (1)", "INSERT INTO a VALUES (1), (2)"]).map
        Keyed.entries).toOption = some [("a", 2), ("b", 1)] ∧
      ((Catalog.definitionsIn .postgres ["CREATE TABLE b (id INT)", "CREATE TABLE A (id INT)"]).map
        fun c => c.name.key).Nodup := by
  decide +kernel

/-- The tables a and b, declared and filled in either order; filled twice they have twice as many rows. -/
theorem validateTexts_rearranged_letters :
    ∃ catalog counts twice,
      Catalog.ofTexts .postgres ["CREATE TABLE b (id INT)", "CREATE TABLE A (id INT)"] = .ok catalog ∧
      RowCounts.ofTexts .postgres ["INSERT INTO b VALUES (1)", "INSERT INTO a VALUES (1), (2)"] = .ok counts ∧
      catalog.tableNames = ["a", "b"] ∧ counts.entries = [("a", 2), ("b", 1)] ∧
      Catalog.ofTexts .postgres ["CREATE TABLE A (id INT)", "CREATE TABLE b (id INT)"] = .ok catalog ∧
      RowCounts.ofTexts .postgres ["INSERT INTO a VALUES (1), (2)", "INSERT INTO b VALUES (1)"] =
        .ok counts ∧
      RowCounts.ofTexts .postgres ["INSERT INTO b VALUES (1)", "INSERT INTO a VALUES (1), (2)",
        "INSERT INTO a VALUES (1), (2)", "INSERT INTO b VALUES (1)"] = .ok twice ∧
      twice.get? "a" = some 4 ∧ twice.get? "b" = some 2 := by
  obtain ⟨htables, hrows, hnames⟩ := readings_letters
  obtain ⟨catalog, hcatalog, htables⟩ := exists_of_map_toOption htables
  obtain ⟨counts, hcounts, hrows⟩ := exists_of_map_toOption hrows
  obtain ⟨hpermuted, hadded, -⟩ := validateTexts_rearranged .postgres
  obtain ⟨hcatalog', hcounts', -⟩ :=
    hpermuted _ _ _ _ catalog counts hcatalog hcounts hnames (.swap _ _ _) (.swap _ _ _)
  obtain ⟨hread, hsum⟩ := hadded ["INSERT INTO b VALUES (1)", "INSERT INTO a VALUES (1), (2)"]
    ["INSERT INTO a VALUES (1), (2)", "INSERT INTO b VALUES (1)"]
  rw [hcounts, hcounts'] at hread
  obtain ⟨twice, htwice⟩ := isOk_iff.1 hread
  have hsum := hsum _ _ _ hcounts hcounts' htwice
  refine ⟨catalog, counts, twice, hcatalog, hcounts, htables, hrows, hcatalog', hcounts', htwice, ?_, ?_⟩
  all_goals
    rw [hsum, Keyed.get?, hrows]
    rfl

end SchemaConstraint

end QueryDrill
