import QueryDrill.Proofs.Schema.Texts
import QueryDrill.Proofs.Text.Case
/-!
Column names that tables share.

A catalog lists the names that are declared at least twice (`Catalog.mem_sharedColumnNames`). That is more than
the names of columns that two tables have: a table may declare a name more than once, since names that differ in
case are one name. So the list has the names with at least two owners, and no others, just if no table is the only
owner of a name that it repeats (`Catalog.mem_sharedColumnNames_iff`).
-/

namespace QueryDrill

open Sql Text

/-! ## 1. Occurrences in several lists -/

section Occurrences

variable {α β : Type} [DecidableEq β] {f : α → List β} {b : β}

theorem count_flatMap_pos_iff {xs : List α} :
    0 < (xs.flatMap f).count b ↔ 0 < (xs.filter fun x => b ∈ f x).length := by
  simp [List.count_pos_iff, List.length_pos_iff_exists_mem]

/-- Something occurs twice if it is in two lists, or twice in one of them. -/
theorem two_le_count_flatMap_iff {xs : List α} :
    2 ≤ (xs.flatMap f).count b ↔
      2 ≤ (xs.filter fun x => b ∈ f x).length ∨ ∃ x ∈ xs, 2 ≤ (f x).count b := by
  induction xs with
  | nil => simp
  | cons x xs ih =>
    rw [List.flatMap_cons, List.count_append, List.exists_mem_cons_iff]
    by_cases hx : b ∈ f x
    · have hcount : 0 < (f x).count b := List.count_pos_iff.2 hx
      have hrest : 0 < (xs.flatMap f).count b ↔ 0 < (xs.filter fun x => b ∈ f x).length :=
        count_flatMap_pos_iff
      rw [List.filter_cons_of_pos (by simpa using hx), List.length_cons]
      constructor
      · intro h
        by_cases htwice : 2 ≤ (f x).count b
        · exact .inr (.inl htwice)
        · left
          omega
      · rintro (hlists | htwice | hothers)
        · omega
        · omega
        · have hothers := ih.2 (.inr hothers)
          omega
    · rw [List.filter_cons_of_neg (by simpa using hx), List.count_eq_zero_of_not_mem hx, Nat.zero_add, ih]
      simp

end Occurrences

/-! ## 2. Names in a catalog -/

theorem Table.hasColumn_iff {t : Table} {column : String} :
    t.hasColumn column = true ↔ lower column ∈ t.columnNames := by
  simp [hasColumn, columnNames]

theorem Table.lower_of_mem_columnNames {d : CreateTable} {n : String} (h : n ∈ (ofDefinition d).columnNames) :
    lower n = n := by
  simp only [columnNames, ofDefinition, List.map_map, List.mem_map, Function.comp_apply, Keys.column] at h
  obtain ⟨c, -, rfl⟩ := h
  exact lower_lower _

namespace Catalog

variable {catalog : Catalog} {d : Dialect} {texts : List String} {c : String}

theorem eq_or_mem_tables_of_insert {t u : Table} (h : t ∈ (catalog.insert u).tables) :
    t = u ∨ t ∈ catalog.tables := by
  obtain ⟨e, he, rfl⟩ := List.mem_map.1 h
  rcases eq_or_mem_of_mem_putEntry he with rfl | he
  · exact .inl rfl
  · exact .inr (List.mem_map_of_mem he)

theorem mem_tables_foldl_insert {ds : List CreateTable} {t : Table}
    (h : t ∈ (ds.foldl (fun c d => c.insert (.ofDefinition d)) catalog).tables) :
    (∃ d ∈ ds, t = .ofDefinition d) ∨ t ∈ catalog.tables := by
  induction ds generalizing catalog with
  | nil => exact .inr h
  | cons d ds ih =>
    rw [List.exists_mem_cons_iff]
    rcases ih h with hlater | hmem
    · exact .inl (.inr hlater)
    · exact (eq_or_mem_tables_of_insert hmem).imp_left .inl

/-- The tables of a catalog are declared by definitions. -/
theorem exists_of_mem_tables {ds : List CreateTable} {t : Table} (h : t ∈ (ofDefinitions ds).tables) :
    ∃ d ∈ ds, t = .ofDefinition d :=
  (mem_tables_foldl_insert h).resolve_right List.not_mem_nil

/-- The column names in a catalog are in lower case. -/
theorem lower_of_mem_columnNames (h : ofTexts d texts = .ok catalog) {t : Table} (ht : t ∈ catalog.tables)
    (hc : c ∈ t.columnNames) : lower c = c := by
  obtain ⟨-, rfl⟩ := ofTexts_eq_ok_iff.1 h
  obtain ⟨definition, -, rfl⟩ := exists_of_mem_tables ht
  exact Table.lower_of_mem_columnNames hc

/-- A catalog lists the names that are declared at least twice, in one table or in several. -/
theorem mem_sharedColumnNames :
    c ∈ catalog.sharedColumnNames ↔ 2 ≤ (catalog.tables.flatMap Table.columnNames).count c := by
  have hcounted : catalog.columnCounts.get? c =
      if c ∈ catalog.tables.flatMap Table.columnNames then
        some ((catalog.tables.flatMap Table.columnNames).count c) else none :=
    Keyed.get?_counted _ c
  have hmem : c ∈ catalog.sharedColumnNames ↔ ∃ n, catalog.columnCounts.get? c = some n ∧ 2 ≤ n := by
    simp [sharedColumnNames, Keyed.mem_entries_iff]
  rw [hmem, hcounted]
  by_cases hdeclared : c ∈ catalog.tables.flatMap Table.columnNames
  · simp [hdeclared]
  · simp [hdeclared, List.count_eq_zero_of_not_mem hdeclared]

/-- The tables that have a column declare its name in lower case. -/
theorem tablesWithColumn_eq (catalog : Catalog) (c : String) :
    catalog.tablesWithColumn c = catalog.tables.filter fun t => lower c ∈ t.columnNames := by
  refine List.filter_congr fun t _ => ?_
  rw [Bool.eq_iff_iff, Table.hasColumn_iff, decide_eq_true_iff]

theorem count_pos_of_mem_tablesWithColumn {t : Table} (h : t ∈ catalog.tablesWithColumn c) :
    0 < t.columnNames.count (lower c) := by
  rw [tablesWithColumn_eq, List.mem_filter, decide_eq_true_iff] at h
  exact List.count_pos_iff.2 h.2

/-- A name is listed if two tables have the column, or one has it twice. -/
theorem lower_mem_sharedColumnNames_iff (catalog : Catalog) (c : String) :
    lower c ∈ catalog.sharedColumnNames ↔
      2 ≤ (catalog.tablesWithColumn c).length ∨
        ∃ t ∈ catalog.tablesWithColumn c, 2 ≤ t.columnNames.count (lower c) := by
  rw [mem_sharedColumnNames, two_le_count_flatMap_iff, tablesWithColumn_eq]
  refine or_congr_right (exists_congr fun t => ?_)
  rw [List.mem_filter, decide_eq_true_iff]
  constructor
  · rintro ⟨ht, htwice⟩
    have hpos : 0 < t.columnNames.count (lower c) := by omega
    exact ⟨⟨ht, List.count_pos_iff.1 hpos⟩, htwice⟩
  · rintro ⟨⟨ht, -⟩, htwice⟩
    exact ⟨ht, htwice⟩

/-- **Which column names are listed as shared.** Names are listed in lower case, and a name is listed if two
tables have the column or one table declares it twice. So a name is listed just if it has at least two owners,
unless a single table has the column and declares it more than once. -/
theorem mem_sharedColumnNames_iff (h : ofTexts d texts = .ok catalog) (c : String) :
    (c ∈ catalog.sharedColumnNames ↔ lower c = c ∧
      (2 ≤ (catalog.tablesWithColumn c).length ∨
        ∃ t ∈ catalog.tablesWithColumn c, 2 ≤ t.columnNames.count c)) ∧
    ((lower c ∈ catalog.sharedColumnNames ↔ 2 ≤ (catalog.tablesWithColumn c).length) ↔
      ∀ t, catalog.tablesWithColumn c = [t] → t.columnNames.count (lower c) = 1) := by
  have hlower : c ∈ catalog.sharedColumnNames → lower c = c := by
    intro hc
    have hdeclared : 0 < (catalog.tables.flatMap Table.columnNames).count c := by
      have := mem_sharedColumnNames.1 hc
      omega
    obtain ⟨t, ht, hc⟩ := List.mem_flatMap.1 (List.count_pos_iff.1 hdeclared)
    exact lower_of_mem_columnNames h ht hc
  constructor
  · constructor
    · intro hc
      have hlisted := (lower_mem_sharedColumnNames_iff catalog c).1 ((hlower hc).symm ▸ hc)
      rw [hlower hc] at hlisted
      exact ⟨hlower hc, hlisted⟩
    · rintro ⟨hcase, hlisted⟩
      have hmem := lower_mem_sharedColumnNames_iff catalog c
      rw [hcase] at hmem
      exact hmem.2 hlisted
  · rw [lower_mem_sharedColumnNames_iff]
    constructor
    · intro hsame t honly
      have ht : t ∈ catalog.tablesWithColumn c := by simp [honly]
      have hpos := count_pos_of_mem_tablesWithColumn ht
      by_contra hne
      have htwo := hsame.1 (.inr ⟨t, ht, by omega⟩)
      simp [honly] at htwo
    · intro hone
      refine ⟨?_, Or.inl⟩
      rintro (htwo | ⟨t, ht, htwice⟩)
      · exact htwo
      · match howners : catalog.tablesWithColumn c with
        | [] => simp [howners] at ht
        | [u] =>
          obtain rfl : t = u := by simpa [howners] using ht
          have := hone t howners
          omega
        | u :: v :: us => simp

/-- The column `id` of two tables, one of which writes it in upper case, and a column of one table. -/
def idTables : List String := ["CREATE TABLE a (id INT, name TEXT)", "CREATE TABLE b (ID INT)"]

/-- The name `id` is listed, under which two tables have a column, and `name` is not. -/
theorem mem_sharedColumnNames_iff_letters :
    ∃ catalog, ofTexts .postgres idTables = .ok catalog ∧ (catalog.tablesWithColumn "ID").length = 2 ∧
      lower "ID" ∈ catalog.sharedColumnNames ∧ "ID" ∉ catalog.sharedColumnNames ∧
      (catalog.tablesWithColumn "name").length = 1 ∧ "name" ∉ catalog.sharedColumnNames := by
  have hview : ((ofTexts .postgres idTables).map fun catalog =>
      ((catalog.tablesWithColumn "ID").map Table.columnNames,
        (catalog.tablesWithColumn "name").map Table.columnNames)).toOption =
      some ([["id", "name"], ["id"]], [["id", "name"]]) := by
    decide +kernel
  obtain ⟨catalog, hcatalog, hseen⟩ := exists_of_map_toOption hview
  obtain ⟨hid, hname⟩ := Prod.mk.inj hseen
  have hids : (catalog.tablesWithColumn "ID").length = 2 := by simpa using congrArg List.length hid
  obtain ⟨hwritten, hagree⟩ := mem_sharedColumnNames_iff hcatalog "ID"
  have hlisted : lower "ID" ∈ catalog.sharedColumnNames := by
    refine (hagree.2 fun t honly => ?_).2 (Nat.le_of_eq hids.symm)
    simp [honly] at hids
  have hupper : "ID" ∉ catalog.sharedColumnNames := fun h => absurd (hwritten.1 h).1 (by decide)
  obtain ⟨t, honly, hcolumns⟩ := List.map_eq_singleton_iff.1 hname
  have hsingle : "name" ∉ catalog.sharedColumnNames := by
    rw [(mem_sharedColumnNames_iff hcatalog "name").1]
    simp [honly, hcolumns]
  exact ⟨catalog, hcatalog, hids, hlisted, hupper, by rw [honly]; rfl, hsingle⟩

/-- One table declares `a` and `"A"`, which are one name in lower case. It is listed, though it has one owner. -/
theorem repeated_in_one_table :
    ∃ catalog, ofTexts .postgres ["CREATE TABLE t (a INT, \"A\" INT)"] = .ok catalog ∧
      catalog.sharedColumnNames = ["a"] ∧ (catalog.tablesWithColumn "a").map Table.name = ["t"] := by
  have hview : ((ofTexts .postgres ["CREATE TABLE t (a INT, \"A\" INT)"]).map fun catalog =>
      (catalog.sharedColumnNames, (catalog.tablesWithColumn "a").map Table.name)).toOption =
      some (["a"], ["t"]) := by
    decide +kernel
  obtain ⟨catalog, hcatalog, hseen⟩ := exists_of_map_toOption hview
  obtain ⟨hshared, howners⟩ := Prod.mk.inj hseen
  exact ⟨catalog, hcatalog, hshared, howners⟩

end Catalog

end QueryDrill
