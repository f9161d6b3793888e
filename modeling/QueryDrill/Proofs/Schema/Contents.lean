import Mathlib.Data.List.Nodup
import Mathlib.Data.List.Pairwise
import Mathlib.Data.List.Sections
import QueryDrill.Schema.Catalog
/-!
What the tables of a catalog can hold, and the rows of their product.

A row gives each column a value or `NULL`. Rows of a table differ in its primary key; they differ in a
unique key too, unless one of them has a `NULL` in it. The product of tables has one combination for each
choice of one row from each table (`List.sections`).
-/

namespace QueryDrill

variable {α : Type}

/-! ## 1. Rows -/

/-- A row: the value of each column, `none` for `NULL`. -/
abbrev Row (α : Type) : Type := String → Option α

/-- Two rows are equal in some columns. -/
def Row.Agree (columns : List String) (r r' : Row α) : Prop := ∀ c ∈ columns, r c = r' c

/-- A row has no `NULL` in some columns. -/
def Row.Known (columns : List String) (r : Row α) : Prop := ∀ c ∈ columns, r c ≠ none

theorem Row.Agree.symm {columns : List String} {r r' : Row α} (h : r.Agree columns r') :
    r'.Agree columns r :=
  fun c hc => (h c hc).symm

/-- Of rows that differ pairwise in some way, two that do not differ are one. -/
theorem eq_of_pairwise_not {R : Row α → Row α → Prop} {rows : List (Row α)}
    (h : rows.Pairwise fun r r' => ¬R r r') (hsymm : ∀ r r', R r r' → R r' r) {r r' : Row α}
    (hr : r ∈ rows) (hr' : r' ∈ rows) (hR : R r r') : r = r' := by
  have : Std.Symm fun r r' => ¬R r r' := ⟨fun _ _ hnot hsame => hnot (hsymm _ _ hsame)⟩
  by_contra hne
  exact h.forall hr hr' hne hR

/-! ## 2. Tables -/

/-- Whether a column is declared without `NULL`. -/
def Table.IsNotNull (t : Table) (column : String) : Prop :=
  ∃ c ∈ t.columns, c.name = column ∧ c.nullable = false

/-- What a table says of its rows. -/
structure Table.Holds (t : Table) (rows : List (Row α)) : Prop where
  /-- No two rows have the same primary key. -/
  primaryKey : t.primaryKey ≠ [] → rows.Pairwise fun r r' => ¬r.Agree t.primaryKey r'
  /-- No two rows have the same values in a unique key. -/
  uniqueKeys : ∀ key ∈ t.uniqueKeys, key ≠ [] →
    rows.Pairwise fun r r' => ¬(r.Agree key r' ∧ r.Known key)
  notNull : ∀ c, t.IsNotNull c → ∀ r ∈ rows, r c ≠ none

/-- Rows of a table differ in each key. `NULL` counts as a value in the primary key, and in no other. -/
theorem Table.Holds.pairwise {t : Table} {rows : List (Row α)} (h : t.Holds rows) {key : List String}
    (hkey : key ∈ t.candidateKeys) (hne : key ≠ []) :
    rows.Pairwise fun r r' => ¬(r.Agree key r' ∧ (key = t.primaryKey ∨ r.Known key)) := by
  by_cases hprimary : key = t.primaryKey
  · refine (h.primaryKey (hprimary ▸ hne)).imp fun hnot hsame => hnot ?_
    exact hprimary ▸ hsame.1
  · have hunique : key ∈ t.uniqueKeys := by
      rcases List.mem_append.1 hkey with hkey | hkey
      · split at hkey
        · cases hkey
        · exact absurd (List.mem_singleton.1 hkey) hprimary
      · exact hkey
    exact (h.uniqueKeys key hunique hne).imp fun hnot hsame =>
      hnot ⟨hsame.1, hsame.2.resolve_left hprimary⟩

theorem Table.Holds.eq_of_agree {t : Table} {rows : List (Row α)} (h : t.Holds rows) {key : List String}
    (hkey : key ∈ t.candidateKeys) (hne : key ≠ []) {r r' : Row α} (hr : r ∈ rows) (hr' : r' ∈ rows)
    (hagree : r.Agree key r') (hknown : key = t.primaryKey ∨ r.Known key) : r = r' := by
  refine eq_of_pairwise_not (h.pairwise hkey hne) ?_ hr hr' ⟨hagree, hknown⟩
  rintro s s' ⟨hs, hvalues⟩
  exact ⟨hs.symm, hvalues.imp_right fun hvalues c hc => hs c hc ▸ hvalues c hc⟩

theorem Table.Holds.known {t : Table} {rows : List (Row α)} (h : t.Holds rows) {columns : List String}
    (hnotNull : ∀ c ∈ columns, t.IsNotNull c) {r : Row α} (hr : r ∈ rows) : r.Known columns :=
  fun c hc => h.notNull c (hnotNull c hc) r hr

theorem Table.Holds.nodup {t : Table} {rows : List (Row α)} (h : t.Holds rows) {key : List String}
    (hkey : key ∈ t.candidateKeys) (hne : key ≠ [])
    (hknown : key = t.primaryKey ∨ ∀ c ∈ key, t.IsNotNull c) : rows.Nodup := by
  refine (h.pairwise hkey hne).imp_of_mem fun {r r'} hr _ hnot heq => hnot ⟨?_, ?_⟩
  · exact fun c _ => heq ▸ rfl
  · exact hknown.imp_right fun hnotNull => h.known hnotNull hr

/-- Two rows of at most one are one. -/
theorem eq_of_length_le_one {rows : List (Row α)} (h : rows.length ≤ 1) {r r' : Row α} (hr : r ∈ rows)
    (hr' : r' ∈ rows) : r = r' := by
  match rows with
  | [] => cases hr
  | [s] => rw [List.mem_singleton.1 hr, List.mem_singleton.1 hr']
  | _ :: _ :: _ => simp at h

theorem nodup_of_length_le_one {rows : List (Row α)} (h : rows.length ≤ 1) : rows.Nodup := by
  match rows with
  | [] => exact List.nodup_nil
  | [s] => exact List.nodup_singleton s
  | _ :: _ :: _ => simp at h

/-- Rows for each table, by its name. -/
abbrev Contents (α : Type) : Type := String → List (Row α)

/-- Each table of a catalog holds rows that it can hold. -/
def Catalog.Holds (catalog : Catalog) (contents : Contents α) : Prop :=
  ∀ t ∈ catalog.tables, t.Holds (contents t.name)

theorem Catalog.mem_tables_of_table? {catalog : Catalog} {name : String} {t : Table}
    (h : catalog.table? name = some t) : t ∈ catalog.tables := by
  obtain ⟨es₁, es₂, hentries, -⟩ := List.lookup_eq_some_iff.1 h
  rw [tables, Keyed.values, hentries]
  simp

/-! ## 3. Products -/

/-- Two combinations of rows that have the same row from each table are one. -/
theorem eq_of_sections {lists : List (List (Row α))} {x y : List (Row α)} (hx : x ∈ lists.sections)
    (hy : y ∈ lists.sections) (h : ∀ i, i < lists.length → x[i]? = y[i]?) : x = y := by
  refine List.ext_getElem? fun i => ?_
  by_cases hi : i < lists.length
  · exact h i hi
  · rw [List.getElem?_eq_none (by rw [List.mem_sections_length hx]; omega),
      List.getElem?_eq_none (by rw [List.mem_sections_length hy]; omega)]

/-- A combination has a row of each table. -/
theorem exists_mem_of_sections {lists : List (List (Row α))} {x : List (Row α)} (hx : x ∈ lists.sections)
    {i : Nat} {rows : List (Row α)} (hi : lists[i]? = some rows) : ∃ r ∈ rows, x[i]? = some r := by
  obtain ⟨hlt, hget⟩ := List.getElem?_eq_some_iff.1 hi
  have hforall := List.mem_sections.1 hx
  have hlt' : i < x.length := hforall.length_eq ▸ hlt
  refine ⟨x[i], ?_, List.getElem?_eq_getElem hlt'⟩
  have := List.forall₂_iff_get.1 hforall
  exact hget ▸ this.2 i hlt' hlt

/-- A product of tables without repeated rows has no combination twice. -/
theorem nodup_sections {lists : List (List (Row α))} (h : ∀ rows ∈ lists, rows.Nodup) :
    lists.sections.Nodup := by
  induction lists with
  | nil => simp
  | cons rows lists ih =>
    have htail : lists.sections.Nodup := ih fun rows' h' => h rows' (List.mem_cons_of_mem _ h')
    rw [List.sections, List.nodup_flatMap]
    constructor
    · intro x _
      exact (h rows List.mem_cons_self).map fun r r' heq => (List.cons.inj heq).1
    · refine htail.imp fun {x y} hne => ?_
      -- combinations of the other tables differ, whatever row comes before them
      intro z hz hz'
      obtain ⟨r, -, rfl⟩ := List.mem_map.1 hz
      obtain ⟨r', -, heq⟩ := List.mem_map.1 hz'
      exact hne (List.cons.inj heq).2.symm

end QueryDrill
