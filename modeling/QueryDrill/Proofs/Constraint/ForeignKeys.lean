import QueryDrill.Proofs.Constraint.KeySelection
/-!
Which queries select only foreign keys, and which do not.

A query passes as one that selects only foreign keys if it selects a column and all columns that it selects are
foreign keys, and as one that does not if it selects a column that is none. So at most one of the two checks
passes, and neither does for a query that is taken to select no column. The entries of the `SELECT` list that are
taken for no column are wildcards: those of known tables without columns, and `*` where `FROM` lists no table by
name, as in `SELECT * FROM (..) AS d` (`Block.ShowsNothing`). So exactly one check passes just if some entry is of
another kind (`QueryConstraint.existsUnique_foreignKeyProjection_iff`).
-/

namespace QueryDrill

open Sql Text

/-! ## 1. Entries without columns -/

/-- The catalog knows a table with this name and no columns. -/
def Catalog.IsBare (catalog : Catalog) (name : String) : Prop :=
  ∃ t, catalog.table? name = some t ∧ t.columns = []

/-- An entry of the `SELECT` list stands for no column: it is a wildcard, and all its tables are known to have no
columns. -/
def Block.ShowsNothing (catalog : Catalog) (b : Block) : SelectItem → Prop
  | .expr _ _ => False
  | .wildcard [] _ => ∀ ref ∈ b.tables, catalog.IsBare ref.name
  | .wildcard name _ => ∃ t, ownerOf b.tables (some name.key) = some t ∧ catalog.IsBare t

namespace QueryConstraint

variable {catalog : Catalog} {b : Block} {o : Outline}

theorem columnsOf_eq_nil_iff {name : String} : columnsOf catalog name = [] ↔ catalog.IsBare name := by
  unfold columnsOf Catalog.IsBare
  cases catalog.table? name with
  | none => simp
  | some t => simp [Table.columnNames]

theorem selectedBy_eq_nil_iff (item : SelectItem) :
    selectedBy catalog b (outputColumn b.tables item) = [] ↔ b.ShowsNothing catalog item := by
  cases item with
  | expr e label => simp [selectedBy, outputColumn, Block.ShowsNothing]
  | wildcard name options =>
    cases name with
    | nil => simp [selectedBy, outputColumn, Block.ShowsNothing, columnsOf_eq_nil_iff]
    | cons part parts =>
      obtain ⟨t, ht, -⟩ := exists_ownerOf b (Name.key (part :: parts))
      simp [selectedBy, outputColumn, Block.ShowsNothing, columnsOf_eq_nil_iff, ht]

/-- A block selects a column if some entry of its `SELECT` list stands for one. -/
theorem selectedColumnsOf_ne_nil_iff :
    selectedColumnsOf catalog b ≠ [] ↔ ∃ item ∈ b.select.projection, ¬ b.ShowsNothing catalog item := by
  simp [selectedColumnsOf, Block.outputColumns, List.flatMap_map, selectedBy_eq_nil_iff]

/-! ## 2. The two checks -/

/-- A query passes as one that selects only foreign keys if it selects some column and nothing else. -/
theorem checkForeignKeyProjection_present_iff (h : o.mainBlock? = some b) :
    checkForeignKeyProjection o catalog .present = none ↔
      selectedColumnsOf catalog b ≠ [] ∧
        ∀ s ∈ selectedColumnsOf catalog b, isForeignKeyColumn catalog s = true := by
  simp only [checkForeignKeyProjection, h, List.partition_eq_filter_filter]
  generalize selectedColumnsOf catalog b = selected
  split
  · rename_i hforeign
    refine iff_of_false nofun ?_
    rintro ⟨hne, hall⟩
    rw [List.filter_eq_self.2 hall, List.isEmpty_iff] at hforeign
    exact hne hforeign
  · rename_i hforeign
    have hne : selected ≠ [] := by
      rintro rfl
      exact hforeign rfl
    simp [hne, List.filter_eq_nil_iff]

/-- A query passes as one that selects more than foreign keys if it selects a column that is none. -/
theorem checkForeignKeyProjection_absent_iff (h : o.mainBlock? = some b) :
    checkForeignKeyProjection o catalog .absent = none ↔
      ∃ s ∈ selectedColumnsOf catalog b, isForeignKeyColumn catalog s = false := by
  simp only [checkForeignKeyProjection, h, List.partition_eq_filter_filter, passIf_eq_none_iff]
  simp [List.filter_eq_nil_iff]

/-- A query that selects a column passes one of the checks. -/
theorem exists_checkForeignKeyProjection_iff (h : o.mainBlock? = some b) :
    (∃ state, checkForeignKeyProjection o catalog state = none) ↔ selectedColumnsOf catalog b ≠ [] := by
  constructor
  · rintro ⟨state, hstate⟩
    cases state with
    | present => exact ((checkForeignKeyProjection_present_iff h).1 hstate).1
    | absent =>
      obtain ⟨s, hs, -⟩ := (checkForeignKeyProjection_absent_iff h).1 hstate
      exact List.ne_nil_of_mem hs
  · intro hne
    by_cases hall : ∀ s ∈ selectedColumnsOf catalog b, isForeignKeyColumn catalog s = true
    · exact ⟨.present, (checkForeignKeyProjection_present_iff h).2 ⟨hne, hall⟩⟩
    · have hother : ∃ s ∈ selectedColumnsOf catalog b, isForeignKeyColumn catalog s = false := by
        simpa using hall
      exact ⟨.absent, (checkForeignKeyProjection_absent_iff h).2 hother⟩

/-- No query passes both. -/
theorem not_both_checkForeignKeyProjection (h : o.mainBlock? = some b)
    (hpresent : checkForeignKeyProjection o catalog .present = none)
    (habsent : checkForeignKeyProjection o catalog .absent = none) : False := by
  obtain ⟨-, hall⟩ := (checkForeignKeyProjection_present_iff h).1 hpresent
  obtain ⟨s, hs, hother⟩ := (checkForeignKeyProjection_absent_iff h).1 habsent
  rw [hall s hs] at hother
  cases hother

/-- **When exactly one of the two checks passes.** A query passes as one that selects only foreign keys if it
selects a column and all its columns are foreign keys, and as one that selects more if some column is none. So at
most one of the checks passes, and one does just if some entry of the `SELECT` list stands for a column. -/
theorem existsUnique_foreignKeyProjection_iff (h : o.mainBlock? = some b) (catalog : Catalog) :
    ((∃! state, checkForeignKeyProjection o catalog state = none) ↔
      ∃ item ∈ b.select.projection, ¬ b.ShowsNothing catalog item) ∧
    (∀ state state', checkForeignKeyProjection o catalog state = none →
      checkForeignKeyProjection o catalog state' = none → state = state') ∧
    (checkForeignKeyProjection o catalog .present = none ↔ selectedColumnsOf catalog b ≠ [] ∧
      ∀ s ∈ selectedColumnsOf catalog b, isForeignKeyColumn catalog s = true) ∧
    (checkForeignKeyProjection o catalog .absent = none ↔
      ∃ s ∈ selectedColumnsOf catalog b, isForeignKeyColumn catalog s = false) := by
  have hsame : ∀ state state', checkForeignKeyProjection o catalog state = none →
      checkForeignKeyProjection o catalog state' = none → state = state' := by
    intro state state' hstate hstate'
    cases state <;> cases state'
    case present.present | absent.absent => rfl
    case present.absent => exact (not_both_checkForeignKeyProjection h hstate hstate').elim
    case absent.present => exact (not_both_checkForeignKeyProjection h hstate' hstate).elim
  refine ⟨?_, hsame, checkForeignKeyProjection_present_iff h, checkForeignKeyProjection_absent_iff h⟩
  rw [← selectedColumnsOf_ne_nil_iff, ← exists_checkForeignKeyProjection_iff h]
  constructor
  · intro hone
    exact hone.exists
  · rintro ⟨state, hstate⟩
    exact ⟨state, hstate, fun state' hstate' => hsame state' state hstate' hstate⟩

/-- A table of books, each with the number of its author. -/
def books : Catalog := Catalog.empty.insert
  ⟨"book", [⟨"id", "INT", false, true, false, false⟩, ⟨"author_id", "INT", true, false, false, true⟩], ["id"], [],
    [⟨["author_id"], "author", ["id"]⟩]⟩

/-- `SELECT author_id FROM book` passes as a query that selects only foreign keys and fails as any other. -/
theorem existsUnique_foreignKeyProjection_books :
    ∃ o b, Outline.parse .postgres "SELECT author_id FROM book" = .ok o ∧ o.mainBlock? = some b ∧
      (∃! state, checkForeignKeyProjection o books state = none) ∧
      checkForeignKeyProjection o books .present = none ∧
      checkForeignKeyProjection o books .absent ≠ none := by
  have hview : ((Outline.parse .postgres "SELECT author_id FROM book").map fun o =>
      o.mainBlock?.map fun b => selectedColumnsOf books b).toOption =
      some (some [⟨some "book", some "author_id"⟩]) := by
    decide +kernel
  obtain ⟨o, ho, hseen⟩ := Outline.exists_parse_eq_ok hview
  obtain ⟨b, hb, hselected⟩ := Option.map_eq_some_iff.1 hseen
  obtain ⟨hone, -, hpresent, habsent⟩ := existsUnique_foreignKeyProjection_iff hb books
  have hforeign : isForeignKeyColumn books ⟨some "book", some "author_id"⟩ = true := by decide
  refine ⟨o, b, ho, hb, hone.2 (selectedColumnsOf_ne_nil_iff.1 ?_), ?_, ?_⟩
  · simp [hselected]
  · rw [hpresent, hselected]
    simp [hforeign]
  · rw [Ne, habsent, hselected]
    simp [hforeign]

/-- `SELECT * FROM (SELECT name FROM a) AS d` passes neither check, whatever the catalog is: `FROM` lists no table
by name, and so `*` stands for no column. -/
theorem both_fail_on_derived :
    ∃ o b, Outline.parse .postgres "SELECT * FROM (SELECT name FROM a) AS d" = .ok o ∧ o.mainBlock? = some b ∧
      b.outputColumns = [⟨"*", none, none, none, true⟩] ∧ b.tables = [] ∧
      ∀ catalog state, checkForeignKeyProjection o catalog state ≠ none := by
  have hview : ((Outline.parse .postgres "SELECT * FROM (SELECT name FROM a) AS d").map fun o =>
      o.mainBlock?.map fun b => (b.outputColumns, b.tables)).toOption =
      some (some ([⟨"*", none, none, none, true⟩], [])) := by
    decide +kernel
  obtain ⟨o, ho, hseen⟩ := Outline.exists_parse_eq_ok hview
  obtain ⟨b, hb, hseen⟩ := Option.map_eq_some_iff.1 hseen
  obtain ⟨hcolumns, htables⟩ := Prod.mk.inj hseen
  refine ⟨o, b, ho, hb, hcolumns, htables, fun catalog state => ?_⟩
  have hnil : selectedColumnsOf catalog b = [] := by simp [selectedColumnsOf, hcolumns, selectedBy, htables]
  cases state with
  | present => simp [checkForeignKeyProjection_present_iff hb, hnil]
  | absent => simp [checkForeignKeyProjection_absent_iff hb, hnil]

end QueryConstraint

end QueryDrill
