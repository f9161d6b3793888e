import Mathlib.Data.List.NodupEquivFin
import QueryDrill.Constraint.Query
import QueryDrill.Proofs.Schema.Contents
/-!
What a selected key says of the rows of a query.

The query is a `SELECT` of columns from a list of tables. Its rows are those of the product of the tables,
with the columns that it shows (`Block.rows`). Where the check says that they are guaranteed unique, all
columns of some key are shown, and the key tells which row of its table was taken
(`QueryConstraint.determined_of_guaranteesUnique`). It says nothing of the rows of the other tables, and
nothing where a unique key has a `NULL`, so rows can still repeat (`QueryConstraint.repeated_with_key`).
-/

namespace QueryDrill

open Sql Text

variable {α : Type}

/-! ## 1. Products of tables -/

/-- The name that references call a table by. -/
def TableRef.qualifier (t : TableRef) : String := t.label.getD t.name

/-- Whether a column with a qualifier can be one of a table. -/
def TableRef.offers (catalog : Catalog) (qualifier : Option String) (column : String) (t : TableRef) :
    Bool :=
  qualifier.all (· == t.qualifier) && (catalog.table? t.name).any (·.hasColumn column)

/-- A table in a `FROM` list. -/
def Sql.FromItem.ofTable (name : Name) (label : Option Ident) : FromItem :=
  ⟨.table name [] none (label.map fun l => ⟨l, []⟩) [], []⟩

/-- A value that is not repeated stands at one place. -/
theorem eq_of_not_duplicate {names : List String} {name : String} (h : ¬names.Duplicate name) {i j : Nat}
    (hi : names[i]? = some name) (hj : names[j]? = some name) : i = j := by
  by_contra hne
  wlog hlt : i < j generalizing i j
  · exact this hj hi (Ne.symm hne) (by omega)
  · obtain ⟨hi, hiname⟩ := List.getElem?_eq_some_iff.1 hi
    obtain ⟨hj, hjname⟩ := List.getElem?_eq_some_iff.1 hj
    exact h (List.duplicate_iff_exists_distinct_get.2
      ⟨⟨i, hi⟩, ⟨j, hj⟩, hlt, hiname.symm, hjname.symm⟩)

namespace Block

/-- The column that an entry of the `SELECT` list shows, with the place in `FROM` of its table: the only
table that it can be a column of. -/
def shown? (catalog : Catalog) (b : Block) : SelectItem → Option (Nat × String)
  | .expr e _ => do
    let c ← e.column?
    if b.tables.countP (·.offers catalog e.qualifier? c) = 1 then
      some (b.tables.findIdx (·.offers catalog e.qualifier? c), c)
    else none
  | .wildcard .. => none

/-- A block shows columns of a product of tables, and does no more than that. -/
structure IsProduct (catalog : Catalog) (b : Block) : Prop where
  isDistinct : b.isDistinct = false
  hasGroupBy : b.hasGroupBy = false
  aggregateCalls : b.aggregateCalls = []
  selection : b.select.selection = none
  sources : ∀ i ∈ b.select.sources, ∃ name label, i = .ofTable name label
  /-- The tables are those of the catalog. -/
  known : ∀ ref ∈ b.tables, (catalog.table? ref.name).map Table.name = some ref.name
  qualifiers : (b.tables.map TableRef.qualifier).Nodup
  projection : ∀ item ∈ b.select.projection, (b.shown? catalog item).isSome

/-- No label is the name of another table of a block. -/
def LabelsApart (b : Block) : Prop :=
  ∀ s ∈ b.tables, ∀ t ∈ b.tables, s.label = some t.name → s.name = t.name

instance (b : Block) : Decidable b.LabelsApart :=
  inferInstanceAs (Decidable (∀ s ∈ b.tables, ∀ t ∈ b.tables, s.label = some t.name → s.name = t.name))

/-- The names of the tables of a block, in order. -/
def listed (b : Block) : List String := b.tables.map TableRef.name

/-- One row of each table, in all ways. -/
def combinations (b : Block) (contents : Contents α) : List (List (Row α)) :=
  (b.listed.map contents).sections

/-- What a block shows of a combination of rows. -/
def project (catalog : Catalog) (b : Block) (x : List (Row α)) : List (Option α) :=
  b.select.projection.map fun item => do
    let (i, c) ← b.shown? catalog item
    let r ← x[i]?
    r c

/-- The rows of the result. -/
def rows (catalog : Catalog) (b : Block) (contents : Contents α) : List (List (Option α)) :=
  (b.combinations contents).map (b.project catalog)

/-- A block shows columns of the table at a place in `FROM`. -/
def Shows (catalog : Catalog) (b : Block) (i : Nat) (columns : List String) : Prop :=
  ∀ c ∈ columns, ∃ item ∈ b.select.projection, b.shown? catalog item = some (i, c)

/-! ## 2. What a block shows -/

variable {catalog : Catalog} {b : Block}

/-- An entry that shows a column is a reference to the only table that offers it. -/
theorem exists_of_shown? {item : SelectItem} {i : Nat} {c : String}
    (h : b.shown? catalog item = some (i, c)) :
    ∃ e label ref, item = .expr e label ∧ e.column? = some c ∧ b.tables[i]? = some ref ∧
      b.tables.filter (·.offers catalog e.qualifier? c) = [ref] := by
  cases item with
  | wildcard => cases h
  | expr e label =>
    simp only [shown?, Option.bind_eq_bind, Option.bind_eq_some_iff] at h
    obtain ⟨c', hc, h⟩ := h
    split at h
    · rename_i hone
      obtain ⟨rfl, rfl⟩ := Prod.mk.inj (Option.some.inj h)
      obtain ⟨ref, hfilter⟩ := List.length_eq_one_iff.1 (List.countP_eq_length_filter ▸ hone)
      have hmem := List.mem_filter.1 (hfilter ▸ List.mem_singleton.2 rfl : ref ∈ b.tables.filter _)
      have hlt := List.findIdx_lt_length_of_exists ⟨ref, hmem⟩
      have hget : b.tables[b.tables.findIdx (·.offers catalog e.qualifier? c')] = ref :=
        List.mem_singleton.1 (hfilter ▸ List.mem_filter.2 ⟨List.getElem_mem hlt, List.findIdx_getElem⟩)
      exact ⟨e, label, ref, rfl, hc, List.getElem?_eq_some_iff.2 ⟨hlt, hget⟩, hfilter⟩
    · cases h

/-- Columns of a table are shown from one place, if the table is listed once or there is one column only. -/
theorem exists_shows {name : String} {columns : List String} (hne : columns ≠ [])
    (h : ∀ c ∈ columns, ∃ item ∈ b.select.projection, ∃ i, b.shown? catalog item = some (i, c) ∧
      b.listed[i]? = some name)
    (hone : ¬b.listed.Duplicate name ∨ columns.length = 1) :
    ∃ i, b.listed[i]? = some name ∧ b.Shows catalog i columns := by
  obtain ⟨c₀, hc₀⟩ := List.exists_mem_of_ne_nil columns hne
  obtain ⟨item, hitem, i, hshown, hi⟩ := h c₀ hc₀
  refine ⟨i, hi, fun c hc => ?_⟩
  obtain ⟨item', hitem', j, hshown', hj⟩ := h c hc
  rcases hone with hone | hone
  · have hij : j = i := eq_of_not_duplicate hone hj hi
    exact ⟨item', hitem', hij ▸ hshown'⟩
  · obtain ⟨c₁, rfl⟩ := List.length_eq_one_iff.1 hone
    rw [List.mem_singleton] at hc hc₀
    exact ⟨item, hitem, hc ▸ hc₀ ▸ hshown⟩

/-- Combinations that are shown alike agree on the columns that are shown. -/
theorem agree_of_project_eq {i : Nat} {columns : List String} (hshows : b.Shows catalog i columns)
    {x y : List (Row α)} (h : b.project catalog x = b.project catalog y) {r r' : Row α}
    (hr : x[i]? = some r) (hr' : y[i]? = some r') : r.Agree columns r' := by
  intro c hc
  obtain ⟨item, hitem, hshown⟩ := hshows c hc
  have hvalue := List.map_inj_left.1 h item hitem
  simpa [hshown, hr, hr'] using hvalue

section Combinations

variable {contents : Contents α}

/-- A combination has a row of each table. -/
theorem exists_row {x : List (Row α)} (hx : x ∈ b.combinations contents) {i : Nat} {name : String}
    (hi : b.listed[i]? = some name) : ∃ r ∈ contents name, x[i]? = some r :=
  exists_mem_of_sections hx (by rw [List.getElem?_map, hi, Option.map_some])

/-- Two combinations that have the same row of each table are one. -/
theorem eq_of_rows {x y : List (Row α)} (hx : x ∈ b.combinations contents)
    (hy : y ∈ b.combinations contents)
    (h : ∀ (i : Nat) name, b.listed[i]? = some name → x[i]? = y[i]?) : x = y := by
  refine eq_of_sections hx hy fun i hi => ?_
  rw [List.length_map] at hi
  exact h i _ (List.getElem?_eq_getElem hi)

variable {t : Table} {i : Nat} {key : List String}

/-- Combinations that are shown alike have the same row of a table whose key is shown. -/
theorem eq_of_project_eq (hholds : t.Holds (contents t.name)) (hi : b.listed[i]? = some t.name)
    (hkey : key ∈ t.candidateKeys) (hne : key ≠ []) (hshows : b.Shows catalog i key) {x y : List (Row α)}
    (hx : x ∈ b.combinations contents) (hy : y ∈ b.combinations contents)
    (h : b.project catalog x = b.project catalog y)
    (hknown : key = t.primaryKey ∨ ∀ r, x[i]? = some r → r.Known key) : x[i]? = y[i]? := by
  obtain ⟨r, hr, hxi⟩ := exists_row hx hi
  obtain ⟨r', hr', hyi⟩ := exists_row hy hi
  have hagree : r.Agree key r' := agree_of_project_eq hshows h hxi hyi
  rw [hxi, hyi, hholds.eq_of_agree hkey hne hr hr' hagree (hknown.imp_right fun hknown => hknown r hxi)]

/-- No row is shown twice where a key without `NULL` is shown and no other table has two rows. -/
theorem nodup_rows (hholds : t.Holds (contents t.name)) (hi : b.listed[i]? = some t.name)
    (hkey : key ∈ t.candidateKeys) (hne : key ≠ []) (hshows : b.Shows catalog i key)
    (hknown : key = t.primaryKey ∨ ∀ c ∈ key, t.IsNotNull c)
    (hothers : ∀ (j : Nat) name, j ≠ i → b.listed[j]? = some name → (contents name).length ≤ 1) :
    (b.rows catalog contents).Nodup := by
  have hlists : ∀ rows ∈ b.listed.map contents, rows.Nodup := by
    intro rows hrows
    obtain ⟨name, hmem, rfl⟩ := List.mem_map.1 hrows
    obtain ⟨j, hj⟩ := List.mem_iff_getElem?.1 hmem
    by_cases hji : j = i
    · obtain rfl : t.name = name := Option.some.inj (hi.symm.trans (hji ▸ hj))
      exact hholds.nodup hkey hne hknown
    · exact nodup_of_length_le_one (hothers j name hji hj)
  refine List.Nodup.map_on (fun x hx y hy heq => ?_) (nodup_sections hlists)
  refine eq_of_rows hx hy fun j name hj => ?_
  by_cases hji : j = i
  · subst hji
    refine eq_of_project_eq hholds hi hkey hne hshows hx hy heq ?_
    refine hknown.imp_right fun hnotNull r hxj => ?_
    obtain ⟨r', hr', hxj'⟩ := exists_row hx hi
    obtain rfl : r' = r := Option.some.inj (hxj'.symm.trans hxj)
    exact hholds.known hnotNull hr'
  · obtain ⟨r, hr, hxj⟩ := exists_row hx hj
    obtain ⟨r', hr', hyj⟩ := exists_row hy hj
    rw [hxj, hyj, eq_of_length_le_one (hothers j name hji hj) hr hr']

/-- What a block shows tells which row of a table was taken, by a key of the table. -/
structure TellsRow (catalog : Catalog) (b : Block) (i : Nat) (t : Table) (key : List String)
    (contents : Contents α) : Prop where
  /-- Combinations that are shown alike have the same row of the table, unless the key is a unique one and
  has a `NULL` in that row. -/
  same : ∀ x ∈ b.combinations contents, ∀ y ∈ b.combinations contents,
    b.project catalog x = b.project catalog y →
      (key = t.primaryKey ∨ ∀ r, x[i]? = some r → r.Known key) → x[i]? = y[i]?
  /-- No row is shown twice if the key has no `NULL` and no other table has two rows. -/
  nodup : (key = t.primaryKey ∨ ∀ c ∈ key, t.IsNotNull c) →
    (∀ (j : Nat) name, j ≠ i → b.listed[j]? = some name → (contents name).length ≤ 1) →
      (b.rows catalog contents).Nodup

end Combinations

end Block

/-! ## 3. Which table a column is credited to -/

/-- A qualifier is taken for the name of the table that it calls, if no label is the name of another table. -/
theorem ownerOf_qualifier {b : Block} (hdistinct : (b.tables.map TableRef.qualifier).Nodup)
    (hlabels : b.LabelsApart) {ref : TableRef} (href : ref ∈ b.tables) :
    ownerOf b.tables (some ref.qualifier) = some ref.name := by
  have hcalled : ref.isCalled ref.qualifier = true := by
    cases hlabel : ref.label <;> simp [TableRef.isCalled, TableRef.qualifier, hlabel]
  have hfound : (b.tables.find? (·.isCalled ref.qualifier)).isSome :=
    List.find?_isSome.2 ⟨ref, href, hcalled⟩
  obtain ⟨s, hs⟩ := Option.isSome_iff_exists.1 hfound
  have hmem : s ∈ b.tables := List.mem_of_find?_eq_some hs
  have hname : s.name = ref.name := by
    have hsame : s.label = some ref.qualifier ∨ s.name = ref.qualifier := by
      simpa [TableRef.isCalled] using List.find?_some hs
    rcases hsame with hlabel | hown
    · have hqualifier : s.qualifier = ref.qualifier := by simp [TableRef.qualifier, hlabel]
      rw [List.inj_on_of_nodup_map hdistinct hmem href hqualifier]
    · cases hlabel : ref.label with
      | none => rw [hown, TableRef.qualifier, hlabel, Option.getD_none]
      | some q =>
        have hq : ref.label = some s.name := by rw [hown, TableRef.qualifier, hlabel, Option.getD_some]
        exact (hlabels ref href s hmem hq).symm
  rw [ownerOf, hs]
  exact congrArg some hname

namespace QueryConstraint

variable {catalog : Catalog} {b : Block}

/-- A shown column is credited to the table that it is a column of. -/
theorem selectedBy_of_shown? (hb : b.IsProduct catalog) (hlabels : b.LabelsApart)
    {item : SelectItem} {i : Nat} {c : String} (h : b.shown? catalog item = some (i, c)) :
    ∃ ref, b.tables[i]? = some ref ∧
      selectedBy catalog b (outputColumn b.tables item) = [⟨some ref.name, some c⟩] := by
  obtain ⟨e, label, ref, rfl, hc, hi, hfilter⟩ := Block.exists_of_shown? h
  refine ⟨ref, hi, ?_⟩
  have hmem : ref ∈ b.tables.filter (·.offers catalog e.qualifier? c) := hfilter ▸ List.mem_singleton.2 rfl
  obtain ⟨href, hoffers⟩ := List.mem_filter.1 hmem
  have htable : (ownerOf b.tables e.qualifier? <|> onlyOwner catalog b c) = some ref.name := by
    cases hq : e.qualifier? with
    | some q =>
      have hcalls : q = ref.qualifier := by
        simp only [TableRef.offers, hq, Option.all_some, Bool.and_eq_true, beq_iff_eq] at hoffers
        exact hoffers.1
      rw [hcalls, ownerOf_qualifier hb.qualifiers hlabels href]
      rfl
    | none =>
      simp only [hq, TableRef.offers, Option.all_none, Bool.true_and] at hfilter
      have honly : onlyOwner catalog b c = some ref.name := by rw [onlyOwner, hfilter]
      cases hone : b.tables with
      | nil => simp [hone] at href
      | cons t ts =>
        cases ts with
        | nil =>
          rw [hone, List.mem_singleton] at href
          rw [href]
          rfl
        | cons => exact honly
  simp [selectedBy, outputColumn, hc, htable]

/-- A selected column of a table is shown by an entry of the `SELECT` list. -/
theorem exists_shown_of_selected (hb : b.IsProduct catalog) (hlabels : b.LabelsApart)
    {name c : String} (h : ⟨some name, some c⟩ ∈ selectedColumnsOf catalog b) :
    ∃ item ∈ b.select.projection, ∃ i, b.shown? catalog item = some (i, c) ∧
      b.listed[i]? = some name := by
  obtain ⟨output, houtput, hselected⟩ := List.mem_flatMap.1 h
  obtain ⟨item, hitem, rfl⟩ := List.mem_map.1 houtput
  obtain ⟨⟨i, c'⟩, hshown⟩ := Option.isSome_iff_exists.1 (hb.projection item hitem)
  obtain ⟨ref, hi, hby⟩ := selectedBy_of_shown? hb hlabels hshown
  rw [hby, List.mem_singleton, SelectedColumn.mk.injEq, Option.some.injEq, Option.some.injEq] at hselected
  obtain ⟨rfl, rfl⟩ := hselected
  exact ⟨item, hitem, i, hshown, by rw [Block.listed, List.getElem?_map, hi, Option.map_some]⟩

/-- Where rows are said to be unique, all columns of a key of some table are shown. -/
theorem exists_key_of_guaranteesUnique (hb : b.IsProduct catalog) (hlabels : b.LabelsApart)
    (h : guaranteesUnique catalog false b = true) :
    ∃ t ∈ catalog.tables, ∃ key ∈ t.candidateKeys, key ≠ [] ∧
      ∀ c ∈ key, ∃ item ∈ b.select.projection, ∃ i, b.shown? catalog item = some (i, c) ∧
        b.listed[i]? = some t.name := by
  have hkey : selectsKey catalog b = true := by
    simpa [guaranteesUnique, hb.hasGroupBy, hb.aggregateCalls] using h
  obtain ⟨ref, href, hkey⟩ := List.any_eq_true.1 hkey
  obtain ⟨t, ht, -⟩ := Option.map_eq_some_iff.1 (hb.known ref href)
  simp only [ht] at hkey
  obtain ⟨key, hcandidate, hall⟩ := List.any_eq_true.1 hkey
  obtain ⟨hne, hall⟩ := Bool.and_eq_true_iff.1 hall
  refine ⟨t, Catalog.mem_tables_of_table? ht, key, hcandidate, by simpa using hne, fun c hc => ?_⟩
  have hselected := List.all_eq_true.1 hall c hc
  rw [List.contains_iff_mem, List.mem_filterMap] at hselected
  obtain ⟨⟨table, column⟩, hmem, hcolumn⟩ := hselected
  obtain ⟨hmem, htable⟩ := List.mem_filter.1 hmem
  obtain rfl : column = some c := hcolumn
  obtain rfl : table = some t.name := by simpa using htable
  exact exists_shown_of_selected hb hlabels hmem

/-! ## 4. Tables of numbers and of addresses -/

/-- A table of numbers. -/
def numberTable (name : String) : Table :=
  ⟨name, [⟨"id", "INT", false, true, false, false⟩], ["id"], [], []⟩

theorem holds_numberTable {name : String} {rows : List (Row α)}
    (hdistinct : rows.Pairwise fun r r' => r "id" ≠ r' "id") (hnotNull : ∀ r ∈ rows, r "id" ≠ none) :
    (numberTable name).Holds rows where
  primaryKey _ := hdistinct.imp fun hne hagree => hne (hagree "id" List.mem_cons_self)
  uniqueKeys _ hkey := by cases hkey
  notNull c hc r hr := by
    obtain ⟨column, hcolumn, rfl, -⟩ := hc
    rw [List.mem_singleton.1 hcolumn]
    exact hnotNull r hr

/-- A table of addresses, which can be missing. -/
def addressTable (name : String) : Table :=
  ⟨name, [⟨"email", "TEXT", true, false, true, false⟩], [], [["email"]], []⟩

theorem holds_addressTable {name : String} {rows : List (Row α)}
    (hdistinct : rows.Pairwise fun r r' => r "email" = r' "email" → r "email" = none) :
    (addressTable name).Holds rows where
  primaryKey hne := absurd rfl hne
  uniqueKeys key hkey _ := by
    obtain rfl : key = ["email"] := List.mem_singleton.1 hkey
    exact hdistinct.imp fun hnull hsame =>
      hsame.2 "email" List.mem_cons_self (hnull (hsame.1 "email" List.mem_cons_self))
  notNull c hc := by
    obtain ⟨column, hcolumn, -, hnullable⟩ := hc
    rw [List.mem_singleton.1 hcolumn] at hnullable
    cases hnullable

/-- `SELECT table.column FROM names` -/
def listing (table column : String) (names : List String) : Block where
  select := ⟨none, none, [.expr (.column [⟨table, none⟩, ⟨column, none⟩]) none], none,
    names.map fun n => .ofTable [⟨n, none⟩] none, [], none, false, [], [], [], [], none, [], none⟩
  orderBy := []
  depth := 1
  parent := none

theorem isProduct_listing {catalog : Catalog} {table column : String} {names : List String}
    (hknown : ∀ ref ∈ (listing table column names).tables,
      (catalog.table? ref.name).map Table.name = some ref.name)
    (hdistinct : ((listing table column names).tables.map TableRef.qualifier).Nodup)
    (hshown : ∀ item ∈ (listing table column names).select.projection,
      ((listing table column names).shown? catalog item).isSome) :
    (listing table column names).IsProduct catalog where
  isDistinct := rfl
  hasGroupBy := rfl
  aggregateCalls := rfl
  selection := rfl
  sources i hi := by
    obtain ⟨n, -, rfl⟩ := List.mem_map.1 hi
    exact ⟨[⟨n, none⟩], none, rfl⟩
  known := hknown
  qualifiers := hdistinct
  projection := hshown

/-- Tables `a` and `b` of numbers. -/
def numbers : Catalog := (Catalog.empty.insert (numberTable "a")).insert (numberTable "b")

/-- One number in `a`, two in all other tables. -/
def fewNumbers : Contents Nat := fun name =>
  if name = "a" then [fun _ => some 1] else [fun _ => some 1, fun _ => some 2]

theorem tables_numbers : numbers.tables = [numberTable "a", numberTable "b"] := rfl

theorem holds_fewNumbers : numbers.Holds fewNumbers := by
  intro t ht
  rw [tables_numbers] at ht
  simp only [List.mem_cons, List.not_mem_nil, or_false] at ht
  rcases ht with rfl | rfl
  · exact holds_numberTable (List.pairwise_singleton ..) (by simp [fewNumbers, numberTable])
  · exact holds_numberTable (by simp [fewNumbers, numberTable]) (by simp [fewNumbers, numberTable])

/-- A table `c` of addresses. -/
def addresses : Catalog := Catalog.empty.insert (addressTable "c")

/-- Two missing addresses. -/
def noAddresses : Contents Nat := fun _ => [fun _ => none, fun _ => none]

theorem holds_noAddresses : addresses.Holds noAddresses := by
  have htables : addresses.tables = [addressTable "c"] := rfl
  intro t ht
  obtain rfl : t = addressTable "c" := List.mem_singleton.1 (htables ▸ ht)
  exact holds_addressTable (by simp [noAddresses])

/-! ## 5. What a guarantee of unique rows tells -/

/-- **A guarantee of unique rows tells the rows of one table apart.** All columns of a key of some listed
table are shown. If the table is listed once, or the key is one column, then combinations that are shown
alike have the same row of that table, unless a unique key has a `NULL` in it. So no row is shown twice if
the key is the primary key, or without `NULL`, and no other table has two rows; in particular if there is no
other table. Labels that are names of other listed tables are left aside. -/
theorem determined_of_guaranteesUnique (hb : b.IsProduct catalog) (hlabels : b.LabelsApart)
    (h : guaranteesUnique catalog false b = true) :
    ∃ t ∈ catalog.tables, ∃ key ∈ t.candidateKeys, key ≠ [] ∧
      (∀ c ∈ key, ∃ item ∈ b.select.projection, ∃ i, b.shown? catalog item = some (i, c) ∧
        b.listed[i]? = some t.name) ∧
      (¬b.listed.Duplicate t.name ∨ key.length = 1 →
        ∃ i : Nat, b.listed[i]? = some t.name ∧ b.Shows catalog i key ∧
          ∀ (α : Type) (contents : Contents α), catalog.Holds contents →
            b.TellsRow catalog i t key contents) := by
  obtain ⟨t, ht, key, hkey, hne, hshown⟩ := exists_key_of_guaranteesUnique hb hlabels h
  refine ⟨t, ht, key, hkey, hne, hshown, fun hone => ?_⟩
  obtain ⟨i, hi, hshows⟩ := Block.exists_shows hne hshown hone
  refine ⟨i, hi, hshows, fun α contents hholds => ⟨?same, ?nodup⟩⟩
  case same =>
    intro x hx y hy heq hknown
    exact Block.eq_of_project_eq (hholds t ht) hi hkey hne hshows hx hy heq hknown
  case nodup => exact Block.nodup_rows (hholds t ht) hi hkey hne hshows

/-- `SELECT b.id FROM a, b` shows no number twice, since `a` has one row. -/
theorem determined_numbers :
    (listing "b" "id" ["a", "b"]).IsProduct numbers ∧ numbers.Holds fewNumbers ∧
      guaranteesUnique numbers false (listing "b" "id" ["a", "b"]) = true ∧
      ((listing "b" "id" ["a", "b"]).rows numbers fewNumbers).length = 2 ∧
      ((listing "b" "id" ["a", "b"]).rows numbers fewNumbers).Nodup := by
  have hproduct : (listing "b" "id" ["a", "b"]).IsProduct numbers := by
    refine isProduct_listing ?_ ?_ ?_
    all_goals decide +kernel
  have hunique : guaranteesUnique numbers false (listing "b" "id" ["a", "b"]) = true := by
    decide +kernel
  have hlabels : (listing "b" "id" ["a", "b"]).LabelsApart := by decide +kernel
  have hlisted : (listing "b" "id" ["a", "b"]).listed = ["a", "b"] := by decide +kernel
  have hshown : ∀ item ∈ (listing "b" "id" ["a", "b"]).select.projection,
      (listing "b" "id" ["a", "b"]).shown? numbers item = some (1, "id") := by
    decide +kernel
  have hlength : ((listing "b" "id" ["a", "b"]).rows numbers fewNumbers).length = 2 := by decide +kernel
  obtain ⟨t, ht, key, hkey, hne, -, hdetermined⟩ := determined_of_guaranteesUnique hproduct hlabels hunique
  have hprimary : key = t.primaryKey := by
    rw [tables_numbers] at ht
    simp only [List.mem_cons, List.not_mem_nil, or_false] at ht
    rcases ht with rfl | rfl <;> exact List.mem_singleton.1 hkey
  have honce : ¬(listing "b" "id" ["a", "b"]).listed.Duplicate t.name := by
    rw [hlisted]
    exact List.nodup_iff_forall_not_duplicate.1 (by decide) t.name
  obtain ⟨i, -, hshows, hrows⟩ := hdetermined (.inl honce)
  have htells := hrows Nat fewNumbers holds_fewNumbers
  refine ⟨hproduct, holds_fewNumbers, hunique, hlength, htells.nodup (.inl hprimary) fun j name hji hj => ?_⟩
  -- the key is shown from the second place, so the other place is that of `a`
  obtain ⟨c, hc⟩ := List.exists_mem_of_ne_nil key hne
  obtain ⟨item, hitem, hc⟩ := hshows c hc
  obtain ⟨rfl, -⟩ := Prod.mk.inj (Option.some.inj ((hshown item hitem).symm.trans hc))
  rw [hlisted] at hj
  rcases j with _ | _ | j
  · obtain rfl : "a" = name := Option.some.inj hj
    decide
  · exact absurd rfl hji
  · cases hj

/-- `SELECT a.id FROM a, b` shows the primary key of `a` once for each row of `b`, and `SELECT c.email FROM c`
shows each missing address. -/
theorem repeated_with_key :
    ((listing "a" "id" ["a", "b"]).IsProduct numbers ∧ numbers.Holds fewNumbers ∧
      guaranteesUnique numbers false (listing "a" "id" ["a", "b"]) = true ∧
      (listing "a" "id" ["a", "b"]).rows numbers fewNumbers = [[some 1], [some 1]]) ∧
    (listing "c" "email" ["c"]).IsProduct addresses ∧ addresses.Holds noAddresses ∧
      guaranteesUnique addresses false (listing "c" "email" ["c"]) = true ∧
      (listing "c" "email" ["c"]).rows addresses noAddresses = [[none], [none]] := by
  refine ⟨⟨isProduct_listing ?_ ?_ ?_, holds_fewNumbers, ?_, ?_⟩,
    isProduct_listing ?_ ?_ ?_, holds_noAddresses, ?_, ?_⟩
  all_goals decide +kernel

end QueryConstraint

end QueryDrill
