import QueryDrill.Proofs.Constraint.Uniqueness
import QueryDrill.Proofs.Fallible
import QueryDrill.Proofs.Text.Case
/-!
Through which tables of `FROM` a block selects a key.

An output column comes from one place in `FROM`: from the table that its qualifier calls, or from the only one
that it can be a column of; a wildcard stands for the columns of its tables. A key tells rows apart where all
its columns come from one place (`Block.OutputsKey`). The check asks less. It credits columns to the names of
tables, so that columns from several places of one table make up a key (`Block.PoolsKey`). The two readings
can differ only on a table that is listed twice and has a key of more than one column
(`QueryConstraint.guaranteesUnique_iff_poolsKey`), and there they do
(`QueryConstraint.repeated_with_pooled_key`).
-/

namespace QueryDrill

open Sql Text

/-! ## 1. Names of tables -/

theorem Sql.Name.lower_key (n : Name) : lower n.key = n.key := by
  unfold Name.key
  cases n.getLast? with
  | none => rfl
  | some i => exact lower_lower i.value

mutual

theorem lower_name_sourceTables (s : TableFactor) : ∀ ref ∈ sourceTables s, lower ref.name = ref.name := by
  cases s with
  | table name =>
    intro ref href
    rw [sourceTables, List.mem_singleton] at href
    exact href ▸ name.lower_key
  | joined item => exact lower_name_itemTables item
  | derived | computed | turned => simp [sourceTables]

theorem lower_name_itemTables (i : FromItem) : ∀ ref ∈ itemTables i, lower ref.name = ref.name := by
  cases i with
  | mk relation joins =>
    intro ref href
    rw [itemTables, List.mem_append] at href
    exact href.elim (lower_name_sourceTables relation ref) (lower_name_joinedTables joins ref)

theorem lower_name_joinedTables (js : List Join) : ∀ ref ∈ joinedTables js, lower ref.name = ref.name := by
  match js with
  | [] => simp [joinedTables]
  | ⟨relation, _, _⟩ :: js =>
    intro ref href
    rw [joinedTables, List.mem_append] at href
    exact href.elim (lower_name_sourceTables relation ref) (lower_name_joinedTables js ref)

end

/-- The tables of a block are known by names in lower case. -/
theorem Block.lower_name {b : Block} {ref : TableRef} (h : ref ∈ b.tables) : lower ref.name = ref.name := by
  obtain ⟨item, -, hitem⟩ := List.mem_flatMap.1 h
  exact lower_name_itemTables item ref hitem

namespace Catalog

/-- Tables are found by their own names. -/
def IsNamed (catalog : Catalog) : Prop := ∀ e ∈ catalog.byName.entries, e.2.name = e.1

theorem isNamed_empty : empty.IsNamed := fun _ he => by cases he

theorem IsNamed.insert {catalog : Catalog} (h : catalog.IsNamed) (t : Table) :
    (catalog.insert t).IsNamed := by
  intro e he
  rcases eq_or_mem_of_mem_putEntry he with rfl | he
  · rfl
  · exact h e he

theorem IsNamed.name_eq {catalog : Catalog} (h : catalog.IsNamed) {name : String} {t : Table}
    (ht : catalog.table? name = some t) : t.name = lower name := by
  obtain ⟨es₁, es₂, hentries, -⟩ := List.lookup_eq_some_iff.1 ht
  exact h (lower name, t) (hentries ▸ by simp)

theorem IsNamed.afterText {d : Dialect} {catalog catalog' : Catalog} {text : String}
    (h : catalog.IsNamed) (htext : catalog.afterText d text = .ok catalog') : catalog'.IsNamed := by
  obtain ⟨statements, -, hstatements⟩ := bind_eq_ok_iff.1 htext
  refine of_foldlM_eq_ok (fun catalog statement catalog' h hstep => ?_) h hstatements
  unfold afterStatement at hstep
  split at hstep
  · exact Except.ok.inj hstep ▸ h.insert _
  · cases hstep

/-- Every catalog that is read from texts finds its tables by their own names. -/
theorem isNamed_ofTexts {d : Dialect} {texts : List String} {catalog : Catalog}
    (h : ofTexts d texts = .ok catalog) : catalog.IsNamed :=
  of_foldlM_eq_ok (fun _ _ _ hcatalog htext => hcatalog.afterText htext) isNamed_empty h

end Catalog

/-! ## 2. Where an output column comes from -/

/-- Whether a listed table is known to have a column. -/
def TableRef.hasColumn (catalog : Catalog) (column : String) (t : TableRef) : Bool :=
  (catalog.table? t.name).any (·.hasColumn column)

namespace Block

/-- The place in `FROM` of the table that a qualifier calls: the first one with that label or that name. -/
def placeOf? (b : Block) (qualifier : String) : Option Nat := b.tables.findIdx? (·.isCalled qualifier)

/-- A column refers to the table at a place in `FROM`. With a qualifier, that calls the table. Without, it is a
column of that table, or there is no other table, and it is a column of no other table. -/
def RefersTo (catalog : Catalog) (b : Block) (i : Nat) (column : String) : Option String → Prop
  | some q => b.placeOf? q = some i
  | none => (b.tables.length = 1 ∨ b.tables[i]?.any (·.hasColumn catalog column)) ∧
    ∀ ref ∈ b.tables.eraseIdx i, ¬ref.hasColumn catalog column

/-- An entry of the `SELECT` list outputs a column of a table through a place in `FROM`: as a reference to that
place, by `*`, or by the wildcard of that place. -/
def Outputs (catalog : Catalog) (b : Block) (i : Nat) (t : Table) (column : String) : SelectItem → Prop
  | .expr e _ => e.column? = some column ∧ b.RefersTo catalog i column e.qualifier?
  | .wildcard [] _ => column ∈ t.columnNames
  | .wildcard name _ => b.placeOf? name.key = some i ∧ column ∈ t.columnNames

/-- A block outputs all columns of a key of a listed table through one place in `FROM`. -/
def OutputsKey (catalog : Catalog) (b : Block) : Prop :=
  ∃ i ref t, b.tables[i]? = some ref ∧ catalog.table? ref.name = some t ∧
    ∃ key ∈ t.candidateKeys, key ≠ [] ∧
      ∀ c ∈ key, ∃ item ∈ b.select.projection, b.Outputs catalog i t c item

/-- A block outputs all columns of a key of a listed table, each through some place of that table. -/
def PoolsKey (catalog : Catalog) (b : Block) : Prop :=
  ∃ ref ∈ b.tables, ∃ t, catalog.table? ref.name = some t ∧
    ∃ key ∈ t.candidateKeys, key ≠ [] ∧
      ∀ c ∈ key, ∃ i, b.listed[i]? = some ref.name ∧
        ∃ item ∈ b.select.projection, b.Outputs catalog i t c item

variable {catalog : Catalog} {b : Block}

/-- A key from one place is a key from the places of its table. -/
theorem OutputsKey.poolsKey (h : b.OutputsKey catalog) : b.PoolsKey catalog := by
  obtain ⟨i, ref, t, hi, ht, key, hkey, hne, hall⟩ := h
  refine ⟨ref, List.mem_of_getElem? hi, t, ht, key, hkey, hne, fun c hc => ⟨i, ?_, hall c hc⟩⟩
  rw [listed, List.getElem?_map, hi, Option.map_some]

/-- If keys of several columns are those of tables that are listed once, a key from the places of its table is
from one place. -/
theorem PoolsKey.outputsKey (h : b.PoolsKey catalog)
    (hone : ∀ t ∈ catalog.tables, ∀ key ∈ t.candidateKeys, key.length = 1 ∨ ¬b.listed.Duplicate t.name)
    (hcatalog : catalog.IsNamed) : b.OutputsKey catalog := by
  obtain ⟨ref, href, t, ht, key, hkey, hne, hall⟩ := h
  have hname : t.name = ref.name := (hcatalog.name_eq ht).trans (lower_name href)
  have hplace : ∀ i : Nat, b.listed[i]? = some ref.name → ∃ ref', b.tables[i]? = some ref' ∧
      catalog.table? ref'.name = some t := by
    intro i hi
    rw [listed, List.getElem?_map] at hi
    obtain ⟨ref', hi, hsame⟩ := Option.map_eq_some_iff.1 hi
    exact ⟨ref', hi, hsame ▸ ht⟩
  obtain ⟨c₀, hc₀⟩ := List.exists_mem_of_ne_nil key hne
  obtain ⟨i, hi, houtputs⟩ := hall c₀ hc₀
  obtain ⟨ref', href', ht'⟩ := hplace i hi
  refine ⟨i, ref', t, href', ht', key, hkey, hne, fun c hc => ?_⟩
  rcases hone t (Catalog.mem_tables_of_table? ht) key hkey with hsingle | honce
  · obtain ⟨c₁, rfl⟩ := List.length_eq_one_iff.1 hsingle
    rw [List.mem_singleton] at hc hc₀
    exact hc.trans hc₀.symm ▸ houtputs
  · obtain ⟨j, hj, houtputs⟩ := hall c hc
    exact eq_of_not_duplicate (hname ▸ honce) hj hi ▸ houtputs

end Block

/-! ## 3. What the check credits to a table -/

/-- One entry of a list passes a test if there is a place where the test is passed and nowhere else. -/
theorem filter_eq_singleton_iff {β : Type} {p : β → Bool} {l : List β} {x : β} :
    l.filter p = [x] ↔ ∃ i : Nat, l[i]? = some x ∧ p x ∧ ∀ y ∈ l.eraseIdx i, ¬p y := by
  induction l with
  | nil => simp
  | cons y l ih =>
    by_cases hy : p y
    · rw [List.filter_cons_of_pos hy, List.cons.injEq, List.filter_eq_nil_iff]
      constructor
      · rintro ⟨rfl, hl⟩
        exact ⟨0, rfl, hy, hl⟩
      · rintro ⟨i, hi, -, hothers⟩
        cases i with
        | zero => exact ⟨Option.some.inj hi, hothers⟩
        | succ i => exact absurd hy (hothers y List.mem_cons_self)
    · rw [List.filter_cons_of_neg hy, ih]
      constructor
      · rintro ⟨i, hi, hx, hothers⟩
        refine ⟨i + 1, hi, hx, fun z hz => ?_⟩
        rcases List.mem_cons.1 hz with rfl | hz
        · exact hy
        · exact hothers z hz
      · rintro ⟨i, hi, hx, hothers⟩
        cases i with
        | zero => exact absurd (Option.some.inj hi ▸ hx) hy
        | succ i => exact ⟨i, hi, hx, fun z hz => hothers z (List.mem_cons_of_mem _ hz)⟩

namespace QueryConstraint

variable {catalog : Catalog} {b : Block}

variable {ref : TableRef} {t : Table} {name c q : String}

theorem ownerOf_some (b : Block) (q : String) :
    ownerOf b.tables (some q) = match (b.placeOf? q).bind (b.tables[·]?) with
      | some t => some t.name
      | none => some q := by
  rw [ownerOf, List.find?_eq_bind_findIdx?_getElem?]
  rfl

/-- A qualifier is taken for the name of a listed table or for itself. -/
theorem exists_ownerOf (b : Block) (q : String) :
    ∃ n, ownerOf b.tables (some q) = some n ∧ (n = q ∨ ∃ ref ∈ b.tables, ref.name = n) := by
  rw [ownerOf]
  cases hfind : b.tables.find? (·.isCalled q) with
  | none => exact ⟨q, rfl, .inl rfl⟩
  | some t => exact ⟨t.name, rfl, .inr ⟨t, List.mem_of_find?_eq_some hfind, rfl⟩⟩

/-- A qualifier is taken for the name of the table that it calls. If it calls none, it is itself no name of a
listed table. -/
theorem ownerOf_some_eq_iff (hname : name ∈ b.listed) :
    ownerOf b.tables (some q) = some name ↔
      ∃ i : Nat, b.listed[i]? = some name ∧ b.placeOf? q = some i := by
  rw [ownerOf_some]
  cases hplace : b.placeOf? q with
  | none =>
    refine iff_of_false (fun h => ?_) (by simp)
    obtain ⟨ref, href, rfl⟩ := List.mem_map.1 hname
    have hcalled := List.findIdx?_eq_none_iff.1 hplace ref href
    simp [TableRef.isCalled, Option.some.inj h] at hcalled
  | some i =>
    obtain ⟨hi, -⟩ := List.findIdx?_eq_some_iff_getElem.1 hplace
    simp [Block.listed, List.getElem?_eq_getElem hi]

theorem onlyOwner_eq_some_iff :
    onlyOwner catalog b c = some name ↔
      ∃ ref, b.tables.filter (·.hasColumn catalog c) = [ref] ∧ ref.name = name := by
  unfold onlyOwner
  split
  · rename_i ref hfilter
    have hfilter : b.tables.filter (·.hasColumn catalog c) = [ref] := hfilter
    simp [hfilter]
  · rename_i hother
    refine iff_of_false nofun ?_
    rintro ⟨ref, hfilter, -⟩
    exact hother ref hfilter

/-- A column without qualifier is taken for one of the only table, or of the only one that has it. -/
theorem ownerOf_none_eq_iff :
    (ownerOf b.tables none <|> onlyOwner catalog b c) = some name ↔
      ∃ i : Nat, b.listed[i]? = some name ∧ b.RefersTo catalog i c none := by
  have honly : onlyOwner catalog b c = some name ↔
      ∃ ref, b.tables.filter (·.hasColumn catalog c) = [ref] ∧ ref.name = name := onlyOwner_eq_some_iff
  unfold Block.RefersTo Block.listed
  rcases hts : b.tables with _ | ⟨t, _ | ⟨t', ts⟩⟩
  · rw [hts] at honly
    simpa [ownerOf] using honly
  · show some t.name = some name ↔ _
    constructor
    · intro h
      exact ⟨0, h, .inl rfl, by simp⟩
    · rintro ⟨i, hi, -⟩
      cases i with
      | zero => exact hi
      | succ i => simp at hi
  · show onlyOwner catalog b c = some name ↔ _
    rw [honly, hts]
    simp only [List.getElem?_map, Option.map_eq_some_iff]
    constructor
    · rintro ⟨ref, hfilter, hname⟩
      obtain ⟨i, hi, hhas, hothers⟩ := filter_eq_singleton_iff.1 hfilter
      exact ⟨i, ⟨ref, hi, hname⟩, .inr (hi ▸ hhas), hothers⟩
    · rintro ⟨i, ⟨ref, hi, hname⟩, hhas, hothers⟩
      have hhas : ref.hasColumn catalog c := by simpa [hi] using hhas
      exact ⟨ref, filter_eq_singleton_iff.2 ⟨i, hi, hhas, hothers⟩, hname⟩

/-- A column is taken for one of the table that it refers to. -/
theorem owner_eq_some_iff (hname : name ∈ b.listed) (qualifier : Option String) :
    (ownerOf b.tables qualifier <|> onlyOwner catalog b c) = some name ↔
      ∃ i : Nat, b.listed[i]? = some name ∧ b.RefersTo catalog i c qualifier := by
  cases qualifier with
  | none => exact ownerOf_none_eq_iff
  | some q =>
    obtain ⟨n, hn, -⟩ := exists_ownerOf b q
    have hdrop : (ownerOf b.tables (some q) <|> onlyOwner catalog b c) = ownerOf b.tables (some q) := by
      rw [hn]
      rfl
    rw [hdrop]
    exact ownerOf_some_eq_iff hname

/-- The columns of a wildcard are those of the table with its name. -/
theorem mem_columnsOf_iff (hcatalog : catalog.IsNamed) (ht : catalog.table? name = some t) {n : String}
    (hn : lower n = n) : ⟨some name, some c⟩ ∈ columnsOf catalog n ↔ n = name ∧ c ∈ t.columnNames := by
  rw [columnsOf]
  cases ht' : catalog.table? n with
  | none =>
    refine iff_of_false (by simp) fun h => ?_
    rw [h.1, ht] at ht'
    cases ht'
  | some t' =>
    have hname' : t'.name = n := (hcatalog.name_eq ht').trans hn
    simp only [List.mem_map, SelectedColumn.mk.injEq, Option.some.injEq, hname']
    constructor
    · rintro ⟨c', hc', rfl, rfl⟩
      exact ⟨rfl, Option.some.inj (ht'.symm.trans ht) ▸ hc'⟩
    · rintro ⟨rfl, hc⟩
      exact ⟨c, Option.some.inj (ht.symm.trans ht') ▸ hc, rfl, rfl⟩

/-- A column is credited to a listed table just if an entry of the `SELECT` list outputs it through some place of
that table. -/
theorem mem_selectedBy_iff (hcatalog : catalog.IsNamed) (href : ref ∈ b.tables)
    (ht : catalog.table? ref.name = some t) (item : SelectItem) :
    ⟨some ref.name, some c⟩ ∈ selectedBy catalog b (outputColumn b.tables item) ↔
      ∃ i : Nat, b.listed[i]? = some ref.name ∧ b.Outputs catalog i t c item := by
  have hlisted : ref.name ∈ b.listed := List.mem_map.2 ⟨ref, href, rfl⟩
  cases item with
  | expr e label =>
    cases hc : e.column? with
    | none => simp [selectedBy, outputColumn, Block.Outputs, hc]
    | some c' =>
      have hby : selectedBy catalog b (outputColumn b.tables (.expr e label)) =
          [⟨ownerOf b.tables e.qualifier? <|> onlyOwner catalog b c', some c'⟩] := by
        simp [selectedBy, outputColumn, hc]
      rw [hby, List.mem_singleton, SelectedColumn.mk.injEq, Option.some.injEq, eq_comm,
        owner_eq_some_iff hlisted]
      simp only [Block.Outputs, hc, Option.some.injEq]
      constructor
      · rintro ⟨⟨i, hi, hrefers⟩, rfl⟩
        exact ⟨i, hi, rfl, hrefers⟩
      · rintro ⟨i, hi, rfl, hrefers⟩
        exact ⟨⟨i, hi, hrefers⟩, rfl⟩
  | wildcard parts modifiers =>
    cases parts with
    | nil =>
      have hby : selectedBy catalog b (outputColumn b.tables (.wildcard [] modifiers)) =
          b.tables.flatMap fun t => columnsOf catalog t.name := by
        simp [selectedBy, outputColumn]
      obtain ⟨i, hi⟩ := List.mem_iff_getElem?.1 hlisted
      rw [hby, List.mem_flatMap]
      simp only [Block.Outputs]
      constructor
      · rintro ⟨ref', href', hmem⟩
        exact ⟨i, hi, ((mem_columnsOf_iff hcatalog ht (Block.lower_name href')).1 hmem).2⟩
      · rintro ⟨-, -, hc⟩
        exact ⟨ref, href, (mem_columnsOf_iff hcatalog ht (Block.lower_name href)).2 ⟨rfl, hc⟩⟩
    | cons part parts =>
      obtain ⟨n, hn, hlower⟩ := exists_ownerOf b (Name.key (part :: parts))
      have hlower : lower n = n := by
        rcases hlower with rfl | ⟨ref', href', rfl⟩
        · exact Name.lower_key _
        · exact Block.lower_name href'
      have hby : selectedBy catalog b (outputColumn b.tables (.wildcard (part :: parts) modifiers)) =
          columnsOf catalog n := by
        simp [selectedBy, outputColumn, hn]
      rw [hby, mem_columnsOf_iff hcatalog ht hlower, ← Option.some_inj, ← hn, ownerOf_some_eq_iff hlisted]
      simp only [Block.Outputs]
      constructor
      · rintro ⟨⟨i, hi, hplace⟩, hc⟩
        exact ⟨i, hi, hplace, hc⟩
      · rintro ⟨i, hi, hplace, hc⟩
        exact ⟨⟨i, hi, hplace⟩, hc⟩

/-- A column is selected of a listed table just if it is output through some place of that table. -/
theorem mem_selectedColumnsOf_iff (hcatalog : catalog.IsNamed) (href : ref ∈ b.tables)
    (ht : catalog.table? ref.name = some t) :
    ⟨some ref.name, some c⟩ ∈ selectedColumnsOf catalog b ↔ ∃ i : Nat, b.listed[i]? = some ref.name ∧
      ∃ item ∈ b.select.projection, b.Outputs catalog i t c item := by
  rw [selectedColumnsOf, Block.outputColumns, List.flatMap_map, List.mem_flatMap]
  simp only [mem_selectedBy_iff hcatalog href ht]
  constructor
  · rintro ⟨item, hitem, i, hi, houtputs⟩
    exact ⟨i, hi, item, hitem, houtputs⟩
  · rintro ⟨i, hi, item, hitem, houtputs⟩
    exact ⟨item, hitem, i, hi, houtputs⟩

/-- The check asks for a key whose columns come from the places of its table. -/
theorem selectsKey_iff (hcatalog : catalog.IsNamed) : selectsKey catalog b = true ↔ b.PoolsKey catalog := by
  unfold selectsKey Block.PoolsKey
  simp only [List.any_eq_true]
  refine exists_congr fun ref => and_congr_right fun href => ?_
  cases ht : catalog.table? ref.name with
  | none => simp
  | some t =>
    have hname : t.name = ref.name := (hcatalog.name_eq ht).trans (Block.lower_name href)
    have hselected : ∀ c, c ∈ ((selectedColumnsOf catalog b).filter fun s => s.table == some t.name).filterMap
        SelectedColumn.column ↔ ⟨some ref.name, some c⟩ ∈ selectedColumnsOf catalog b := by
      intro c
      simp only [List.mem_filterMap, List.mem_filter, beq_iff_eq, hname]
      constructor
      · rintro ⟨⟨_, _⟩, ⟨hmem, rfl⟩, rfl⟩
        exact hmem
      · intro hmem
        exact ⟨_, ⟨hmem, rfl⟩, rfl⟩
    simp [hselected, mem_selectedColumnsOf_iff hcatalog href ht]

/-! ## 4. A table of pairs -/

/-- A table of pairs, told apart by both of their parts. -/
def pairTable : Table :=
  ⟨"t", [⟨"a", "INT", false, true, false, false⟩, ⟨"b", "INT", false, true, false, false⟩], ["a", "b"], [], []⟩

/-- A table `t` of pairs. -/
def pairs : Catalog := Catalog.empty.insert pairTable

theorem tables_pairs : pairs.tables = [pairTable] := rfl

/-- The pairs of 1 with 1 and with 2. -/
def twoPairs : Contents Nat := fun _ =>
  [fun _ => some 1, fun column => if column = "a" then some 1 else some 2]

theorem holds_twoPairs : pairs.Holds twoPairs := by
  intro t ht
  obtain rfl : t = pairTable := List.mem_singleton.1 (tables_pairs ▸ ht)
  constructor
  case primaryKey =>
    refine fun _ => List.pairwise_pair.2 fun hagree => ?_
    have hsame := hagree "b" (List.mem_cons_of_mem _ List.mem_cons_self)
    simp at hsame
  case uniqueKeys =>
    intro key hkey
    cases hkey
  case notNull =>
    intro c _ r hr
    simp only [twoPairs, List.mem_cons, List.not_mem_nil, or_false] at hr
    rcases hr with rfl | rfl
    · simp
    · dsimp only
      split <;> simp

/-- `SELECT first.a, second.b FROM t AS label, ..` -/
def pairing (first second : String) (labels : List String) : Block where
  select := ⟨none, none, [.expr (.column [⟨first, none⟩, ⟨"a", none⟩]) none,
    .expr (.column [⟨second, none⟩, ⟨"b", none⟩]) none], none,
    labels.map fun l => .ofTable [⟨"t", none⟩] (some ⟨l, none⟩), [], none, false, [], [], [], [], none, [], none⟩
  orderBy := []
  depth := 1
  parent := none

/-- A part of the pairs is output through the place that its qualifier calls. -/
theorem outputs_pairing {first second : String} {labels : List String} {i : Nat} {item : SelectItem}
    (hitem : item ∈ (pairing first second labels).select.projection)
    (h : (pairing first second labels).Outputs catalog i t c item) :
    c = "a" ∧ (pairing first second labels).placeOf? (lower first) = some i ∨
      c = "b" ∧ (pairing first second labels).placeOf? (lower second) = some i := by
  have hcolumns : lower "a" = "a" ∧ lower "b" = "b" := ⟨rfl, rfl⟩
  simp only [pairing, List.mem_cons, List.not_mem_nil, or_false] at hitem
  rcases hitem with rfl | rfl
  · exact .inl ⟨(Option.some.inj h.1).symm.trans hcolumns.1, h.2⟩
  · exact .inr ⟨(Option.some.inj h.1).symm.trans hcolumns.2, h.2⟩

/-! ## 5. When a key is selected -/

/-- **A block without `DISTINCT`, groups and aggregates passes as one with unique rows just if it outputs all
columns of a key, each through some place of the key's table.** A key that is output through one place is such
a key. It is all that passes where keys of several columns are those of tables that are listed once. -/
theorem guaranteesUnique_iff_poolsKey (hcatalog : catalog.IsNamed) {countsDistinct : Bool}
    (hdistinct : countsDistinct = false ∨ b.isDistinct = false) (hgroup : b.hasGroupBy = false)
    (haggregates : b.aggregateCalls = []) :
    (guaranteesUnique catalog countsDistinct b = true ↔ b.PoolsKey catalog) ∧
    (b.OutputsKey catalog → guaranteesUnique catalog countsDistinct b = true) ∧
    ((∀ t ∈ catalog.tables, ∀ key ∈ t.candidateKeys, key.length = 1 ∨ ¬b.listed.Duplicate t.name) →
      (guaranteesUnique catalog countsDistinct b = true ↔ b.OutputsKey catalog)) := by
  have hunique : guaranteesUnique catalog countsDistinct b = true ↔ b.PoolsKey catalog := by
    have hcounts : (countsDistinct && b.isDistinct) = false := Bool.and_eq_false_iff.2 hdistinct
    rw [guaranteesUnique, hcounts, hgroup, haggregates, ← selectsKey_iff hcatalog]
    simp
  refine ⟨hunique, fun h => hunique.2 h.poolsKey, fun hone => hunique.trans ⟨fun h => ?_, fun h => ?_⟩⟩
  · exact h.outputsKey hone hcatalog
  · exact h.poolsKey

/-- A table of pairs, as it is declared. -/
def createPairs : String := "CREATE TABLE t (a INT, b INT, PRIMARY KEY (a, b))"

/-- `SELECT x.a, x.b FROM t AS x` outputs the key of `t` through `x`. -/
theorem outputsKey_pairing :
    ∃ catalog, Catalog.ofTexts .postgres [createPairs] = .ok catalog ∧ catalog.IsNamed ∧
      (pairing "x" "x" ["x"]).isDistinct = false ∧ (pairing "x" "x" ["x"]).hasGroupBy = false ∧
      (pairing "x" "x" ["x"]).aggregateCalls = [] ∧
      (∀ t ∈ catalog.tables, ∀ key ∈ t.candidateKeys,
        key.length = 1 ∨ ¬(pairing "x" "x" ["x"]).listed.Duplicate t.name) ∧
      guaranteesUnique catalog true (pairing "x" "x" ["x"]) = true ∧
      (pairing "x" "x" ["x"]).OutputsKey catalog := by
  have hdistinct : (pairing "x" "x" ["x"]).isDistinct = false := rfl
  have hcounts : true = false ∨ (pairing "x" "x" ["x"]).isDistinct = false := .inr hdistinct
  have hgroup : (pairing "x" "x" ["x"]).hasGroupBy = false := rfl
  have haggregates : (pairing "x" "x" ["x"]).aggregateCalls = [] := rfl
  have hread : ((Catalog.ofTexts .postgres [createPairs]).map fun catalog =>
      guaranteesUnique catalog true (pairing "x" "x" ["x"])).toOption = some true := by
    decide +kernel
  obtain ⟨catalog, hcatalog, hunique⟩ := exists_of_map_toOption hread
  have hnamed : catalog.IsNamed := Catalog.isNamed_ofTexts hcatalog
  have hone : ∀ t ∈ catalog.tables, ∀ key ∈ t.candidateKeys,
      key.length = 1 ∨ ¬(pairing "x" "x" ["x"]).listed.Duplicate t.name :=
    fun t _ _ _ => .inr (List.not_duplicate_singleton t.name "t")
  obtain ⟨-, -, hiff⟩ := guaranteesUnique_iff_poolsKey hnamed hcounts hgroup haggregates
  exact ⟨catalog, hcatalog, hnamed, hdistinct, hgroup, haggregates, hone, hunique, (hiff hone).1 hunique⟩

/-- `SELECT x.a, y.b FROM t AS x, t AS y` passes, though neither `x` nor `y` outputs the key of `t` and rows
repeat. -/
theorem repeated_with_pooled_key :
    (pairing "x" "y" ["x", "y"]).IsProduct pairs ∧ pairs.Holds twoPairs ∧
      guaranteesUnique pairs false (pairing "x" "y" ["x", "y"]) = true ∧
      ¬(pairing "x" "y" ["x", "y"]).OutputsKey pairs ∧
      (pairing "x" "y" ["x", "y"]).rows pairs twoPairs =
        [[some 1, some 1], [some 1, some 1], [some 1, some 2], [some 1, some 2]] := by
  have hproduct : (pairing "x" "y" ["x", "y"]).IsProduct pairs := by
    refine ⟨rfl, rfl, ?_, rfl, fun item hitem => ?sources, ?_, ?_, ?_⟩
    case sources =>
      obtain ⟨l, -, rfl⟩ := List.mem_map.1 hitem
      exact ⟨_, _, rfl⟩
    all_goals decide
  refine ⟨hproduct, holds_twoPairs, rfl, ?_, rfl⟩
  rintro ⟨i, ref, t, -, ht, key, hkey, -, hall⟩
  obtain rfl : t = pairTable := List.mem_singleton.1 (tables_pairs ▸ Catalog.mem_tables_of_table? ht)
  obtain rfl : key = ["a", "b"] := List.mem_singleton.1 hkey
  -- `a` comes from the first place, `b` from the second
  have ha : (pairing "x" "y" ["x", "y"]).placeOf? (lower "x") = some i := by
    obtain ⟨item, hitem, houtputs⟩ := hall "a" List.mem_cons_self
    exact (outputs_pairing hitem houtputs).elim And.right fun h => absurd h.1 (by decide)
  have hb : (pairing "x" "y" ["x", "y"]).placeOf? (lower "y") = some i := by
    obtain ⟨item, hitem, houtputs⟩ := hall "b" (List.mem_cons_of_mem _ List.mem_cons_self)
    exact (outputs_pairing hitem houtputs).elim (fun h => absurd h.1 (by decide)) And.right
  have hplaces : (pairing "x" "y" ["x", "y"]).placeOf? (lower "x") ≠
      (pairing "x" "y" ["x", "y"]).placeOf? (lower "y") := by decide
  exact hplaces (ha.trans hb.symm)

end QueryConstraint

end QueryDrill
