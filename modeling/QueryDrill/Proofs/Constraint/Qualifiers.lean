import QueryDrill.Proofs.Constraint.KeySelection
/-!
Which table a qualifier is taken for.

By the scoping of `FROM`, a qualifier means the entry that has it as its label, and if there is none, the table
that has it as its name (`Block.meant?`). A block takes the first table that has it as a label or as a name. That
is another one where a table of that name masks the entry with that label (`Block.Masked`). And where no table is
meant, the qualifier itself is taken for a table, which the catalog may know. So columns are credited as scoping
says just where neither happens (`Block.resolvesByScope_iff`).
-/

namespace QueryDrill

open Sql Text

/-! ## 1. Entries of `FROM` -/

/-- What stands in `FROM` by itself: a table, or rows that come from elsewhere. -/
structure Entry where
  /-- The name of the table, in lower case. -/
  table : Option String
  /-- The label, in lower case. -/
  label : Option String
  deriving DecidableEq, Repr

/-- A label as qualifiers are compared with it. -/
def labelKey (label : Option TableAlias) : Option String := label.map fun a => lower a.name.value

mutual

/-- The entries that a source is made of. A join in parentheses is made of those that it joins. -/
def sourceEntries : TableFactor → List Entry
  | .table name _ _ label _ => [⟨some name.key, labelKey label⟩]
  | .derived _ _ label => [⟨none, labelKey label⟩]
  | .computed _ _ label _ => [⟨none, labelKey label⟩]
  | .turned _ _ _ label => [⟨none, labelKey label⟩]
  | .joined item _ => itemEntries item

/-- The entries that stand between two commas. -/
def itemEntries : FromItem → List Entry
  | ⟨relation, joins⟩ => sourceEntries relation ++ joinedEntries joins

/-- The entries of a chain of joins. -/
def joinedEntries : List Join → List Entry
  | [] => []
  | ⟨relation, _, _⟩ :: js => sourceEntries relation ++ joinedEntries js

end

/-- An entry as a block lists it, if it is a table. -/
def Entry.ref? (e : Entry) : Option TableRef := e.table.map fun name => ⟨name, e.label⟩

mutual

theorem filterMap_ref?_sourceEntries (s : TableFactor) :
    (sourceEntries s).filterMap Entry.ref? = sourceTables s := by
  cases s with
  | table | derived | computed | turned => rfl
  | joined item => exact filterMap_ref?_itemEntries item

theorem filterMap_ref?_itemEntries (i : FromItem) : (itemEntries i).filterMap Entry.ref? = itemTables i := by
  cases i with
  | mk relation joins =>
    rw [itemEntries, itemTables, List.filterMap_append, filterMap_ref?_sourceEntries relation,
      filterMap_ref?_joinedEntries joins]

theorem filterMap_ref?_joinedEntries (js : List Join) :
    (joinedEntries js).filterMap Entry.ref? = joinedTables js := by
  match js with
  | [] => rfl
  | ⟨relation, _, _⟩ :: js =>
    rw [joinedEntries, joinedTables, List.filterMap_append, filterMap_ref?_sourceEntries relation,
      filterMap_ref?_joinedEntries js]

end

namespace Block

/-- The entries of `FROM`, in order. -/
def entries (b : Block) : List Entry := b.select.sources.flatMap itemEntries

/-- The tables of a block are those among its entries. -/
theorem tables_eq (b : Block) : b.tables = b.entries.filterMap Entry.ref? := by
  rw [tables, entries, List.filterMap_flatMap]
  exact List.flatMap_congr fun item _ => (filterMap_ref?_itemEntries item).symm

/-! ## 2. What a qualifier means -/

/-- The table that a qualifier means: that of the entry with this label, or, if there is none, the table with
this name. -/
def meant? (b : Block) (q : String) : Option String :=
  match b.entries.find? (·.label == some q) with
  | some e => e.table
  | none => if b.entries.any (·.table == some q) then some q else none

/-- A table with a qualifier as its name comes before the entry with this label, or anywhere if that entry is no
table; and the entry is no table of that name itself. -/
def Masked (b : Block) (q : String) : Prop :=
  ∃ e ∈ b.entries, e.label = some q ∧ e.table ≠ some q ∧
    ((∃ x ∈ b.entries.takeWhile (·.label != some q), x.table = some q) ∨
      e.table = none ∧ ∃ x ∈ b.entries, x.table = some q)

instance (b : Block) (q : String) : Decidable (b.Masked q) := inferInstanceAs (Decidable (∃ _ ∈ _, _))

end Block

namespace Entry

variable {es before after : List Entry} {e : Entry} {q : String}

/-- The name of the first table among some entries that a qualifier calls. -/
def called? (es : List Entry) (q : String) : Option String :=
  ((es.filterMap ref?).find? (·.isCalled q)).map TableRef.name

theorem called?_append : called? (before ++ after) q = (called? before q).or (called? after q) := by
  rw [called?, List.filterMap_append, List.find?_append, Option.map_or]
  rfl

/-- An entry that is no table is passed over. -/
theorem called?_cons_of_none (h : e.table = none) : called? (e :: after) q = called? after q := by
  rw [called?, List.filterMap_cons_none (by rw [ref?, h, Option.map_none])]
  rfl

theorem called?_cons_of_some {t : String} (h : e.table = some t) :
    called? (e :: after) q = if e.label = some q ∨ t = q then some t else called? after q := by
  rw [called?, List.filterMap_cons_some (by rw [ref?, h, Option.map_some]), List.find?_cons]
  by_cases hcalled : e.label = some q ∨ t = q
  · have hyes : (⟨t, e.label⟩ : TableRef).isCalled q = true := by simpa [TableRef.isCalled] using hcalled
    rw [hyes, if_pos hcalled]
    rfl
  · have hno : (⟨t, e.label⟩ : TableRef).isCalled q = false := by simpa [TableRef.isCalled] using hcalled
    rw [hno, if_neg hcalled]
    rfl

/-- A qualifier that is no label calls the table with this name. -/
theorem called?_of_unlabelled (h : ∀ e ∈ es, e.label ≠ some q) :
    called? es q = if es.any (·.table == some q) then some q else none := by
  induction es with
  | nil => rfl
  | cons e es ih =>
    obtain ⟨he, hes⟩ := List.forall_mem_cons.1 h
    cases ht : e.table with
    | none => simp [called?_cons_of_none ht, ih hes, ht]
    | some t =>
      rw [called?_cons_of_some ht, ih hes]
      by_cases htq : t = q <;> simp [he, ht, htq]

/-- A qualifier that is one label calls a table with this name if that comes first. Otherwise it calls the entry
with the label, if this is a table. -/
theorem called?_of_labelled (hbefore : ∀ x ∈ before, x.label ≠ some q) (he : e.label = some q)
    (hafter : ∀ x ∈ after, x.label ≠ some q) : called? (before ++ e :: after) q =
      if before.any (·.table == some q) || e.table.isNone && after.any (·.table == some q) then some q
      else e.table := by
  rw [called?_append, called?_of_unlabelled hbefore]
  cases hnamed : before.any (·.table == some q) with
  | true => rfl
  | false =>
    cases ht : e.table with
    | none => simp [called?_cons_of_none ht, called?_of_unlabelled hafter]
    | some t => simp [called?_cons_of_some ht, he]

end Entry

namespace Block

variable {b : Block} {q : String}

theorem map_name_find?_tables (b : Block) (q : String) :
    (b.tables.find? (·.isCalled q)).map TableRef.name = Entry.called? b.entries q := by
  rw [tables_eq, Entry.called?]

/-- Around the one entry with a label: a table that masks it comes before it, or after it if it is no table. -/
theorem masked_iff {before after : List Entry} {e : Entry} (hentries : b.entries = before ++ e :: after)
    (hbefore : ∀ x ∈ before, x.label ≠ some q) (he : e.label = some q)
    (hafter : ∀ x ∈ after, x.label ≠ some q) : b.Masked q ↔ e.table ≠ some q ∧
      (before.any (·.table == some q) || e.table.isNone && after.any (·.table == some q)) = true := by
  have hfirst : b.entries.takeWhile (·.label != some q) = before := by
    rw [hentries, List.takeWhile_append_of_pos (by simpa using hbefore),
      List.takeWhile_cons_of_neg (by simp [he]), List.append_nil]
  have honly : ∀ x ∈ b.entries, x.label = some q → x = e := by
    intro x hx hlabel
    rw [hentries, List.mem_append, List.mem_cons] at hx
    rcases hx with hx | rfl | hx
    · exact absurd hlabel (hbefore x hx)
    · rfl
    · exact absurd hlabel (hafter x hx)
  have hself : e ∈ b.entries := by simp [hentries]
  rw [Masked, hfirst]
  simp only [Bool.or_eq_true, Bool.and_eq_true, Option.isNone_iff_eq_none, List.any_eq_true, beq_iff_eq]
  constructor
  · rintro ⟨x, hx, hlabel, hother, hmasks⟩
    obtain rfl := honly x hx hlabel
    refine ⟨hother, hmasks.elim .inl ?_⟩
    rintro ⟨hnone, y, hy, hnamed⟩
    rw [hentries, List.mem_append, List.mem_cons] at hy
    rcases hy with hy | rfl | hy
    · exact .inl ⟨y, hy, hnamed⟩
    · exact absurd (hnone.symm.trans hnamed) nofun
    · exact .inr ⟨hnone, y, hy, hnamed⟩
  · rintro ⟨hother, hmasks⟩
    refine ⟨e, hself, he, hother, hmasks.imp_right fun ⟨hnone, y, hy, hnamed⟩ => ⟨hnone, y, ?_, hnamed⟩⟩
    simp [hentries, hy]

/-- A qualifier calls the table that it means just if no other table masks that. -/
theorem called?_eq_meant?_iff (hlabels : (b.entries.filterMap Entry.label).Nodup) :
    Entry.called? b.entries q = b.meant? q ↔ ¬ b.Masked q := by
  rw [meant?]
  cases hfind : b.entries.find? (·.label == some q) with
  | none =>
    have hunlabelled : ∀ e ∈ b.entries, e.label ≠ some q := by
      simpa using List.find?_eq_none.1 hfind
    refine iff_of_true (Entry.called?_of_unlabelled hunlabelled) ?_
    rintro ⟨e, he, hlabel, -⟩
    exact hunlabelled e he hlabel
  | some e =>
    obtain ⟨he, before, after, hentries, hbefore⟩ := List.find?_eq_some_iff_append.1 hfind
    have he : e.label = some q := by simpa using he
    have hbefore : ∀ x ∈ before, x.label ≠ some q := by simpa using hbefore
    -- labels differ, so the first entry with this one is the only one
    have hafter : ∀ x ∈ after, x.label ≠ some q := by
      intro x hx hlabel
      rw [hentries, List.filterMap_append, List.filterMap_cons_some he] at hlabels
      have hfresh := (List.nodup_cons.1 (List.nodup_append.1 hlabels).2.1).1
      exact hfresh (List.mem_filterMap.2 ⟨x, hx, hlabel⟩)
    rw [masked_iff hentries hbefore he hafter, hentries, Entry.called?_of_labelled hbefore he hafter]
    split
    · rename_i hmasks
      rw [and_iff_left hmasks, not_not, eq_comm]
    · rename_i hmasks
      exact iff_of_true rfl fun h => hmasks h.2

/-! ## 3. What a qualified column is credited to -/

end Block

/-- Whether an entry of the `SELECT` list is a column or a wildcard with a qualifier. -/
inductive Sql.SelectItem.QualifiedBy (q : String) : SelectItem → Prop where
  | column {e : Expr} {c : String} {label : Option Ident} :
      e.column? = some c → e.qualifier? = some q → QualifiedBy q (.expr e label)
  | wildcard {name : Name} {options : List Expr} : name ≠ [] → name.key = q → QualifiedBy q (.wildcard name options)

/-- The columns that an entry of the `SELECT` list stands for if its qualifier is that of a table. -/
def Sql.SelectItem.columnsFrom (catalog : Catalog) (t : String) : SelectItem → List QueryConstraint.SelectedColumn
  | .expr e _ => [⟨some t, e.column?⟩]
  | .wildcard _ _ => QueryConstraint.columnsOf catalog t

theorem Catalog.table?_lower (catalog : Catalog) (q : String) : catalog.table? (lower q) = catalog.table? q := by
  rw [table?, lower_lower, table?]

/-- A table that the catalog does not know has no column of one that it knows. -/
theorem Sql.SelectItem.table?_of_mem_columnsFrom {catalog : Catalog} {t : String} (ht : catalog.table? t = none)
    {item : SelectItem} : ∀ s ∈ item.columnsFrom catalog t, s.table.bind catalog.table? = none := by
  intro s hs
  cases item with
  | expr e label =>
    rw [List.mem_singleton.1 hs]
    exact ht
  | wildcard name options =>
    rw [columnsFrom, QueryConstraint.columnsOf, ht] at hs
    rw [List.mem_singleton.1 hs]
    exact ht

/-- A column of a table that the catalog does not know is no foreign key. -/
theorem QueryConstraint.isForeignKeyColumn_of_unknown {catalog : Catalog} {s : SelectedColumn}
    (h : s.table.bind catalog.table? = none) : isForeignKeyColumn catalog s = false := by
  obtain ⟨table, column⟩ := s
  cases table with
  | none => rfl
  | some t =>
    cases column with
    | none => rfl
    | some c =>
      rw [Option.bind_some] at h
      simp [isForeignKeyColumn, h]

/-- A qualifier is resolved as `FROM` scopes it. -/
structure Block.ResolvesByScope (catalog : Catalog) (b : Block) (q : String) : Prop where
  /-- It is resolved to the table that it means, if it means one. -/
  resolved : (b.resolveTable q).map TableRef.name = b.meant? (lower q)
  /-- What has it as a qualifier is a column of that table, or all of them. -/
  credited : ∀ item, SelectItem.QualifiedBy (lower q) item → ∀ t, b.meant? (lower q) = some t →
    (outputColumn b.tables item).table = some t ∧
      QueryConstraint.selectedBy catalog b (outputColumn b.tables item) = item.columnsFrom catalog t
  /-- If it means no table, nothing is credited to a table that the catalog knows, or as a key. -/
  uncredited : b.meant? (lower q) = none → ∀ item, SelectItem.QualifiedBy (lower q) item →
    (outputColumn b.tables item).table.bind catalog.table? = none ∧
      ∀ s ∈ QueryConstraint.selectedBy catalog b (outputColumn b.tables item),
        s.table.bind catalog.table? = none ∧ QueryConstraint.isForeignKeyColumn catalog s = false

namespace Block

variable {catalog : Catalog} {b : Block} {q : String}

/-- A qualifier is taken for the table that it calls, or for itself. -/
theorem ownerOf_eq_getD (b : Block) (q : String) :
    ownerOf b.tables (some q) = some ((Entry.called? b.entries q).getD q) := by
  rw [← map_name_find?_tables, ownerOf]
  cases b.tables.find? (·.isCalled q) <;> rfl

theorem table_outputColumn {item : SelectItem} (h : item.QualifiedBy q) :
    (outputColumn b.tables item).table = some ((Entry.called? b.entries q).getD q) := by
  cases h with
  | column hcolumn hqualifier => simp [outputColumn, hcolumn, hqualifier, ownerOf_eq_getD]
  | @wildcard name _ hname hkey =>
    obtain ⟨part, parts, rfl⟩ := List.exists_cons_of_ne_nil hname
    simp [outputColumn, hkey, ownerOf_eq_getD]

theorem selectedBy_outputColumn {item : SelectItem} (h : item.QualifiedBy q) :
    QueryConstraint.selectedBy catalog b (outputColumn b.tables item) =
      item.columnsFrom catalog ((Entry.called? b.entries q).getD q) := by
  cases h with
  | column hcolumn hqualifier =>
    simp [outputColumn, QueryConstraint.selectedBy, SelectItem.columnsFrom, hcolumn, hqualifier, ownerOf_eq_getD]
  | @wildcard name _ hname hkey =>
    obtain ⟨part, parts, rfl⟩ := List.exists_cons_of_ne_nil hname
    simp [outputColumn, QueryConstraint.selectedBy, SelectItem.columnsFrom, hkey, ownerOf_eq_getD]

/-- **When qualifiers are resolved by scope.** With different labels in `FROM`, a qualifier is resolved to the
table that it means, and what it qualifies is credited to that table or, if it means none, to no table of the
catalog, just if no other table masks the meaning and the qualifier, if it means none, is itself no name of a
table in the catalog. -/
theorem resolvesByScope_iff (catalog : Catalog) (hlabels : (b.entries.filterMap Entry.label).Nodup) (q : String) :
    b.ResolvesByScope catalog q ↔
      ¬ b.Masked (lower q) ∧ (b.meant? (lower q) = none → catalog.table? q = none) := by
  have hresolved : (b.resolveTable q).map TableRef.name = Entry.called? b.entries (lower q) :=
    b.map_name_find?_tables (lower q)
  constructor
  · intro h
    have hmeant := hresolved.symm.trans h.resolved
    refine ⟨(called?_eq_meant?_iff hlabels).1 hmeant, fun hnone => ?_⟩
    -- a wildcard with the qualifier shows what it is taken for
    have hwildcard : SelectItem.QualifiedBy (lower q) (.wildcard [⟨q, none⟩] []) :=
      .wildcard (List.cons_ne_nil _ _) rfl
    have htable := (h.uncredited hnone _ hwildcard).1
    rw [table_outputColumn hwildcard, hmeant, hnone] at htable
    exact (catalog.table?_lower q).symm.trans htable
  · rintro ⟨hplain, hunknown⟩
    have hmeant := (called?_eq_meant?_iff hlabels).2 hplain
    refine ⟨hresolved.trans hmeant, fun item hitem t ht => ?_, fun hnone item hitem => ?_⟩
    · rw [table_outputColumn hitem, selectedBy_outputColumn hitem, hmeant, ht]
      exact ⟨rfl, rfl⟩
    · have htable : catalog.table? (lower q) = none := (catalog.table?_lower q).trans (hunknown hnone)
      rw [table_outputColumn hitem, selectedBy_outputColumn hitem, hmeant, hnone]
      refine ⟨htable, fun s hs => ?_⟩
      have hunknown := SelectItem.table?_of_mem_columnsFrom htable s hs
      exact ⟨hunknown, QueryConstraint.isForeignKeyColumn_of_unknown hunknown⟩

/-- In `SELECT x.a, y.b FROM t AS x, t AS y` the qualifier `X` is resolved to `t`. -/
theorem resolvesByScope_pairing :
    let b := QueryConstraint.pairing "x" "y" ["x", "y"]
    (b.entries.filterMap Entry.label).Nodup ∧ b.meant? (lower "X") = some "t" ∧
      b.ResolvesByScope QueryConstraint.pairs "X" := by
  intro b
  have hlabels : (b.entries.filterMap Entry.label).Nodup := by decide
  have hmeant : b.meant? (lower "X") = some "t" := by decide
  refine ⟨hlabels, hmeant, (resolvesByScope_iff _ hlabels "X").2 ⟨by decide, fun hnone => ?_⟩⟩
  rw [hmeant] at hnone
  cases hnone

/-- In `FROM a AS x, b AS a` the qualifier `a` means `b` and is resolved to `a`. In `FROM (SELECT a FROM s) AS t` the
qualifier `t` means no table, and what it qualifies is credited to the table `t` of the catalog. -/
theorem meanings_missed :
    (∃ o b, Outline.parse .postgres "SELECT a.id FROM a AS x, b AS a" = .ok o ∧ o.mainBlock? = some b ∧
      (b.entries.filterMap Entry.label).Nodup ∧ b.meant? "a" = some "b" ∧
      (b.resolveTable "a").map TableRef.name = some "a" ∧
      b.outputColumns.map OutputColumn.table = [some "a"] ∧ ¬ b.ResolvesByScope .empty "a") ∧
    ∃ o b, Outline.parse .postgres "SELECT t.* FROM (SELECT a FROM s) AS t" = .ok o ∧ o.mainBlock? = some b ∧
      (b.entries.filterMap Entry.label).Nodup ∧ b.meant? "t" = none ∧
      QueryConstraint.selectedColumnsOf QueryConstraint.pairs b =
        [⟨some "t", some "a"⟩, ⟨some "t", some "b"⟩] ∧ ¬ b.ResolvesByScope QueryConstraint.pairs "t" := by
  have hlabel : ((Outline.parse .postgres "SELECT a.id FROM a AS x, b AS a").map fun o =>
      o.mainBlock?.map fun b => (b.entries.filterMap Entry.label, b.meant? "a",
        (b.resolveTable "a").map TableRef.name, b.outputColumns.map OutputColumn.table)).toOption =
      some (some (["x", "a"], some "b", some "a", [some "a"])) := by
    decide +kernel
  have hderived : ((Outline.parse .postgres "SELECT t.* FROM (SELECT a FROM s) AS t").map fun o =>
      o.mainBlock?.map fun b => (b.entries.filterMap Entry.label, b.meant? "t",
        (outputColumn b.tables (.wildcard [⟨"t", none⟩] [])).table,
        QueryConstraint.selectedColumnsOf QueryConstraint.pairs b)).toOption =
      some (some (["t"], none, some "t", [⟨some "t", some "a"⟩, ⟨some "t", some "b"⟩])) := by
    decide +kernel
  obtain ⟨o, ho, hseen⟩ := Outline.exists_parse_eq_ok hlabel
  obtain ⟨o', ho', hseen'⟩ := Outline.exists_parse_eq_ok hderived
  obtain ⟨b, hb, hseen⟩ := Option.map_eq_some_iff.1 hseen
  obtain ⟨b', hb', hseen'⟩ := Option.map_eq_some_iff.1 hseen'
  simp only [Prod.mk.injEq] at hseen hseen'
  obtain ⟨hlabels, hmeant, hresolved, hcolumns⟩ := hseen
  obtain ⟨hlabels', hmeant', htable, hselected⟩ := hseen'
  refine ⟨⟨o, b, ho, hb, ?_, hmeant, hresolved, hcolumns, fun h => ?_⟩,
    o', b', ho', hb', ?_, hmeant', hselected, fun h => ?_⟩
  · rw [hlabels]
    decide
  · have hsame := hresolved.symm.trans (h.resolved.trans hmeant)
    exact absurd hsame (by decide)
  · rw [hlabels']
    decide
  · have hwildcard : SelectItem.QualifiedBy (lower "t") (.wildcard [⟨"t", none⟩] []) :=
      .wildcard (List.cons_ne_nil _ _) rfl
    have hunknown := (h.uncredited hmeant' _ hwildcard).1
    rw [htable] at hunknown
    cases hunknown

end Block

end QueryDrill
