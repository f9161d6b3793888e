import QueryDrill.Proofs.Generation.Acceptance
import QueryDrill.Proofs.Sql.Walks
/-!
The tables of a query and the names that `WITH` gives.

`Query.Reads` says which relations a query reads that no `WITH` name stands for, by the scope of names: a
name stands for its query in what follows it in the list, in the query that has the list and in all that is
nested there, and with `RECURSIVE` in its own query too; it never stands for a name with a qualifier. The
tables of an outline are found without scopes: every name that some `WITH` list gives is left out
everywhere (`Outline.mem_tables_iff`). So they are read, all of them; what is missing is a relation that
shares its name with a query named elsewhere, or with the very query that reads it.
-/

namespace QueryDrill

open Sql Text

namespace Sql

/-! ## 1. Scopes -/

/-- The name that a `WITH` list gives to a query, in lower case. -/
def Cte.key (c : Cte) : String := lower c.name.name.value

/-- The names that the `WITH` list of a query gives. -/
def Query.cteKeys (q : Query) : List String := q.ctes.map Cte.key

/-- Whether names in scope stand for what a relation is called. A name with a qualifier is a table's. -/
def Name.BoundIn (n : Name) (scope : List String) : Prop := n.length = 1 ∧ n.key ∈ scope

/-- A query reads a relation that no name in scope stands for. -/
inductive Query.Reads : List String → Query → Name → Prop
  /-- The relation stands in the query, after its `WITH` list. -/
  | here {scope : List String} {q : Query} {n : Name} (met : .relation n ∈ q.visitsInside)
      (free : ¬ n.BoundIn (q.cteKeys ++ scope)) : Reads scope q n
  /-- A nested query reads it, where all names of the list are in scope. -/
  | nested {scope : List String} {q p : Query} {n : Name} (met : .query p ∈ q.visitsInside)
      (reads : Reads (q.cteKeys ++ scope) p n) : Reads scope q n
  /-- A query of the list reads it, where the names before it are in scope, and its own name if the list
  is recursive. -/
  | named {scope : List String} {q : Query} {before after : List Cte} {c : Cte} {n : Name}
      (ctes : q.ctes = before ++ c :: after)
      (reads : Reads ((if q.recursive then [c.key] else []) ++ before.map Cte.key ++ scope) c.query n) :
      Reads scope q n

end Sql

/-! ## 2. Names that are left out -/

theorem cteKeys_subset_cteNames (q : Query) : q.cteKeys ⊆ cteNames q := by
  intro k hk
  exact List.mem_flatMap.2 ⟨q, List.mem_cons_self, hk⟩

/-- The names that are left out of a nested query are left out of the query around it. -/
theorem cteNames_subset_of_nested {q p : Query} (hp : .query p ∈ q.visits false) :
    cteNames p ⊆ cteNames q := by
  intro k hk
  obtain ⟨r, hr, hk⟩ := List.mem_flatMap.1 hk
  refine List.mem_flatMap.2 ⟨r, List.mem_cons_of_mem _ (mem_queriesAmong.2 ?_), hk⟩
  rcases List.mem_cons.1 hr with rfl | hr
  · exact Query.mem_visits_of_shallow hp
  · exact Query.mem_visits_of_nested hp (mem_queriesAmong.1 hr)

theorem mem_tablesAmong {hidden : List String} {visits : List Visit} {name : String} :
    name ∈ tablesAmong hidden visits ↔ (∃ n, .relation n ∈ visits ∧ n.key = name) ∧ name ∉ hidden := by
  rw [tablesAmong, mem_sortedSet, List.mem_filter, List.mem_map]
  simp only [mem_filterMap_relation?]
  simp

/-! ## 3. Relations that are read -/

/-- What a query reads is met by a deep walk. -/
theorem Sql.Query.Reads.mem_visits {scope : List String} {q : Query} {n : Name} (h : q.Reads scope n) :
    .relation n ∈ q.visits true := by
  induction h with
  | here met free => exact Query.mem_visits_of_shallow (Query.mem_visits_shallow.2 (.inr met))
  | nested met reads ih => exact Query.mem_visits_of_nested (Query.mem_visits_shallow.2 (.inr met)) ih
  | @named scope q before after c n ctes reads ih =>
    have hc : c ∈ q.ctes := by rw [ctes]; simp
    exact Query.mem_visits_of_nested (Query.mem_visits_shallow.2 (.inl ⟨c, hc, rfl⟩)) ih

/-- A relation that is met is read unless its name is in scope or some `WITH` list gives it. -/
theorem Sql.Query.reads_of_mem_visits {scope : List String} {n : Name} (q : Query)
    (h : .relation n ∈ q.visits true) (hscope : n.key ∉ scope) (hnames : n.key ∉ cteNames q) :
    q.Reads scope n := by
  have hkeys : n.key ∉ q.cteKeys := fun hk => hnames (cteKeys_subset_cteNames q hk)
  have hin : n.key ∉ q.cteKeys ++ scope := by simp [hkeys, hscope]
  rcases Query.relation_mem_visits_cases h with h | ⟨p, hp, h⟩
  · rcases Query.mem_visits_shallow.1 h with ⟨c, -, hc⟩ | h
    · cases hc
    · exact .here h fun hbound => hin hbound.2
  · have hsub : n.key ∉ cteNames p := fun hk => hnames (cteNames_subset_of_nested hp hk)
    have := Query.sizeOf_lt_of_mem_visits q hp
    rcases Query.mem_visits_shallow.1 hp with ⟨c, hc, hpc⟩ | hp
    · obtain rfl : p = c.query := Visit.query.inj hpc
      obtain ⟨before, after, hctes⟩ := List.append_of_mem hc
      -- the scope of a named query holds names of the list and of the scope around it
      refine .named hctes (Query.reads_of_mem_visits c.query h ?_ hsub)
      have hown : c.key ∈ q.cteKeys := List.mem_map_of_mem hc
      have hbefore : before.map Cte.key ⊆ q.cteKeys := by
        rw [Query.cteKeys, hctes, List.map_append]
        exact List.subset_append_left _ _
      intro hk
      rcases List.mem_append.1 hk with hk | hk
      · rcases List.mem_append.1 hk with hk | hk
        · split at hk
          · exact hkeys (List.mem_singleton.1 hk ▸ hown)
          · simp at hk
        · exact hkeys (hbefore hk)
      · exact hscope hk
    · exact .nested hp (Query.reads_of_mem_visits p h hin hsub)
termination_by sizeOf q

/-- The tables of an outline are the relations that its query reads, without the names that `WITH` gives
anywhere in it. -/
theorem Outline.mem_tables_iff (o : Outline) (name : String) :
    name ∈ o.tables ↔ (∃ n, o.query.Reads [] n ∧ n.key = name) ∧ name ∉ cteNames o.query := by
  rw [Outline.tables, mem_tablesAmong]
  refine and_congr_left fun hnames => ⟨?_, ?_⟩
  · rintro ⟨n, hn, rfl⟩
    exact ⟨n, o.query.reads_of_mem_visits hn List.not_mem_nil hnames, rfl⟩
  · rintro ⟨n, hn, rfl⟩
    exact ⟨n, hn.mem_visits, rfl⟩

/-- The tables of an outline are all that its query reads just when nothing that it reads has a name that
`WITH` gives. -/
theorem Outline.tables_eq_iff (o : Outline) :
    (∀ name, name ∈ o.tables ↔ ∃ n, o.query.Reads [] n ∧ n.key = name) ↔
      ∀ n, o.query.Reads [] n → n.key ∉ cteNames o.query := by
  simp only [o.mem_tables_iff, and_iff_left_iff_imp]
  constructor
  · exact fun h n hn => h n.key ⟨n, hn, rfl⟩
  · rintro h name ⟨n, hn, rfl⟩
    exact h n hn

/-- Without `RECURSIVE` a query of a `WITH` list reads the table that has its name, and that table is
missing. -/
theorem self_named_missing :
    ∃ o, Outline.parse .postgres "WITH big AS (SELECT id FROM big) SELECT id FROM big" = .ok o ∧
      o.query.Reads [] [⟨"big", none⟩] ∧ o.tables = [] := by
  have htables : ((Outline.parse .postgres "WITH big AS (SELECT id FROM big) SELECT id FROM big").map
      Outline.tables).toOption = some [] := by
    decide +kernel
  have hnamed : ((Outline.parse .postgres "WITH big AS (SELECT id FROM big) SELECT id FROM big").map
      fun o => (o.query.recursive, o.query.ctes.map fun c =>
        (c.query.cteKeys, c.query.visitsInside.filterMap Visit.relation?))).toOption =
      some (false, [([], [[⟨"big", none⟩]])]) := by
    decide +kernel
  obtain ⟨o, ho, htables⟩ := Outline.exists_parse_eq_ok htables
  obtain ⟨o', ho', hnamed⟩ := Outline.exists_parse_eq_ok hnamed
  obtain rfl : o = o' := Except.ok.inj (ho.symm.trans ho')
  obtain ⟨hrecursive, hctes⟩ := Prod.mk.inj hnamed
  obtain ⟨c, hc, hread⟩ := List.map_eq_singleton_iff.1 hctes
  obtain ⟨hkeys, hmet⟩ := Prod.mk.inj hread
  refine ⟨o, ho, .named (show o.query.ctes = [] ++ c :: [] from hc) (.here ?_ ?_), htables⟩
  · exact mem_filterMap_relation?.1 (hmet ▸ List.mem_singleton.2 rfl)
  · simp [hkeys, hrecursive, Name.BoundIn]

/-- A generated exercise reads tables of its dataset, but for relations that share a name with a query of a
`WITH` list. -/
theorem Exercise.isSome_table_of_reads {s : Settings} {dataset : Dataset} {request : ExerciseRequest}
    {script script' : Script} {e : Exercise}
    (h : (Exercise.generate s dataset request).against script = (.ok e, script')) :
    ∃ built, dataset.catalog.1 = .ok built ∧
      ∀ n, e.solution.query.Reads [] n → n.key ∉ cteNames e.solution.query →
        (built.catalog.table? n.key).isSome := by
  obtain ⟨-, built, hcatalog, -, hknown, -⟩ := Exercise.meets_of_generate h
  exact ⟨built, hcatalog, fun n hn hnames =>
    hknown n.key ((e.solution.mem_tables_iff n.key).2 ⟨⟨n, hn, rfl⟩, hnames⟩)⟩

end QueryDrill
