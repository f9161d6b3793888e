import Mathlib.Data.List.Induction
import QueryDrill.Constraint.Schema
/-!
Merging is exact: a merged list of constraints on a schema asks no more and no less than the list that it
was merged from.

* `check_eq_none_iff`: a constraint holds when its bounds admit each count that its measure takes. This is
  the one place that looks into the checks; all that follows is about bounds.
* `admits_join`: joined bounds admit what both admit. Bounds that exclude each other need no case of their
  own: they join to bounds that admit nothing, and both sides are false.
* `measures_joinInto` and `holds_joinInto`: what one step of merging does to the measures of the list and
  to what the list asks.
* `measures_merge` and `holds_merge`: the same for a whole list, by induction from its end, where merging
  takes its last step.
-/

namespace QueryDrill

/-! ## 1. Bounds -/

namespace Bounds

theorem admits_iff {b : Bounds} {n : Nat} :
    b.admits n = true ↔ b.min ≤ n ∧ ∀ m ∈ b.max, n ≤ m := by
  obtain ⟨lo, _ | hi⟩ := b <;> simp [admits]

/-- Joined bounds admit what both admit. -/
theorem admits_join (a b : Bounds) (n : Nat) :
    (a.join b).admits n = true ↔ a.admits n = true ∧ b.admits n = true := by
  obtain ⟨lo, hi⟩ := a
  obtain ⟨lo', hi'⟩ := b
  have hmin : joinMin lo lo' ≤ n ↔ lo ≤ n ∧ lo' ≤ n := Nat.max_le
  have hmax : (∀ m ∈ joinMax hi hi', n ≤ m) ↔ (∀ m ∈ hi, n ≤ m) ∧ ∀ m ∈ hi', n ≤ m := by
    cases hi with
    | none => simp [joinMax]
    | some h =>
      cases hi' with
      | none => simp [joinMax]
      | some h' =>
        simp only [joinMax, Option.mem_some_iff, forall_eq']
        exact Nat.le_min
  rw [admits_iff, admits_iff, admits_iff, join, hmin, hmax]
  exact and_and_and_comm

/-- Bounds without an upper end admit what reaches the lower one. -/
theorem admits_of_max_eq_none {b : Bounds} (h : b.max = none) {n : Nat} :
    b.admits n = true ↔ b.min ≤ n := by
  simp [admits_iff, h]

end Bounds

/-! ## 2. What a constraint asks -/

/-- The counts that a measure takes of a catalog and the rows inserted into it: one in all, or one for
each table. -/
def SchemaMeasure.counts (catalog : Catalog) (rows : RowCounts) : SchemaMeasure → List Nat
  | tables => [catalog.size]
  | columnsPerTable => catalog.tables.map fun t => t.columns.length
  | rowsPerTable => catalog.tableNames.map fun name => (rows.get? name).getD 0
  | foreignKeys => [catalog.foreignKeyCount]
  | uniqueKeys => [(catalog.tables.flatMap Table.uniqueKeys).length]
  | compositeKeys => [catalog.tables.countP fun t => 2 ≤ t.primaryKey.length]
  | sharedColumnNames => [catalog.sharedColumnNames.length]
  | nullableColumns =>
    [(catalog.tables.flatMap Table.columns).countP fun c => c.nullable && !c.isPrimaryKey]

namespace SchemaConstraint

variable {catalog : Catalog} {rows : RowCounts}

theorem checkColumns_eq_none_iff {b : Bounds} :
    checkColumns catalog b = none ↔ ∀ t ∈ catalog.tables, b.admits t.columns.length = true := by
  rw [checkColumns, noneOf_eq_none_iff, List.map_eq_nil_iff, List.filter_eq_nil_iff]
  simp

theorem checkRows_eq_none_iff {min : Nat} :
    checkRows catalog rows min = none ↔
      ∀ name ∈ catalog.tableNames, min ≤ (rows.get? name).getD 0 := by
  rw [checkRows, noneOf_eq_none_iff, List.filterMap_eq_nil_iff]
  simp

/-- A constraint holds when its bounds admit each count of its measure. -/
theorem check_eq_none_iff {c : SchemaConstraint} :
    c.check catalog rows = none ↔
      ∀ n ∈ c.measure.counts catalog rows, c.bounds.admits n = true := by
  obtain ⟨measure, bounds, hmax⟩ := c
  cases measure with
  | columnsPerTable => simp [check, SchemaMeasure.counts, checkColumns_eq_none_iff]
  | rowsPerTable =>
    -- the check reads the lower bound alone; the constraint has no other
    have hadmits := fun n => Bounds.admits_of_max_eq_none (n := n) (hmax rfl)
    simp [check, SchemaMeasure.counts, checkRows_eq_none_iff, hadmits]
  | sharedColumnNames =>
    have hadmits := fun n => Bounds.admits_of_max_eq_none (n := n) (hmax rfl)
    simp [check, SchemaMeasure.counts, checkSharedNames, hadmits]
  | _ => simp [check, SchemaMeasure.counts]

/-! ## 3. One step of merging -/

/-- Two constraints on one measure join to the constraint on it with the joined bounds. -/
theorem join_of_measure_eq {a b : SchemaConstraint} (h : a.measure = b.measure) :
    ∃ c, a.join b = .ok c ∧ c.measure = a.measure ∧ c.bounds = a.bounds.join b.bounds := by
  unfold join
  rw [dif_pos h]
  exact ⟨_, rfl, rfl, rfl⟩

/-- A joined constraint asks what both ask. -/
theorem holds_join {a b c : SchemaConstraint} (hm : a.measure = b.measure) (h : a.join b = .ok c) :
    c.check catalog rows = none ↔ a.check catalog rows = none ∧ b.check catalog rows = none := by
  obtain ⟨d, hd, hmeasure, hbounds⟩ := join_of_measure_eq hm
  obtain rfl : d = c := Except.ok.inj (hd.symm.trans h)
  simp only [check_eq_none_iff, hmeasure, hbounds, ← hm, Bounds.admits_join]
  exact forall₂_and

/-- A step joins the constraint to the one on its measure or appends it. -/
theorem joinInto_cons (a : SchemaConstraint) (as : List SchemaConstraint) (c : SchemaConstraint) :
    joinInto (a :: as) c =
      if a.measure = c.measure then (a.join c).map (· :: as) else (joinInto as c).map (a :: ·) := by
  rw [joinInto]
  split
  · cases a.join c <;> rfl
  · cases joinInto as c <;> rfl

/-- A step never fails. -/
theorem joinInto_ok (as : List SchemaConstraint) (c : SchemaConstraint) :
    ∃ ms, joinInto as c = .ok ms := by
  induction as with
  | nil => exact ⟨[c], rfl⟩
  | cons a as ih =>
    rw [joinInto_cons]
    split
    · rename_i hm
      obtain ⟨d, hd, -⟩ := join_of_measure_eq hm
      exact ⟨d :: as, by rw [hd]; rfl⟩
    · obtain ⟨ms, hms⟩ := ih
      exact ⟨a :: ms, by rw [hms]; rfl⟩

/-- A step ends at the first constraint on the measure, or goes on after it. -/
theorem joinInto_cons_cases {a c : SchemaConstraint} {as ms : List SchemaConstraint}
    (h : joinInto (a :: as) c = .ok ms) :
    (a.measure = c.measure ∧ ∃ d, a.join c = .ok d ∧ ms = d :: as) ∨
      (a.measure ≠ c.measure ∧ ∃ ns, joinInto as c = .ok ns ∧ ms = a :: ns) := by
  rw [joinInto_cons] at h
  split at h
  · rename_i hm
    obtain ⟨d, hd, -⟩ := join_of_measure_eq hm
    rw [hd] at h
    exact .inl ⟨hm, d, hd, (Except.ok.inj h).symm⟩
  · rename_i hm
    obtain ⟨ns, hns⟩ := joinInto_ok as c
    rw [hns] at h
    exact .inr ⟨hm, ns, hns, (Except.ok.inj h).symm⟩

/-- A step keeps the measures in order; a new one goes to the end. -/
theorem measures_joinInto {as ms : List SchemaConstraint} {c : SchemaConstraint}
    (h : joinInto as c = .ok ms) :
    ms.map measure =
      if c.measure ∈ as.map measure then as.map measure else as.map measure ++ [c.measure] := by
  induction as generalizing ms with
  | nil =>
    obtain rfl : [c] = ms := Except.ok.inj h
    rfl
  | cons a as ih =>
    rcases joinInto_cons_cases h with ⟨hm, d, hd, rfl⟩ | ⟨hm, ns, hns, rfl⟩
    · obtain ⟨e, he, hmeasure, -⟩ := join_of_measure_eq hm
      obtain rfl : e = d := Except.ok.inj (he.symm.trans hd)
      simp [hmeasure, hm]
    · rw [List.map_cons, ih hns]
      split <;> simp_all [eq_comm]

/-- A step adds to what a list asks what the constraint asks. -/
theorem holds_joinInto {as ms : List SchemaConstraint} {c : SchemaConstraint}
    (h : joinInto as c = .ok ms) :
    (∀ d ∈ ms, d.check catalog rows = none) ↔
      (∀ d ∈ as, d.check catalog rows = none) ∧ c.check catalog rows = none := by
  induction as generalizing ms with
  | nil =>
    obtain rfl : [c] = ms := Except.ok.inj h
    simp
  | cons a as ih =>
    rcases joinInto_cons_cases h with ⟨hm, d, hd, rfl⟩ | ⟨hm, ns, hns, rfl⟩
    · rw [List.forall_mem_cons, List.forall_mem_cons, holds_join hm hd]
      exact and_right_comm
    · rw [List.forall_mem_cons, List.forall_mem_cons, ih hns]
      exact and_assoc.symm

/-! ## 4. Whole lists -/

/-- Merging ends with its last step. -/
theorem merge_concat (cs : List SchemaConstraint) (c : SchemaConstraint) :
    merge (cs ++ [c]) = (merge cs).bind (joinInto · c) := by
  simp only [merge, List.foldlM_append, List.foldlM_cons, List.foldlM_nil, bind_pure]
  rfl

/-- Merging never fails. -/
theorem merge_ok (cs : List SchemaConstraint) : ∃ ms, merge cs = .ok ms := by
  induction cs using List.reverseRecOn with
  | nil => exact ⟨[], rfl⟩
  | append_singleton cs c ih =>
    obtain ⟨ns, hns⟩ := ih
    rw [merge_concat, hns]
    exact joinInto_ok ns c

/-- What a list with one more constraint merges to comes from one more step. -/
theorem exists_of_merge_concat {cs ms : List SchemaConstraint} {c : SchemaConstraint}
    (h : merge (cs ++ [c]) = .ok ms) : ∃ ns, merge cs = .ok ns ∧ joinInto ns c = .ok ms := by
  obtain ⟨ns, hns⟩ := merge_ok cs
  rw [merge_concat, hns] at h
  exact ⟨ns, hns, h⟩

/-- An element at the end counts among the first occurrences only if it is new. -/
theorem eraseDups_concat {α : Type} [DecidableEq α] (as : List α) (a : α) :
    (as ++ [a]).eraseDups = if a ∈ as then as.eraseDups else as.eraseDups ++ [a] := by
  rw [List.eraseDups_append]
  by_cases h : a ∈ as
  · simp [List.removeAll, h]
  · simp [List.removeAll, h, List.eraseDups_cons]

/-- A merged list has each measure once, in the order in which they first occur. -/
theorem measures_merge {cs ms : List SchemaConstraint} (h : merge cs = .ok ms) :
    ms.map measure = (cs.map measure).eraseDups := by
  induction cs using List.reverseRecOn generalizing ms with
  | nil =>
    obtain rfl : [] = ms := Except.ok.inj h
    rfl
  | append_singleton cs c ih =>
    obtain ⟨ns, hns, hstep⟩ := exists_of_merge_concat h
    rw [measures_joinInto hstep, ih hns, List.map_append]
    simp only [List.mem_eraseDups]
    exact (eraseDups_concat _ _).symm

/-- No measure occurs twice in a merged list. -/
theorem nodup_measures_merge {cs ms : List SchemaConstraint} (h : merge cs = .ok ms) :
    (ms.map measure).Nodup := by
  induction cs using List.reverseRecOn generalizing ms with
  | nil =>
    obtain rfl : [] = ms := Except.ok.inj h
    exact List.nodup_nil
  | append_singleton cs c ih =>
    obtain ⟨ns, hns, hstep⟩ := exists_of_merge_concat h
    rw [measures_joinInto hstep]
    split
    · exact ih hns
    · rename_i hnew
      exact List.nodup_append.2 ⟨ih hns, by simp, by grind⟩

/-- A merged list asks what the list asks. -/
theorem holds_merge {cs ms : List SchemaConstraint} (h : merge cs = .ok ms) :
    (∀ c ∈ ms, c.check catalog rows = none) ↔ ∀ c ∈ cs, c.check catalog rows = none := by
  induction cs using List.reverseRecOn generalizing ms with
  | nil =>
    obtain rfl : [] = ms := Except.ok.inj h
    rfl
  | append_singleton cs c ih =>
    obtain ⟨ns, hns, hstep⟩ := exists_of_merge_concat h
    rw [holds_joinInto hstep, ih hns, List.forall_mem_append, List.forall_mem_singleton]

/-- **Merging is exact.** It succeeds on every list, keeps one constraint for each measure in the order in
which the measures first occur, and what it yields is met by just the schemas that meet all of the list. -/
theorem merge_exact (cs : List SchemaConstraint) :
    ∃ ms, merge cs = .ok ms ∧ ms.map measure = (cs.map measure).eraseDups ∧ (ms.map measure).Nodup ∧
      ∀ catalog rows l, (∀ c ∈ ms, c.validate catalog rows l = .ok ()) ↔
        ∀ c ∈ cs, c.validate catalog rows l = .ok () := by
  obtain ⟨ms, hms⟩ := merge_ok cs
  refine ⟨ms, hms, measures_merge hms, nodup_measures_merge hms, fun catalog rows l => ?_⟩
  simp only [validate_eq_ok_iff]
  exact holds_merge hms

end SchemaConstraint

end QueryDrill
