import Mathlib.Data.List.Nodup
import QueryDrill.Proofs.Constraint.Merging
/-!
Merging can be done in stages and in any order.

A merged list is known by two things: the measures in it, in order, and the bounds on each of them (`eq_of_isMergeOf`).
The measures are those of the list that was merged, each where it first occurs; the bounds on a measure are all the
bounds that the list sets for it, joined (`merge_eq_ok_iff`). So each law of merging is a law of these two:

* on measures, that first occurrences may be taken in stages (`eraseDups_append_eraseDups`,
  `eraseDups_eraseDups_append`);
* on bounds, that joining is associative and commutative, a missing bound included (`boundsOn_append`,
  `boundsOn_perm`).
-/

namespace QueryDrill

/-! ## 1. Joining bounds -/

namespace Bounds

/-- A missing upper bound is no bound, so two of them are merged as options are. -/
theorem joinMax_eq_merge (a b : Option Nat) : joinMax a b = Option.merge Nat.min a b := by
  cases a <;> cases b <;> rfl

theorem join_comm (a b : Bounds) : a.join b = b.join a := by
  have hmin : joinMin a.min b.min = joinMin b.min a.min := Nat.max_comm _ _
  have hmax : joinMax a.max b.max = joinMax b.max a.max := by
    have hcomm : Std.Commutative Nat.min := ⟨Nat.min_comm⟩
    rw [joinMax_eq_merge, joinMax_eq_merge]
    exact (Option.commutative_merge Nat.min).comm _ _
  rw [join, hmin, hmax, join]

theorem join_assoc (a b c : Bounds) : (a.join b).join c = a.join (b.join c) := by
  have hmin : joinMin (joinMin a.min b.min) c.min = joinMin a.min (joinMin b.min c.min) :=
    Nat.max_assoc _ _ _
  have hmax : joinMax (joinMax a.max b.max) c.max = joinMax a.max (joinMax b.max c.max) := by
    have hassoc : Std.Associative Nat.min := ⟨Nat.min_assoc⟩
    simp only [joinMax_eq_merge]
    exact (Option.associative_merge Nat.min).assoc _ _ _
  simp only [join, hmin, hmax]

instance : Std.Commutative join := ⟨join_comm⟩

instance : Std.Associative join := ⟨join_assoc⟩

/-- The bounds that admit what both admit, where each may be missing. -/
def both (a b : Option Bounds) : Option Bounds := Option.merge join a b

theorem both_comm (a b : Option Bounds) : both a b = both b a := (Option.commutative_merge join).comm a b

theorem both_assoc (a b c : Option Bounds) : both (both a b) c = both a (both b c) :=
  (Option.associative_merge join).assoc a b c

@[simp] theorem both_none (a : Option Bounds) : both a none = a := Option.merge_none_right

@[simp] theorem none_both (a : Option Bounds) : both none a = a := Option.merge_none_left

end Bounds

namespace SchemaConstraint

open Bounds

/-! ## 2. The bounds that a list sets -/

/-- The bounds that a constraint sets for a measure. -/
def boundsFor (m : SchemaMeasure) (c : SchemaConstraint) : Option Bounds :=
  if c.measure = m then some c.bounds else none

/-- The bounds that a list sets for a measure, all of them joined. -/
def boundsOn (m : SchemaMeasure) : List SchemaConstraint → Option Bounds
  | [] => none
  | c :: cs => both (c.boundsFor m) (boundsOn m cs)

variable {m : SchemaMeasure} {a b c : SchemaConstraint} {as bs cs ms ns : List SchemaConstraint}

theorem boundsOn_append (m : SchemaMeasure) (as bs : List SchemaConstraint) :
    boundsOn m (as ++ bs) = both (boundsOn m as) (boundsOn m bs) := by
  induction as with
  | nil => exact (none_both _).symm
  | cons a as ih => rw [List.cons_append, boundsOn, ih, boundsOn, both_assoc]

theorem boundsOn_singleton (m : SchemaMeasure) (c : SchemaConstraint) : boundsOn m [c] = c.boundsFor m :=
  both_none _

/-- The order of a list does not matter to its bounds. -/
theorem boundsOn_perm (m : SchemaMeasure) (h : as.Perm bs) : boundsOn m as = boundsOn m bs := by
  induction h with
  | nil => rfl
  | cons c _ ih => rw [boundsOn, ih, boundsOn]
  | swap a b cs =>
    simp only [boundsOn]
    rw [← both_assoc, both_comm (b.boundsFor m), both_assoc]
  | trans _ _ ih ih' => exact ih.trans ih'

/-- A list sets no bounds for a measure that does not occur in it. -/
theorem boundsOn_eq_none (h : m ∉ cs.map measure) : boundsOn m cs = none := by
  induction cs with
  | nil => rfl
  | cons c cs ih =>
    rw [List.map_cons, List.mem_cons, not_or] at h
    have hc : c.boundsFor m = none := if_neg fun hm => h.1 hm.symm
    rw [boundsOn, hc, none_both, ih h.2]

/-- The bounds on a measure that occurs once are those of its constraint. -/
theorem boundsOn_head (h : c.measure ∉ cs.map measure) : boundsOn c.measure (c :: cs) = some c.bounds := by
  rw [boundsOn, boundsOn_eq_none h, both_none]
  exact if_pos rfl

/-- A joined constraint sets for each measure what both set. -/
theorem boundsFor_join (hm : a.measure = b.measure) (h : a.join b = .ok c) :
    c.boundsFor m = both (a.boundsFor m) (b.boundsFor m) := by
  obtain ⟨d, hd, hmeasure, hbounds⟩ := join_of_measure_eq hm
  obtain rfl : d = c := Except.ok.inj (hd.symm.trans h)
  rw [boundsFor, boundsFor, boundsFor, hmeasure, hbounds, ← hm]
  by_cases ha : a.measure = m
  · rw [if_pos ha, if_pos ha, if_pos ha]
    rfl
  · rw [if_neg ha, if_neg ha, if_neg ha]
    rfl

/-! ## 3. What merging does to measures and bounds -/

/-- A step adds the bounds of the constraint to those of the list. -/
theorem boundsOn_joinInto (h : joinInto as c = .ok ms) :
    boundsOn m ms = both (boundsOn m as) (c.boundsFor m) := by
  induction as generalizing ms with
  | nil =>
    obtain rfl : [c] = ms := Except.ok.inj h
    rw [boundsOn_singleton]
    exact (none_both _).symm
  | cons a as ih =>
    rcases joinInto_cons_cases h with ⟨hm, d, hd, rfl⟩ | ⟨hm, ns, hns, rfl⟩
    · rw [boundsOn, boundsFor_join hm hd, boundsOn, both_assoc, both_comm (c.boundsFor m), both_assoc]
    · rw [boundsOn, ih hns, boundsOn, both_assoc]

/-- A merged list sets for each measure what the list sets. -/
theorem boundsOn_merge (h : merge cs = .ok ms) : boundsOn m ms = boundsOn m cs := by
  induction cs using List.reverseRecOn generalizing ms with
  | nil =>
    obtain rfl : [] = ms := Except.ok.inj h
    rfl
  | append_singleton cs c ih =>
    obtain ⟨ns, hns, hstep⟩ := exists_of_merge_concat h
    rw [boundsOn_joinInto hstep, ih hns, boundsOn_append, boundsOn_singleton]

/-- A list has each measure of another one where it first occurs there, with all bounds on it joined. -/
structure IsMergeOf (ms cs : List SchemaConstraint) : Prop where
  measures : ms.map measure = (cs.map measure).eraseDups
  bounds : ∀ m, boundsOn m ms = boundsOn m cs

theorem isMergeOf_merge (h : merge cs = .ok ms) : IsMergeOf ms cs := ⟨measures_merge h, fun _ => boundsOn_merge h⟩

/-! ## 4. Merged lists are known by measures and bounds -/

/-- Where measures do not repeat, a constraint is in a list just if its bounds are those of the list. -/
theorem mem_iff_of_nodup (h : (ms.map measure).Nodup) : c ∈ ms ↔ boundsOn c.measure ms = some c.bounds := by
  induction ms with
  | nil => exact iff_of_false List.not_mem_nil nofun
  | cons a ms ih =>
    obtain ⟨hfresh, h⟩ := List.nodup_cons.1 h
    rw [List.mem_cons]
    by_cases hm : a.measure = c.measure
    · have hnot : c ∉ ms := fun hc => hfresh (hm ▸ List.mem_map_of_mem hc)
      rw [← hm, boundsOn_head hfresh, Option.some.injEq, or_iff_left hnot]
      constructor
      · rintro rfl
        rfl
      · intro hbounds
        cases a
        cases c
        congr
        exacts [hm.symm, hbounds.symm]
    · have hne : c ≠ a := fun hc => hm (hc ▸ rfl)
      rw [boundsOn, boundsFor, if_neg hm, none_both, ← ih h, or_iff_right hne]

namespace IsMergeOf

theorem nodup (h : IsMergeOf ms cs) : (ms.map measure).Nodup := by
  obtain ⟨ns, hns⟩ := merge_ok cs
  rw [h.measures, ← measures_merge hns]
  exact nodup_measures_merge hns

theorem mem_iff (h : IsMergeOf ms cs) : c ∈ ms ↔ boundsOn c.measure cs = some c.bounds := by
  rw [mem_iff_of_nodup h.nodup, h.bounds]

/-- There is one merged list of a list. -/
theorem unique (hms : IsMergeOf ms cs) (hns : IsMergeOf ns cs) : ms = ns := by
  have hmeasures : ms.map measure = ns.map measure := hms.measures.trans hns.measures.symm
  have hlength : ms.length = ns.length := by simpa using congrArg List.length hmeasures
  refine List.ext_getElem hlength fun i hi hi' => ?_
  have hmem : ns[i] ∈ ms := hms.mem_iff.2 (hns.mem_iff.1 (List.getElem_mem hi'))
  refine List.inj_on_of_nodup_map hms.nodup (List.getElem_mem hi) hmem ?_
  simpa [hi, hi'] using congrArg (·[i]?) hmeasures

/-- Lists with the same constraints merge to lists with the same constraints. -/
theorem perm (hms : IsMergeOf ms as) (hns : IsMergeOf ns bs) (h : as.Perm bs) : ms.Perm ns := by
  refine (List.perm_ext_iff_of_nodup hms.nodup.of_map hns.nodup.of_map).2 fun c => ?_
  rw [hms.mem_iff, hns.mem_iff, boundsOn_perm _ h]

end IsMergeOf

/-- Merging finds the merged list. -/
theorem merge_eq_ok_iff : merge cs = .ok ms ↔ IsMergeOf ms cs := by
  constructor
  · exact isMergeOf_merge
  · intro h
    obtain ⟨ns, hns⟩ := merge_ok cs
    rw [hns, h.unique (isMergeOf_merge hns)]

/-! ## 5. Stages -/

/-- What a list repeats of itself does not matter after another one. -/
theorem eraseDups_append_eraseDups {α : Type} [DecidableEq α] (as bs : List α) :
    (as ++ bs.eraseDups).eraseDups = (as ++ bs).eraseDups := by
  induction bs using List.reverseRecOn with
  | nil => rfl
  | append_singleton bs b ih =>
    rw [eraseDups_concat]
    split
    · rename_i hb
      rw [ih, ← List.append_assoc, eraseDups_concat, if_pos (List.mem_append_right as hb)]
    · rw [← List.append_assoc, eraseDups_concat, ih, ← List.append_assoc, eraseDups_concat]
      simp only [List.mem_append, List.mem_eraseDups]

/-- Nor does it matter before another one. -/
theorem eraseDups_eraseDups_append {α : Type} [DecidableEq α] (as bs : List α) :
    (as.eraseDups ++ bs).eraseDups = (as ++ bs).eraseDups := by
  induction bs using List.reverseRecOn with
  | nil =>
    rw [List.append_nil, List.append_nil]
    exact eraseDups_append_eraseDups [] as
  | append_singleton bs b ih =>
    rw [← List.append_assoc, eraseDups_concat, ih, ← List.append_assoc, eraseDups_concat]
    simp only [List.mem_append, List.mem_eraseDups]

namespace IsMergeOf

/-- Lists with the same measures and bounds have the same merged list. -/
theorem congr (hmeasures : (as.map measure).eraseDups = (bs.map measure).eraseDups)
    (hbounds : ∀ m, boundsOn m as = boundsOn m bs) (h : IsMergeOf ms as) : IsMergeOf ms bs :=
  ⟨h.measures.trans hmeasures, fun m => (h.bounds m).trans (hbounds m)⟩

/-- What a list merges to is also what it merges to when its beginning is merged first. -/
theorem of_append_right (hns : IsMergeOf ns (as ++ bs)) (hms : IsMergeOf ms as) : IsMergeOf ns (ms ++ bs) := by
  refine hns.congr ?_ fun m => ?_
  · rw [List.map_append, List.map_append, hms.measures, eraseDups_eraseDups_append]
  · rw [boundsOn_append, boundsOn_append, hms.bounds]

/-- The same holds when its end is merged first. -/
theorem of_append_left (hns : IsMergeOf ns (as ++ bs)) (hms : IsMergeOf ms bs) : IsMergeOf ns (as ++ ms) := by
  refine hns.congr ?_ fun m => ?_
  · rw [List.map_append, List.map_append, hms.measures, eraseDups_append_eraseDups]
  · rw [boundsOn_append, boundsOn_append, hms.bounds]

end IsMergeOf

/-! ## 6. The laws of merging -/

/-- Two constraints join unless they measure different things; then the failure names both. -/
theorem join_eq_error_iff {f : Failure} :
    a.join b = .error f ↔ a.measure ≠ b.measure ∧ f = .merge a.name b.name := by
  unfold join
  split
  · rename_i hm
    exact iff_of_false nofun fun h => h.1 hm
  · rename_i hm
    rw [Except.error.injEq, and_iff_right hm, eq_comm]

/-- **Merging can be staged and reordered.** What a list merges to, it also merges to when a part at its beginning or at
its end is merged first, in the same order, and merging again changes nothing. A list in another order merges to the
same constraints. What comes out is known: each measure where it first occurs, with all bounds on it joined. Two
constraints fail to join just if they measure different things, and the failure names both. -/
theorem merge_staged :
    (∀ as bs, ∃ ms ns all, merge as = .ok ms ∧ merge bs = .ok ns ∧ merge (as ++ bs) = .ok all ∧
      merge (ms ++ bs) = .ok all ∧ merge (as ++ ns) = .ok all ∧ merge ms = .ok ms) ∧
    (∀ as as', as.Perm as' → ∃ ms ms', merge as = .ok ms ∧ merge as' = .ok ms' ∧ ms.Perm ms') ∧
    (∀ cs ms, merge cs = .ok ms ↔
      ms.map measure = (cs.map measure).eraseDups ∧ ∀ m, boundsOn m ms = boundsOn m cs) ∧
    ∀ (a b : SchemaConstraint) (f : Failure),
      a.join b = .error f ↔ a.measure ≠ b.measure ∧ f = .merge a.name b.name := by
  refine ⟨fun as bs => ?_, fun as as' h => ?_, fun cs ms => ?_, fun a b f => join_eq_error_iff⟩
  · obtain ⟨ms, hms⟩ := merge_ok as
    obtain ⟨ns, hns⟩ := merge_ok bs
    obtain ⟨all, hall⟩ := merge_ok (as ++ bs)
    refine ⟨ms, ns, all, hms, hns, hall, ?_, ?_, ?_⟩
    · exact merge_eq_ok_iff.2 ((isMergeOf_merge hall).of_append_right (isMergeOf_merge hms))
    · exact merge_eq_ok_iff.2 ((isMergeOf_merge hall).of_append_left (isMergeOf_merge hns))
    · have hempty : IsMergeOf ms ([] ++ as) := isMergeOf_merge hms
      exact merge_eq_ok_iff.2 (hempty.of_append_left hempty)
  · obtain ⟨ms, hms⟩ := merge_ok as
    obtain ⟨ms', hms'⟩ := merge_ok as'
    exact ⟨ms, ms', hms, hms', (isMergeOf_merge hms).perm (isMergeOf_merge hms') h⟩
  · rw [merge_eq_ok_iff]
    exact ⟨fun h => ⟨h.measures, h.bounds⟩, fun h => ⟨h.1, h.2⟩⟩

/-- At least three rows in each table and at least four tables; then more of each, and at most eight tables. -/
def rowsAndTables : List SchemaConstraint :=
  [.of .rowsPerTable (.atLeast 3), .of .tables (.atLeast 4), .of .rowsPerTable (.atLeast 5), .of .tables ⟨6, some 8⟩]

/-- The list merges to two constraints, and from its end to the same two in the other order. -/
theorem merge_staged_rowsAndTables :
    rowsAndTables.Perm rowsAndTables.reverse ∧
      merge rowsAndTables = .ok [.of .rowsPerTable (.atLeast 5), .of .tables ⟨6, some 8⟩] ∧
      merge rowsAndTables.reverse = .ok [.of .tables ⟨6, some 8⟩, .of .rowsPerTable (.atLeast 5)] ∧
      ∃ ms ms', merge rowsAndTables = .ok ms ∧ merge rowsAndTables.reverse = .ok ms' ∧ ms.Perm ms' :=
  ⟨(List.reverse_perm _).symm, rfl, rfl, merge_staged.2.1 _ _ (List.reverse_perm _).symm⟩

end SchemaConstraint

end QueryDrill
