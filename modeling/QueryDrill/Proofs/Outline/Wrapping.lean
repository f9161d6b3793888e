import Mathlib.Data.List.Flatten
import QueryDrill.Outline.Basic
import QueryDrill.Proofs.Outline.Atoms
/-!
Parentheses inside predicates.

`Expr.Wraps` puts one more pair of parentheses around a predicate or around an operand of its `AND`s, `OR`s,
`NOT`s and parentheses. Its comparisons stay as they are, and its conditions stay or are merged
(`Expr.Wraps.merges`). They are merged just where a second pair is put around a conjunction between outermost
`AND`s (`Expr.Doubles`): parentheses around a conjunction do not count, but parentheses around those do.
-/

namespace QueryDrill

open Sql

namespace Sql.Expr

/-! ## 1. One more pair of parentheses -/

/-- Puts one more pair of parentheses around an expression, or around an operand of its `AND`s, `OR`s, `NOT`s
and parentheses. -/
inductive Wraps : Expr → Expr → Prop where
  | here (e : Expr) : Wraps e (.nested e)
  | andLeft {a a' : Expr} (b : Expr) : Wraps a a' → Wraps (.binary a .and b) (.binary a' .and b)
  | andRight (a : Expr) {b b' : Expr} : Wraps b b' → Wraps (.binary a .and b) (.binary a .and b')
  | orLeft {a a' : Expr} (b : Expr) : Wraps a a' → Wraps (.binary a .or b) (.binary a' .or b)
  | orRight (a : Expr) {b b' : Expr} : Wraps b b' → Wraps (.binary a .or b) (.binary a .or b')
  | nested {a a' : Expr} : Wraps a a' → Wraps (.nested a) (.nested a')
  | not {a a' : Expr} : Wraps a a' → Wraps (.unary .not a) (.unary .not a')

/-- Puts a second pair of parentheses around a conjunction in parentheses that is an operand of the outermost
`AND`s. -/
inductive Doubles : Expr → Expr → Prop where
  | here (a b : Expr) : Doubles (.nested (.binary a .and b)) (.nested (.nested (.binary a .and b)))
  | andLeft {a a' : Expr} (b : Expr) : Doubles a a' → Doubles (.binary a .and b) (.binary a' .and b)
  | andRight (a : Expr) {b b' : Expr} : Doubles b b' → Doubles (.binary a .and b) (.binary a .and b')
  | nested {a a' : Expr} : isConjunction a = true → Doubles a a' → Doubles (.nested a) (.nested a')

variable {e e' : Expr}

/-- Parentheses make no conjunction. -/
theorem Wraps.isConjunction_of (h : e.Wraps e') (hconj : isConjunction e' = true) : isConjunction e = true := by
  cases h with
  | andLeft | andRight => rfl
  | here | orLeft | orRight | nested | not => cases hconj

/-- A conjunction with a second pair of parentheses in it is a conjunction still. -/
theorem Doubles.isConjunction_of (h : e.Doubles e') (hconj : isConjunction e = true) :
    isConjunction e' = true := by
  cases h with
  | andLeft | andRight => rfl
  | here | nested => cases hconj

theorem Wraps.comparisons_eq (h : e.Wraps e') : comparisons e' = comparisons e := by
  induction h with
  | here e => rw [comparisons]
  | andLeft b _ ih | andRight a _ ih | orLeft b _ ih | orRight a _ ih => rw [comparisons, comparisons, ih]
  | nested _ ih | not _ ih => rw [comparisons, comparisons, ih]

theorem Wraps.joinsByOr_eq (h : e.Wraps e') : joinsByOr e' = joinsByOr e := by
  induction h with
  | here e => rw [joinsByOr]
  | andLeft b _ ih | andRight a _ ih => rw [joinsByOr, joinsByOr, ih]
  | orLeft | orRight => rfl
  | nested _ ih | not _ ih => rw [joinsByOr, joinsByOr, ih]

theorem Wraps.connectiveCount_eq (h : e.Wraps e') : connectiveCount e' = connectiveCount e := by
  have hcount := e.connectiveCount_add_one
  have hcount' := e'.connectiveCount_add_one
  have hatoms : e'.atoms.map Prod.snd = e.atoms.map Prod.snd := by
    rw [map_snd_atoms, map_snd_atoms, h.comparisons_eq]
  have hlength := congrArg List.length hatoms
  have hparts := congrArg (fun es => (es.flatMap parts).countP isConnective) hatoms
  simp only [List.length_map, List.flatMap_map] at hlength hparts
  rw [hlength, atomConnectives, hparts, ← atomConnectives, ← hcount] at hcount'
  exact Nat.add_right_cancel hcount'

/-! ## 2. Merged operands -/

/-- The second list is the first one with runs of it merged: each of its expressions has the comparisons of a
run, and an `OR` joins them if one does in the run. -/
inductive Merges : List Expr → List Expr → Prop where
  | nil : Merges [] []
  | cons {run es es' : List Expr} {x : Expr} (someRun : run ≠ [])
      (hcomparisons : comparisons x = run.flatMap comparisons) (hor : joinsByOr x = run.any joinsByOr) :
      Merges es es' → Merges (run ++ es) (x :: es')

/-- The operands of the outermost `AND`s share out the comparisons. -/
theorem flatMap_comparisons_conjuncts (e : Expr) : (conjuncts e).flatMap comparisons = comparisons e := by
  have hshared := congrArg (List.map Prod.snd) e.atoms_eq_flatMap_chunks
  simp only [List.map_flatMap, map_snd_behind, map_snd_atoms] at hshared
  rw [hshared, ← map_snd_chunks, List.flatMap_map]

theorem any_joinsByOr_conjuncts (e : Expr) : (conjuncts e).any joinsByOr = joinsByOr e := by
  induction e using atom_induction with
  | and a b iha ihb => rw [conjuncts, List.any_append, iha, ihb, joinsByOr]
  | or a b => rfl
  | nested a ih =>
    rw [conjuncts]
    split
    · rw [ih, joinsByOr]
    · exact Bool.or_false _
  | not a => exact Bool.or_false _
  | atom e h => simp [conjuncts_of_isAtom h]

namespace Merges

variable {es es' fs fs' : List Expr}

theorem refl (es : List Expr) : Merges es es := by
  induction es with
  | nil => exact .nil
  | cons e es ih => exact .cons (List.cons_ne_nil e []) (by simp) (by simp) ih

theorem append (h : Merges es es') (h' : Merges fs fs') : Merges (es ++ fs) (es' ++ fs') := by
  induction h with
  | nil => exact h'
  | cons hrun hcomparisons hor _ ih =>
    rw [List.append_assoc]
    exact .cons hrun hcomparisons hor ih

/-- All operands of a predicate merged into one. -/
theorem all (hcomparisons : comparisons e' = comparisons e) (hor : joinsByOr e' = joinsByOr e) :
    Merges (conjuncts e) [e'] := by
  have h : Merges (conjuncts e ++ []) [e'] := by
    refine .cons e.conjuncts_ne_nil ?_ ?_ .nil
    · rw [hcomparisons, e.flatMap_comparisons_conjuncts]
    · rw [hor, e.any_joinsByOr_conjuncts]
  rwa [List.append_nil] at h

theorem length_le (h : Merges es es') : es'.length ≤ es.length := by
  induction h with
  | nil => exact Nat.le_refl 0
  | cons hrun _ _ _ ih =>
    have := List.length_pos_iff.2 hrun
    rw [List.length_append, List.length_cons]
    omega

/-- Where no expression is gone, no two are merged. -/
theorem forall₂_of_length_eq (h : Merges es es') (hlength : es'.length = es.length) :
    List.Forall₂ (fun x x' => comparisons x' = comparisons x ∧ joinsByOr x' = joinsByOr x) es es' := by
  induction h with
  | nil => exact .nil
  | @cons run es es' x hrun hcomparisons hor hrest ih =>
    -- no run is empty, so the first one has no more than one expression
    have hle := hrest.length_le
    have hpos := List.length_pos_iff.2 hrun
    rw [List.length_append, List.length_cons] at hlength
    obtain ⟨y, rfl⟩ := List.length_eq_one_iff.1 (show run.length = 1 by omega)
    rw [List.flatMap_singleton] at hcomparisons
    refine .cons ⟨hcomparisons, by simpa using hor⟩ (ih ?_)
    rw [List.length_singleton] at hlength
    omega

/-- What is compared in an operand is compared in the one that it is merged into. -/
theorem exists_sublist (h : Merges es es') : ∀ x ∈ es, ∃ x' ∈ es', (comparisons x).Sublist (comparisons x') := by
  induction h with
  | nil => exact fun x hx => nomatch hx
  | @cons run es es' x' hrun hcomparisons hor _ ih =>
    intro x hx
    rcases List.mem_append.1 hx with hx | hx
    · refine ⟨x', List.mem_cons_self, ?_⟩
      rw [hcomparisons, ← List.flatMap_singleton comparisons x]
      exact (List.singleton_sublist.2 hx).flatMap comparisons
    · obtain ⟨y, hy, hsub⟩ := ih x hx
      exact ⟨y, List.mem_cons_of_mem _ hy, hsub⟩

end Merges

/-- One more pair of parentheses merges operands, if it changes anything. -/
theorem Wraps.merges (h : e.Wraps e') : Merges (conjuncts e) (conjuncts e') := by
  induction h with
  | here e =>
    rw [conjuncts.eq_def (.nested e)]
    dsimp only
    split
    · exact .refl _
    · exact .all rfl rfl
  | andLeft b _ ih =>
    rw [conjuncts, conjuncts]
    exact ih.append (.refl _)
  | andRight a _ ih =>
    rw [conjuncts, conjuncts]
    exact (Merges.refl _).append ih
  | orLeft b h => exact .all (h.orLeft b).comparisons_eq (h.orLeft b).joinsByOr_eq
  | orRight a h => exact .all (h.orRight a).comparisons_eq (h.orRight a).joinsByOr_eq
  | not h => exact .all h.not.comparisons_eq h.not.joinsByOr_eq
  | @nested a a' h ih =>
    by_cases hconj : isConjunction a' = true
    · rw [conjuncts, conjuncts, if_pos (h.isConjunction_of hconj), if_pos hconj]
      exact ih
    · rw [conjuncts.eq_def (.nested a')]
      dsimp only
      rw [if_neg hconj]
      exact .all h.nested.comparisons_eq h.nested.joinsByOr_eq

/-! ## 3. A second pair -/

/-- A conjunction in parentheses becomes one operand in a second pair. -/
theorem Doubles.length_lt (h : e.Doubles e') : (conjuncts e').length < (conjuncts e).length := by
  induction h with
  | here a b =>
    have ha := List.length_pos_iff.2 a.conjuncts_ne_nil
    have hb := List.length_pos_iff.2 b.conjuncts_ne_nil
    simp only [conjuncts, isConjunction, if_true, Bool.false_eq_true, if_false, List.length_append,
      List.length_singleton]
    omega
  | andLeft b _ ih | andRight a _ ih =>
    simp only [conjuncts, List.length_append]
    omega
  | nested hconj h ih => rwa [conjuncts, conjuncts, if_pos hconj, if_pos (h.isConjunction_of hconj)]

/-- An expression is its only operand unless it is a conjunction, with or without parentheses. -/
theorem conjuncts_eq_singleton (hconj : isConjunction e = false)
    (hnested : ∀ a, e = .nested a → isConjunction a = false) : conjuncts e = [e] := by
  unfold conjuncts
  split
  · cases hconj
  · rw [hnested _ rfl]
    rfl
  · rfl

theorem exists_binary_of_isConjunction (h : isConjunction e = true) : ∃ a b, e = .binary a .and b := by
  unfold isConjunction at h
  split at h
  · exact ⟨_, _, rfl⟩
  · cases h

theorem Wraps.length_eq (h : e.Wraps e') (hsingle : ¬ e.Doubles e') :
    (conjuncts e').length = (conjuncts e).length := by
  induction h with
  | here e =>
    cases hconj : isConjunction e with
    | true => simp [conjuncts, hconj]
    | false =>
      rw [conjuncts_eq_singleton hconj, conjuncts_eq_singleton rfl]
      · rfl
      · rintro _ ⟨⟩
        exact hconj
      · rintro a rfl
        rw [← Bool.not_eq_true]
        intro ha
        obtain ⟨x, y, rfl⟩ := exists_binary_of_isConjunction ha
        exact hsingle (.here x y)
  | andLeft b _ ih =>
    rw [conjuncts, conjuncts, List.length_append, List.length_append, ih fun h => hsingle (h.andLeft b)]
  | andRight a _ ih =>
    rw [conjuncts, conjuncts, List.length_append, List.length_append, ih fun h => hsingle (h.andRight a)]
  | orLeft | orRight | not => rfl
  | @nested a a' h ih =>
    by_cases hconj' : isConjunction a' = true
    · have hconj := h.isConjunction_of hconj'
      rw [conjuncts, conjuncts, if_pos hconj, if_pos hconj', ih fun h => hsingle (h.nested hconj)]
    · -- of a conjunction only a pair around the whole makes something else, and here that is a second pair
      have hconj : ¬ isConjunction a = true := by
        intro hconj
        obtain ⟨x, y, rfl⟩ := exists_binary_of_isConjunction hconj
        cases h with
        | here => exact hsingle (.here x y)
        | andLeft | andRight => exact hconj' rfl
      rw [conjuncts, conjuncts, if_neg hconj, if_neg hconj']
      rfl

end Sql.Expr

/-! ## 4. Predicates -/

/-- What a condition tells, but for its text. -/
def Condition.told (c : Condition) : Keyed Nat × Bool := (c.counts, c.hasOr)

/-- Two predicates that tell the same of their columns, but for texts. -/
structure Predicate.Alike (p p' : Predicate) : Prop where
  conditions : p'.conditions.map Condition.told = p.conditions.map Condition.told
  connectives : p'.connectives = p.connectives
  total : p'.total = p.total
  repeatedColumns : p'.repeatedColumns = p.repeatedColumns

section Wrapped

variable (owner : Option String → Option String) {e e' : Expr}

theorem Condition.told_ofExpr (h : comparisons e' = comparisons e) (hor : joinsByOr e' = joinsByOr e) :
    (ofExpr owner e').told = (ofExpr owner e).told := by
  simp only [told, ofExpr, h, hor]

/-- A column is repeated if comparisons mention it twice. -/
theorem Condition.mem_repeatedColumns_ofExpr {key : String} : key ∈ (ofExpr owner e).repeatedColumns ↔
    2 ≤ ((comparisons e).flatMap (comparedColumns owner)).count key := by
  simp only [repeatedColumns, ofExpr, List.mem_map, List.mem_filter, Prod.exists, exists_and_right,
    exists_eq_right, Keyed.mem_entries_iff, Keyed.get?_counted, decide_eq_true_eq]
  constructor
  · rintro ⟨n, hn, htwo⟩
    split at hn
    · rwa [Option.some.inj hn]
    · cases hn
  · intro htwo
    refine ⟨_, if_pos ?_, htwo⟩
    exact List.count_pos_iff.1 (Nat.lt_of_lt_of_le Nat.zero_lt_two htwo)

theorem Predicate.mem_repeatedColumns_ofExpr {key : String} : key ∈ (ofExpr owner e).repeatedColumns ↔
    ∃ x ∈ conjuncts e, key ∈ (Condition.ofExpr owner x).repeatedColumns := by
  simp [repeatedColumns, ofExpr]

/-- Merged conditions repeat the columns that they repeated before. -/
theorem Predicate.repeatedColumns_subset (h : Expr.Merges (conjuncts e) (conjuncts e')) :
    (ofExpr owner e).repeatedColumns ⊆ (ofExpr owner e').repeatedColumns := by
  intro key hkey
  obtain ⟨x, hx, hrepeated⟩ := (mem_repeatedColumns_ofExpr owner).1 hkey
  obtain ⟨x', hx', hsub⟩ := h.exists_sublist x hx
  refine (mem_repeatedColumns_ofExpr owner).2 ⟨x', hx', ?_⟩
  rw [Condition.mem_repeatedColumns_ofExpr] at hrepeated ⊢
  exact Nat.le_trans hrepeated ((hsub.flatMap _).count_le key)

theorem Predicate.repeatedColumns_congr {p p' : Predicate}
    (h : p'.conditions.map Condition.told = p.conditions.map Condition.told) :
    p'.repeatedColumns = p.repeatedColumns := by
  -- a condition needs its counts alone for that
  have hview : ∀ p : Predicate, p.conditions.flatMap Condition.repeatedColumns =
      (p.conditions.map Condition.told).flatMap fun t => Condition.repeatedColumns ⟨"", t.1, t.2⟩ := by
    intro p
    rw [List.flatMap_map]
    rfl
  rw [repeatedColumns, repeatedColumns, hview, hview, h]

theorem Predicate.conditions_of_length_eq (h : e.Wraps e')
    (hlength : (conjuncts e').length = (conjuncts e).length) :
    (ofExpr owner e').conditions.map Condition.told = (ofExpr owner e).conditions.map Condition.told := by
  have hsame := h.merges.forall₂_of_length_eq hlength
  simp only [ofExpr, List.map_map]
  rw [← List.forall₂_eq_eq_eq, List.forall₂_map_left_iff, List.forall₂_map_right_iff]
  exact (hsame.imp fun x x' hx => Condition.told_ofExpr owner hx.1 hx.2).flip

/-- **When parentheses count.** One more pair of parentheses leaves the connectives and the total of a predicate
as they are and every repeated column a repeated one. The conditions tell the same as before unless it is a
second pair around a conjunction between outermost `AND`s; then conditions are merged. -/
theorem Predicate.alike_iff_of_wraps (h : e.Wraps e') :
    (ofExpr owner e').connectives = (ofExpr owner e).connectives ∧
      (ofExpr owner e').total = (ofExpr owner e).total ∧
      (ofExpr owner e).repeatedColumns ⊆ (ofExpr owner e').repeatedColumns ∧
      ((ofExpr owner e).Alike (ofExpr owner e') ↔ ¬ e.Doubles e') ∧
      (e.Doubles e' → (ofExpr owner e').conditions.length < (ofExpr owner e).conditions.length) := by
  have hconnectives : (ofExpr owner e').connectives = (ofExpr owner e).connectives := h.connectiveCount_eq
  have htotal : (ofExpr owner e').total = (ofExpr owner e).total := by
    rw [total, total, isEmpty_ofExpr, isEmpty_ofExpr, hconnectives]
  have hmerged (hdouble : e.Doubles e') :
      (ofExpr owner e').conditions.length < (ofExpr owner e).conditions.length := by
    simpa [ofExpr] using hdouble.length_lt
  refine ⟨hconnectives, htotal, repeatedColumns_subset owner h.merges, ⟨?_, fun hsingle => ?_⟩, hmerged⟩
  · intro halike hdouble
    have hlength := congrArg List.length halike.conditions
    rw [List.length_map, List.length_map] at hlength
    exact absurd hlength (Nat.ne_of_lt (hmerged hdouble))
  · have hconditions := conditions_of_length_eq owner h (h.length_eq hsingle)
    exact ⟨hconditions, hconnectives, htotal, repeatedColumns_congr hconditions⟩

end Wrapped

/-- `paid AND sent` tells the same in one pair of parentheses, but not in two. -/
theorem Predicate.alike_flags :
    let paid : Expr := .column [⟨"paid", .none⟩]
    let sent : Expr := .column [⟨"sent", .none⟩]
    let both : Expr := .binary paid .and sent
    (ofExpr id both).Alike (ofExpr id (.nested both)) ∧
      ¬ (ofExpr id (.nested both)).Alike (ofExpr id (.nested (.nested both))) := by
  intro paid sent both
  obtain ⟨-, -, -, hone, -⟩ := alike_iff_of_wraps id (.here both)
  obtain ⟨-, -, -, htwo, -⟩ := alike_iff_of_wraps id (.here (.nested both))
  refine ⟨hone.2 fun h => ?_, fun halike => htwo.1 halike (.here paid sent)⟩
  exact absurd (h.isConjunction_of rfl) Bool.false_ne_true

/-- The predicate of `WHERE (a = 1 AND a = 2)` has two conditions, and none repeats a column. In a second pair of
parentheses it has one condition, and this one repeats `a`. -/
theorem Predicate.conditions_merged :
    ∃ o b e, Outline.parse .postgres "SELECT id FROM t WHERE (a = 1 AND a = 2)" = .ok o ∧
      o.mainBlock? = some b ∧ b.select.selection = some e ∧ e.Wraps (.nested e) ∧
      (ofExpr id e).conditions.length = 2 ∧ (ofExpr id e).repeatedColumns = [] ∧
      (ofExpr id (.nested e)).conditions.length = 1 ∧ (ofExpr id (.nested e)).repeatedColumns = ["a"] ∧
      ¬ (ofExpr id e).Alike (ofExpr id (.nested e)) := by
  have hseen : ((Outline.parse .postgres "SELECT id FROM t WHERE (a = 1 AND a = 2)").map fun o =>
      o.mainBlock?.bind fun b => b.select.selection.map fun e =>
        (((ofExpr id e).conditions.length, (ofExpr id e).repeatedColumns),
          (ofExpr id (.nested e)).conditions.length, (ofExpr id (.nested e)).repeatedColumns)).toOption =
      some (some ((2, []), 1, ["a"])) := by
    decide +kernel
  obtain ⟨o, ho, hseen⟩ := Outline.exists_parse_eq_ok hseen
  obtain ⟨b, hb, hseen⟩ := Option.bind_eq_some_iff.1 hseen
  obtain ⟨e, he, hseen⟩ := Option.map_eq_some_iff.1 hseen
  simp only [Prod.mk.injEq] at hseen
  obtain ⟨⟨htwo, hnone⟩, hone, hrepeated⟩ := hseen
  refine ⟨o, b, e, ho, hb, he, .here e, htwo, hnone, hone, hrepeated, fun halike => ?_⟩
  have hsame := halike.repeatedColumns
  rw [hnone, hrepeated] at hsame
  cases hsame

end QueryDrill
