import Mathlib.Logic.ExistsUnique
import QueryDrill.Constraint.Query
import QueryDrill.Proofs.Outline.Operations
import QueryDrill.Proofs.Sql.Quantifiers
/-!
Balanced unions.

The tables that the sides of a set operation read do not depend on quantifiers, in the sides or elsewhere
(`SetNode.readsSame_requantified`). So the quantifier that the check wants of a union, `SetNode.balanced`, is
the same in all queries that differ in quantifiers only, and of the ways to set the unions of a query to `ALL`
or to plain exactly one passes, whatever the other operations say (`QueryConstraint.existsUnique_balanced`).
-/

namespace QueryDrill

open Sql

/-! ## 1. Operations of a query with other quantifiers -/

namespace Sql

section Requantified

variable {f : SetNode → SetQuantifier}

/-- The queries that are met are the requantified ones. -/
theorem filterMap_query?_requantified (visits : List Visit) :
    (visits.map (Visit.requantified f)).filterMap Visit.query? =
      (visits.filterMap Visit.query?).map (Query.requantified f) := by
  rw [List.filterMap_map, List.map_filterMap]
  congr 1
  funext v
  cases v <;> rfl

@[simp] theorem tablesAmong_requantified (hidden : List String) (visits : List Visit) :
    tablesAmong hidden (visits.map (Visit.requantified f)) = tablesAmong hidden visits := by
  have hrelations : (visits.map (Visit.requantified f)).filterMap Visit.relation? =
      visits.filterMap Visit.relation? := by
    rw [List.filterMap_map]
    congr 1
    funext v
    cases v <;> rfl
  rw [tablesAmong, tablesAmong, hrelations]

theorem allQueries_requantified (q : Query) :
    allQueries (q.requantified f) = (allQueries q).map (Query.requantified f) := by
  rw [allQueries, allQueries, q.visits_requantified, filterMap_query?_requantified, List.map_cons]

theorem requantifiedCtes_eq_map (cs : List Cte) :
    requantifiedCtes f cs = cs.map fun c => { c with query := c.query.requantified f } := by
  induction cs with
  | nil => rfl
  | cons c cs ih =>
    cases c
    rw [requantifiedCtes, ih, List.map_cons]

@[simp] theorem cteNames_requantified (q : Query) : cteNames (q.requantified f) = cteNames q := by
  rw [cteNames, cteNames, allQueries_requantified, List.flatMap_map]
  refine congrArg (List.flatMap · _) (funext fun p => ?_)
  have hctes : (p.requantified f).ctes = requantifiedCtes f p.ctes := by
    cases p
    rfl
  rw [hctes, requantifiedCtes_eq_map, List.map_map]
  rfl

theorem Body.ownNodes_requantified (b : Body) :
    (b.requantified f).ownNodes = b.ownNodes.map (SetNode.requantified f) := by
  cases b with
  | setOperation op quantifier l r =>
    rw [Body.requantified, Body.ownNodes, Body.ownNodes, l.ownNodes_requantified, r.ownNodes_requantified,
      List.map_cons, List.map_append]
    rfl
  | select | paren | values | table | insert | update | toDirectory => rfl

theorem Query.listedNodes_requantified (q : Query) :
    (q.requantified f).listedNodes = q.listedNodes.map (SetNode.requantified f) := by
  rw [listedNodes, listedNodes, allQueries_requantified, List.flatMap_map, List.map_flatMap]
  refine congrArg (List.flatMap · _) (funext fun p => ?_)
  rw [← Body.ownNodes_requantified]
  cases p
  rfl

/-- An outline lists the operations that are read. -/
theorem Query.mem_listedNodes {q : Query} {n : SetNode} : n ∈ q.listedNodes ↔ n ∈ q.setNodes := by
  obtain ⟨order, hperm, hlisted, -⟩ := q.arranges_listedNodes.exists_order 0
  rw [← hlisted, (hperm.map Prod.fst).mem_iff, List.zipIdx_map_fst]

/-- The operations of a requantified query are the requantified ones. -/
theorem Query.mem_setNodes_requantified {q : Query} {n : SetNode} :
    n ∈ (q.requantified f).setNodes ↔ ∃ m ∈ q.setNodes, m.requantified f = n := by
  rw [← mem_listedNodes, listedNodes_requantified, List.mem_map]
  simp only [mem_listedNodes]

end Requantified

/-! ## 2. Settings of unions -/

/-- Whether the sides of an operation read the same tables. -/
def SetNode.readsSame (hidden : List String) (n : SetNode) : Bool :=
  tablesAmong hidden (n.left.visits true) == tablesAmong hidden (n.right.visits true)

/-- The quantifier of an operation once unions are balanced: a union is plain if its sides read the same tables
and says `ALL` otherwise, what is not a union stays. -/
def SetNode.balanced (hidden : List String) (n : SetNode) : SetQuantifier :=
  if n.operator = .union then if n.readsSame hidden then .none else .all else n.quantifier

/-- A query without the quantifiers of some operations. -/
def Query.plain (which : SetOperator → Bool) (q : Query) : Query :=
  q.requantified fun n => if which n.operator then .none else n.quantifier

/-- A query is another one with each union set to `ALL` or to plain: nothing else differs. -/
structure Query.IsUnionSetting (q p : Query) : Prop where
  alike : p.plain (· == .union) = q.plain (· == .union)
  all_or_plain : ∀ n ∈ p.setNodes, n.operator = .union → n.quantifier = .all ∨ n.quantifier = .none

variable {f : SetNode → SetQuantifier}

@[simp] theorem SetNode.readsSame_requantified (hidden : List String) (n : SetNode) :
    (n.requantified f).readsSame hidden = n.readsSame hidden := by
  rw [readsSame, readsSame, requantified, n.left.visits_requantified, n.right.visits_requantified,
    tablesAmong_requantified, tablesAmong_requantified]

/-- An outline shows an operation with another quantifier in its sides only as it shows the operation. -/
theorem SetNode.operation_requantified {hidden : List String} {n : SetNode} (h : f n = n.quantifier) :
    (n.requantified f).operation hidden = n.operation hidden := by
  simp [operation, requantified, h, Body.visits_requantified]

/-- Which quantifier balances a union does not depend on quantifiers. -/
theorem SetNode.balanced_requantified {hidden : List String} {n : SetNode}
    (h : n.operator ≠ .union → f n = n.quantifier) :
    (n.requantified f).balanced hidden = n.balanced hidden := by
  by_cases hunion : n.operator = .union
  · simp [balanced, hunion]
  · simp [balanced, hunion, h hunion]

/-- Each choice between `ALL` and plain, union by union, is a setting. -/
theorem Query.isUnionSetting_requantified (q : Query)
    (hunions : ∀ n : SetNode, n.operator = .union → f n = .all ∨ f n = .none)
    (hothers : ∀ n : SetNode, n.operator ≠ .union → f n = n.quantifier) :
    q.IsUnionSetting (q.requantified f) where
  alike := by
    rw [plain, requantified_requantified, plain]
    congr 1
    funext n
    by_cases hunion : n.operator = .union
    · simp [hunion]
    · simp [hunion, hothers n hunion]
  all_or_plain n hn hunion := by
    obtain ⟨m, -, rfl⟩ := mem_setNodes_requantified.1 hn
    exact hunions m hunion

/-- With the quantifiers that balance it a query is a setting of its unions. -/
theorem Query.isUnionSetting_balanced (q : Query) (hidden : List String) :
    q.IsUnionSetting (q.requantified (SetNode.balanced hidden)) := by
  refine q.isUnionSetting_requantified (fun n hunion => ?_) fun n hunion => if_neg hunion
  rw [SetNode.balanced, if_pos hunion]
  split
  · exact .inr rfl
  · exact .inl rfl

/-- Balancing a setting of unions balances the query, whatever the setting is. -/
theorem Query.IsUnionSetting.requantified_balanced {q p : Query} (h : q.IsUnionSetting p)
    (hidden : List String) :
    p.requantified (SetNode.balanced hidden) = q.requantified (SetNode.balanced hidden) := by
  have hplain : ∀ r : Query, (r.plain (· == .union)).requantified (SetNode.balanced hidden) =
      r.requantified (SetNode.balanced hidden) := by
    intro r
    rw [plain, requantified_requantified]
    congr 1
    funext n
    exact SetNode.balanced_requantified fun hunion => by simp [hunion]
  rw [← hplain p, h.alike, hplain q]

/-- Settings of unions hide the same names from tables. -/
theorem Query.IsUnionSetting.cteNames_eq {q p : Query} (h : q.IsUnionSetting p) : cteNames p = cteNames q := by
  have hnames := congrArg cteNames h.alike
  rwa [plain, plain, cteNames_requantified, cteNames_requantified] at hnames

end Sql

/-! ## 3. The check -/

namespace QueryConstraint

/-- With unions that say `ALL` or nothing the check passes just if all operations have the quantifiers that
balance the query. -/
theorem checkUnionBalance_eq_none_iff {o : Outline}
    (h : ∀ n ∈ o.query.setNodes, n.operator = .union → n.quantifier = .all ∨ n.quantifier = .none) :
    checkUnionBalance o = none ↔
      ∀ n ∈ o.query.setNodes, n.balanced (cteNames o.query) = n.quantifier := by
  rw [checkUnionBalance, noneOf_eq_none_iff, List.map_eq_nil_iff, List.filter_eq_nil_iff,
    Outline.setOperations_eq, List.forall_mem_map]
  simp only [Query.mem_listedNodes]
  refine forall₂_congr fun n hn => ?_
  -- the two sides that the check compares are those of `readsSame`
  change ¬(_ && (n.operation _).all == n.readsSame _) = true ↔ _
  by_cases hunion : n.operator = .union
  · rcases h n hn hunion with hquantifier | hquantifier <;> cases hsame : n.readsSame (cteNames o.query) <;>
      simp [SetNode.balanced, SetNode.operation, hunion, hquantifier, hsame]
  · simp [SetNode.balanced, SetNode.operation, hunion]

/-- The check reads no quantifier of an operation that is not a union. -/
theorem checkUnionBalance_plain (o : Outline) :
    checkUnionBalance { o with query := o.query.plain (· != .union) } = checkUnionBalance o := by
  rw [checkUnionBalance, checkUnionBalance, Outline.setOperations_eq, Outline.setOperations_eq, Query.plain,
    cteNames_requantified, Query.listedNodes_requantified]
  simp only [List.map_map, List.filter_map]
  have hunions (n : SetNode) (hunion : n.operator = .union) :
      (n.requantified fun m => if m.operator != .union then .none else m.quantifier).operation
          (cteNames o.query) = n.operation (cteNames o.query) :=
    SetNode.operation_requantified (by simp [hunion])
  refine congrArg (noneOf · "; ") ?_
  refine (congrArg (List.map _) (List.filter_congr fun n _ => ?objects)).trans
    (List.map_congr_left fun n hn => ?text)
  case objects =>
    by_cases hunion : n.operator = .union
    · exact congrArg (fun s : SetOperation => s.operator = .union && s.all == (s.left == s.right))
        (hunions n hunion)
    · simp [SetNode.operation, hunion]
  case text =>
    obtain ⟨-, hobjects⟩ := List.mem_filter.1 hn
    obtain ⟨hunion, -⟩ := Bool.and_eq_true_iff.1 hobjects
    exact congrArg SetOperation.text (hunions n (of_decide_eq_true hunion))

/-- **Exactly one way of writing `ALL` balances the unions of a query.** Of all settings of its unions to `ALL`
or to plain one passes the check and no other does. What `INTERSECT` and `EXCEPT` say has no part in it: queries
that differ in that alone pass alike, or fail in the same words. -/
theorem existsUnique_balanced (o : Outline) :
    (∃! p, o.query.IsUnionSetting p ∧ checkUnionBalance { o with query := p } = none) ∧
      ∀ o' : Outline, o'.query.plain (· != .union) = o.query.plain (· != .union) →
        checkUnionBalance o' = checkUnionBalance o := by
  refine ⟨⟨o.query.requantified (SetNode.balanced (cteNames o.query)), ⟨?setting, ?passes⟩, ?unique⟩, ?others⟩
  case setting => exact o.query.isUnionSetting_balanced _
  case passes =>
    refine (checkUnionBalance_eq_none_iff (o.query.isUnionSetting_balanced _).all_or_plain).2 fun n hn => ?_
    obtain ⟨m, -, rfl⟩ := Query.mem_setNodes_requantified.1 hn
    rw [cteNames_requantified, SetNode.quantifier_requantified]
    exact SetNode.balanced_requantified fun hunion => if_neg hunion
  case unique =>
    rintro p ⟨hp, hpasses⟩
    -- `p` has the quantifiers that balance it, so it is what balancing makes of it, and of the query
    have hbalanced := (checkUnionBalance_eq_none_iff hp.all_or_plain).1 hpasses
    rw [← hp.requantified_balanced, ← hp.cteNames_eq]
    exact (Query.requantified_eq_self hbalanced).symm
  case others =>
    intro o' h
    rw [← checkUnionBalance_plain o', ← checkUnionBalance_plain o, h]
    rfl

/-- `SELECT * FROM table` -/
def selectFrom (table : String) : Body :=
  .select ⟨none, none, [.wildcard [] []], none, [⟨.table [⟨table, none⟩] [] none none [], []⟩], [], none, false,
    [], [], [], [], none, [], none⟩

/-- `SELECT * FROM a UNION u SELECT * FROM b EXCEPT e SELECT * FROM a`, for quantifiers `u` and `e` -/
def unionExcept (u e : SetQuantifier) : Outline where
  text := ""
  dialect := .postgres
  query := ⟨false, [],
    .setOperation .except e (.setOperation .union u (selectFrom "a") (selectFrom "b")) (selectFrom "a"), [],
    none, [], none, none, []⟩

/-- The union of `a` and `b` has to say `ALL`, and whether `EXCEPT` says so is not looked at. -/
theorem existsUnique_balanced_letters :
    (∀ p, (unionExcept .none .none).query.IsUnionSetting p →
      checkUnionBalance { unionExcept .none .none with query := p } = none →
        p = (unionExcept .all .none).query) ∧
      checkUnionBalance (unionExcept .none .none) = some "UNION of \x7ba\x7d and \x7bb\x7d" ∧
      checkUnionBalance (unionExcept .none .all) = checkUnionBalance (unionExcept .none .none) := by
  obtain ⟨hunique, hothers⟩ := existsUnique_balanced (unionExcept .none .none)
  refine ⟨fun p hp hpasses => hunique.unique ⟨hp, hpasses⟩ ⟨⟨rfl, ?_⟩, ?_⟩, ?_, hothers _ rfl⟩
  · intro n hn hunion
    obtain rfl | rfl := List.mem_pair.1 (show n ∈ [_, _] from hn)
    · cases hunion
    · exact .inl rfl
  · decide +kernel
  · decide +kernel

end QueryConstraint

end QueryDrill
