import QueryDrill.Proofs.Outline.Scope
import QueryDrill.Proofs.Outline.Selects
import QueryDrill.Proofs.Sql.SetNodes
/-!
Which set operations an outline lists, and in which order.

The outline goes through all queries of a statement and lists the operations of each body at once, before it
goes into nested queries; `Query.setNodes` lists them as they are read. An operation is told by its number in
reading order, where those inside an operation follow it directly. `Arranges` says that a list has each operation
once and none before one that it is inside of. It is kept by putting two lists together the way the outline does
(`Arranges.riffle`), and so the operations of an outline are all that there are, an outer one before those in its
sides (`Outline.setOperations_arranged`).
-/

namespace QueryDrill

open Sql
open scoped List

/-! ## 1. Arrangements -/

/-- Whether an operation is inside another, both with their numbers in reading order. -/
def Encloses (a b : SetNode × Nat) : Prop := a.2 < b.2 ∧ b.2 ≤ a.2 + a.1.inner.length

/-- A list of operations has those that are read, each once, and none before one that it is inside of. -/
structure Arranges (nodes listed : List SetNode) : Prop where
  /-- The operations inside an operation are read directly after it. -/
  inner_prefix : ∀ i n, nodes[i]? = some n → n.inner <+: nodes.drop (i + 1)
  exists_order : ∀ start, ∃ order : List (SetNode × Nat), order ~ nodes.zipIdx start ∧
    order.map Prod.fst = listed ∧ order.Pairwise fun a b => ¬Encloses b a

/-- Two lists, each in two parts, put together part by part. -/
theorem pairwise_riffle {α : Type} {R : α → α → Prop} {a₁ a₂ b₁ b₂ : List α}
    (h₁ : (a₁ ++ b₁).Pairwise R) (h₂ : (a₂ ++ b₂).Pairwise R)
    (hcross : ∀ x ∈ a₁ ++ b₁, ∀ y ∈ a₂ ++ b₂, R x y ∧ R y x) : (a₁ ++ a₂ ++ (b₁ ++ b₂)).Pairwise R := by
  simp only [List.pairwise_append, List.mem_append] at *
  grind

namespace Arranges

theorem nil : Arranges [] [] := ⟨nofun, fun _ => ⟨[], .nil, rfl, .nil⟩⟩

variable {nodes nodes₁ nodes₂ listed listed₁ listed₂ rest₁ rest₂ : List SetNode}

/-- What is inside an operation of a list is in the list. -/
theorem add_length_lt (h : Arranges nodes listed) {start : Nat} {a : SetNode × Nat}
    (ha : a ∈ nodes.zipIdx start) : a.2 + a.1.inner.length < start + nodes.length := by
  obtain ⟨hle, hlt, hget⟩ := List.mem_zipIdx ha
  have hprefix := h.inner_prefix (a.2 - start) a.1 (List.getElem?_eq_some_iff.2 ⟨by omega, hget.symm⟩)
  have := hprefix.length_le
  rw [List.length_drop] at this
  omega

/-- An operation before those inside it. -/
theorem cons {n : SetNode} (h : Arranges n.inner listed) : Arranges (n :: n.inner) (n :: listed) where
  inner_prefix
    | 0, m, hm => by
      obtain rfl : n = m := Option.some.inj hm
      exact List.prefix_rfl
    | i + 1, m, hm => h.inner_prefix i m hm
  exists_order start := by
    obtain ⟨order, hperm, rfl, hpairs⟩ := h.exists_order (start + 1)
    refine ⟨(n, start) :: order, hperm.cons _, rfl, List.pairwise_cons.2 ⟨fun b hb => ?_, hpairs⟩⟩
    have hlt := List.le_snd_of_mem_zipIdx (hperm.mem_iff.1 hb)
    intro henclosed
    have := henclosed.1
    omega

/-- Two arrangements, each in two parts, put together part by part. -/
theorem riffle (h₁ : Arranges nodes₁ (listed₁ ++ rest₁)) (h₂ : Arranges nodes₂ (listed₂ ++ rest₂)) :
    Arranges (nodes₁ ++ nodes₂) (listed₁ ++ listed₂ ++ (rest₁ ++ rest₂)) where
  inner_prefix i n hn := by
    by_cases hi : i < nodes₁.length
    · rw [List.getElem?_append_left hi] at hn
      rw [List.drop_append_of_le_length (by omega)]
      exact (h₁.inner_prefix i n hn).trans (List.prefix_append _ _)
    · rw [List.getElem?_append_right (by omega)] at hn
      rw [List.drop_append, List.drop_eq_nil_of_le (by omega), List.nil_append,
        show i + 1 - nodes₁.length = i - nodes₁.length + 1 by omega]
      exact h₂.inner_prefix _ n hn
  exists_order start := by
    obtain ⟨order₁, hperm₁, hlisted₁, hpairs₁⟩ := h₁.exists_order start
    obtain ⟨order₂, hperm₂, hlisted₂, hpairs₂⟩ := h₂.exists_order (start + nodes₁.length)
    obtain ⟨as₁, bs₁, rfl, rfl, rfl⟩ := List.map_eq_append_iff.1 hlisted₁
    obtain ⟨as₂, bs₂, rfl, rfl, rfl⟩ := List.map_eq_append_iff.1 hlisted₂
    refine ⟨as₁ ++ as₂ ++ (bs₁ ++ bs₂), ?perm, by simp, pairwise_riffle hpairs₁ hpairs₂ ?cross⟩
    case perm =>
      rw [List.zipIdx_append, List.append_assoc]
      refine List.Perm.trans ?_ (hperm₁.append hperm₂)
      rw [List.append_assoc as₁]
      exact (List.perm_append_comm_assoc _ _ _).append_left _
    case cross =>
      intro x hx y hy
      have hx := h₁.add_length_lt (hperm₁.mem_iff.1 hx)
      have hy := List.le_snd_of_mem_zipIdx (hperm₂.mem_iff.1 hy)
      constructor
      · rintro ⟨hlt, -⟩
        omega
      · rintro ⟨-, hle⟩
        omega

theorem append (h₁ : Arranges nodes₁ listed₁) (h₂ : Arranges nodes₂ listed₂) :
    Arranges (nodes₁ ++ nodes₂) (listed₁ ++ listed₂) := by
  rw [← List.append_nil listed₁] at h₁
  rw [← List.append_nil listed₂] at h₂
  simpa only [List.append_nil] using h₁.riffle h₂

theorem flatMap {qs : List Query} {f g : Query → List SetNode} (h : ∀ q ∈ qs, Arranges (f q) (g q)) :
    Arranges (qs.flatMap f) (qs.flatMap g) := by
  induction qs with
  | nil => exact nil
  | cons q qs ih =>
    rw [List.flatMap_cons, List.flatMap_cons]
    exact append (h q List.mem_cons_self) (ih fun p hp => h p (List.mem_cons_of_mem _ hp))

end Arranges

/-! ## 2. Operations as an outline lists them -/

namespace Sql

/-- The set operations of a body outside nested queries, outermost first. -/
def Body.ownNodes : Body → List SetNode
  | .setOperation op quantifier l r => ⟨op, quantifier, l, r⟩ :: (l.ownNodes ++ r.ownNodes)
  | .select _ => []
  | .paren _ => []
  | .values _ => []
  | .table _ => []
  | .insert _ => []
  | .update _ => []
  | .toDirectory .. => []

/-- The set operations of a query in the order in which an outline lists them. -/
def Query.listedNodes (q : Query) : List SetNode := (allQueries q).flatMap fun p => p.body.ownNodes

/-- A set operation as an outline shows it. -/
def SetNode.operation (hidden : List String) (n : SetNode) : SetOperation where
  operator := n.operator
  all := n.quantifier == .all || n.quantifier == .allByName
  left := tablesAmong hidden (n.left.visits true)
  right := tablesAmong hidden (n.right.visits true)

theorem Query.listedNodes_eq (q : Query) :
    q.listedNodes = q.body.ownNodes ++ (queriesAmong (q.visits false)).flatMap Query.listedNodes := by
  rw [listedNodes, allQueries_eq, List.flatMap_cons, List.flatMap_assoc]
  rfl

/-- A body lists its own operations, then those of its nested queries. -/
theorem Body.arranges_ownNodes (b : Body)
    (h : ∀ p ∈ queriesAmong (b.visits false), Arranges p.setNodes p.listedNodes) :
    Arranges b.setNodes (b.ownNodes ++ (queriesAmong (b.visits false)).flatMap Query.listedNodes) := by
  cases b with
  | setOperation op quantifier l r =>
    rw [Body.visits, queriesAmong_append] at h ⊢
    obtain ⟨hl, hr⟩ := List.forall_mem_append.1 h
    rw [Body.setNodes, Body.ownNodes, List.flatMap_append]
    exact .cons ((l.arranges_ownNodes hl).riffle (r.arranges_ownNodes hr))
  | select | paren | values | table | insert | update | toDirectory =>
    rw [Body.setNodes_eq (by simp), Body.ownNodes]
    exact .flatMap h

/-- A query lists the operations of its body, then those of its nested queries, those of its `WITH` list
first. -/
theorem Query.arranges_listedNodes (q : Query) : Arranges q.setNodes q.listedNodes := by
  have ih : ∀ p ∈ queriesAmong (q.visits false), Arranges p.setNodes p.listedNodes := by
    intro p hp
    have := Query.sizeOf_lt_of_mem_visits q (mem_queriesAmong.1 hp)
    exact p.arranges_listedNodes
  rw [visits_shallow, visitsInside, queriesAmong_append, queriesAmong_append, queriesAmong_ctes,
    List.forall_mem_append, List.forall_mem_append] at ih
  obtain ⟨hctes, hbody, htail⟩ := ih
  rw [setNodes_eq, listedNodes_eq, visits_shallow, visitsInside, queriesAmong_append, queriesAmong_append,
    queriesAmong_ctes, List.flatMap_append, List.flatMap_append]
  -- the operations of the body are listed before those of the `WITH` list, which are read first
  have hnamed : Arranges _ ([] ++ (q.ctes.map Cte.query).flatMap listedNodes) := .flatMap hctes
  have hinside := hnamed.riffle (q.body.arranges_ownNodes hbody)
  simpa only [List.nil_append, List.append_assoc, nodesAmong] using hinside.append (.flatMap htail)
termination_by sizeOf q

/-- What is met in a side of an operation is met in the body. -/
theorem Body.mem_visits_of_ownNodes {b : Body} {n : SetNode} {v : Visit} (hn : n ∈ b.ownNodes)
    (hv : v ∈ n.left.visits true ∨ v ∈ n.right.visits true) : v ∈ b.visits true := by
  cases b with
  | setOperation op quantifier l r =>
    rw [Body.visits, List.mem_append]
    rw [Body.ownNodes, List.mem_cons, List.mem_append] at hn
    rcases hn with rfl | hn | hn
    · exact hv
    · exact .inl (l.mem_visits_of_ownNodes hn hv)
    · exact .inr (r.mem_visits_of_ownNodes hn hv)
  | select | paren | values | table | insert | update | toDirectory => simp [Body.ownNodes] at hn

/-- What is met in a side of an operation is met in the query. -/
theorem Query.mem_visits_of_listedNodes {q : Query} {n : SetNode} {v : Visit} (hn : n ∈ q.listedNodes)
    (hv : v ∈ n.left.visits true ∨ v ∈ n.right.visits true) : v ∈ q.visits true := by
  rw [listedNodes_eq, List.mem_append, List.mem_flatMap] at hn
  rcases hn with hn | ⟨p, hp, hn⟩
  · have hbody := q.body.mem_visits_of_ownNodes hn hv
    rw [visits_deep, visits_shallow, visitsInside, List.flatMap_append, List.flatMap_append,
      ← Body.visits_deep]
    exact List.mem_append_right _ (List.mem_append_left _ hbody)
  · have hp := mem_queriesAmong.1 hp
    have := Query.sizeOf_lt_of_mem_visits q hp
    exact mem_visits_of_nested hp (p.mem_visits_of_listedNodes hn hv)
termination_by sizeOf q

end Sql

theorem bodySetOperations_eq (hidden : List String) (b : Body) :
    bodySetOperations hidden b = b.ownNodes.map (SetNode.operation hidden) := by
  cases b with
  | setOperation op quantifier l r =>
    rw [bodySetOperations, Body.ownNodes, List.map_cons, List.map_append, bodySetOperations_eq hidden l,
      bodySetOperations_eq hidden r, SetNode.operation]
  | select | paren | values | table | insert | update | toDirectory => rfl

/-- Fewer things are met in a part, and so fewer tables. -/
theorem tablesAmong_subset {hidden : List String} {visits visits' : List Visit} (h : visits ⊆ visits') :
    tablesAmong hidden visits ⊆ tablesAmong hidden visits' := by
  intro name hname
  obtain ⟨⟨n, hn, hkey⟩, hhidden⟩ := mem_tablesAmong.1 hname
  exact mem_tablesAmong.2 ⟨⟨n, h hn, hkey⟩, hhidden⟩

namespace Outline

theorem setOperations_eq (o : Outline) :
    o.setOperations = o.query.listedNodes.map (SetNode.operation (cteNames o.query)) := by
  rw [setOperations, Query.listedNodes, List.map_flatMap]
  exact congrArg (List.flatMap · _) (funext fun q => bodySetOperations_eq _ q.body)

/-- **An outline lists each set operation once, an outer one before those in its sides.** An operation is listed
with its operator, with whether it says `ALL`, and with the tables that its sides read, which are tables of the
query. The operations in the sides of one are those that are read directly after it. -/
theorem setOperations_arranged (o : Outline) :
    (∃ order : List (SetNode × Nat), order ~ o.query.setNodes.zipIdx ∧
      o.setOperations = order.map (fun n => n.1.operation (cteNames o.query)) ∧
      order.Pairwise fun a b => ¬Encloses b a) ∧
    (∀ i n, o.query.setNodes[i]? = some n → n.inner <+: o.query.setNodes.drop (i + 1)) ∧
    ∀ s ∈ o.setOperations, s.left ⊆ o.tables ∧ s.right ⊆ o.tables := by
  have harranges := o.query.arranges_listedNodes
  refine ⟨?order, harranges.inner_prefix, ?tables⟩
  case order =>
    obtain ⟨order, hperm, hlisted, hpairs⟩ := harranges.exists_order 0
    refine ⟨order, hperm, ?_, hpairs⟩
    rw [setOperations_eq, ← hlisted, List.map_map]
    rfl
  case tables =>
    intro s hs
    rw [setOperations_eq] at hs
    obtain ⟨n, hn, rfl⟩ := List.mem_map.1 hs
    exact ⟨tablesAmong_subset fun v hv => Query.mem_visits_of_listedNodes hn (.inl hv),
      tablesAmong_subset fun v hv => Query.mem_visits_of_listedNodes hn (.inr hv)⟩

end Outline

end QueryDrill
