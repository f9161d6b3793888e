import QueryDrill.Proofs.Sql.Walks
/-!
The set operations of a piece of syntax.

`setNodes` lists all set operations in a piece of syntax as they are read, those of nested queries included: an
operation first, then those in its left side, then those in its right side. It looks into each operand and each
clause by itself and does not use walks. Outside the sides of set operations it finds what stands in the queries
that a shallow walk meets (`Select.setNodes_eq` and its like).
-/

namespace QueryDrill.Sql

/-! ## 1. Operations as they are read -/

/-- A set operation as it stands in a query. -/
structure SetNode where
  operator : SetOperator
  quantifier : SetQuantifier
  left : Body
  right : Body

mutual

/-- The set operations in an expression. -/
def Expr.setNodes : Expr → List SetNode
  | .column _ => []
  | .literal _ => []
  | .nested a => a.setNodes
  | .unary _ a => a.setNodes
  | .binary a _ b => a.setNodes ++ b.setNodes
  | .nullTest _ a => a.setNodes
  | .like _ _ a b _ => a.setNodes ++ b.setNodes
  | .subquery _ q => q.setNodes
  | .inSubquery _ a q => a.setNodes ++ q.setNodes
  | .call _ _ args filter _ window keys =>
    setNodesAll args ++ setNodesOption filter ++ setNodesOption window ++ setNodesKeys keys
  | .choice operand conditions results otherwise =>
    setNodesOption operand ++ setNodesAll conditions ++ setNodesAll results ++ setNodesOption otherwise
  | .trimOf _ what a => a.setNodes ++ what.setNodes
  | .form _ operands => setNodesAll operands

/-- The set operations in expressions. -/
def setNodesAll : List Expr → List SetNode
  | [] => []
  | e :: es => e.setNodes ++ setNodesAll es

/-- The set operations in an optional expression. -/
def setNodesOption : Option Expr → List SetNode
  | none => []
  | some e => e.setNodes

/-- The set operations in sort keys. -/
def setNodesKeys : List SortKey → List SetNode
  | [] => []
  | ⟨e, _⟩ :: ks => e.setNodes ++ setNodesKeys ks

/-- The set operations in a `WITH` list. -/
def setNodesCtes : List Cte → List SetNode
  | [] => []
  | ⟨_, q, _⟩ :: cs => q.setNodes ++ setNodesCtes cs

/-- The set operations in a query. -/
def Query.setNodes : Query → List SetNode
  | ⟨_, ctes, body, orderBy, limit, limitBy, offset, fetch, _⟩ =>
    setNodesCtes ctes ++ body.setNodes ++ setNodesKeys orderBy ++ setNodesOption limit
      ++ setNodesAll limitBy ++ setNodesOption offset ++ setNodesOption fetch

/-- The set operations in a query body. -/
def Body.setNodes : Body → List SetNode
  | .select s => s.setNodes
  | .paren q => q.setNodes
  | .setOperation op quantifier l r => ⟨op, quantifier, l, r⟩ :: (l.setNodes ++ r.setNodes)
  | .values rows => setNodesAll rows
  | .table _ => []
  | .insert i => i.setNodes
  | .update u => u.setNodes
  | .toDirectory _ q => q.setNodes

/-- The set operations in a `SELECT`. -/
def Select.setNodes : Select → List SetNode
  | ⟨distinct, top, projection, _, sources, views, selection, _, groupBy, clusterBy, distributeBy,
      sortBy, having, windows, qualify⟩ =>
    setNodesOption distinct ++ setNodesOption top ++ setNodesItems projection ++ setNodesSources sources
      ++ setNodesAll views ++ setNodesOption selection ++ setNodesAll groupBy ++ setNodesAll clusterBy
      ++ setNodesAll distributeBy ++ setNodesAll sortBy ++ setNodesOption having ++ setNodesAll windows
      ++ setNodesOption qualify

/-- The set operations in a `SELECT` list. -/
def setNodesItems : List SelectItem → List SetNode
  | [] => []
  | .expr e _ :: is => e.setNodes ++ setNodesItems is
  | .wildcard _ options :: is => setNodesAll options ++ setNodesItems is

/-- The set operations in an entry of `FROM`. -/
def FromItem.setNodes : FromItem → List SetNode
  | ⟨relation, joins⟩ => relation.setNodes ++ setNodesJoins joins

/-- The set operations in a `FROM` list. -/
def setNodesSources : List FromItem → List SetNode
  | [] => []
  | s :: ss => s.setNodes ++ setNodesSources ss

/-- The set operations in a source of rows. -/
def TableFactor.setNodes : TableFactor → List SetNode
  | .table _ _ args _ hints => setNodesOption args ++ setNodesAll hints
  | .derived _ q _ => q.setNodes
  | .joined item _ => item.setNodes
  | .computed _ operands _ _ => setNodesAll operands
  | .turned relation _ operands _ => relation.setNodes ++ setNodesAll operands

/-- The set operations in a chain of joins. -/
def setNodesJoins : List Join → List SetNode
  | [] => []
  | ⟨relation, _, constraint⟩ :: js => relation.setNodes ++ constraint.setNodes ++ setNodesJoins js

/-- The set operations in what a join matches rows by. -/
def JoinConstraint.setNodes : JoinConstraint → List SetNode
  | .on e => e.setNodes
  | .using _ => []
  | .natural => []
  | .none => []

/-- The set operations in an insertion. -/
def Insertion.setNodes : Insertion → List SetNode
  | ⟨_, _, _, _, source, partition, _, conflict, returning⟩ =>
    setNodesQuery source ++ setNodesAll partition ++ setNodesAll conflict ++ setNodesItems returning

/-- The set operations in an optional query. -/
def setNodesQuery : Option Query → List SetNode
  | none => []
  | some q => q.setNodes

/-- The set operations in an update. -/
def Update.setNodes : Update → List SetNode
  | ⟨target, assignments, source, selection, returning⟩ =>
    target.setNodes ++ setNodesAll assignments ++ setNodesSource source ++ setNodesOption selection
      ++ setNodesItems returning

/-- The set operations in an optional entry of `FROM`. -/
def setNodesSource : Option FromItem → List SetNode
  | none => []
  | some s => s.setNodes

end

/-- The set operations in the sides of a set operation. -/
def SetNode.inner (n : SetNode) : List SetNode := n.left.setNodes ++ n.right.setNodes

/-! ## 2. Operations in nested queries -/

/-- The set operations in the queries that a walk meets. -/
def nodesAmong (visits : List Visit) : List SetNode := (queriesAmong visits).flatMap Query.setNodes

@[simp] theorem nodesAmong_nil : nodesAmong [] = [] := rfl

@[simp] theorem nodesAmong_expr (e : Expr) (vs : List Visit) :
    nodesAmong (.expr e :: vs) = nodesAmong vs := rfl

@[simp] theorem nodesAmong_relation (n : Name) (vs : List Visit) :
    nodesAmong (.relation n :: vs) = nodesAmong vs := rfl

@[simp] theorem nodesAmong_query (q : Query) (vs : List Visit) :
    nodesAmong (.query q :: vs) = q.setNodes ++ nodesAmong vs := rfl

@[simp] theorem nodesAmong_append (vs ws : List Visit) :
    nodesAmong (vs ++ ws) = nodesAmong vs ++ nodesAmong ws := by
  rw [nodesAmong, queriesAmong_append, List.flatMap_append]
  rfl

mutual

theorem Expr.setNodes_eq (e : Expr) : e.setNodes = nodesAmong (e.visits false) := by
  cases e with
  | column | literal => simp [Expr.setNodes, Expr.visits]
  | nested a | unary _ a | nullTest _ a => simp [Expr.setNodes, Expr.visits, a.setNodes_eq]
  | binary a _ b | like _ _ a b | trimOf _ b a =>
    simp [Expr.setNodes, Expr.visits, a.setNodes_eq, b.setNodes_eq]
  | subquery => simp [Expr.setNodes, Expr.visits]
  | inSubquery _ a => simp [Expr.setNodes, Expr.visits, a.setNodes_eq]
  | call _ _ args filter _ window keys =>
    simp [Expr.setNodes, Expr.visits, setNodesAll_eq args, setNodesOption_eq filter,
      setNodesOption_eq window, setNodesKeys_eq keys]
  | choice operand conditions results otherwise =>
    simp [Expr.setNodes, Expr.visits, setNodesOption_eq operand, setNodesAll_eq conditions,
      setNodesAll_eq results, setNodesOption_eq otherwise]
  | form _ operands => simp [Expr.setNodes, Expr.visits, setNodesAll_eq operands]

theorem setNodesAll_eq (es : List Expr) : setNodesAll es = nodesAmong (visitsAll false es) := by
  cases es with
  | nil => rfl
  | cons e es => simp [setNodesAll, visitsAll, e.setNodes_eq, setNodesAll_eq es]

theorem setNodesOption_eq (e : Option Expr) : setNodesOption e = nodesAmong (visitsOption false e) := by
  cases e with
  | none => rfl
  | some e => simp [setNodesOption, visitsOption, e.setNodes_eq]

theorem setNodesKeys_eq (ks : List SortKey) : setNodesKeys ks = nodesAmong (visitsKeys false ks) := by
  match ks with
  | [] => rfl
  | ⟨e, _⟩ :: ks => simp [setNodesKeys, visitsKeys, e.setNodes_eq, setNodesKeys_eq ks]

end

theorem setNodesItems_eq (is : List SelectItem) : setNodesItems is = nodesAmong (visitsItems false is) := by
  induction is with
  | nil => rfl
  | cons i is ih =>
    cases i with
    | expr e => simp [setNodesItems, visitsItems, e.setNodes_eq, ih]
    | wildcard _ options => simp [setNodesItems, visitsItems, setNodesAll_eq options, ih]

theorem JoinConstraint.setNodes_eq (c : JoinConstraint) : c.setNodes = nodesAmong (c.visits false) := by
  cases c with
  | on e => simp [JoinConstraint.setNodes, JoinConstraint.visits, e.setNodes_eq]
  | «using» | natural | none => simp [JoinConstraint.setNodes, JoinConstraint.visits]

mutual

theorem FromItem.setNodes_eq (i : FromItem) : i.setNodes = nodesAmong (i.visits false) := by
  match i with
  | ⟨relation, joins⟩ =>
    simp [FromItem.setNodes, FromItem.visits, relation.setNodes_eq, setNodesJoins_eq joins]

theorem TableFactor.setNodes_eq (t : TableFactor) : t.setNodes = nodesAmong (t.visits false) := by
  cases t with
  | table => simp [TableFactor.setNodes, TableFactor.visits, setNodesOption_eq, setNodesAll_eq]
  | derived => simp [TableFactor.setNodes, TableFactor.visits]
  | joined item => simp [TableFactor.setNodes, TableFactor.visits, item.setNodes_eq]
  | computed => simp [TableFactor.setNodes, TableFactor.visits, setNodesAll_eq]
  | turned relation =>
    simp [TableFactor.setNodes, TableFactor.visits, relation.setNodes_eq, setNodesAll_eq]

theorem setNodesJoins_eq (js : List Join) : setNodesJoins js = nodesAmong (visitsJoins false js) := by
  match js with
  | [] => rfl
  | ⟨relation, _, constraint⟩ :: js =>
    simp [setNodesJoins, visitsJoins, relation.setNodes_eq, constraint.setNodes_eq, setNodesJoins_eq js]

end

theorem setNodesSources_eq (ss : List FromItem) :
    setNodesSources ss = nodesAmong (visitsSources false ss) := by
  induction ss with
  | nil => rfl
  | cons s ss ih => simp [setNodesSources, visitsSources, s.setNodes_eq, ih]

theorem setNodesQuery_eq (q : Option Query) : setNodesQuery q = nodesAmong (visitsQuery false q) := by
  cases q <;> simp [setNodesQuery, visitsQuery]

theorem setNodesSource_eq (s : Option FromItem) : setNodesSource s = nodesAmong (visitsSource false s) := by
  cases s with
  | none => rfl
  | some s => simp [setNodesSource, visitsSource, s.setNodes_eq]

theorem setNodesCtes_eq (cs : List Cte) : setNodesCtes cs = nodesAmong (visitsCtes false cs) := by
  match cs with
  | [] => rfl
  | ⟨_, q, _⟩ :: cs => simp [setNodesCtes, visitsCtes, setNodesCtes_eq cs]

theorem Select.setNodes_eq (s : Select) : s.setNodes = nodesAmong (s.visits false) := by
  cases s
  simp [Select.setNodes, Select.visits, setNodesOption_eq, setNodesItems_eq, setNodesSources_eq,
    setNodesAll_eq]

theorem Insertion.setNodes_eq (i : Insertion) : i.setNodes = nodesAmong (i.visits false) := by
  cases i
  simp [Insertion.setNodes, Insertion.visits, setNodesQuery_eq, setNodesAll_eq, setNodesItems_eq]

theorem Update.setNodes_eq (u : Update) : u.setNodes = nodesAmong (u.visits false) := by
  cases u
  simp [Update.setNodes, Update.visits, FromItem.setNodes_eq, setNodesAll_eq, setNodesSource_eq,
    setNodesOption_eq, setNodesItems_eq]

/-- Outside the sides of set operations, a body has the set operations of its nested queries. -/
theorem Body.setNodes_eq {b : Body} (h : ∀ op quantifier l r, b ≠ .setOperation op quantifier l r) :
    b.setNodes = nodesAmong (b.visits false) := by
  cases b with
  | setOperation op quantifier l r => exact absurd rfl (h op quantifier l r)
  | select s => simp [Body.setNodes, Body.visits, s.setNodes_eq]
  | paren | toDirectory => simp [Body.setNodes, Body.visits]
  | values rows => simp [Body.setNodes, Body.visits, setNodesAll_eq]
  | table => simp [Body.setNodes, Body.visits]
  | insert i => simp [Body.setNodes, Body.visits, i.setNodes_eq]
  | update u => simp [Body.setNodes, Body.visits, u.setNodes_eq]

/-- The parts of a query: its `WITH` list, its body, its order and its limits. -/
theorem Query.setNodes_eq (q : Query) :
    q.setNodes = (q.ctes.map Cte.query).flatMap Query.setNodes ++ q.body.setNodes
      ++ nodesAmong q.visitsTail := by
  have hctes : setNodesCtes q.ctes = (q.ctes.map Cte.query).flatMap setNodes := by
    rw [setNodesCtes_eq, visitsCtes_shallow, nodesAmong, queriesAmong_ctes]
  rw [← hctes]
  cases q
  simp [Query.setNodes, visitsTail, setNodesKeys_eq, setNodesOption_eq, setNodesAll_eq]

end QueryDrill.Sql
