import QueryDrill.Proofs.Sql.SetNodes
/-!
Set operations with other quantifiers.

`requantified` gives each set operation of a piece of syntax the quantifier that a function has for it and leaves
the rest as it is. A walk meets the same things in the same order, each requantified
(`Query.visits_requantified`), so nothing but the quantifiers changes. One change after another is a single change
(`Query.requantified_requantified`), and a change that gives each operation the quantifier it has is none
(`Query.requantified_eq_self`).
-/

namespace QueryDrill.Sql

/-! ## 1. Pieces of syntax -/

section Requantified

variable (f : SetNode → SetQuantifier)

mutual

/-- An expression with other quantifiers. -/
def Expr.requantified : Expr → Expr
  | .column parts => .column parts
  | .literal v => .literal v
  | .nested a => .nested a.requantified
  | .unary op a => .unary op a.requantified
  | .binary a op b => .binary a.requantified op b.requantified
  | .nullTest negated a => .nullTest negated a.requantified
  | .like kind negated a b escape => .like kind negated a.requantified b.requantified escape
  | .subquery shape q => .subquery shape q.requantified
  | .inSubquery negated a q => .inSubquery negated a.requantified q.requantified
  | .call name shape args filter nulls window keys =>
    .call name shape (requantifiedAll args) (requantifiedOption filter) nulls (requantifiedOption window)
      (requantifiedKeys keys)
  | .choice operand conditions results otherwise =>
    .choice (requantifiedOption operand) (requantifiedAll conditions) (requantifiedAll results)
      (requantifiedOption otherwise)
  | .trimOf side what a => .trimOf side what.requantified a.requantified
  | .form words operands => .form words (requantifiedAll operands)

/-- Expressions with other quantifiers. -/
def requantifiedAll : List Expr → List Expr
  | [] => []
  | e :: es => e.requantified :: requantifiedAll es

/-- An optional expression with other quantifiers. -/
def requantifiedOption : Option Expr → Option Expr
  | none => none
  | some e => some e.requantified

/-- Sort keys with other quantifiers. -/
def requantifiedKeys : List SortKey → List SortKey
  | [] => []
  | ⟨e, order⟩ :: ks => ⟨e.requantified, order⟩ :: requantifiedKeys ks

/-- A `WITH` list with other quantifiers. -/
def requantifiedCtes : List Cte → List Cte
  | [] => []
  | ⟨name, q, source⟩ :: cs => ⟨name, q.requantified, source⟩ :: requantifiedCtes cs

/-- A query with other quantifiers. -/
def Query.requantified : Query → Query
  | ⟨recursive, ctes, body, orderBy, limit, limitBy, offset, fetch, locks⟩ =>
    ⟨recursive, requantifiedCtes ctes, body.requantified, requantifiedKeys orderBy, requantifiedOption limit,
      requantifiedAll limitBy, requantifiedOption offset, requantifiedOption fetch, locks⟩

/-- A query body with other quantifiers. -/
def Body.requantified : Body → Body
  | .select s => .select s.requantified
  | .paren q => .paren q.requantified
  | .setOperation op quantifier l r =>
    .setOperation op (f ⟨op, quantifier, l, r⟩) l.requantified r.requantified
  | .values rows => .values (requantifiedAll rows)
  | .table name => .table name
  | .insert i => .insert i.requantified
  | .update u => .update u.requantified
  | .toDirectory words q => .toDirectory words q.requantified

/-- A `SELECT` with other quantifiers. -/
def Select.requantified : Select → Select
  | ⟨distinct, top, projection, into, sources, views, selection, groupsAll, groupBy, clusterBy, distributeBy,
      sortBy, having, windows, qualify⟩ =>
    ⟨requantifiedOption distinct, requantifiedOption top, requantifiedItems projection, into,
      requantifiedSources sources, requantifiedAll views, requantifiedOption selection, groupsAll,
      requantifiedAll groupBy, requantifiedAll clusterBy, requantifiedAll distributeBy, requantifiedAll sortBy,
      requantifiedOption having, requantifiedAll windows, requantifiedOption qualify⟩

/-- A `SELECT` list with other quantifiers. -/
def requantifiedItems : List SelectItem → List SelectItem
  | [] => []
  | .expr e label :: is => .expr e.requantified label :: requantifiedItems is
  | .wildcard name options :: is => .wildcard name (requantifiedAll options) :: requantifiedItems is

/-- An entry of `FROM` with other quantifiers. -/
def FromItem.requantified : FromItem → FromItem
  | ⟨relation, joins⟩ => ⟨relation.requantified, requantifiedJoins joins⟩

/-- A `FROM` list with other quantifiers. -/
def requantifiedSources : List FromItem → List FromItem
  | [] => []
  | s :: ss => s.requantified :: requantifiedSources ss

/-- A source of rows with other quantifiers. -/
def TableFactor.requantified : TableFactor → TableFactor
  | .table name partitions args label hints =>
    .table name partitions (requantifiedOption args) label (requantifiedAll hints)
  | .derived lateral q label => .derived lateral q.requantified label
  | .joined item label => .joined item.requantified label
  | .computed words operands label rest => .computed words (requantifiedAll operands) label rest
  | .turned relation words operands label =>
    .turned relation.requantified words (requantifiedAll operands) label

/-- A chain of joins with other quantifiers. -/
def requantifiedJoins : List Join → List Join
  | [] => []
  | ⟨relation, operator, constraint⟩ :: js =>
    ⟨relation.requantified, operator, constraint.requantified⟩ :: requantifiedJoins js

/-- What a join matches rows by, with other quantifiers. -/
def JoinConstraint.requantified : JoinConstraint → JoinConstraint
  | .on e => .on e.requantified
  | .using columns => .using columns
  | .natural => .natural
  | .none => .none

/-- An insertion with other quantifiers. -/
def Insertion.requantified : Insertion → Insertion
  | ⟨verb, table, label, columns, source, partition, columnsAfter, conflict, returning⟩ =>
    ⟨verb, table, label, columns, requantifiedQuery source, requantifiedAll partition, columnsAfter,
      requantifiedAll conflict, requantifiedItems returning⟩

/-- An optional query with other quantifiers. -/
def requantifiedQuery : Option Query → Option Query
  | none => none
  | some q => some q.requantified

/-- An update with other quantifiers. -/
def Update.requantified : Update → Update
  | ⟨target, assignments, source, selection, returning⟩ =>
    ⟨target.requantified, requantifiedAll assignments, requantifiedSource source,
      requantifiedOption selection, requantifiedItems returning⟩

/-- An optional entry of `FROM` with other quantifiers. -/
def requantifiedSource : Option FromItem → Option FromItem
  | none => none
  | some s => some s.requantified

end

/-- A set operation with other quantifiers, its own included. -/
def SetNode.requantified (n : SetNode) : SetNode :=
  ⟨n.operator, f n, n.left.requantified f, n.right.requantified f⟩

@[simp] theorem SetNode.operator_requantified (n : SetNode) : (n.requantified f).operator = n.operator := rfl

@[simp] theorem SetNode.quantifier_requantified (n : SetNode) : (n.requantified f).quantifier = f n := rfl

/-- What is met, with other quantifiers. -/
def Visit.requantified : Visit → Visit
  | .expr e => .expr (e.requantified f)
  | .relation n => .relation n
  | .query q => .query (q.requantified f)

end Requantified

/-! ## 2. Walks -/

section Walks

variable (f : SetNode → SetQuantifier) (d : Bool)

/-- A deep walk enters a requantified query where it enters the query. -/
private theorem visits_reentered {q : Query}
    (h : (q.requantified f).visits d = (q.visits d).map (Visit.requantified f)) :
    (if d then (q.requantified f).visits d else []) =
      (if d then q.visits d else []).map (Visit.requantified f) := by
  cases d with
  | false => rfl
  | true => exact h

mutual

theorem Expr.visits_requantified (e : Expr) :
    (e.requantified f).visits d = (e.visits d).map (Visit.requantified f) := by
  cases e with
  | column | literal => simp [Expr.requantified, Expr.visits, Visit.requantified]
  | nested a | unary _ a | nullTest _ a =>
    simp [Expr.requantified, Expr.visits, Visit.requantified, a.visits_requantified]
  | binary a _ b | like _ _ a b | trimOf _ b a =>
    simp [Expr.requantified, Expr.visits, Visit.requantified, a.visits_requantified, b.visits_requantified]
  | subquery _ q =>
    simp [Expr.requantified, Expr.visits, Visit.requantified, visits_reentered f d q.visits_requantified]
  | inSubquery _ a q =>
    simp [Expr.requantified, Expr.visits, Visit.requantified, a.visits_requantified,
      visits_reentered f d q.visits_requantified]
  | call _ _ args filter _ window keys =>
    simp [Expr.requantified, Expr.visits, Visit.requantified, visitsAll_requantified args,
      visitsOption_requantified filter, visitsOption_requantified window, visitsKeys_requantified keys]
  | choice operand conditions results otherwise =>
    simp [Expr.requantified, Expr.visits, Visit.requantified, visitsOption_requantified operand,
      visitsAll_requantified conditions, visitsAll_requantified results, visitsOption_requantified otherwise]
  | form _ operands =>
    simp [Expr.requantified, Expr.visits, Visit.requantified, visitsAll_requantified operands]

theorem visitsAll_requantified (es : List Expr) :
    visitsAll d (requantifiedAll f es) = (visitsAll d es).map (Visit.requantified f) := by
  cases es with
  | nil => rfl
  | cons e es => simp [requantifiedAll, visitsAll, e.visits_requantified, visitsAll_requantified es]

theorem visitsOption_requantified (e : Option Expr) :
    visitsOption d (requantifiedOption f e) = (visitsOption d e).map (Visit.requantified f) := by
  cases e with
  | none => rfl
  | some e => simp [requantifiedOption, visitsOption, e.visits_requantified]

theorem visitsKeys_requantified (ks : List SortKey) :
    visitsKeys d (requantifiedKeys f ks) = (visitsKeys d ks).map (Visit.requantified f) := by
  match ks with
  | [] => rfl
  | ⟨e, _⟩ :: ks => simp [requantifiedKeys, visitsKeys, e.visits_requantified, visitsKeys_requantified ks]

theorem visitsCtes_requantified (cs : List Cte) :
    visitsCtes d (requantifiedCtes f cs) = (visitsCtes d cs).map (Visit.requantified f) := by
  match cs with
  | [] => rfl
  | ⟨_, q, _⟩ :: cs =>
    simp [requantifiedCtes, visitsCtes, Visit.requantified, visits_reentered f d q.visits_requantified,
      visitsCtes_requantified cs]

theorem Query.visits_requantified (q : Query) :
    (q.requantified f).visits d = (q.visits d).map (Visit.requantified f) := by
  match q with
  | ⟨_, ctes, body, orderBy, limit, limitBy, offset, fetch, _⟩ =>
    simp [Query.requantified, Query.visits, visitsCtes_requantified ctes, body.visits_requantified,
      visitsKeys_requantified orderBy, visitsOption_requantified limit, visitsAll_requantified limitBy,
      visitsOption_requantified offset, visitsOption_requantified fetch]

theorem Body.visits_requantified (b : Body) :
    (b.requantified f).visits d = (b.visits d).map (Visit.requantified f) := by
  cases b with
  | select s => simp [Body.requantified, Body.visits, s.visits_requantified]
  | paren q | toDirectory _ q =>
    simp [Body.requantified, Body.visits, Visit.requantified, visits_reentered f d q.visits_requantified]
  | setOperation _ _ l r =>
    simp [Body.requantified, Body.visits, l.visits_requantified, r.visits_requantified]
  | values rows => simp [Body.requantified, Body.visits, visitsAll_requantified rows]
  | table => rfl
  | insert i => simp [Body.requantified, Body.visits, i.visits_requantified]
  | update u => simp [Body.requantified, Body.visits, u.visits_requantified]

theorem Select.visits_requantified (s : Select) :
    (s.requantified f).visits d = (s.visits d).map (Visit.requantified f) := by
  match s with
  | ⟨distinct, top, projection, _, sources, views, selection, _, groupBy, clusterBy, distributeBy, sortBy,
      having, windows, qualify⟩ =>
    simp [Select.requantified, Select.visits, visitsOption_requantified distinct,
      visitsOption_requantified top, visitsItems_requantified projection, visitsSources_requantified sources,
      visitsAll_requantified views, visitsOption_requantified selection, visitsAll_requantified groupBy,
      visitsAll_requantified clusterBy, visitsAll_requantified distributeBy, visitsAll_requantified sortBy,
      visitsOption_requantified having, visitsAll_requantified windows, visitsOption_requantified qualify]

theorem visitsItems_requantified (is : List SelectItem) :
    visitsItems d (requantifiedItems f is) = (visitsItems d is).map (Visit.requantified f) := by
  cases is with
  | nil => rfl
  | cons i is =>
    cases i with
    | expr e => simp [requantifiedItems, visitsItems, e.visits_requantified, visitsItems_requantified is]
    | wildcard _ options =>
      simp [requantifiedItems, visitsItems, visitsAll_requantified options, visitsItems_requantified is]

theorem FromItem.visits_requantified (i : FromItem) :
    (i.requantified f).visits d = (i.visits d).map (Visit.requantified f) := by
  match i with
  | ⟨relation, joins⟩ =>
    simp [FromItem.requantified, FromItem.visits, relation.visits_requantified, visitsJoins_requantified joins]

theorem visitsSources_requantified (ss : List FromItem) :
    visitsSources d (requantifiedSources f ss) = (visitsSources d ss).map (Visit.requantified f) := by
  cases ss with
  | nil => rfl
  | cons s ss => simp [requantifiedSources, visitsSources, s.visits_requantified, visitsSources_requantified ss]

theorem TableFactor.visits_requantified (t : TableFactor) :
    (t.requantified f).visits d = (t.visits d).map (Visit.requantified f) := by
  cases t with
  | table _ _ args _ hints =>
    simp [TableFactor.requantified, TableFactor.visits, Visit.requantified, visitsOption_requantified args,
      visitsAll_requantified hints]
  | derived _ q =>
    simp [TableFactor.requantified, TableFactor.visits, Visit.requantified,
      visits_reentered f d q.visits_requantified]
  | joined item => simp [TableFactor.requantified, TableFactor.visits, item.visits_requantified]
  | computed _ operands => simp [TableFactor.requantified, TableFactor.visits, visitsAll_requantified operands]
  | turned relation _ operands =>
    simp [TableFactor.requantified, TableFactor.visits, relation.visits_requantified,
      visitsAll_requantified operands]

theorem visitsJoins_requantified (js : List Join) :
    visitsJoins d (requantifiedJoins f js) = (visitsJoins d js).map (Visit.requantified f) := by
  match js with
  | [] => rfl
  | ⟨relation, _, constraint⟩ :: js =>
    simp [requantifiedJoins, visitsJoins, relation.visits_requantified, constraint.visits_requantified,
      visitsJoins_requantified js]

theorem JoinConstraint.visits_requantified (c : JoinConstraint) :
    (c.requantified f).visits d = (c.visits d).map (Visit.requantified f) := by
  match c with
  | .on e => simp [JoinConstraint.requantified, JoinConstraint.visits, e.visits_requantified]
  | .using _ | .natural | .none => simp [JoinConstraint.requantified, JoinConstraint.visits]

theorem Insertion.visits_requantified (i : Insertion) :
    (i.requantified f).visits d = (i.visits d).map (Visit.requantified f) := by
  match i with
  | ⟨_, _, _, _, source, partition, _, conflict, returning⟩ =>
    simp [Insertion.requantified, Insertion.visits, Visit.requantified, visitsQuery_requantified source,
      visitsAll_requantified partition, visitsAll_requantified conflict, visitsItems_requantified returning]

theorem visitsQuery_requantified (q : Option Query) :
    visitsQuery d (requantifiedQuery f q) = (visitsQuery d q).map (Visit.requantified f) := by
  cases q with
  | none => rfl
  | some q =>
    simp [requantifiedQuery, visitsQuery, Visit.requantified, visits_reentered f d q.visits_requantified]

theorem Update.visits_requantified (u : Update) :
    (u.requantified f).visits d = (u.visits d).map (Visit.requantified f) := by
  match u with
  | ⟨target, assignments, source, selection, returning⟩ =>
    simp [Update.requantified, Update.visits, target.visits_requantified, visitsAll_requantified assignments,
      visitsSource_requantified source, visitsOption_requantified selection,
      visitsItems_requantified returning]

theorem visitsSource_requantified (s : Option FromItem) :
    visitsSource d (requantifiedSource f s) = (visitsSource d s).map (Visit.requantified f) := by
  cases s with
  | none => rfl
  | some s => simp [requantifiedSource, visitsSource, s.visits_requantified]

end

end Walks

/-! ## 3. One change after another -/

section Comp

variable (f g : SetNode → SetQuantifier)

mutual

theorem Expr.requantified_requantified (e : Expr) :
    (e.requantified f).requantified g = e.requantified fun n => g (n.requantified f) := by
  cases e with
  | column | literal => simp [Expr.requantified]
  | nested a | unary _ a | nullTest _ a => simp [Expr.requantified, a.requantified_requantified]
  | binary a _ b | like _ _ a b | trimOf _ b a =>
    simp [Expr.requantified, a.requantified_requantified, b.requantified_requantified]
  | subquery _ q => simp [Expr.requantified, q.requantified_requantified]
  | inSubquery _ a q => simp [Expr.requantified, a.requantified_requantified, q.requantified_requantified]
  | call _ _ args filter _ window keys =>
    simp [Expr.requantified, requantifiedAll_requantifiedAll args, requantifiedOption_requantifiedOption filter,
      requantifiedOption_requantifiedOption window, requantifiedKeys_requantifiedKeys keys]
  | choice operand conditions results otherwise =>
    simp [Expr.requantified, requantifiedOption_requantifiedOption operand,
      requantifiedAll_requantifiedAll conditions, requantifiedAll_requantifiedAll results,
      requantifiedOption_requantifiedOption otherwise]
  | form _ operands => simp [Expr.requantified, requantifiedAll_requantifiedAll operands]

theorem requantifiedAll_requantifiedAll (es : List Expr) :
    requantifiedAll g (requantifiedAll f es) = requantifiedAll (fun n => g (n.requantified f)) es := by
  cases es with
  | nil => rfl
  | cons e es => simp [requantifiedAll, e.requantified_requantified, requantifiedAll_requantifiedAll es]

theorem requantifiedOption_requantifiedOption (e : Option Expr) :
    requantifiedOption g (requantifiedOption f e) = requantifiedOption (fun n => g (n.requantified f)) e := by
  cases e with
  | none => rfl
  | some e => simp [requantifiedOption, e.requantified_requantified]

theorem requantifiedKeys_requantifiedKeys (ks : List SortKey) :
    requantifiedKeys g (requantifiedKeys f ks) = requantifiedKeys (fun n => g (n.requantified f)) ks := by
  match ks with
  | [] => rfl
  | ⟨e, _⟩ :: ks =>
    simp [requantifiedKeys, e.requantified_requantified, requantifiedKeys_requantifiedKeys ks]

theorem requantifiedCtes_requantifiedCtes (cs : List Cte) :
    requantifiedCtes g (requantifiedCtes f cs) = requantifiedCtes (fun n => g (n.requantified f)) cs := by
  match cs with
  | [] => rfl
  | ⟨_, q, _⟩ :: cs =>
    simp [requantifiedCtes, q.requantified_requantified, requantifiedCtes_requantifiedCtes cs]

theorem Query.requantified_requantified (q : Query) :
    (q.requantified f).requantified g = q.requantified fun n => g (n.requantified f) := by
  match q with
  | ⟨_, ctes, body, orderBy, limit, limitBy, offset, fetch, _⟩ =>
    simp [Query.requantified, requantifiedCtes_requantifiedCtes ctes, body.requantified_requantified,
      requantifiedKeys_requantifiedKeys orderBy, requantifiedOption_requantifiedOption limit,
      requantifiedAll_requantifiedAll limitBy, requantifiedOption_requantifiedOption offset,
      requantifiedOption_requantifiedOption fetch]

theorem Body.requantified_requantified (b : Body) :
    (b.requantified f).requantified g = b.requantified fun n => g (n.requantified f) := by
  cases b with
  | select s => simp [Body.requantified, s.requantified_requantified]
  | paren q | toDirectory _ q => simp [Body.requantified, q.requantified_requantified]
  | setOperation _ _ l r =>
    simp [Body.requantified, SetNode.requantified, l.requantified_requantified, r.requantified_requantified]
  | values rows => simp [Body.requantified, requantifiedAll_requantifiedAll rows]
  | table => rfl
  | insert i => simp [Body.requantified, i.requantified_requantified]
  | update u => simp [Body.requantified, u.requantified_requantified]

theorem Select.requantified_requantified (s : Select) :
    (s.requantified f).requantified g = s.requantified fun n => g (n.requantified f) := by
  match s with
  | ⟨distinct, top, projection, _, sources, views, selection, _, groupBy, clusterBy, distributeBy, sortBy,
      having, windows, qualify⟩ =>
    simp [Select.requantified, requantifiedOption_requantifiedOption distinct,
      requantifiedOption_requantifiedOption top, requantifiedItems_requantifiedItems projection,
      requantifiedSources_requantifiedSources sources, requantifiedAll_requantifiedAll views,
      requantifiedOption_requantifiedOption selection, requantifiedAll_requantifiedAll groupBy,
      requantifiedAll_requantifiedAll clusterBy, requantifiedAll_requantifiedAll distributeBy,
      requantifiedAll_requantifiedAll sortBy, requantifiedOption_requantifiedOption having,
      requantifiedAll_requantifiedAll windows, requantifiedOption_requantifiedOption qualify]

theorem requantifiedItems_requantifiedItems (is : List SelectItem) :
    requantifiedItems g (requantifiedItems f is) = requantifiedItems (fun n => g (n.requantified f)) is := by
  cases is with
  | nil => rfl
  | cons i is =>
    cases i with
    | expr e => simp [requantifiedItems, e.requantified_requantified, requantifiedItems_requantifiedItems is]
    | wildcard _ options =>
      simp [requantifiedItems, requantifiedAll_requantifiedAll options, requantifiedItems_requantifiedItems is]

theorem FromItem.requantified_requantified (i : FromItem) :
    (i.requantified f).requantified g = i.requantified fun n => g (n.requantified f) := by
  match i with
  | ⟨relation, joins⟩ =>
    simp [FromItem.requantified, relation.requantified_requantified, requantifiedJoins_requantifiedJoins joins]

theorem requantifiedSources_requantifiedSources (ss : List FromItem) :
    requantifiedSources g (requantifiedSources f ss) =
      requantifiedSources (fun n => g (n.requantified f)) ss := by
  cases ss with
  | nil => rfl
  | cons s ss =>
    simp [requantifiedSources, s.requantified_requantified, requantifiedSources_requantifiedSources ss]

theorem TableFactor.requantified_requantified (t : TableFactor) :
    (t.requantified f).requantified g = t.requantified fun n => g (n.requantified f) := by
  cases t with
  | table _ _ args _ hints =>
    simp [TableFactor.requantified, requantifiedOption_requantifiedOption args,
      requantifiedAll_requantifiedAll hints]
  | derived _ q => simp [TableFactor.requantified, q.requantified_requantified]
  | joined item => simp [TableFactor.requantified, item.requantified_requantified]
  | computed _ operands => simp [TableFactor.requantified, requantifiedAll_requantifiedAll operands]
  | turned relation _ operands =>
    simp [TableFactor.requantified, relation.requantified_requantified,
      requantifiedAll_requantifiedAll operands]

theorem requantifiedJoins_requantifiedJoins (js : List Join) :
    requantifiedJoins g (requantifiedJoins f js) = requantifiedJoins (fun n => g (n.requantified f)) js := by
  match js with
  | [] => rfl
  | ⟨relation, _, constraint⟩ :: js =>
    simp [requantifiedJoins, relation.requantified_requantified, constraint.requantified_requantified,
      requantifiedJoins_requantifiedJoins js]

theorem JoinConstraint.requantified_requantified (c : JoinConstraint) :
    (c.requantified f).requantified g = c.requantified fun n => g (n.requantified f) := by
  match c with
  | .on e => simp [JoinConstraint.requantified, e.requantified_requantified]
  | .using _ | .natural | .none => simp [JoinConstraint.requantified]

theorem Insertion.requantified_requantified (i : Insertion) :
    (i.requantified f).requantified g = i.requantified fun n => g (n.requantified f) := by
  match i with
  | ⟨_, _, _, _, source, partition, _, conflict, returning⟩ =>
    simp [Insertion.requantified, requantifiedQuery_requantifiedQuery source,
      requantifiedAll_requantifiedAll partition, requantifiedAll_requantifiedAll conflict,
      requantifiedItems_requantifiedItems returning]

theorem requantifiedQuery_requantifiedQuery (q : Option Query) :
    requantifiedQuery g (requantifiedQuery f q) = requantifiedQuery (fun n => g (n.requantified f)) q := by
  cases q with
  | none => rfl
  | some q => simp [requantifiedQuery, q.requantified_requantified]

theorem Update.requantified_requantified (u : Update) :
    (u.requantified f).requantified g = u.requantified fun n => g (n.requantified f) := by
  match u with
  | ⟨target, assignments, source, selection, returning⟩ =>
    simp [Update.requantified, target.requantified_requantified, requantifiedAll_requantifiedAll assignments,
      requantifiedSource_requantifiedSource source, requantifiedOption_requantifiedOption selection,
      requantifiedItems_requantifiedItems returning]

theorem requantifiedSource_requantifiedSource (s : Option FromItem) :
    requantifiedSource g (requantifiedSource f s) = requantifiedSource (fun n => g (n.requantified f)) s := by
  cases s with
  | none => rfl
  | some s => simp [requantifiedSource, s.requantified_requantified]

end

end Comp

/-! ## 4. No change -/

section Id

variable {f : SetNode → SetQuantifier}

mutual

theorem Expr.requantified_eq_self {e : Expr} (h : ∀ n ∈ e.setNodes, f n = n.quantifier) :
    e.requantified f = e := by
  cases e with
  | column | literal => simp [Expr.requantified]
  | nested a | unary _ a | nullTest _ a =>
    rw [Expr.setNodes] at h
    rw [Expr.requantified, a.requantified_eq_self h]
  | binary a _ b | like _ _ a b | trimOf _ b a =>
    simp only [Expr.setNodes, List.forall_mem_append] at h
    rw [Expr.requantified, a.requantified_eq_self h.1, b.requantified_eq_self h.2]
  | subquery _ q =>
    rw [Expr.setNodes] at h
    rw [Expr.requantified, q.requantified_eq_self h]
  | inSubquery _ a q =>
    simp only [Expr.setNodes, List.forall_mem_append] at h
    rw [Expr.requantified, a.requantified_eq_self h.1, q.requantified_eq_self h.2]
  | call _ _ args filter _ window keys =>
    simp only [Expr.setNodes, List.forall_mem_append] at h
    obtain ⟨⟨⟨hargs, hfilter⟩, hwindow⟩, hkeys⟩ := h
    rw [Expr.requantified, requantifiedAll_eq_self hargs, requantifiedOption_eq_self hfilter,
      requantifiedOption_eq_self hwindow, requantifiedKeys_eq_self hkeys]
  | choice operand conditions results otherwise =>
    simp only [Expr.setNodes, List.forall_mem_append] at h
    obtain ⟨⟨⟨hoperand, hconditions⟩, hresults⟩, hotherwise⟩ := h
    rw [Expr.requantified, requantifiedOption_eq_self hoperand, requantifiedAll_eq_self hconditions,
      requantifiedAll_eq_self hresults, requantifiedOption_eq_self hotherwise]
  | form _ operands =>
    rw [Expr.setNodes] at h
    rw [Expr.requantified, requantifiedAll_eq_self h]

theorem requantifiedAll_eq_self {es : List Expr} (h : ∀ n ∈ setNodesAll es, f n = n.quantifier) :
    requantifiedAll f es = es := by
  cases es with
  | nil => rfl
  | cons e es =>
    simp only [setNodesAll, List.forall_mem_append] at h
    rw [requantifiedAll, e.requantified_eq_self h.1, requantifiedAll_eq_self h.2]

theorem requantifiedOption_eq_self {e : Option Expr} (h : ∀ n ∈ setNodesOption e, f n = n.quantifier) :
    requantifiedOption f e = e := by
  cases e with
  | none => rfl
  | some e =>
    rw [setNodesOption] at h
    rw [requantifiedOption, e.requantified_eq_self h]

theorem requantifiedKeys_eq_self {ks : List SortKey} (h : ∀ n ∈ setNodesKeys ks, f n = n.quantifier) :
    requantifiedKeys f ks = ks := by
  match ks with
  | [] => rfl
  | ⟨e, _⟩ :: ks =>
    simp only [setNodesKeys, List.forall_mem_append] at h
    rw [requantifiedKeys, e.requantified_eq_self h.1, requantifiedKeys_eq_self h.2]

theorem requantifiedCtes_eq_self {cs : List Cte} (h : ∀ n ∈ setNodesCtes cs, f n = n.quantifier) :
    requantifiedCtes f cs = cs := by
  match cs with
  | [] => rfl
  | ⟨_, q, _⟩ :: cs =>
    simp only [setNodesCtes, List.forall_mem_append] at h
    rw [requantifiedCtes, q.requantified_eq_self h.1, requantifiedCtes_eq_self h.2]

theorem Query.requantified_eq_self {q : Query} (h : ∀ n ∈ q.setNodes, f n = n.quantifier) :
    q.requantified f = q := by
  match q with
  | ⟨_, ctes, body, orderBy, limit, limitBy, offset, fetch, _⟩ =>
    simp only [Query.setNodes, List.forall_mem_append] at h
    obtain ⟨⟨⟨⟨⟨⟨hctes, hbody⟩, horderBy⟩, hlimit⟩, hlimitBy⟩, hoffset⟩, hfetch⟩ := h
    rw [Query.requantified, requantifiedCtes_eq_self hctes, body.requantified_eq_self hbody,
      requantifiedKeys_eq_self horderBy, requantifiedOption_eq_self hlimit, requantifiedAll_eq_self hlimitBy,
      requantifiedOption_eq_self hoffset, requantifiedOption_eq_self hfetch]

theorem Body.requantified_eq_self {b : Body} (h : ∀ n ∈ b.setNodes, f n = n.quantifier) :
    b.requantified f = b := by
  cases b with
  | select s =>
    rw [Body.setNodes] at h
    rw [Body.requantified, s.requantified_eq_self h]
  | paren q | toDirectory _ q =>
    rw [Body.setNodes] at h
    rw [Body.requantified, q.requantified_eq_self h]
  | setOperation op quantifier l r =>
    simp only [Body.setNodes, List.forall_mem_cons, List.forall_mem_append] at h
    obtain ⟨hown, hl, hr⟩ := h
    rw [Body.requantified, hown, l.requantified_eq_self hl, r.requantified_eq_self hr]
  | values rows =>
    rw [Body.setNodes] at h
    rw [Body.requantified, requantifiedAll_eq_self h]
  | table => rfl
  | insert i =>
    rw [Body.setNodes] at h
    rw [Body.requantified, i.requantified_eq_self h]
  | update u =>
    rw [Body.setNodes] at h
    rw [Body.requantified, u.requantified_eq_self h]

theorem Select.requantified_eq_self {s : Select} (h : ∀ n ∈ s.setNodes, f n = n.quantifier) :
    s.requantified f = s := by
  match s with
  | ⟨distinct, top, projection, _, sources, views, selection, _, groupBy, clusterBy, distributeBy, sortBy,
      having, windows, qualify⟩ =>
    simp only [Select.setNodes, List.forall_mem_append] at h
    obtain ⟨⟨⟨⟨⟨⟨⟨⟨⟨⟨⟨⟨hdistinct, htop⟩, hprojection⟩, hsources⟩, hviews⟩, hselection⟩, hgroupBy⟩,
      hclusterBy⟩, hdistributeBy⟩, hsortBy⟩, hhaving⟩, hwindows⟩, hqualify⟩ := h
    rw [Select.requantified, requantifiedOption_eq_self hdistinct, requantifiedOption_eq_self htop,
      requantifiedItems_eq_self hprojection, requantifiedSources_eq_self hsources,
      requantifiedAll_eq_self hviews, requantifiedOption_eq_self hselection, requantifiedAll_eq_self hgroupBy,
      requantifiedAll_eq_self hclusterBy, requantifiedAll_eq_self hdistributeBy,
      requantifiedAll_eq_self hsortBy, requantifiedOption_eq_self hhaving, requantifiedAll_eq_self hwindows,
      requantifiedOption_eq_self hqualify]

theorem requantifiedItems_eq_self {is : List SelectItem} (h : ∀ n ∈ setNodesItems is, f n = n.quantifier) :
    requantifiedItems f is = is := by
  cases is with
  | nil => rfl
  | cons i is =>
    cases i with
    | expr e =>
      simp only [setNodesItems, List.forall_mem_append] at h
      rw [requantifiedItems, e.requantified_eq_self h.1, requantifiedItems_eq_self h.2]
    | wildcard _ options =>
      simp only [setNodesItems, List.forall_mem_append] at h
      rw [requantifiedItems, requantifiedAll_eq_self h.1, requantifiedItems_eq_self h.2]

theorem FromItem.requantified_eq_self {i : FromItem} (h : ∀ n ∈ i.setNodes, f n = n.quantifier) :
    i.requantified f = i := by
  match i with
  | ⟨relation, joins⟩ =>
    simp only [FromItem.setNodes, List.forall_mem_append] at h
    rw [FromItem.requantified, relation.requantified_eq_self h.1, requantifiedJoins_eq_self h.2]

theorem requantifiedSources_eq_self {ss : List FromItem} (h : ∀ n ∈ setNodesSources ss, f n = n.quantifier) :
    requantifiedSources f ss = ss := by
  cases ss with
  | nil => rfl
  | cons s ss =>
    simp only [setNodesSources, List.forall_mem_append] at h
    rw [requantifiedSources, s.requantified_eq_self h.1, requantifiedSources_eq_self h.2]

theorem TableFactor.requantified_eq_self {t : TableFactor} (h : ∀ n ∈ t.setNodes, f n = n.quantifier) :
    t.requantified f = t := by
  cases t with
  | table _ _ args _ hints =>
    simp only [TableFactor.setNodes, List.forall_mem_append] at h
    rw [TableFactor.requantified, requantifiedOption_eq_self h.1, requantifiedAll_eq_self h.2]
  | derived _ q =>
    rw [TableFactor.setNodes] at h
    rw [TableFactor.requantified, q.requantified_eq_self h]
  | joined item =>
    rw [TableFactor.setNodes] at h
    rw [TableFactor.requantified, item.requantified_eq_self h]
  | computed _ operands =>
    rw [TableFactor.setNodes] at h
    rw [TableFactor.requantified, requantifiedAll_eq_self h]
  | turned relation _ operands =>
    simp only [TableFactor.setNodes, List.forall_mem_append] at h
    rw [TableFactor.requantified, relation.requantified_eq_self h.1, requantifiedAll_eq_self h.2]

theorem requantifiedJoins_eq_self {js : List Join} (h : ∀ n ∈ setNodesJoins js, f n = n.quantifier) :
    requantifiedJoins f js = js := by
  match js with
  | [] => rfl
  | ⟨relation, _, constraint⟩ :: js =>
    simp only [setNodesJoins, List.forall_mem_append] at h
    obtain ⟨⟨hrelation, hconstraint⟩, hjs⟩ := h
    rw [requantifiedJoins, relation.requantified_eq_self hrelation, constraint.requantified_eq_self hconstraint,
      requantifiedJoins_eq_self hjs]

theorem JoinConstraint.requantified_eq_self {c : JoinConstraint} (h : ∀ n ∈ c.setNodes, f n = n.quantifier) :
    c.requantified f = c := by
  match c with
  | .on e =>
    rw [JoinConstraint.setNodes] at h
    rw [JoinConstraint.requantified, e.requantified_eq_self h]
  | .using _ | .natural | .none => rfl

theorem Insertion.requantified_eq_self {i : Insertion} (h : ∀ n ∈ i.setNodes, f n = n.quantifier) :
    i.requantified f = i := by
  match i with
  | ⟨_, _, _, _, source, partition, _, conflict, returning⟩ =>
    simp only [Insertion.setNodes, List.forall_mem_append] at h
    obtain ⟨⟨⟨hsource, hpartition⟩, hconflict⟩, hreturning⟩ := h
    rw [Insertion.requantified, requantifiedQuery_eq_self hsource, requantifiedAll_eq_self hpartition,
      requantifiedAll_eq_self hconflict, requantifiedItems_eq_self hreturning]

theorem requantifiedQuery_eq_self {q : Option Query} (h : ∀ n ∈ setNodesQuery q, f n = n.quantifier) :
    requantifiedQuery f q = q := by
  cases q with
  | none => rfl
  | some q =>
    rw [setNodesQuery] at h
    rw [requantifiedQuery, q.requantified_eq_self h]

theorem Update.requantified_eq_self {u : Update} (h : ∀ n ∈ u.setNodes, f n = n.quantifier) :
    u.requantified f = u := by
  match u with
  | ⟨target, assignments, source, selection, returning⟩ =>
    simp only [Update.setNodes, List.forall_mem_append] at h
    obtain ⟨⟨⟨⟨htarget, hassignments⟩, hsource⟩, hselection⟩, hreturning⟩ := h
    rw [Update.requantified, target.requantified_eq_self htarget, requantifiedAll_eq_self hassignments,
      requantifiedSource_eq_self hsource, requantifiedOption_eq_self hselection,
      requantifiedItems_eq_self hreturning]

theorem requantifiedSource_eq_self {s : Option FromItem} (h : ∀ n ∈ setNodesSource s, f n = n.quantifier) :
    requantifiedSource f s = s := by
  cases s with
  | none => rfl
  | some s =>
    rw [setNodesSource] at h
    rw [requantifiedSource, s.requantified_eq_self h]

end

end Id

end QueryDrill.Sql
