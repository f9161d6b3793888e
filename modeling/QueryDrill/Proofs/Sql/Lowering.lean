import QueryDrill.Outline.Reference
import QueryDrill.Proofs.Text.Case
/-!
Statements with their names in lower case.

`lowered` puts every name of a piece of syntax in lower case and takes away its quotes. It leaves out the fixed
words of a form and the texts that a clause is kept as, because names can stand in them too: `OVER w` is a
form, and `TABLE b` a body, with a name in its words. Two pieces with one lowered form differ in no more than
the case of names and in such texts.

A walk over a lowered piece meets the same things in the same order, each lowered (`Query.visits_lowered`);
what a name is compared by stays the same (`Name.key_lowered`), since lower case is stable.
-/

namespace QueryDrill.Sql

open Text

/-! ## 1. Names -/

/-- A name as it is compared. -/
def Ident.lowered (i : Ident) : Ident := ⟨lower i.value, none⟩

@[simp] theorem Ident.lower_value_lowered (i : Ident) : lower i.lowered.value = lower i.value :=
  lower_lower i.value

/-- A name in parts, each as it is compared. -/
def Name.lowered (n : Name) : Name := n.map Ident.lowered

/-- A name with column names, each as it is compared. -/
def TableAlias.lowered (a : TableAlias) : TableAlias := ⟨a.name.lowered, a.columns.map Ident.lowered⟩

@[simp] theorem Name.isEmpty_lowered (n : Name) : n.lowered.isEmpty = n.isEmpty := List.isEmpty_map

@[simp] theorem Name.key_lowered (n : Name) : n.lowered.key = n.key := by
  unfold key lowered
  rw [List.getLast?_map]
  cases n.getLast? <;> simp

/-! ## 2. Expressions and queries -/

mutual

/-- An expression with its names in lower case. -/
def Expr.lowered : Expr → Expr
  | .column parts => .column (Name.lowered parts)
  | .literal v => .literal v
  | .nested a => .nested a.lowered
  | .unary op a => .unary op a.lowered
  | .binary a op b => .binary a.lowered op b.lowered
  | .nullTest negated a => .nullTest negated a.lowered
  | .like kind negated a b escape => .like kind negated a.lowered b.lowered escape
  | .subquery shape q => .subquery shape q.lowered
  | .inSubquery negated a q => .inSubquery negated a.lowered q.lowered
  | .call name shape args filter _ window keys =>
    .call (Name.lowered name) shape (loweredAll args) (loweredOption filter) "" (loweredOption window)
      (loweredKeys keys)
  | .choice operand conditions results otherwise =>
    .choice (loweredOption operand) (loweredAll conditions) (loweredAll results) (loweredOption otherwise)
  | .trimOf _ what a => .trimOf "" what.lowered a.lowered
  | .form _ operands => .form [] (loweredAll operands)

/-- Expressions with their names in lower case. -/
def loweredAll : List Expr → List Expr
  | [] => []
  | e :: es => e.lowered :: loweredAll es

/-- An optional expression with its names in lower case. -/
def loweredOption : Option Expr → Option Expr
  | none => none
  | some e => some e.lowered

/-- Sort keys with their names in lower case. -/
def loweredKeys : List SortKey → List SortKey
  | [] => []
  | ⟨e, order⟩ :: ks => ⟨e.lowered, order⟩ :: loweredKeys ks

/-- A `WITH` list with its names in lower case. -/
def loweredCtes : List Cte → List Cte
  | [] => []
  | ⟨name, q, source⟩ :: cs => ⟨name.lowered, q.lowered, source.map Ident.lowered⟩ :: loweredCtes cs

/-- A query with its names in lower case. -/
def Query.lowered : Query → Query
  | ⟨recursive, ctes, body, orderBy, limit, limitBy, offset, fetch, _⟩ =>
    ⟨recursive, loweredCtes ctes, body.lowered, loweredKeys orderBy, loweredOption limit,
      loweredAll limitBy, loweredOption offset, loweredOption fetch, []⟩

/-- A query body with its names in lower case. -/
def Body.lowered : Body → Body
  | .select s => .select s.lowered
  | .paren q => .paren q.lowered
  | .setOperation op quantifier l r => .setOperation op quantifier l.lowered r.lowered
  | .values rows => .values (loweredAll rows)
  | .table _ => .table ""
  | .insert i => .insert i.lowered
  | .update u => .update u.lowered
  | .toDirectory _ q => .toDirectory "" q.lowered

/-- A `SELECT` with its names in lower case. -/
def Select.lowered : Select → Select
  | ⟨distinct, top, projection, _, sources, views, selection, groupsAll, groupBy, clusterBy, distributeBy,
      sortBy, having, windows, qualify⟩ =>
    ⟨loweredOption distinct, loweredOption top, loweredItems projection, none, loweredSources sources,
      loweredAll views, loweredOption selection, groupsAll, loweredAll groupBy, loweredAll clusterBy,
      loweredAll distributeBy, loweredAll sortBy, loweredOption having, loweredAll windows,
      loweredOption qualify⟩

/-- A `SELECT` list with its names in lower case. -/
def loweredItems : List SelectItem → List SelectItem
  | [] => []
  | .expr e label :: is => .expr e.lowered (label.map Ident.lowered) :: loweredItems is
  | .wildcard name options :: is => .wildcard (Name.lowered name) (loweredAll options) :: loweredItems is

/-- An entry of `FROM` with its names in lower case. -/
def FromItem.lowered : FromItem → FromItem
  | ⟨relation, joins⟩ => ⟨relation.lowered, loweredJoins joins⟩

/-- A `FROM` list with its names in lower case. -/
def loweredSources : List FromItem → List FromItem
  | [] => []
  | s :: ss => s.lowered :: loweredSources ss

/-- A source of rows with its names in lower case. -/
def TableFactor.lowered : TableFactor → TableFactor
  | .table name partitions args label hints =>
    .table (Name.lowered name) (partitions.map Ident.lowered) (loweredOption args)
      (label.map TableAlias.lowered) (loweredAll hints)
  | .derived lateral q label => .derived lateral q.lowered (label.map TableAlias.lowered)
  | .joined item label => .joined item.lowered (label.map TableAlias.lowered)
  | .computed _ operands label _ => .computed [] (loweredAll operands) (label.map TableAlias.lowered) ""
  | .turned relation _ operands label =>
    .turned relation.lowered [] (loweredAll operands) (label.map TableAlias.lowered)

/-- A chain of joins with its names in lower case. -/
def loweredJoins : List Join → List Join
  | [] => []
  | ⟨relation, operator, constraint⟩ :: js =>
    ⟨relation.lowered, operator, constraint.lowered⟩ :: loweredJoins js

/-- What a join matches rows by, with its names in lower case. -/
def JoinConstraint.lowered : JoinConstraint → JoinConstraint
  | .on e => .on e.lowered
  | .using columns => .using (columns.map Ident.lowered)
  | .natural => .natural
  | .none => .none

/-- An insertion with its names in lower case. -/
def Insertion.lowered : Insertion → Insertion
  | ⟨_, table, label, columns, source, partition, columnsAfter, conflict, returning⟩ =>
    ⟨"", Name.lowered table, label.map Ident.lowered, columns.map Ident.lowered, loweredQuery source,
      loweredAll partition, columnsAfter.map Ident.lowered, loweredAll conflict, loweredItems returning⟩

/-- An optional query with its names in lower case. -/
def loweredQuery : Option Query → Option Query
  | none => none
  | some q => some q.lowered

/-- An update with its names in lower case. -/
def Update.lowered : Update → Update
  | ⟨target, assignments, source, selection, returning⟩ =>
    ⟨target.lowered, loweredAll assignments, loweredSource source, loweredOption selection,
      loweredItems returning⟩

/-- An optional entry of `FROM` with its names in lower case. -/
def loweredSource : Option FromItem → Option FromItem
  | none => none
  | some s => some s.lowered

end

/-- Two queries are the same but for the case of names. -/
def Query.Recased (q p : Query) : Prop := q.lowered = p.lowered

/-- Two insertions are the same but for the case of names. -/
def Insertion.Recased (i j : Insertion) : Prop := i.lowered = j.lowered

/-- What is met, with its names in lower case. -/
def Visit.lowered : Visit → Visit
  | .expr e => .expr e.lowered
  | .relation n => .relation n.lowered
  | .query q => .query q.lowered

/-! ## 3. Walks -/

section Walks

variable (d : Bool)

/-- A deep walk enters a lowered query where it enters the query. -/
private theorem visits_entered {q : Query} (h : q.lowered.visits d = (q.visits d).map Visit.lowered) :
    (if d then q.lowered.visits d else []) = (if d then q.visits d else []).map Visit.lowered := by
  cases d with
  | false => rfl
  | true => exact h

mutual

theorem Expr.visits_lowered (e : Expr) : e.lowered.visits d = (e.visits d).map Visit.lowered := by
  cases e with
  | column | literal => simp [Expr.lowered, Expr.visits, Visit.lowered]
  | nested a | unary _ a | nullTest _ a => simp [Expr.lowered, Expr.visits, Visit.lowered, a.visits_lowered]
  | binary a _ b | like _ _ a b | trimOf _ b a =>
    simp [Expr.lowered, Expr.visits, Visit.lowered, a.visits_lowered, b.visits_lowered]
  | subquery _ q => simp [Expr.lowered, Expr.visits, Visit.lowered, visits_entered d q.visits_lowered]
  | inSubquery _ a q =>
    simp [Expr.lowered, Expr.visits, Visit.lowered, a.visits_lowered, visits_entered d q.visits_lowered]
  | call _ _ args filter _ window keys =>
    simp [Expr.lowered, Expr.visits, Visit.lowered, visitsAll_lowered args, visitsOption_lowered filter,
      visitsOption_lowered window, visitsKeys_lowered keys]
  | choice operand conditions results otherwise =>
    simp [Expr.lowered, Expr.visits, Visit.lowered, visitsOption_lowered operand,
      visitsAll_lowered conditions, visitsAll_lowered results, visitsOption_lowered otherwise]
  | form _ operands => simp [Expr.lowered, Expr.visits, Visit.lowered, visitsAll_lowered operands]

theorem visitsAll_lowered (es : List Expr) :
    visitsAll d (loweredAll es) = (visitsAll d es).map Visit.lowered := by
  cases es with
  | nil => rfl
  | cons e es => simp [loweredAll, visitsAll, e.visits_lowered, visitsAll_lowered es]

theorem visitsOption_lowered (e : Option Expr) :
    visitsOption d (loweredOption e) = (visitsOption d e).map Visit.lowered := by
  cases e with
  | none => rfl
  | some e => simp [loweredOption, visitsOption, e.visits_lowered]

theorem visitsKeys_lowered (ks : List SortKey) :
    visitsKeys d (loweredKeys ks) = (visitsKeys d ks).map Visit.lowered := by
  match ks with
  | [] => rfl
  | ⟨e, _⟩ :: ks => simp [loweredKeys, visitsKeys, e.visits_lowered, visitsKeys_lowered ks]

theorem visitsCtes_lowered (cs : List Cte) :
    visitsCtes d (loweredCtes cs) = (visitsCtes d cs).map Visit.lowered := by
  match cs with
  | [] => rfl
  | ⟨_, q, _⟩ :: cs =>
    simp [loweredCtes, visitsCtes, Visit.lowered, visits_entered d q.visits_lowered, visitsCtes_lowered cs]

theorem Query.visits_lowered (q : Query) : q.lowered.visits d = (q.visits d).map Visit.lowered := by
  match q with
  | ⟨_, ctes, body, orderBy, limit, limitBy, offset, fetch, _⟩ =>
    simp [Query.lowered, Query.visits, visitsCtes_lowered ctes, body.visits_lowered,
      visitsKeys_lowered orderBy, visitsOption_lowered limit, visitsAll_lowered limitBy,
      visitsOption_lowered offset, visitsOption_lowered fetch]

theorem Body.visits_lowered (b : Body) : b.lowered.visits d = (b.visits d).map Visit.lowered := by
  cases b with
  | select s => simp [Body.lowered, Body.visits, s.visits_lowered]
  | paren q | toDirectory _ q =>
    simp [Body.lowered, Body.visits, Visit.lowered, visits_entered d q.visits_lowered]
  | setOperation _ _ l r => simp [Body.lowered, Body.visits, l.visits_lowered, r.visits_lowered]
  | values rows => simp [Body.lowered, Body.visits, visitsAll_lowered rows]
  | table => rfl
  | insert i => simp [Body.lowered, Body.visits, i.visits_lowered]
  | update u => simp [Body.lowered, Body.visits, u.visits_lowered]

theorem Select.visits_lowered (s : Select) : s.lowered.visits d = (s.visits d).map Visit.lowered := by
  match s with
  | ⟨distinct, top, projection, _, sources, views, selection, _, groupBy, clusterBy, distributeBy, sortBy,
      having, windows, qualify⟩ =>
    simp [Select.lowered, Select.visits, visitsOption_lowered distinct, visitsOption_lowered top,
      visitsItems_lowered projection, visitsSources_lowered sources, visitsAll_lowered views,
      visitsOption_lowered selection, visitsAll_lowered groupBy, visitsAll_lowered clusterBy,
      visitsAll_lowered distributeBy, visitsAll_lowered sortBy, visitsOption_lowered having,
      visitsAll_lowered windows, visitsOption_lowered qualify]

theorem visitsItems_lowered (is : List SelectItem) :
    visitsItems d (loweredItems is) = (visitsItems d is).map Visit.lowered := by
  match is with
  | [] => rfl
  | .expr e _ :: is => simp [loweredItems, visitsItems, e.visits_lowered, visitsItems_lowered is]
  | .wildcard _ options :: is =>
    simp [loweredItems, visitsItems, visitsAll_lowered options, visitsItems_lowered is]

theorem FromItem.visits_lowered (i : FromItem) : i.lowered.visits d = (i.visits d).map Visit.lowered := by
  match i with
  | ⟨relation, joins⟩ =>
    simp [FromItem.lowered, FromItem.visits, relation.visits_lowered, visitsJoins_lowered joins]

theorem visitsSources_lowered (ss : List FromItem) :
    visitsSources d (loweredSources ss) = (visitsSources d ss).map Visit.lowered := by
  cases ss with
  | nil => rfl
  | cons s ss => simp [loweredSources, visitsSources, s.visits_lowered, visitsSources_lowered ss]

theorem TableFactor.visits_lowered (t : TableFactor) :
    t.lowered.visits d = (t.visits d).map Visit.lowered := by
  cases t with
  | table _ _ args _ hints =>
    simp [TableFactor.lowered, TableFactor.visits, Visit.lowered, visitsOption_lowered args,
      visitsAll_lowered hints]
  | derived _ q =>
    simp [TableFactor.lowered, TableFactor.visits, Visit.lowered, visits_entered d q.visits_lowered]
  | joined item => simp [TableFactor.lowered, TableFactor.visits, item.visits_lowered]
  | computed _ operands => simp [TableFactor.lowered, TableFactor.visits, visitsAll_lowered operands]
  | turned relation _ operands =>
    simp [TableFactor.lowered, TableFactor.visits, relation.visits_lowered, visitsAll_lowered operands]

theorem visitsJoins_lowered (js : List Join) :
    visitsJoins d (loweredJoins js) = (visitsJoins d js).map Visit.lowered := by
  match js with
  | [] => rfl
  | ⟨relation, _, constraint⟩ :: js =>
    simp [loweredJoins, visitsJoins, relation.visits_lowered, constraint.visits_lowered,
      visitsJoins_lowered js]

theorem JoinConstraint.visits_lowered (c : JoinConstraint) :
    c.lowered.visits d = (c.visits d).map Visit.lowered := by
  match c with
  | .on e => simp [JoinConstraint.lowered, JoinConstraint.visits, e.visits_lowered]
  | .using _ | .natural | .none => simp [JoinConstraint.lowered, JoinConstraint.visits]

theorem Insertion.visits_lowered (i : Insertion) : i.lowered.visits d = (i.visits d).map Visit.lowered := by
  match i with
  | ⟨_, _, _, _, source, partition, _, conflict, returning⟩ =>
    simp [Insertion.lowered, Insertion.visits, Visit.lowered, visitsQuery_lowered source,
      visitsAll_lowered partition, visitsAll_lowered conflict, visitsItems_lowered returning]

theorem visitsQuery_lowered (q : Option Query) :
    visitsQuery d (loweredQuery q) = (visitsQuery d q).map Visit.lowered := by
  cases q with
  | none => rfl
  | some q => simp [loweredQuery, visitsQuery, Visit.lowered, visits_entered d q.visits_lowered]

theorem Update.visits_lowered (u : Update) : u.lowered.visits d = (u.visits d).map Visit.lowered := by
  match u with
  | ⟨target, assignments, source, selection, returning⟩ =>
    simp [Update.lowered, Update.visits, target.visits_lowered, visitsAll_lowered assignments,
      visitsSource_lowered source, visitsOption_lowered selection, visitsItems_lowered returning]

theorem visitsSource_lowered (s : Option FromItem) :
    visitsSource d (loweredSource s) = (visitsSource d s).map Visit.lowered := by
  cases s with
  | none => rfl
  | some s => simp [loweredSource, visitsSource, s.visits_lowered]

end

end Walks

/-! ## 4. What is met -/

/-- The queries that are met are the lowered ones. -/
theorem filterMap_query?_lowered (visits : List Visit) :
    (visits.map Visit.lowered).filterMap Visit.query? = (visits.filterMap Visit.query?).map Query.lowered := by
  rw [List.filterMap_map, List.map_filterMap]
  congr 1
  funext v
  cases v <;> rfl

/-- The expressions that are met are the lowered ones. -/
theorem filterMap_expr?_lowered (visits : List Visit) :
    (visits.map Visit.lowered).filterMap Visit.expr? = (visits.filterMap Visit.expr?).map Expr.lowered := by
  rw [List.filterMap_map, List.map_filterMap]
  congr 1
  funext v
  cases v <;> rfl

/-- The relations that are met are compared by the same names. -/
theorem map_key_relation?_lowered (visits : List Visit) :
    ((visits.map Visit.lowered).filterMap Visit.relation?).map Name.key =
      (visits.filterMap Visit.relation?).map Name.key := by
  rw [List.filterMap_map, List.map_filterMap, List.map_filterMap]
  congr 1
  funext v
  cases v with
  | expr | query => rfl
  | relation n => exact congrArg some n.key_lowered

theorem Select.subqueries_lowered (s : Select) : s.lowered.subqueries = s.subqueries.map Query.lowered := by
  rw [subqueries, subqueries, s.visits_lowered, filterMap_query?_lowered]

theorem Expr.parts_lowered (e : Expr) : e.lowered.parts = e.parts.map Expr.lowered := by
  rw [parts, parts, e.visits_lowered, filterMap_expr?_lowered]

@[simp] theorem Expr.column?_lowered (e : Expr) : e.lowered.column? = e.column? := by
  cases e with
  | column parts => simp [Expr.lowered, column?, Name.lowered, Function.comp_def]
  | _ => rfl

@[simp] theorem Expr.qualifier?_lowered (e : Expr) : e.lowered.qualifier? = e.qualifier? := by
  cases e with
  | column parts =>
    simp [Expr.lowered, qualifier?, Name.lowered, ← List.map_dropLast, Function.comp_def]
  | _ => rfl

@[simp] theorem Expr.columnRefs_lowered (e : Expr) : e.lowered.columnRefs = e.columnRefs := by
  rw [columnRefs, columnRefs, e.parts_lowered, List.filterMap_map]
  congr 1
  funext p
  simp only [Function.comp_apply, column?_lowered, qualifier?_lowered]

/-! ## 5. Lists -/

theorem loweredAll_eq_map (es : List Expr) : loweredAll es = es.map Expr.lowered := by
  induction es with
  | nil => rfl
  | cons e es ih => rw [loweredAll, ih, List.map_cons]

theorem loweredOption_eq_map (e : Option Expr) : loweredOption e = e.map Expr.lowered := by
  cases e <;> rfl

theorem map_expr_loweredKeys (ks : List SortKey) :
    (loweredKeys ks).map SortKey.expr = (ks.map SortKey.expr).map Expr.lowered := by
  induction ks with
  | nil => rfl
  | cons k ks ih =>
    cases k
    rw [loweredKeys, List.map_cons, ih, List.map_cons, List.map_cons]

/-- An entry of a `WITH` list with its names in lower case. -/
def Cte.lowered (c : Cte) : Cte := ⟨c.name.lowered, c.query.lowered, c.source.map Ident.lowered⟩

theorem loweredCtes_eq_map (cs : List Cte) : loweredCtes cs = cs.map Cte.lowered := by
  induction cs with
  | nil => rfl
  | cons c cs ih =>
    cases c
    rw [loweredCtes, ih, List.map_cons, Cte.lowered]

/-- An entry of a `SELECT` list with its names in lower case. -/
def SelectItem.lowered : SelectItem → SelectItem
  | .expr e label => .expr e.lowered (label.map Ident.lowered)
  | .wildcard name options => .wildcard name.lowered (loweredAll options)

theorem loweredItems_eq_map (is : List SelectItem) : loweredItems is = is.map SelectItem.lowered := by
  induction is with
  | nil => rfl
  | cons i is ih => cases i <;> rw [loweredItems, ih, List.map_cons, SelectItem.lowered]

theorem loweredSources_eq_map (ss : List FromItem) : loweredSources ss = ss.map FromItem.lowered := by
  induction ss with
  | nil => rfl
  | cons s ss ih => rw [loweredSources, ih, List.map_cons]

/-! ## 6. Fields -/

theorem Query.ctes_lowered (q : Query) : q.lowered.ctes = q.ctes.map Cte.lowered := by
  cases q
  rw [Query.lowered, loweredCtes_eq_map]

theorem Query.body_lowered (q : Query) : q.lowered.body = q.body.lowered := by
  cases q
  rw [Query.lowered]

theorem Query.sortKeys_lowered (q : Query) :
    q.lowered.orderBy.map SortKey.expr = (q.orderBy.map SortKey.expr).map Expr.lowered := by
  cases q
  rw [Query.lowered, map_expr_loweredKeys]

namespace Select

variable (s : Select)

theorem distinct_lowered : s.lowered.distinct = s.distinct.map Expr.lowered := by
  cases s
  simp only [lowered, loweredOption_eq_map]

theorem projection_lowered : s.lowered.projection = s.projection.map SelectItem.lowered := by
  cases s
  simp only [lowered, loweredItems_eq_map]

theorem sources_lowered : s.lowered.sources = s.sources.map FromItem.lowered := by
  cases s
  simp only [lowered, loweredSources_eq_map]

theorem selection_lowered : s.lowered.selection = s.selection.map Expr.lowered := by
  cases s
  simp only [lowered, loweredOption_eq_map]

theorem groupsAll_lowered : s.lowered.groupsAll = s.groupsAll := by
  cases s
  simp only [lowered]

theorem groupBy_lowered : s.lowered.groupBy = s.groupBy.map Expr.lowered := by
  cases s
  simp only [lowered, loweredAll_eq_map]

theorem having_lowered : s.lowered.having = s.having.map Expr.lowered := by
  cases s
  simp only [lowered, loweredOption_eq_map]

end Select

end QueryDrill.Sql
