import QueryDrill.Outline.Reference
/-!
Other queries in place of nested ones.

`mapQueries` puts another query for each query that stands directly in a piece of a statement and leaves the
rest as it is. A shallow walk meets the same things in the same order, each with its queries replaced
(`Expr.visits_mapQueries` and its like for lists), and what an expression names stays the same.
-/

namespace QueryDrill.Sql

/-! ## 1. Expressions -/

mutual

/-- An expression with other queries in place of those that stand directly in it. -/
def Expr.mapQueries (f : Query → Query) : Expr → Expr
  | .column parts => .column parts
  | .literal v => .literal v
  | .nested a => .nested (a.mapQueries f)
  | .unary op a => .unary op (a.mapQueries f)
  | .binary a op b => .binary (a.mapQueries f) op (b.mapQueries f)
  | .nullTest negated a => .nullTest negated (a.mapQueries f)
  | .like kind negated a b escape => .like kind negated (a.mapQueries f) (b.mapQueries f) escape
  | .subquery shape q => .subquery shape (f q)
  | .inSubquery negated a q => .inSubquery negated (a.mapQueries f) (f q)
  | .call name shape args filter nulls window keys =>
    .call name shape (mapQueriesAll f args) (mapQueriesOption f filter) nulls (mapQueriesOption f window)
      (mapQueriesKeys f keys)
  | .choice operand conditions results otherwise =>
    .choice (mapQueriesOption f operand) (mapQueriesAll f conditions) (mapQueriesAll f results)
      (mapQueriesOption f otherwise)
  | .trimOf side what a => .trimOf side (what.mapQueries f) (a.mapQueries f)
  | .form words operands => .form words (mapQueriesAll f operands)

/-- Expressions with other queries in them. -/
def mapQueriesAll (f : Query → Query) : List Expr → List Expr
  | [] => []
  | e :: es => e.mapQueries f :: mapQueriesAll f es

/-- An optional expression with other queries in it. -/
def mapQueriesOption (f : Query → Query) : Option Expr → Option Expr
  | none => none
  | some e => some (e.mapQueries f)

/-- Sort keys with other queries in them. -/
def mapQueriesKeys (f : Query → Query) : List SortKey → List SortKey
  | [] => []
  | ⟨e, order⟩ :: ks => ⟨e.mapQueries f, order⟩ :: mapQueriesKeys f ks

end

theorem mapQueriesAll_eq_map (f : Query → Query) (es : List Expr) :
    mapQueriesAll f es = es.map (Expr.mapQueries f) := by
  induction es with
  | nil => rfl
  | cons e es ih => rw [mapQueriesAll, ih, List.map_cons]

theorem mapQueriesOption_eq_map (f : Query → Query) (e : Option Expr) :
    mapQueriesOption f e = e.map (Expr.mapQueries f) := by
  cases e <;> rfl

theorem mapQueriesKeys_eq_map (f : Query → Query) (ks : List SortKey) :
    mapQueriesKeys f ks = ks.map fun k => ⟨k.expr.mapQueries f, k.order⟩ := by
  induction ks with
  | nil => rfl
  | cons k ks ih =>
    cases k
    rw [mapQueriesKeys, ih, List.map_cons]

@[simp] theorem Expr.column?_mapQueries (f : Query → Query) (e : Expr) :
    (e.mapQueries f).column? = e.column? := by
  cases e <;> rfl

@[simp] theorem Expr.qualifier?_mapQueries (f : Query → Query) (e : Expr) :
    (e.mapQueries f).qualifier? = e.qualifier? := by
  cases e <;> rfl

/-! ## 2. `SELECT`s -/

/-- An entry of a `SELECT` list with other queries in it. -/
def SelectItem.mapQueries (f : Query → Query) : SelectItem → SelectItem
  | .expr e label => .expr (e.mapQueries f) label
  | .wildcard name options => .wildcard name (mapQueriesAll f options)

/-- What a join matches rows by, with other queries in it. -/
def JoinConstraint.mapQueries (f : Query → Query) : JoinConstraint → JoinConstraint
  | .on e => .on (e.mapQueries f)
  | .using columns => .using columns
  | .natural => .natural
  | .none => .none

mutual

/-- An entry of `FROM` with other queries in it. -/
def FromItem.mapQueries (f : Query → Query) : FromItem → FromItem
  | ⟨relation, joins⟩ => ⟨relation.mapQueries f, mapQueriesJoins f joins⟩

/-- A source of rows with other queries in it. -/
def TableFactor.mapQueries (f : Query → Query) : TableFactor → TableFactor
  | .table name partitions args label hints =>
    .table name partitions (mapQueriesOption f args) label (mapQueriesAll f hints)
  | .derived lateral q label => .derived lateral (f q) label
  | .joined item label => .joined (item.mapQueries f) label
  | .computed words operands label rest => .computed words (mapQueriesAll f operands) label rest
  | .turned relation words operands label =>
    .turned (relation.mapQueries f) words (mapQueriesAll f operands) label

/-- A chain of joins with other queries in it. -/
def mapQueriesJoins (f : Query → Query) : List Join → List Join
  | [] => []
  | ⟨relation, operator, constraint⟩ :: js =>
    ⟨relation.mapQueries f, operator, constraint.mapQueries f⟩ :: mapQueriesJoins f js

end

/-- A `SELECT` with other queries in it. -/
def Select.mapQueries (f : Query → Query) (s : Select) : Select where
  distinct := mapQueriesOption f s.distinct
  top := mapQueriesOption f s.top
  projection := s.projection.map (SelectItem.mapQueries f)
  into := s.into
  sources := s.sources.map (FromItem.mapQueries f)
  lateralViews := mapQueriesAll f s.lateralViews
  selection := mapQueriesOption f s.selection
  groupsAll := s.groupsAll
  groupBy := mapQueriesAll f s.groupBy
  clusterBy := mapQueriesAll f s.clusterBy
  distributeBy := mapQueriesAll f s.distributeBy
  sortBy := mapQueriesAll f s.sortBy
  having := mapQueriesOption f s.having
  windows := mapQueriesAll f s.windows
  qualify := mapQueriesOption f s.qualify

/-! ## 3. Walks -/

/-- What is met where other queries stand in its place. -/
def Visit.mapQueries (f : Query → Query) : Visit → Visit
  | .expr e => .expr (e.mapQueries f)
  | .relation n => .relation n
  | .query q => .query (f q)

section Walks

variable (f : Query → Query)

mutual

theorem Expr.visits_mapQueries (e : Expr) :
    (e.mapQueries f).visits false = (e.visits false).map (Visit.mapQueries f) := by
  cases e with
  | column | literal => simp [Expr.mapQueries, Expr.visits, Visit.mapQueries]
  | nested a | unary _ a | nullTest _ a =>
    simp [Expr.mapQueries, Expr.visits, Visit.mapQueries, a.visits_mapQueries]
  | binary a _ b | like _ _ a b | trimOf _ b a =>
    simp [Expr.mapQueries, Expr.visits, Visit.mapQueries, a.visits_mapQueries, b.visits_mapQueries]
  | subquery => simp [Expr.mapQueries, Expr.visits, Visit.mapQueries]
  | inSubquery _ a => simp [Expr.mapQueries, Expr.visits, Visit.mapQueries, a.visits_mapQueries]
  | call _ _ args filter _ window keys =>
    simp [Expr.mapQueries, Expr.visits, Visit.mapQueries, visitsAll_mapQueries args,
      visitsOption_mapQueries filter, visitsOption_mapQueries window, visitsKeys_mapQueries keys]
  | choice operand conditions results otherwise =>
    simp [Expr.mapQueries, Expr.visits, Visit.mapQueries, visitsOption_mapQueries operand,
      visitsAll_mapQueries conditions, visitsAll_mapQueries results, visitsOption_mapQueries otherwise]
  | form _ operands =>
    simp [Expr.mapQueries, Expr.visits, Visit.mapQueries, visitsAll_mapQueries operands]

theorem visitsAll_mapQueries (es : List Expr) :
    visitsAll false (mapQueriesAll f es) = (visitsAll false es).map (Visit.mapQueries f) := by
  cases es with
  | nil => rfl
  | cons e es => simp [mapQueriesAll, visitsAll, e.visits_mapQueries, visitsAll_mapQueries es]

theorem visitsOption_mapQueries (e : Option Expr) :
    visitsOption false (mapQueriesOption f e) = (visitsOption false e).map (Visit.mapQueries f) := by
  cases e with
  | none => rfl
  | some e => simp [mapQueriesOption, visitsOption, e.visits_mapQueries]

theorem visitsKeys_mapQueries (ks : List SortKey) :
    visitsKeys false (mapQueriesKeys f ks) = (visitsKeys false ks).map (Visit.mapQueries f) := by
  match ks with
  | [] => rfl
  | ⟨e, _⟩ :: ks => simp [mapQueriesKeys, visitsKeys, e.visits_mapQueries, visitsKeys_mapQueries ks]

end

theorem visitsItems_mapQueries (is : List SelectItem) :
    visitsItems false (is.map (SelectItem.mapQueries f)) =
      (visitsItems false is).map (Visit.mapQueries f) := by
  match is with
  | [] => rfl
  | .expr e _ :: is =>
    simp [SelectItem.mapQueries, visitsItems, e.visits_mapQueries, visitsItems_mapQueries is]
  | .wildcard _ options :: is =>
    simp [SelectItem.mapQueries, visitsItems, visitsAll_mapQueries f options, visitsItems_mapQueries is]

/-- The expressions that stand directly in an expression are the same, each with its queries replaced. -/
theorem Expr.parts_mapQueries (e : Expr) : (e.mapQueries f).parts = e.parts.map (Expr.mapQueries f) := by
  rw [parts, parts, visits_mapQueries, List.filterMap_map, List.map_filterMap]
  congr 1
  funext v
  cases v <;> rfl

end Walks

/-! ## 4. One replacement after another -/

section Twice

variable (f g : Query → Query)

mutual

theorem Expr.mapQueries_mapQueries (e : Expr) : (e.mapQueries f).mapQueries g = e.mapQueries (g ∘ f) := by
  cases e with
  | column | literal | subquery => rfl
  | nested a | unary _ a | nullTest _ a | inSubquery _ a =>
    simp [Expr.mapQueries, a.mapQueries_mapQueries]
  | binary a _ b | like _ _ a b | trimOf _ b a =>
    simp [Expr.mapQueries, a.mapQueries_mapQueries, b.mapQueries_mapQueries]
  | call _ _ args filter _ window keys =>
    simp [Expr.mapQueries, mapQueriesAll_mapQueriesAll args, mapQueriesOption_mapQueriesOption filter,
      mapQueriesOption_mapQueriesOption window, mapQueriesKeys_mapQueriesKeys keys]
  | choice operand conditions results otherwise =>
    simp [Expr.mapQueries, mapQueriesOption_mapQueriesOption operand,
      mapQueriesAll_mapQueriesAll conditions, mapQueriesAll_mapQueriesAll results,
      mapQueriesOption_mapQueriesOption otherwise]
  | form _ operands => simp [Expr.mapQueries, mapQueriesAll_mapQueriesAll operands]

theorem mapQueriesAll_mapQueriesAll (es : List Expr) :
    mapQueriesAll g (mapQueriesAll f es) = mapQueriesAll (g ∘ f) es := by
  cases es with
  | nil => rfl
  | cons e es => simp [mapQueriesAll, e.mapQueries_mapQueries, mapQueriesAll_mapQueriesAll es]

theorem mapQueriesOption_mapQueriesOption (e : Option Expr) :
    mapQueriesOption g (mapQueriesOption f e) = mapQueriesOption (g ∘ f) e := by
  cases e with
  | none => rfl
  | some e => simp [mapQueriesOption, e.mapQueries_mapQueries]

theorem mapQueriesKeys_mapQueriesKeys (ks : List SortKey) :
    mapQueriesKeys g (mapQueriesKeys f ks) = mapQueriesKeys (g ∘ f) ks := by
  match ks with
  | [] => rfl
  | ⟨e, _⟩ :: ks => simp [mapQueriesKeys, e.mapQueries_mapQueries, mapQueriesKeys_mapQueriesKeys ks]

end

theorem SelectItem.mapQueries_mapQueries (i : SelectItem) :
    (i.mapQueries f).mapQueries g = i.mapQueries (g ∘ f) := by
  cases i <;> simp [SelectItem.mapQueries, Expr.mapQueries_mapQueries, mapQueriesAll_mapQueriesAll]

theorem JoinConstraint.mapQueries_mapQueries (c : JoinConstraint) :
    (c.mapQueries f).mapQueries g = c.mapQueries (g ∘ f) := by
  cases c <;> simp [JoinConstraint.mapQueries, Expr.mapQueries_mapQueries]

mutual

theorem FromItem.mapQueries_mapQueries (i : FromItem) :
    (i.mapQueries f).mapQueries g = i.mapQueries (g ∘ f) := by
  match i with
  | ⟨relation, joins⟩ =>
    simp [FromItem.mapQueries, relation.mapQueries_mapQueries, mapQueriesJoins_mapQueriesJoins joins]

theorem TableFactor.mapQueries_mapQueries (t : TableFactor) :
    (t.mapQueries f).mapQueries g = t.mapQueries (g ∘ f) := by
  cases t with
  | table => simp [TableFactor.mapQueries, mapQueriesOption_mapQueriesOption, mapQueriesAll_mapQueriesAll]
  | derived => rfl
  | joined item => simp [TableFactor.mapQueries, item.mapQueries_mapQueries]
  | computed => simp [TableFactor.mapQueries, mapQueriesAll_mapQueriesAll]
  | turned relation =>
    simp [TableFactor.mapQueries, relation.mapQueries_mapQueries, mapQueriesAll_mapQueriesAll]

theorem mapQueriesJoins_mapQueriesJoins (js : List Join) :
    mapQueriesJoins g (mapQueriesJoins f js) = mapQueriesJoins (g ∘ f) js := by
  match js with
  | [] => rfl
  | ⟨relation, _, constraint⟩ :: js =>
    simp [mapQueriesJoins, relation.mapQueries_mapQueries, constraint.mapQueries_mapQueries,
      mapQueriesJoins_mapQueriesJoins js]

end

theorem Select.mapQueries_mapQueries (s : Select) :
    (s.mapQueries f).mapQueries g = s.mapQueries (g ∘ f) := by
  simp [Select.mapQueries, mapQueriesOption_mapQueriesOption, mapQueriesAll_mapQueriesAll,
    SelectItem.mapQueries_mapQueries, FromItem.mapQueries_mapQueries]

end Twice

end QueryDrill.Sql
