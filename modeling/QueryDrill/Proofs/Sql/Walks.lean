import QueryDrill.Sql.Walk
/-!
Deep walks and shallow ones.

A shallow walk lists the nested queries that it stops at; a deep walk is the shallow one with a deep walk
over each of them put in (`Query.visits_deep`). So what is proved of one level of a statement can be carried
to all of it by recursion over nested queries.

A shallow walk over a query meets the queries of its `WITH` list, then what stands in its body, then what
stands in its order and its limits (`Query.visits_shallow`).
-/

namespace QueryDrill.Sql

/-- What a deep walk meets where a shallow walk meets one thing: a query is met with all that is in it. -/
def Visit.deepen : Visit → List Visit
  | .query q => .query q :: q.visits true
  | .expr e => [.expr e]
  | .relation n => [.relation n]

@[simp] theorem Visit.deepen_query (q : Query) :
    (Visit.query q).deepen = .query q :: q.visits true := rfl

@[simp] theorem Visit.deepen_expr (e : Expr) : (Visit.expr e).deepen = [.expr e] := rfl

@[simp] theorem Visit.deepen_relation (n : Name) : (Visit.relation n).deepen = [.relation n] := rfl

/-! ## 1. From a shallow walk to a deep one -/

mutual

theorem Expr.visits_deep (e : Expr) : e.visits true = (e.visits false).flatMap Visit.deepen := by
  cases e with
  | column | literal => simp [Expr.visits]
  | nested a | unary _ a | nullTest _ a => simp [Expr.visits, a.visits_deep]
  | binary a _ b | like _ _ a b | trimOf _ b a => simp [Expr.visits, a.visits_deep, b.visits_deep]
  | subquery _ q => simp [Expr.visits]
  | inSubquery _ a q => simp [Expr.visits, a.visits_deep]
  | call _ _ args filter _ window keys =>
    simp [Expr.visits, visitsAll_deep args, visitsOption_deep filter, visitsOption_deep window,
      visitsKeys_deep keys]
  | choice operand conditions results otherwise =>
    simp [Expr.visits, visitsOption_deep operand, visitsAll_deep conditions, visitsAll_deep results,
      visitsOption_deep otherwise]
  | form _ operands => simp [Expr.visits, visitsAll_deep operands]

theorem visitsAll_deep (es : List Expr) : visitsAll true es = (visitsAll false es).flatMap Visit.deepen := by
  cases es with
  | nil => rfl
  | cons e es => simp [visitsAll, e.visits_deep, visitsAll_deep es]

theorem visitsOption_deep (e : Option Expr) :
    visitsOption true e = (visitsOption false e).flatMap Visit.deepen := by
  cases e with
  | none => rfl
  | some e => simp [visitsOption, e.visits_deep]

theorem visitsKeys_deep (ks : List SortKey) :
    visitsKeys true ks = (visitsKeys false ks).flatMap Visit.deepen := by
  match ks with
  | [] => rfl
  | ⟨e, _⟩ :: ks => simp [visitsKeys, e.visits_deep, visitsKeys_deep ks]

end

theorem visitsCtes_deep (cs : List Cte) :
    visitsCtes true cs = (visitsCtes false cs).flatMap Visit.deepen := by
  match cs with
  | [] => rfl
  | ⟨_, q, _⟩ :: cs => simp [visitsCtes, visitsCtes_deep cs]

theorem visitsItems_deep (is : List SelectItem) :
    visitsItems true is = (visitsItems false is).flatMap Visit.deepen := by
  match is with
  | [] => rfl
  | .expr e _ :: is => simp [visitsItems, e.visits_deep, visitsItems_deep is]
  | .wildcard _ options :: is => simp [visitsItems, visitsAll_deep options, visitsItems_deep is]

mutual

theorem FromItem.visits_deep (i : FromItem) :
    i.visits true = (i.visits false).flatMap Visit.deepen := by
  match i with
  | ⟨relation, joins⟩ => simp [FromItem.visits, relation.visits_deep, visitsJoins_deep joins]

theorem TableFactor.visits_deep (t : TableFactor) :
    t.visits true = (t.visits false).flatMap Visit.deepen := by
  cases t with
  | table _ _ args _ hints => simp [TableFactor.visits, visitsOption_deep args, visitsAll_deep hints]
  | derived => simp [TableFactor.visits]
  | joined item => simp [TableFactor.visits, item.visits_deep]
  | computed _ operands => simp [TableFactor.visits, visitsAll_deep operands]
  | turned relation _ operands =>
    simp [TableFactor.visits, relation.visits_deep, visitsAll_deep operands]

theorem visitsJoins_deep (js : List Join) :
    visitsJoins true js = (visitsJoins false js).flatMap Visit.deepen := by
  match js with
  | [] => rfl
  | ⟨relation, _, constraint⟩ :: js =>
    simp [visitsJoins, relation.visits_deep, constraint.visits_deep, visitsJoins_deep js]

theorem JoinConstraint.visits_deep (c : JoinConstraint) :
    c.visits true = (c.visits false).flatMap Visit.deepen := by
  cases c with
  | on e => simp [JoinConstraint.visits, e.visits_deep]
  | «using» | natural | none => simp [JoinConstraint.visits]

end

theorem visitsSources_deep (ss : List FromItem) :
    visitsSources true ss = (visitsSources false ss).flatMap Visit.deepen := by
  induction ss with
  | nil => rfl
  | cons s ss ih => simp [visitsSources, s.visits_deep, ih]

theorem visitsQuery_deep (q : Option Query) :
    visitsQuery true q = (visitsQuery false q).flatMap Visit.deepen := by
  cases q <;> simp [visitsQuery]

theorem visitsSource_deep (i : Option FromItem) :
    visitsSource true i = (visitsSource false i).flatMap Visit.deepen := by
  cases i with
  | none => rfl
  | some i => simp [visitsSource, i.visits_deep]

theorem Insertion.visits_deep (i : Insertion) :
    i.visits true = (i.visits false).flatMap Visit.deepen := by
  cases i
  simp [Insertion.visits, visitsQuery_deep, visitsAll_deep, visitsItems_deep]

theorem Update.visits_deep (u : Update) : u.visits true = (u.visits false).flatMap Visit.deepen := by
  cases u
  simp [Update.visits, FromItem.visits_deep, visitsAll_deep, visitsSource_deep, visitsOption_deep,
    visitsItems_deep]

theorem Select.visits_deep (s : Select) : s.visits true = (s.visits false).flatMap Visit.deepen := by
  cases s
  simp [Select.visits, visitsOption_deep, visitsItems_deep, visitsSources_deep, visitsAll_deep]

theorem Body.visits_deep (b : Body) : b.visits true = (b.visits false).flatMap Visit.deepen := by
  match b with
  | .select s => simp [Body.visits, s.visits_deep]
  | .paren _ => simp [Body.visits]
  | .setOperation _ _ l r => simp [Body.visits, l.visits_deep, r.visits_deep]
  | .values rows => simp [Body.visits, visitsAll_deep rows]
  | .table _ => simp [Body.visits]
  | .insert i => simp [Body.visits, i.visits_deep]
  | .update u => simp [Body.visits, u.visits_deep]
  | .toDirectory _ _ => simp [Body.visits]

/-- A deep walk over a query goes on where a shallow one stops. -/
theorem Query.visits_deep (q : Query) : q.visits true = (q.visits false).flatMap Visit.deepen := by
  cases q
  simp [Query.visits, visitsCtes_deep, Body.visits_deep, visitsKeys_deep, visitsOption_deep,
    visitsAll_deep]

/-! ## 2. The parts of a query -/

/-- The queries among what a walk meets. -/
def queriesAmong (visits : List Visit) : List Query := visits.filterMap Visit.query?

@[simp] theorem queriesAmong_append (vs ws : List Visit) :
    queriesAmong (vs ++ ws) = queriesAmong vs ++ queriesAmong ws := List.filterMap_append

theorem mem_queriesAmong {visits : List Visit} {q : Query} :
    q ∈ queriesAmong visits ↔ .query q ∈ visits := by
  rw [queriesAmong, List.mem_filterMap]
  constructor
  · rintro ⟨v, hv, hq⟩
    cases v with
    | query p =>
      obtain rfl : p = q := by simpa [Visit.query?] using hq
      exact hv
    | expr | relation => simp [Visit.query?] at hq
  · exact fun h => ⟨_, h, rfl⟩

theorem mem_filterMap_relation? {visits : List Visit} {n : Name} :
    n ∈ visits.filterMap Visit.relation? ↔ .relation n ∈ visits := by
  rw [List.mem_filterMap]
  constructor
  · rintro ⟨v, hv, hn⟩
    cases v with
    | relation m =>
      obtain rfl : m = n := by simpa [Visit.relation?] using hn
      exact hv
    | expr | query => simp [Visit.relation?] at hn
  · exact fun h => ⟨_, h, rfl⟩

/-- What a shallow walk meets in the order and the limits of a query. -/
def Query.visitsTail (q : Query) : List Visit :=
  visitsKeys false q.orderBy ++ visitsOption false q.limit ++ visitsAll false q.limitBy
    ++ visitsOption false q.offset ++ visitsOption false q.fetch

/-- What a shallow walk meets in a query after its `WITH` list. -/
def Query.visitsInside (q : Query) : List Visit := q.body.visits false ++ q.visitsTail

theorem visitsCtes_shallow (cs : List Cte) : visitsCtes false cs = cs.map fun c => .query c.query := by
  match cs with
  | [] => rfl
  | ⟨_, q, _⟩ :: cs => simp [visitsCtes, visitsCtes_shallow cs]

@[simp] theorem queriesAmong_ctes (cs : List Cte) :
    queriesAmong (cs.map fun c => .query c.query) = cs.map Cte.query := by
  simp [queriesAmong, List.filterMap_map, Function.comp_def, Visit.query?]

/-- The parts of a shallow walk over a query. -/
theorem Query.visits_shallow (q : Query) :
    q.visits false = (q.ctes.map fun c => .query c.query) ++ q.visitsInside := by
  cases q
  simp [Query.visits, visitsInside, visitsTail, visitsCtes_shallow]

theorem Query.mem_visits_shallow {q : Query} {v : Visit} :
    v ∈ q.visits false ↔ (∃ c ∈ q.ctes, v = .query c.query) ∨ v ∈ q.visitsInside := by
  simp [Query.visits_shallow, eq_comm]

/-- What is met in a nested query is met in the query around it. -/
theorem Query.mem_visits_of_nested {q p : Query} {v : Visit} (hp : .query p ∈ q.visits false)
    (h : v ∈ p.visits true) : v ∈ q.visits true := by
  rw [Query.visits_deep, List.mem_flatMap]
  exact ⟨.query p, hp, List.mem_cons_of_mem _ h⟩

/-- What stands in a query outside nested ones is met by a deep walk. -/
theorem Query.mem_visits_of_shallow {q : Query} {v : Visit} (h : v ∈ q.visits false) :
    v ∈ q.visits true := by
  rw [Query.visits_deep, List.mem_flatMap]
  exact ⟨v, h, by cases v <;> simp⟩

/-- A relation that a deep walk meets stands in the query itself or in a nested one. -/
theorem Query.relation_mem_visits_cases {q : Query} {n : Name} (h : .relation n ∈ q.visits true) :
    .relation n ∈ q.visits false ∨ ∃ p, .query p ∈ q.visits false ∧ .relation n ∈ p.visits true := by
  rw [Query.visits_deep, List.mem_flatMap] at h
  obtain ⟨v, hv, hn⟩ := h
  cases v with
  | expr e => simp at hn
  | relation m =>
    obtain rfl : n = m := by simpa using hn
    exact .inl hv
  | query p => exact .inr ⟨p, hv, by simpa using hn⟩

end QueryDrill.Sql
