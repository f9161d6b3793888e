import QueryDrill.Sql.Syntax
/-!
Walks over the syntax of a statement.

A walk lists the expressions, relations and queries that it meets, an outer one before those inside
it. A shallow walk lists a nested query and does not enter it, so what it finds belongs to the piece
that it started from; a deep walk enters every query.

The main statement is that each query a walk meets is smaller than the piece it started from
(`Select.sizeOf_lt_of_mem_visits`); recursions over nested queries end for that reason.
-/

namespace QueryDrill.Sql

/-- What a walk meets. -/
inductive Visit where
  | expr (e : Expr)
  | relation (name : Name)
  | query (q : Query)

namespace Visit

/-- The expression that was met. -/
def expr? : Visit → Option Expr
  | .expr e => some e
  | _ => none

/-- The relation that was met. -/
def relation? : Visit → Option Name
  | .relation n => some n
  | _ => none

/-- The query that was met. -/
def query? : Visit → Option Query
  | .query q => some q
  | _ => none

end Visit

/-! ## 1. Walks -/

mutual

/-- A walk over an expression. -/
def Expr.visits (deep : Bool) : Expr → List Visit
  | .column parts => [.expr (.column parts)]
  | .literal v => [.expr (.literal v)]
  | .nested a => .expr (.nested a) :: a.visits deep
  | .unary op a => .expr (.unary op a) :: a.visits deep
  | .binary a op b => .expr (.binary a op b) :: (a.visits deep ++ b.visits deep)
  | .nullTest negated a => .expr (.nullTest negated a) :: a.visits deep
  | .like kind negated a b escape =>
    .expr (.like kind negated a b escape) :: (a.visits deep ++ b.visits deep)
  | .subquery shape q =>
    .expr (.subquery shape q) :: .query q :: (if deep then q.visits deep else [])
  | .inSubquery negated a q =>
    .expr (.inSubquery negated a q) :: (a.visits deep ++ .query q :: (if deep then q.visits deep else []))
  | .call name shape args filter nulls window keys =>
    .expr (.call name shape args filter nulls window keys) ::
      (visitsAll deep args ++ visitsOption deep filter ++ visitsOption deep window ++ visitsKeys deep keys)
  | .choice operand conditions results otherwise =>
    .expr (.choice operand conditions results otherwise) ::
      (visitsOption deep operand ++ visitsAll deep conditions ++ visitsAll deep results
        ++ visitsOption deep otherwise)
  | .trimOf side what a => .expr (.trimOf side what a) :: (a.visits deep ++ what.visits deep)
  | .form words operands => .expr (.form words operands) :: visitsAll deep operands

/-- A walk over expressions. -/
def visitsAll (deep : Bool) : List Expr → List Visit
  | [] => []
  | e :: es => e.visits deep ++ visitsAll deep es

/-- A walk over an optional expression. -/
def visitsOption (deep : Bool) : Option Expr → List Visit
  | none => []
  | some e => e.visits deep

/-- A walk over sort keys. -/
def visitsKeys (deep : Bool) : List SortKey → List Visit
  | [] => []
  | ⟨e, _⟩ :: ks => e.visits deep ++ visitsKeys deep ks

/-- A walk over a `WITH` list. -/
def visitsCtes (deep : Bool) : List Cte → List Visit
  | [] => []
  | ⟨_, q, _⟩ :: cs => .query q :: ((if deep then q.visits deep else []) ++ visitsCtes deep cs)

/-- A walk over what a query holds. -/
def Query.visits (deep : Bool) : Query → List Visit
  | ⟨_, ctes, body, orderBy, limit, limitBy, offset, fetch, _⟩ =>
    visitsCtes deep ctes ++ body.visits deep ++ visitsKeys deep orderBy ++ visitsOption deep limit
      ++ visitsAll deep limitBy ++ visitsOption deep offset ++ visitsOption deep fetch

/-- A walk over a query body. -/
def Body.visits (deep : Bool) : Body → List Visit
  | .select s => s.visits deep
  | .paren q => .query q :: (if deep then q.visits deep else [])
  | .setOperation _ _ l r => l.visits deep ++ r.visits deep
  | .values rows => visitsAll deep rows
  | .table _ => []
  | .insert i => i.visits deep
  | .update u => u.visits deep
  | .toDirectory _ q => .query q :: (if deep then q.visits deep else [])

/-- A walk over a `SELECT`. -/
def Select.visits (deep : Bool) : Select → List Visit
  | ⟨distinct, top, projection, _, sources, views, selection, _, groupBy, clusterBy, distributeBy,
      sortBy, having, windows, qualify⟩ =>
    visitsOption deep distinct ++ visitsOption deep top ++ visitsItems deep projection
      ++ visitsSources deep sources ++ visitsAll deep views ++ visitsOption deep selection
      ++ visitsAll deep groupBy ++ visitsAll deep clusterBy ++ visitsAll deep distributeBy
      ++ visitsAll deep sortBy ++ visitsOption deep having ++ visitsAll deep windows
      ++ visitsOption deep qualify

/-- A walk over a `SELECT` list. -/
def visitsItems (deep : Bool) : List SelectItem → List Visit
  | [] => []
  | .expr e _ :: is => e.visits deep ++ visitsItems deep is
  | .wildcard _ options :: is => visitsAll deep options ++ visitsItems deep is

/-- A walk over an entry of `FROM`. -/
def FromItem.visits (deep : Bool) : FromItem → List Visit
  | ⟨relation, joins⟩ => relation.visits deep ++ visitsJoins deep joins

/-- A walk over a `FROM` list. -/
def visitsSources (deep : Bool) : List FromItem → List Visit
  | [] => []
  | s :: ss => s.visits deep ++ visitsSources deep ss

/-- A walk over a source of rows. -/
def TableFactor.visits (deep : Bool) : TableFactor → List Visit
  | .table name _ args _ hints => .relation name :: (visitsOption deep args ++ visitsAll deep hints)
  | .derived _ q _ => .query q :: (if deep then q.visits deep else [])
  | .joined item _ => item.visits deep
  | .computed _ operands _ _ => visitsAll deep operands
  | .turned relation _ operands _ => relation.visits deep ++ visitsAll deep operands

/-- A walk over a chain of joins. -/
def visitsJoins (deep : Bool) : List Join → List Visit
  | [] => []
  | ⟨relation, _, constraint⟩ :: js =>
    relation.visits deep ++ constraint.visits deep ++ visitsJoins deep js

/-- A walk over what a join matches rows by. -/
def JoinConstraint.visits (deep : Bool) : JoinConstraint → List Visit
  | .on e => e.visits deep
  | .using _ => []
  | .natural => []
  | .none => []

/-- A walk over an insertion. -/
def Insertion.visits (deep : Bool) : Insertion → List Visit
  | ⟨_, table, _, _, source, partition, _, conflict, returning⟩ =>
    .relation table :: (visitsQuery deep source ++ visitsAll deep partition ++ visitsAll deep conflict
      ++ visitsItems deep returning)

/-- A walk over an optional query. -/
def visitsQuery (deep : Bool) : Option Query → List Visit
  | none => []
  | some q => .query q :: (if deep then q.visits deep else [])

/-- A walk over an update. -/
def Update.visits (deep : Bool) : Update → List Visit
  | ⟨target, assignments, source, selection, returning⟩ =>
    target.visits deep ++ visitsAll deep assignments ++ visitsSource deep source
      ++ visitsOption deep selection ++ visitsItems deep returning

/-- A walk over an optional entry of `FROM`. -/
def visitsSource (deep : Bool) : Option FromItem → List Visit
  | none => []
  | some s => s.visits deep

end

/-! ## 2. Sizes -/

section Sizes

variable {d : Bool} {q : Query}

/-- What a walk meets in a nested query is met by a walk over that query. -/
private theorem mem_of_mem_if {v : Visit} {p : Query} (h : v ∈ if d then p.visits d else []) :
    v ∈ p.visits d := by
  cases d
  · simp at h
  · simpa using h

mutual

theorem Expr.sizeOf_lt_of_mem_visits (e : Expr) (h : .query q ∈ e.visits d) : sizeOf q < sizeOf e := by
  cases e with
  | column | literal => simp [Expr.visits] at h
  | nested a | unary _ a | nullTest _ a =>
    simp [Expr.visits] at h
    have := a.sizeOf_lt_of_mem_visits h
    simp; omega
  | binary a _ b | like _ _ a b | trimOf _ b a =>
    simp [Expr.visits] at h
    rcases h with h | h
    · have := a.sizeOf_lt_of_mem_visits h
      simp; omega
    · have := b.sizeOf_lt_of_mem_visits h
      simp; omega
  | subquery _ p =>
    simp only [Expr.visits, List.mem_cons, reduceCtorEq, false_or, Visit.query.injEq] at h
    rcases h with h | h
    · rw [h, Expr.subquery.sizeOf_spec]; omega
    · have := p.sizeOf_lt_of_mem_visits (mem_of_mem_if h)
      simp; omega
  | inSubquery _ a p =>
    simp only [Expr.visits, List.mem_cons, List.mem_append, reduceCtorEq, false_or,
      Visit.query.injEq] at h
    rcases h with h | h | h
    · have := a.sizeOf_lt_of_mem_visits h
      simp; omega
    · rw [h, Expr.inSubquery.sizeOf_spec]; omega
    · have := p.sizeOf_lt_of_mem_visits (mem_of_mem_if h)
      simp; omega
  | call _ _ args filter _ window keys =>
    simp [Expr.visits] at h
    rcases h with h | h | h | h
    · have := sizeOf_lt_of_mem_visitsAll args h
      simp; omega
    · have := sizeOf_lt_of_mem_visitsOption filter h
      simp; omega
    · have := sizeOf_lt_of_mem_visitsOption window h
      simp; omega
    · have := sizeOf_lt_of_mem_visitsKeys keys h
      simp; omega
  | choice operand conditions results otherwise =>
    simp [Expr.visits] at h
    rcases h with h | h | h | h
    · have := sizeOf_lt_of_mem_visitsOption operand h
      simp; omega
    · have := sizeOf_lt_of_mem_visitsAll conditions h
      simp; omega
    · have := sizeOf_lt_of_mem_visitsAll results h
      simp; omega
    · have := sizeOf_lt_of_mem_visitsOption otherwise h
      simp; omega
  | form _ operands =>
    simp [Expr.visits] at h
    have := sizeOf_lt_of_mem_visitsAll operands h
    simp; omega

theorem sizeOf_lt_of_mem_visitsAll (es : List Expr) (h : .query q ∈ visitsAll d es) :
    sizeOf q < sizeOf es := by
  cases es with
  | nil => simp [visitsAll] at h
  | cons e es =>
    simp [visitsAll] at h
    rcases h with h | h
    · have := e.sizeOf_lt_of_mem_visits h
      simp; omega
    · have := sizeOf_lt_of_mem_visitsAll es h
      simp; omega

theorem sizeOf_lt_of_mem_visitsOption (e : Option Expr) (h : .query q ∈ visitsOption d e) :
    sizeOf q < sizeOf e := by
  cases e with
  | none => simp [visitsOption] at h
  | some e =>
    have := e.sizeOf_lt_of_mem_visits (by simpa [visitsOption] using h)
    simp; omega

theorem sizeOf_lt_of_mem_visitsKeys (ks : List SortKey) (h : .query q ∈ visitsKeys d ks) :
    sizeOf q < sizeOf ks := by
  match ks with
  | [] => simp [visitsKeys] at h
  | ⟨e, _⟩ :: ks =>
    simp [visitsKeys] at h
    rcases h with h | h
    · have := e.sizeOf_lt_of_mem_visits h
      simp; omega
    · have := sizeOf_lt_of_mem_visitsKeys ks h
      simp; omega

theorem sizeOf_lt_of_mem_visitsCtes (cs : List Cte) (h : .query q ∈ visitsCtes d cs) :
    sizeOf q < sizeOf cs := by
  match cs with
  | [] => simp [visitsCtes] at h
  | ⟨_, p, _⟩ :: cs =>
    simp only [visitsCtes, List.mem_cons, List.mem_append, Visit.query.injEq] at h
    rcases h with h | h | h
    · rw [h]; simp; omega
    · have := p.sizeOf_lt_of_mem_visits (mem_of_mem_if h)
      simp; omega
    · have := sizeOf_lt_of_mem_visitsCtes cs h
      simp; omega

theorem Query.sizeOf_lt_of_mem_visits (p : Query) (h : .query q ∈ p.visits d) : sizeOf q < sizeOf p := by
  match p with
  | ⟨_, ctes, body, orderBy, limit, limitBy, offset, fetch, _⟩ =>
    simp [Query.visits] at h
    rcases h with h | h | h | h | h | h | h
    · have := sizeOf_lt_of_mem_visitsCtes ctes h
      simp; omega
    · have := body.sizeOf_lt_of_mem_visits h
      simp; omega
    · have := sizeOf_lt_of_mem_visitsKeys orderBy h
      simp; omega
    · have := sizeOf_lt_of_mem_visitsOption limit h
      simp; omega
    · have := sizeOf_lt_of_mem_visitsAll limitBy h
      simp; omega
    · have := sizeOf_lt_of_mem_visitsOption offset h
      simp; omega
    · have := sizeOf_lt_of_mem_visitsOption fetch h
      simp; omega

theorem Body.sizeOf_lt_of_mem_visits (b : Body) (h : .query q ∈ b.visits d) : sizeOf q < sizeOf b := by
  cases b with
  | select s =>
    have := s.sizeOf_lt_of_mem_visits (by simpa [Body.visits] using h)
    simp; omega
  | paren p =>
    simp only [Body.visits, List.mem_cons, Visit.query.injEq] at h
    rcases h with h | h
    · rw [h]; simp
    · have := p.sizeOf_lt_of_mem_visits (mem_of_mem_if h)
      simp; omega
  | setOperation _ _ l r =>
    simp [Body.visits] at h
    rcases h with h | h
    · have := l.sizeOf_lt_of_mem_visits h
      simp; omega
    · have := r.sizeOf_lt_of_mem_visits h
      simp; omega
  | values rows =>
    have := sizeOf_lt_of_mem_visitsAll rows (by simpa [Body.visits] using h)
    simp; omega
  | table => simp [Body.visits] at h
  | insert i =>
    have := i.sizeOf_lt_of_mem_visits (by simpa [Body.visits] using h)
    simp; omega
  | toDirectory _ p =>
    simp only [Body.visits, List.mem_cons, Visit.query.injEq] at h
    rcases h with h | h
    · rw [h, Body.toDirectory.sizeOf_spec]; omega
    · have := p.sizeOf_lt_of_mem_visits (mem_of_mem_if h)
      simp; omega
  | update u =>
    have := u.sizeOf_lt_of_mem_visits (by simpa [Body.visits] using h)
    simp; omega

/-- Each query that a walk over a `SELECT` meets is smaller than the `SELECT`. -/
theorem Select.sizeOf_lt_of_mem_visits (s : Select) (h : .query q ∈ s.visits d) :
    sizeOf q < sizeOf s := by
  match s with
  | ⟨distinct, top, projection, _, sources, views, selection, _, groupBy, clusterBy, distributeBy,
      sortBy, having, windows, qualify⟩ =>
    simp [Select.visits] at h
    rcases h with h | h | h | h | h | h | h | h | h | h | h | h | h
    · have := sizeOf_lt_of_mem_visitsOption distinct h
      simp; omega
    · have := sizeOf_lt_of_mem_visitsOption top h
      simp; omega
    · have := sizeOf_lt_of_mem_visitsItems projection h
      simp; omega
    · have := sizeOf_lt_of_mem_visitsSources sources h
      simp; omega
    · have := sizeOf_lt_of_mem_visitsAll views h
      simp; omega
    · have := sizeOf_lt_of_mem_visitsOption selection h
      simp; omega
    · have := sizeOf_lt_of_mem_visitsAll groupBy h
      simp; omega
    · have := sizeOf_lt_of_mem_visitsAll clusterBy h
      simp; omega
    · have := sizeOf_lt_of_mem_visitsAll distributeBy h
      simp; omega
    · have := sizeOf_lt_of_mem_visitsAll sortBy h
      simp; omega
    · have := sizeOf_lt_of_mem_visitsOption having h
      simp; omega
    · have := sizeOf_lt_of_mem_visitsAll windows h
      simp; omega
    · have := sizeOf_lt_of_mem_visitsOption qualify h
      simp; omega

theorem sizeOf_lt_of_mem_visitsItems (is : List SelectItem) (h : .query q ∈ visitsItems d is) :
    sizeOf q < sizeOf is := by
  match is with
  | [] => simp [visitsItems] at h
  | .expr e _ :: is =>
    simp [visitsItems] at h
    rcases h with h | h
    · have := e.sizeOf_lt_of_mem_visits h
      simp; omega
    · have := sizeOf_lt_of_mem_visitsItems is h
      simp; omega
  | .wildcard _ options :: is =>
    simp [visitsItems] at h
    rcases h with h | h
    · have := sizeOf_lt_of_mem_visitsAll options h
      simp; omega
    · have := sizeOf_lt_of_mem_visitsItems is h
      simp; omega

theorem FromItem.sizeOf_lt_of_mem_visits (i : FromItem) (h : .query q ∈ i.visits d) :
    sizeOf q < sizeOf i := by
  match i with
  | ⟨relation, joins⟩ =>
    simp [FromItem.visits] at h
    rcases h with h | h
    · have := relation.sizeOf_lt_of_mem_visits h
      simp; omega
    · have := sizeOf_lt_of_mem_visitsJoins joins h
      simp; omega

theorem sizeOf_lt_of_mem_visitsSources (ss : List FromItem) (h : .query q ∈ visitsSources d ss) :
    sizeOf q < sizeOf ss := by
  cases ss with
  | nil => simp [visitsSources] at h
  | cons s ss =>
    simp [visitsSources] at h
    rcases h with h | h
    · have := s.sizeOf_lt_of_mem_visits h
      simp; omega
    · have := sizeOf_lt_of_mem_visitsSources ss h
      simp; omega

theorem TableFactor.sizeOf_lt_of_mem_visits (t : TableFactor) (h : .query q ∈ t.visits d) :
    sizeOf q < sizeOf t := by
  cases t with
  | table _ _ args _ hints =>
    simp [TableFactor.visits] at h
    rcases h with h | h
    · have := sizeOf_lt_of_mem_visitsOption args h
      simp; omega
    · have := sizeOf_lt_of_mem_visitsAll hints h
      simp; omega
  | derived _ p _ =>
    simp only [TableFactor.visits, List.mem_cons, Visit.query.injEq] at h
    rcases h with h | h
    · rw [h]; simp; omega
    · have := p.sizeOf_lt_of_mem_visits (mem_of_mem_if h)
      simp; omega
  | joined item _ =>
    have := item.sizeOf_lt_of_mem_visits (by simpa [TableFactor.visits] using h)
    simp; omega
  | computed _ operands =>
    have := sizeOf_lt_of_mem_visitsAll operands (by simpa [TableFactor.visits] using h)
    simp; omega
  | turned relation _ operands =>
    simp [TableFactor.visits] at h
    rcases h with h | h
    · have := relation.sizeOf_lt_of_mem_visits h
      simp; omega
    · have := sizeOf_lt_of_mem_visitsAll operands h
      simp; omega

theorem sizeOf_lt_of_mem_visitsJoins (js : List Join) (h : .query q ∈ visitsJoins d js) :
    sizeOf q < sizeOf js := by
  match js with
  | [] => simp [visitsJoins] at h
  | ⟨relation, _, constraint⟩ :: js =>
    simp [visitsJoins] at h
    rcases h with h | h | h
    · have := relation.sizeOf_lt_of_mem_visits h
      simp; omega
    · have := constraint.sizeOf_lt_of_mem_visits h
      simp; omega
    · have := sizeOf_lt_of_mem_visitsJoins js h
      simp; omega

theorem JoinConstraint.sizeOf_lt_of_mem_visits (c : JoinConstraint) (h : .query q ∈ c.visits d) :
    sizeOf q < sizeOf c := by
  match c with
  | .on e =>
    have := e.sizeOf_lt_of_mem_visits (by simpa [JoinConstraint.visits] using h)
    simp; omega
  | .using _ | .natural | .none => simp [JoinConstraint.visits] at h

theorem Insertion.sizeOf_lt_of_mem_visits (i : Insertion) (h : .query q ∈ i.visits d) :
    sizeOf q < sizeOf i := by
  match i with
  | ⟨_, _, _, _, source, partition, _, conflict, returning⟩ =>
    simp [Insertion.visits] at h
    rcases h with h | h | h | h
    · have := sizeOf_lt_of_mem_visitsQuery source h
      simp; omega
    · have := sizeOf_lt_of_mem_visitsAll partition h
      simp; omega
    · have := sizeOf_lt_of_mem_visitsAll conflict h
      simp; omega
    · have := sizeOf_lt_of_mem_visitsItems returning h
      simp; omega

theorem sizeOf_lt_of_mem_visitsQuery (p : Option Query) (h : .query q ∈ visitsQuery d p) :
    sizeOf q < sizeOf p := by
  cases p with
  | none => simp [visitsQuery] at h
  | some p =>
    simp only [visitsQuery, List.mem_cons, Visit.query.injEq] at h
    rcases h with h | h
    · rw [h]; simp
    · have := p.sizeOf_lt_of_mem_visits (mem_of_mem_if h)
      simp; omega

theorem Update.sizeOf_lt_of_mem_visits (u : Update) (h : .query q ∈ u.visits d) :
    sizeOf q < sizeOf u := by
  match u with
  | ⟨target, assignments, source, selection, returning⟩ =>
    simp [Update.visits] at h
    rcases h with h | h | h | h | h
    · have := target.sizeOf_lt_of_mem_visits h
      simp; omega
    · have := sizeOf_lt_of_mem_visitsAll assignments h
      simp; omega
    · have := sizeOf_lt_of_mem_visitsSource source h
      simp; omega
    · have := sizeOf_lt_of_mem_visitsOption selection h
      simp; omega
    · have := sizeOf_lt_of_mem_visitsItems returning h
      simp; omega

theorem sizeOf_lt_of_mem_visitsSource (i : Option FromItem) (h : .query q ∈ visitsSource d i) :
    sizeOf q < sizeOf i := by
  cases i with
  | none => simp [visitsSource] at h
  | some i =>
    have := i.sizeOf_lt_of_mem_visits (by simpa [visitsSource] using h)
    simp; omega

end

end Sizes

/-! ## 3. What stands directly in a piece -/

/-- The queries that stand directly in a `SELECT`, in reading order. -/
def Select.subqueries (s : Select) : List Query := (s.visits false).filterMap Visit.query?

theorem Select.sizeOf_lt_of_mem_subqueries {s : Select} {q : Query} (h : q ∈ s.subqueries) :
    sizeOf q < sizeOf s := by
  obtain ⟨v, hv, hq⟩ := List.mem_filterMap.1 h
  cases v with
  | query p =>
    obtain rfl : p = q := by simpa [Visit.query?] using hq
    exact s.sizeOf_lt_of_mem_visits hv
  | expr | relation => simp [Visit.query?] at hq

/-- The expressions that stand directly in an expression, itself first. -/
def Expr.parts (e : Expr) : List Expr := (e.visits false).filterMap Visit.expr?

end QueryDrill.Sql
