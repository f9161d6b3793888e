import QueryDrill.Proofs.Outline.Selects
/-!
Which block gets the sort keys of a query.

A `SELECT` opens a query if it is the first of those that make up its result. `Query.openings` lists the
`SELECT`s that become blocks, each with the queries that it opens, outermost first: no others
(`head_mainSelects_of_mem_openings`), and no query without one (`isOpened_openings`). Sort keys stay with what
they sort if each block has those of the outermost query it opens that has some (`Outline.KeysStay`).

The outline gives the keys of a query to the first block after those of its `WITH` list, and it does so for
queries without keys too. So a block has the keys of the outermost query it opens, be there any or none, where
no query starts with one in parentheses that has a `WITH` list (`orderBy_queryBlocks`); such a list has
blocks of its own, which then come first. Keys stay just where no query without keys takes away recorded ones
(`Outline.keysStay_iff`).
-/

namespace QueryDrill

open Sql

namespace Sql

/-! ## 1. Opened queries -/

/-- The sort keys of a query. -/
def Query.sortKeys (q : Query) : List Expr := q.orderBy.map SortKey.expr

mutual

/-- The `SELECT`s of a query that become blocks, each with the queries it opens, outermost first. The `outer`
queries are opened by what opens this one. -/
def Query.openings (outer : List Query) (q : Query) : List (Select × List Query) :=
  (q.ctes.attach.flatMap fun ⟨c, _⟩ => c.query.openings []) ++ q.body.openings (outer ++ [q])
termination_by sizeOf q
decreasing_by
  · exact Query.sizeOf_cte_lt ‹_›
  · exact q.sizeOf_body_lt

/-- The `SELECT`s of a body that become blocks. Of the sides of a set operation the first that has `SELECT`s
opens the `outer` queries. -/
def Body.openings (outer : List Query) (b : Body) : List (Select × List Query) :=
  match b with
  | .select s => (s, outer) :: s.subqueries.attach.flatMap fun ⟨q, _⟩ => q.openings []
  | .paren q => q.openings outer
  | .setOperation _ _ l r =>
    if l.mainSelects.isEmpty then l.openings [] ++ r.openings outer
    else l.openings outer ++ r.openings []
  | .values _ | .table _ | .insert _ | .update _ | .toDirectory .. => []
termination_by sizeOf b
decreasing_by
  · exact Body.sizeOf_subquery_lt ‹_›
  all_goals simp <;> omega

end

theorem Query.openings_eq (outer : List Query) (q : Query) :
    q.openings outer =
      (q.ctes.flatMap fun c => c.query.openings []) ++ q.body.openings (outer ++ [q]) := by
  rw [Query.openings, List.flatMap_subtype (g := fun c : Cte => c.query.openings []) fun _ _ => rfl,
    List.unattach_attach]

theorem Body.openings_select (outer : List Query) (s : Select) :
    (Body.select s).openings outer = (s, outer) :: s.subqueries.flatMap (Query.openings []) := by
  rw [Body.openings, List.flatMap_subtype (g := Query.openings []) fun _ _ => rfl, List.unattach_attach]

theorem Body.openings_paren (outer : List Query) (q : Query) :
    (Body.paren q).openings outer = q.openings outer := by
  rw [Body.openings]

theorem Body.openings_setOperation (outer : List Query) (op : SetOperator) (quantifier : SetQuantifier)
    (l r : Body) : (Body.setOperation op quantifier l r).openings outer =
      if l.mainSelects.isEmpty then l.openings [] ++ r.openings outer
      else l.openings outer ++ r.openings [] := by
  rw [Body.openings]

theorem Body.openings_bare {b : Body} (h : b.isBare = true) (outer : List Query) : b.openings outer = [] := by
  cases b with
  | select | paren | setOperation => cases h
  | values | table | insert | update | toDirectory => rw [Body.openings]

/-- The sort keys of the first of some queries. -/
def firstKeys : List Query → List Expr
  | [] => []
  | q :: _ => q.sortKeys

/-- The sort keys of the first of some queries that has any. -/
def outermostKeys : List Query → List Expr
  | [] => []
  | q :: qs => if q.orderBy.isEmpty then outermostKeys qs else q.sortKeys

theorem outermostKeys_eq_nil_iff {qs : List Query} :
    outermostKeys qs = [] ↔ ∀ q ∈ qs, q.orderBy = [] := by
  induction qs with
  | nil => simp [outermostKeys]
  | cons q qs ih =>
    rw [outermostKeys, List.forall_mem_cons, ← ih]
    split <;> simp_all [Query.sortKeys]

/-- The first of some queries has the keys just if it has some, or none of them has any. -/
theorem firstKeys_eq_outermostKeys_iff {qs : List Query} :
    firstKeys qs = outermostKeys qs ↔ ∀ q ∈ qs.head?, q.orderBy = [] → ∀ p ∈ qs, p.orderBy = [] := by
  cases qs with
  | nil => simp [firstKeys, outermostKeys]
  | cons q qs =>
    by_cases hkeys : q.orderBy = []
    · have hfirst : firstKeys (q :: qs) = [] := by simp [firstKeys, Query.sortKeys, hkeys]
      rw [hfirst, eq_comm, outermostKeys_eq_nil_iff]
      simp [hkeys]
    · simp [firstKeys, outermostKeys, hkeys]

end Sql

/-! ## 2. Blocks as openings -/

/-- The blocks of a query are what its openings list, in order. -/
theorem selects_queryBlocks (q : Query) : ∀ outer depth parent start,
    (queryBlocks q depth parent start).map Block.select = (q.openings outer).map Prod.fst := by
  refine query_blocks_induction
    (P := fun q => ∀ outer depth parent start,
      (queryBlocks q depth parent start).map Block.select = (q.openings outer).map Prod.fst)
    (Q := fun k => ∀ outer depth parent start,
      (bodyBlocks k depth parent start).map Block.select = (k.openings outer).map Prod.fst)
    ?query ?select ?paren ?setOperation ?bare q
  case query =>
    intro q hctes hbody outer depth parent start
    have hnamed : (cteBlocks q.ctes depth parent start).map Block.select =
        q.ctes.flatMap fun c => (c.query.openings []).map Prod.fst :=
      map_numbered (fun c hc n => hctes c hc [] (depth + 1) parent n) start
    rw [queryBlocks_eq, List.map_append, map_sortFirst fun _ _ => rfl, hnamed, hbody (outer ++ [q]),
      Query.openings_eq, List.map_append, List.map_flatMap]
  case select =>
    intro s hs outer depth parent start
    rw [bodyBlocks_select, Body.openings_select, List.map_cons, List.map_cons, List.map_flatMap]
    exact congrArg (s :: ·) (map_numbered (fun p hp n => hs p hp [] (depth + 1) (some start) n) (start + 1))
  case paren =>
    intro q hq outer depth parent start
    rw [bodyBlocks_paren, Body.openings_paren]
    exact hq outer depth parent start
  case setOperation =>
    intro op quantifier l r hl hr outer depth parent start
    rw [bodyBlocks_setOperation, Body.openings_setOperation]
    split
    · rw [List.map_append, List.map_append, hl [], hr outer]
    · rw [List.map_append, List.map_append, hl outer, hr []]
  case bare =>
    intro k hk outer depth parent start
    rw [bodyBlocks_bare hk, k.openings_bare hk, List.map_nil, List.map_nil]

/-- Of the queries that a `SELECT` opens it is the first main `SELECT`. -/
theorem head_mainSelects_of_mem_openings (q : Query) :
    ∀ outer, (∀ p ∈ outer, p.mainSelects.head? = q.mainSelects.head?) →
      ∀ e ∈ q.openings outer, ∀ p ∈ e.2, p.mainSelects.head? = some e.1 := by
  refine query_blocks_induction
    (P := fun q => ∀ outer, (∀ p ∈ outer, p.mainSelects.head? = q.mainSelects.head?) →
      ∀ e ∈ q.openings outer, ∀ p ∈ e.2, p.mainSelects.head? = some e.1)
    (Q := fun k => ∀ outer, (∀ p ∈ outer, p.mainSelects.head? = k.mainSelects.head?) →
      ∀ e ∈ k.openings outer, ∀ p ∈ e.2, p.mainSelects.head? = some e.1)
    ?query ?select ?paren ?setOperation ?bare q
  case query =>
    intro q hctes hbody outer houter e he
    rw [Query.openings_eq] at he
    rcases List.mem_append.1 he with he | he
    · obtain ⟨c, hc, he⟩ := List.mem_flatMap.1 he
      exact hctes c hc [] (fun p hp => nomatch hp) e he
    · refine hbody (outer ++ [q]) (fun p hp => ?_) e he
      rcases List.mem_append.1 hp with hp | hp
      · rw [houter p hp, q.mainSelects_eq]
      · rw [List.mem_singleton.1 hp, q.mainSelects_eq]
  case select =>
    intro s hs outer houter e he
    rw [Body.openings_select] at he
    rcases List.mem_cons.1 he with rfl | he
    · exact houter
    · obtain ⟨p, hp, he⟩ := List.mem_flatMap.1 he
      exact hs p hp [] (fun p hp => nomatch hp) e he
  case paren =>
    intro q hq outer houter e he
    rw [Body.openings_paren] at he
    rw [Body.mainSelects] at houter
    exact hq outer houter e he
  case setOperation =>
    intro op quantifier l r hl hr outer houter e he
    rw [Body.mainSelects, List.head?_append] at houter
    rw [Body.openings_setOperation] at he
    cases hnone : l.mainSelects with
    | nil =>
      rw [hnone] at houter he
      rcases List.mem_append.1 he with he | he
      · exact hl [] (fun p hp => nomatch hp) e he
      · exact hr outer houter e he
    | cons s ss =>
      rw [hnone] at houter he hl
      rcases List.mem_append.1 he with he | he
      · exact hl outer houter e he
      · exact hr [] (fun p hp => nomatch hp) e he
  case bare =>
    intro k hk outer _ e he
    rw [k.openings_bare hk] at he
    cases he

/-- Whether some `SELECT` among openings opens a query. -/
def IsOpened (es : List (Select × List Query)) (p : Query) : Prop := ∃ e ∈ es, p ∈ e.2

theorem IsOpened.mono {es es' : List (Select × List Query)} {p : Query} (h : IsOpened es p) (hes : es ⊆ es') :
    IsOpened es' p := by
  obtain ⟨e, he, hp⟩ := h
  exact ⟨e, hes he, hp⟩

/-- Each query that is looked into is opened by some `SELECT`, if it has any; so are the queries around one. -/
theorem isOpened_openings (q : Query) : ∀ outer,
    (q.mainSelects ≠ [] → ∀ p ∈ outer, IsOpened (q.openings outer) p) ∧
      ∀ p ∈ q.reached, p.mainSelects ≠ [] → IsOpened (q.openings outer) p := by
  refine query_blocks_induction
    (P := fun q => ∀ outer, (q.mainSelects ≠ [] → ∀ p ∈ outer, IsOpened (q.openings outer) p) ∧
      ∀ p ∈ q.reached, p.mainSelects ≠ [] → IsOpened (q.openings outer) p)
    (Q := fun b => ∀ outer, (b.mainSelects ≠ [] → ∀ p ∈ outer, IsOpened (b.openings outer) p) ∧
      ∀ r ∈ b.entered, ∀ p ∈ r.reached, p.mainSelects ≠ [] → IsOpened (b.openings outer) p)
    ?query ?select ?paren ?setOperation ?bare q
  case query =>
    intro q hctes hbody outer
    obtain ⟨houter, hinside⟩ := hbody (outer ++ [q])
    rw [q.mainSelects_eq, q.reached_eq, q.openings_eq]
    have hright := List.subset_append_right (q.ctes.flatMap fun c => c.query.openings [])
      (q.body.openings (outer ++ [q]))
    refine ⟨fun hsome p hp => (houter hsome p (List.mem_append_left _ hp)).mono hright, fun p hp hsome => ?_⟩
    rcases List.mem_cons.1 hp with rfl | hp
    · rw [p.mainSelects_eq] at hsome
      exact (houter hsome p (List.mem_append_right _ (List.mem_singleton_self p))).mono hright
    · obtain ⟨r, hr, hp⟩ := List.mem_flatMap.1 hp
      rcases List.mem_append.1 hr with hr | hr
      · obtain ⟨c, hc, rfl⟩ := List.mem_map.1 hr
        refine ((hctes c hc []).2 p hp hsome).mono fun e he => ?_
        exact List.mem_append_left _ (List.mem_flatMap.2 ⟨c, hc, he⟩)
      · exact (hinside r hr p hp hsome).mono hright
  case select =>
    intro s hs outer
    rw [Body.openings_select]
    refine ⟨fun _ p hp => ⟨_, List.mem_cons_self, hp⟩, fun r hr p hp hsome => ?_⟩
    refine ((hs r hr []).2 p hp hsome).mono fun e he => ?_
    exact List.mem_cons_of_mem _ (List.mem_flatMap.2 ⟨r, hr, he⟩)
  case paren =>
    intro q hq outer
    rw [Body.openings_paren, Body.mainSelects]
    refine ⟨(hq outer).1, fun r hr => ?_⟩
    rw [List.mem_singleton.1 hr]
    exact (hq outer).2
  case setOperation =>
    intro op quantifier l r hl hr outer
    have hinside (a b : List Query) : ∀ k ∈ l.entered ++ r.entered, ∀ p ∈ k.reached, p.mainSelects ≠ [] →
        IsOpened (l.openings a ++ r.openings b) p := by
      intro k hk p hp hsome
      rcases List.mem_append.1 hk with hk | hk
      · exact ((hl a).2 k hk p hp hsome).mono (List.subset_append_left _ _)
      · exact ((hr b).2 k hk p hp hsome).mono (List.subset_append_right _ _)
    rw [Body.openings_setOperation, Body.mainSelects, Body.entered]
    split
    · rename_i hnone
      refine ⟨fun hsome p hp => ?_, hinside [] outer⟩
      rw [List.isEmpty_iff.1 hnone, List.nil_append] at hsome
      exact ((hr outer).1 hsome p hp).mono (List.subset_append_right _ _)
    · rename_i hsome
      refine ⟨fun _ p hp => ?_, hinside outer []⟩
      exact ((hl outer).1 (mt List.isEmpty_iff.2 hsome) p hp).mono (List.subset_append_left _ _)
  case bare =>
    intro b hb outer
    cases b with
    | select | paren | setOperation => cases hb
    | values | table | insert | update | toDirectory => simp [Body.mainSelects, Body.entered]

/-! ## 3. Sort keys -/

namespace Sql

/-- The queries in parentheses that a body starts with, where its first `SELECT` is looked for. -/
def Body.leading : Body → List Query
  | .select _ => []
  | .paren q => [q]
  | .setOperation _ _ l r => l.leading ++ if l.mainSelects.isEmpty then r.leading else []
  | .values _ => []
  | .table _ => []
  | .insert _ => []
  | .update _ => []
  | .toDirectory .. => []

/-- No query starts with one in parentheses that has a `WITH` list. -/
def Query.StartsPlain (q : Query) : Prop := ∀ p ∈ q.reached, ∀ r ∈ p.body.leading, r.ctes = []

/-- No body starts with a query in parentheses that has a `WITH` list. -/
structure Body.StartsPlain (b : Body) : Prop where
  leading : ∀ r ∈ b.leading, r.ctes = []
  entered : ∀ q ∈ b.entered, q.StartsPlain

theorem Query.StartsPlain.of_entered {q p : Query} (h : q.StartsPlain) (hp : p ∈ q.entered) :
    p.StartsPlain := by
  intro r hr
  refine h r ?_
  rw [q.reached_eq]
  exact List.mem_cons_of_mem _ (List.mem_flatMap.2 ⟨p, hp, hr⟩)

theorem Query.StartsPlain.cte {q : Query} {c : Cte} (h : q.StartsPlain) (hc : c ∈ q.ctes) :
    c.query.StartsPlain :=
  h.of_entered (List.mem_append_left _ (List.mem_map_of_mem hc))

theorem Query.StartsPlain.body {q : Query} (h : q.StartsPlain) : q.body.StartsPlain where
  leading := h q (q.reached_eq ▸ List.mem_cons_self)
  entered _ hp := h.of_entered (List.mem_append_right _ hp)

section Plain

variable {op : SetOperator} {quantifier : SetQuantifier} {l r : Body}

theorem Body.StartsPlain.left (h : (Body.setOperation op quantifier l r).StartsPlain) : l.StartsPlain where
  leading p hp := h.leading p (List.mem_append_left _ hp)
  entered p hp := h.entered p (List.mem_append_left _ hp)

/-- On the right a `WITH` list does no harm where the left side has the first `SELECT`. -/
theorem Body.StartsPlain.right (h : (Body.setOperation op quantifier l r).StartsPlain)
    (hl : l.mainSelects = []) : r.StartsPlain where
  leading p hp := h.leading p (List.mem_append_right _ (by rw [hl]; exact hp))
  entered p hp := h.entered p (List.mem_append_right _ hp)

end Plain

/-- The keys that openings lead to. -/
def openingKeys (es : List (Select × List Query)) : List (List Expr) := es.map fun e => firstKeys e.2

theorem openingKeys_append (es es' : List (Select × List Query)) :
    openingKeys (es ++ es') = openingKeys es ++ openingKeys es' := List.map_append

theorem openingKeys_cons (e : Select × List Query) (es : List (Select × List Query)) :
    openingKeys (e :: es) = firstKeys e.2 :: openingKeys es := rfl

theorem openingKeys_flatMap {α : Type} (as : List α) (f : α → List (Select × List Query)) :
    openingKeys (as.flatMap f) = as.flatMap fun a => openingKeys (f a) := List.map_flatMap

/-- The first opening of a body is that of its first main `SELECT`, and it takes the keys of a query around the
body. -/
structure Body.HandsOver (b : Body) : Prop where
  eq_nil_iff : b.openings [] = [] ↔ b.mainSelects = []
  keys : ∀ q outer, openingKeys (b.openings (q :: outer)) =
    (openingKeys (b.openings [])).modifyHead fun _ => q.sortKeys

theorem modifyHead_append_of_ne_nil {α : Type} {f : α → α} {as bs : List α} (h : as ≠ []) :
    (as ++ bs).modifyHead f = as.modifyHead f ++ bs := by
  cases as with
  | nil => exact absurd rfl h
  | cons a as => rfl

theorem Body.handsOver_select (s : Select) : (Body.select s).HandsOver where
  eq_nil_iff := by simp [Body.openings_select, Body.mainSelects]
  keys q outer := by simp [Body.openings_select, openingKeys, firstKeys]

/-- A query in parentheses without a `WITH` list hands over what its body does, in place of its own keys. -/
theorem Body.handsOver_paren {q : Query} (hctes : q.ctes = []) (hbody : q.body.HandsOver) :
    (Body.paren q).HandsOver := by
  have hopenings (outer : List Query) : (Body.paren q).openings outer = q.body.openings (outer ++ [q]) := by
    rw [Body.openings_paren, Query.openings_eq, hctes, List.flatMap_nil, List.nil_append]
  have hown := hbody.keys q []
  refine ⟨?eq_nil_iff, fun p outer => ?keys⟩
  case eq_nil_iff =>
    have hempty := congrArg (· = []) hown
    simp only [openingKeys, List.map_eq_nil_iff, List.modifyHead_eq_nil_iff, eq_iff_iff] at hempty
    rw [hopenings, Body.mainSelects, q.mainSelects_eq, ← hbody.eq_nil_iff]
    exact hempty
  case keys =>
    rw [hopenings, hopenings, List.cons_append, hbody.keys p, List.nil_append, hown, List.modifyHead_modifyHead]
    rfl

/-- The first side of a set operation that has `SELECT`s hands over. -/
theorem Body.handsOver_setOperation {op : SetOperator} {quantifier : SetQuantifier} {l r : Body}
    (hl : l.HandsOver) (hr : l.mainSelects = [] → r.HandsOver) :
    (Body.setOperation op quantifier l r).HandsOver := by
  by_cases hnone : l.mainSelects = []
  · have hempty : l.openings [] = [] := hl.eq_nil_iff.2 hnone
    have hopenings (outer : List Query) :
        (Body.setOperation op quantifier l r).openings outer = r.openings outer := by
      rw [Body.openings_setOperation, hnone, List.isEmpty_nil, if_pos rfl, hempty, List.nil_append]
    have hmain : (Body.setOperation op quantifier l r).mainSelects = r.mainSelects := by
      rw [Body.mainSelects, hnone, List.nil_append]
    have hright := hr hnone
    exact ⟨by rw [hopenings, hmain, hright.eq_nil_iff], fun q outer => by
      rw [hopenings, hopenings, hright.keys]⟩
  · have hsome : l.openings [] ≠ [] := mt hl.eq_nil_iff.1 hnone
    have hopenings (outer : List Query) :
        (Body.setOperation op quantifier l r).openings outer = l.openings outer ++ r.openings [] := by
      rw [Body.openings_setOperation, if_neg (by simpa using hnone)]
    refine ⟨by simp [hopenings, Body.mainSelects, hsome, hnone], fun q outer => ?_⟩
    rw [hopenings, hopenings, openingKeys_append, openingKeys_append, hl.keys,
      modifyHead_append_of_ne_nil (by simpa [openingKeys] using hsome)]

theorem Body.handsOver_bare {b : Body} (h : b.isBare = true) : b.HandsOver where
  eq_nil_iff := by simp [Body.openings_bare h, Body.mainSelects_bare h]
  keys q outer := by simp [Body.openings_bare h, openingKeys]

theorem Body.StartsPlain.handsOver (b : Body) : b.StartsPlain → b.HandsOver := by
  refine body_blocks_induction (P := fun q => q.StartsPlain → q.body.HandsOver)
    (Q := fun b => b.StartsPlain → b.HandsOver) ?query ?select ?paren ?setOperation ?bare b
  case query => exact fun q _ hbody h => hbody h.body
  case select => exact fun s _ _ => Body.handsOver_select s
  case paren =>
    intro q hq h
    have hinside : q ∈ (Body.paren q).entered := List.mem_singleton_self q
    exact Body.handsOver_paren (h.leading q (List.mem_singleton_self q)) (hq (h.entered q hinside))
  case setOperation =>
    intro op quantifier l r hl hr h
    exact Body.handsOver_setOperation (hl h.left) fun hnone => hr (h.right hnone)
  case bare => exact fun b hb _ => Body.handsOver_bare hb

end Sql

theorem orderBy_sortFirst (keys : List Expr) (bs : List Block) :
    (sortFirst keys bs).map Block.orderBy = (bs.map Block.orderBy).modifyHead fun _ => keys := by
  cases bs <;> rfl

/-- Each block has the sort keys of the outermost query it opens. -/
theorem orderBy_queryBlocks (q : Query) : q.StartsPlain → ∀ depth parent start,
    (queryBlocks q depth parent start).map Block.orderBy = openingKeys (q.openings []) := by
  refine query_blocks_induction
    (P := fun q => q.StartsPlain → ∀ depth parent start,
      (queryBlocks q depth parent start).map Block.orderBy = openingKeys (q.openings []))
    (Q := fun b => (∀ p ∈ b.entered, p.StartsPlain) → ∀ depth parent start,
      (bodyBlocks b depth parent start).map Block.orderBy = openingKeys (b.openings []))
    ?query ?select ?paren ?setOperation ?bare q
  case query =>
    intro q hctes hbody h depth parent start
    have hnamed : (cteBlocks q.ctes depth parent start).map Block.orderBy =
        q.ctes.flatMap fun c => openingKeys (c.query.openings []) :=
      map_numbered (fun c hc n => hctes c hc (h.cte hc) (depth + 1) parent n) start
    rw [queryBlocks_eq, List.map_append, hnamed, orderBy_sortFirst, hbody h.body.entered, Query.openings_eq,
      openingKeys_append, openingKeys_flatMap, List.nil_append, h.body.handsOver.keys q []]
    rfl
  case select =>
    intro s hs h depth parent start
    rw [bodyBlocks_select, Body.openings_select, List.map_cons, openingKeys_cons, openingKeys_flatMap]
    exact congrArg ([] :: ·)
      (map_numbered (fun p hp n => hs p hp (h p hp) (depth + 1) (some start) n) (start + 1))
  case paren =>
    intro q hq h depth parent start
    rw [bodyBlocks_paren, Body.openings_paren]
    exact hq (h q (List.mem_singleton_self q)) depth parent start
  case setOperation =>
    intro op quantifier l r hl hr h depth parent start
    rw [bodyBlocks_setOperation, Body.openings_setOperation, ite_self, List.map_append, openingKeys_append,
      hl fun p hp => h p (List.mem_append_left _ hp), hr fun p hp => h p (List.mem_append_right _ hp)]
  case bare =>
    intro b hb _ depth parent start
    rw [bodyBlocks_bare hb, b.openings_bare hb]
    rfl

/-! ## 4. Outlines -/

namespace Outline

variable {o : Outline}

/-- Each block has the sort keys of the outermost query with any that it opens. -/
def KeysStay (o : Outline) : Prop :=
  o.blocks.map Block.orderBy = (o.query.openings []).map fun e => outermostKeys e.2

/-- **A block has the keys of the outermost query that it opens.** The openings of a query list its blocks in
order, each with queries of which it is the first main `SELECT`; and every query that is looked into and has
`SELECT`s is among them. Where no query starts with one in parentheses that has a `WITH` list, a block has the keys
of the first query it opens, be there any or none; so keys stay with the query they sort just where no query without
keys is put around one that has some and opens with the same block. -/
theorem keysStay_iff (h : o.query.StartsPlain) :
    o.blocks.map Block.select = (o.query.openings []).map Prod.fst ∧
      (∀ e ∈ o.query.openings [], ∀ p ∈ e.2, p.mainSelects.head? = some e.1) ∧
      (∀ p ∈ o.query.reached, p.mainSelects ≠ [] → IsOpened (o.query.openings []) p) ∧
      o.blocks.map Block.orderBy = (o.query.openings []).map (fun e => firstKeys e.2) ∧
      (o.KeysStay ↔ ∀ e ∈ o.query.openings [],
        ∀ q ∈ e.2.head?, q.orderBy = [] → ∀ p ∈ e.2, p.orderBy = []) := by
  have hkeys : o.blocks.map Block.orderBy = openingKeys (o.query.openings []) :=
    orderBy_queryBlocks o.query h 1 none 0
  refine ⟨selects_queryBlocks o.query [] 1 none 0,
    head_mainSelects_of_mem_openings o.query [] (fun p hp => nomatch hp), (isOpened_openings o.query []).2, hkeys, ?_⟩
  rw [KeysStay, hkeys, openingKeys, List.map_inj_left]
  exact forall₂_congr fun _ _ => firstKeys_eq_outermostKeys_iff

/-- The texts of the keys that blocks have, and of those of the outermost queries with any that they open. -/
def keyTexts (o : Outline) : List (List String) × List (List String) :=
  (o.blocks.map fun b => b.orderBy.map Expr.sql,
    (o.query.openings []).map fun e => (outermostKeys e.2).map Expr.sql)

theorem not_keysStay (h : o.keyTexts.1 ≠ o.keyTexts.2) : ¬ o.KeysStay := by
  intro hstay
  have htexts := congrArg (List.map (List.map Expr.sql)) hstay
  rw [List.map_map, List.map_map] at htexts
  exact h htexts

/-- Two queries with keys that open with different blocks, a sorted query in parentheses, and a sorted query
that starts with one in parentheses that has a `WITH` list. -/
theorem keyTexts_sorted :
    ((parse .postgres "SELECT id FROM a UNION (SELECT id FROM b ORDER BY id) ORDER BY id").map fun o =>
        (o.keyTexts, o.query.reached.all fun p => p.body.leading.all fun r => r.ctes.isEmpty,
          (o.query.openings []).all fun e => e.2.head?.all fun q => !q.orderBy.isEmpty)).toOption =
        some (([["id"], ["id"]], [["id"], ["id"]]), true, true) ∧
      ((parse .postgres "(SELECT id FROM a ORDER BY id)").map keyTexts).toOption =
        some ([[]], [["id"]]) ∧
      ((parse .postgres "(WITH c AS (SELECT id FROM a) SELECT id FROM c) ORDER BY id").map
        keyTexts).toOption = some ([["id"], []], [[], ["id"]]) := by
  decide +kernel

/-- In `SELECT id FROM a UNION (SELECT id FROM b ORDER BY id) ORDER BY id` the two queries with keys open with
different blocks. -/
theorem keysStay_union :
    ∃ o, parse .postgres "SELECT id FROM a UNION (SELECT id FROM b ORDER BY id) ORDER BY id" = .ok o ∧
      o.query.StartsPlain ∧ o.keyTexts.1 = [["id"], ["id"]] ∧ o.KeysStay := by
  obtain ⟨o, ho, hseen⟩ := exists_parse_eq_ok keyTexts_sorted.1
  simp only [Prod.mk.injEq] at hseen
  obtain ⟨htexts, hplain, hkeys⟩ := hseen
  have hstarts : o.query.StartsPlain := by
    simpa [Query.StartsPlain] using hplain
  refine ⟨o, ho, hstarts, by rw [htexts], (keysStay_iff hstarts).2.2.2.2.2 fun e he q hq hnone => ?_⟩
  have hsome := (Option.all_eq_true _ _).1 (List.all_eq_true.1 hkeys e he) q hq
  simp [hnone] at hsome

/-- Parentheses around a sorted query take its keys away, and a query around one that has a `WITH` list gives
its keys to the block of that list. -/
theorem keys_lost :
    (∃ o, parse .postgres "(SELECT id FROM a ORDER BY id)" = .ok o ∧
      o.keyTexts = ([[]], [["id"]]) ∧ ¬ o.KeysStay) ∧
    ∃ o, parse .postgres "(WITH c AS (SELECT id FROM a) SELECT id FROM c) ORDER BY id" = .ok o ∧
      o.keyTexts = ([["id"], []], [[], ["id"]]) ∧ ¬ o.KeysStay := by
  obtain ⟨-, herased, hmoved⟩ := keyTexts_sorted
  obtain ⟨o, ho, herased⟩ := exists_parse_eq_ok herased
  obtain ⟨o', ho', hmoved⟩ := exists_parse_eq_ok hmoved
  exact ⟨⟨o, ho, herased, not_keysStay (by simp [herased])⟩, o', ho', hmoved, not_keysStay (by simp [hmoved])⟩

end Outline

end QueryDrill
