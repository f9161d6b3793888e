import Mathlib.Data.List.Forall2
import QueryDrill.Constraint.Query
import QueryDrill.Proofs.Outline.Main
import QueryDrill.Proofs.Outline.Selects
/-!
How depths and parents of blocks tell the nesting of a query.

A `SELECT` stands at a place: the steps that lead to it from the whole query. `Query.places` lists the places of
the `SELECT`s that become blocks, and it lists them in reading order, which is the lexicographic order of steps
(`Query.places_pairwise`), so what stands in a `SELECT` follows it without a gap. A block has the depth and the
parent that its place says (`Outline.tellsNesting`): one more than the boundaries that its place crosses, and the
number of the innermost place around its own.
-/

namespace QueryDrill

open Sql

namespace Sql

/-! ## 1. Places -/

/-- A step into what stands in a query or in a body. -/
inductive Step where
  /-- Into a query of the `WITH` list. -/
  | named (i : Nat)
  /-- Into the body of a query. -/
  | body
  /-- Into a query in parentheses. -/
  | paren
  /-- To the left side of a set operation. -/
  | left
  /-- To the right side of a set operation. -/
  | right
  /-- Into a query that stands directly in a `SELECT`. -/
  | inner (i : Nat)
  deriving DecidableEq, Repr

/-- Whether a step enters a query of a `WITH` list or one inside a `SELECT`. -/
def Step.isBoundary : Step → Bool
  | named _ => true
  | inner _ => true
  | body => false
  | paren => false
  | left => false
  | right => false

/-- Whether what one step leads to is read before what another one leads to. -/
inductive Step.Before : Step → Step → Prop
  | named {i j : Nat} (h : i < j) : Before (named i) (named j)
  | body (i : Nat) : Before (named i) body
  | sides : Before left right
  | inner {i j : Nat} (h : i < j) : Before (inner i) (inner j)

theorem Step.Before.asymm {s t : Step} (h : s.Before t) : ¬t.Before s := by
  cases h with
  | body | sides => nofun
  | named h | inner h =>
    rintro (h' | h')
    all_goals omega

theorem Step.Before.ne {s t : Step} (h : s.Before t) : s ≠ t := by
  rintro rfl
  exact h.asymm h

/-- The way from a query to what stands in it. -/
abbrev Place := List Step

namespace Place

/-- How many boundaries a place is behind. -/
def boundaries (p : Place) : Nat := p.countP Step.isBoundary

/-- Whether a place is read before another one: what stands around a place is read before it. -/
def Before (p p' : Place) : Prop := List.Lex Step.Before p p'

/-- Whether a place is inside another one. -/
def Encloses (a p : Place) : Prop := a <+: p ∧ a ≠ p

theorem boundaries_cons (s : Step) (p : Place) :
    boundaries (s :: p) = boundaries p + if s.isBoundary then 1 else 0 :=
  List.countP_cons

theorem encloses_cons_iff {s : Step} {a p : Place} : Encloses (s :: a) (s :: p) ↔ Encloses a p := by
  simp [Encloses]

theorem not_encloses_of_ne {s t : Step} {a p : Place} (h : s ≠ t) : ¬Encloses (s :: a) (t :: p) :=
  fun ⟨hstarts, _⟩ => h (List.cons_prefix_cons.1 hstarts).1

theorem not_encloses_nil (a : Place) : ¬Encloses a [] :=
  fun ⟨hstarts, hne⟩ => hne (List.prefix_nil.1 hstarts)

/-- Between a place and one inside it only places inside it are read. -/
theorem prefix_of_between {a x p : Place} (hax : a.Before x) (hxp : x.Before p) (hap : a <+: p) : a <+: x := by
  obtain ⟨t, rfl⟩ := hap
  -- both places go the way of `a`, so one between them cannot leave it at any step
  induction a generalizing x with
  | nil => exact List.nil_prefix
  | cons s a ih =>
    cases hax with
    | cons hax =>
      cases hxp with
      | cons hxp => exact List.cons_prefix_cons.2 ⟨rfl, ih hax hxp⟩
      | rel h => exact absurd h fun h => h.ne rfl
    | rel h =>
      cases hxp with
      | cons => exact absurd rfl h.ne
      | rel h' => exact absurd h' h.asymm

/-- What stands in a place is not read before it. -/
theorem not_before_of_prefix {a p : Place} (h : a <+: p) : ¬p.Before a := by
  obtain ⟨t, rfl⟩ := h
  induction a with
  | nil => nofun
  | cons s a ih =>
    intro hbefore
    cases hbefore with
    | cons hbefore => exact ih hbefore
    | rel h => exact h.ne rfl

end Place

mutual

/-- The `SELECT` at a place of a query, if one stands there. -/
def Query.selectAt (q : Query) : Place → Option Select
  | .named i :: p => (q.ctes[i]?).bind fun c => c.query.selectAt p
  | .body :: p => q.body.selectAt p
  | _ => none

/-- The `SELECT` at a place of a body, if one stands there. -/
def Body.selectAt (b : Body) : Place → Option Select
  | [] =>
    match b with
    | .select s => some s
    | _ => none
  | step :: p =>
    match b, step with
    | .select s, .inner i => (s.subqueries[i]?).bind fun q => q.selectAt p
    | .paren q, .paren => q.selectAt p
    | .setOperation _ _ l _, .left => l.selectAt p
    | .setOperation _ _ _ r, .right => r.selectAt p
    | _, _ => none

end

/-! ## 2. The places of a query -/

/-- The places in things one after the other, each behind a step with the number of its thing. -/
def placesIn {α : Type} (step : Nat → Step) (places : α → List Place) : List α → Nat → List Place
  | [], _ => []
  | a :: as, i => (places a).map (step i :: ·) ++ placesIn step places as (i + 1)

section PlacesIn

variable {α : Type} {step : Nat → Step} {places : α → List Place} {as : List α} {i : Nat} {p : Place}

theorem placesIn_attach (step : Nat → Step) (places : α → List Place) (as : List α) (i : Nat) :
    placesIn step (fun a : { a // a ∈ as } => places a.1) as.attach i = placesIn step places as i := by
  have hval : ∀ (bs : List { a // a ∈ as }) (i : Nat),
      placesIn step (fun a => places a.1) bs i = placesIn step places (bs.map Subtype.val) i := by
    intro bs
    induction bs with
    | nil => intro i; rfl
    | cons b bs ih => intro i; rw [placesIn, List.map_cons, placesIn, ih]
  rw [hval, List.attach_map_subtype_val]

theorem mem_placesIn : p ∈ placesIn step places as i ↔
    ∃ (j : Nat) (a : α) (r : Place), as[j]? = some a ∧ r ∈ places a ∧ step (i + j) :: r = p := by
  induction as generalizing i with
  | nil => simp [placesIn]
  | cons a as ih =>
    rw [placesIn, List.mem_append, List.mem_map, ih]
    constructor
    · rintro (⟨r, hr, rfl⟩ | ⟨j, b, r, hb, hr, rfl⟩)
      · exact ⟨0, a, r, rfl, hr, rfl⟩
      · exact ⟨j + 1, b, r, hb, hr, by rw [Nat.add_right_comm, Nat.add_assoc]⟩
    · rintro ⟨j, b, r, hb, hr, rfl⟩
      cases j with
      | zero => exact .inl ⟨r, Option.some.inj hb ▸ hr, rfl⟩
      | succ j => exact .inr ⟨j, b, r, hb, hr, by rw [Nat.add_right_comm, Nat.add_assoc]⟩

theorem pairwise_map_cons {ps : List Place} (h : ps.Pairwise Place.Before) (s : Step) :
    (ps.map (s :: ·)).Pairwise Place.Before :=
  List.pairwise_map.2 (h.imp .cons)

theorem placesIn_pairwise (hstep : ∀ {i j : Nat}, i < j → (step i).Before (step j))
    (h : ∀ a ∈ as, (places a).Pairwise Place.Before) : (placesIn step places as i).Pairwise Place.Before := by
  induction as generalizing i with
  | nil => exact .nil
  | cons a as ih =>
    refine List.pairwise_append.2
      ⟨pairwise_map_cons (h a List.mem_cons_self) _, ih fun b hb => h b (List.mem_cons_of_mem _ hb), ?_⟩
    intro x hx y hy
    obtain ⟨r, -, rfl⟩ := List.mem_map.1 hx
    obtain ⟨j, -, r', -, -, rfl⟩ := mem_placesIn.1 hy
    exact .rel (hstep (by omega))

end PlacesIn

mutual

/-- The places of the `SELECT`s of a query that become blocks. -/
def Query.places (q : Query) : List Place :=
  placesIn .named (fun ⟨c, _⟩ => c.query.places) q.ctes.attach 0 ++ q.body.places.map (.body :: ·)
termination_by sizeOf q
decreasing_by
  · exact Query.sizeOf_cte_lt ‹_›
  · exact q.sizeOf_body_lt

/-- The places of the `SELECT`s of a body that become blocks. -/
def Body.places (b : Body) : List Place :=
  match b with
  | .select s => [] :: placesIn .inner (fun ⟨q, _⟩ => q.places) s.subqueries.attach 0
  | .paren q => q.places.map (.paren :: ·)
  | .setOperation _ _ l r => l.places.map (.left :: ·) ++ r.places.map (.right :: ·)
  | .values _ | .table _ | .insert _ | .update _ | .toDirectory .. => []
termination_by sizeOf b
decreasing_by
  · exact Body.sizeOf_subquery_lt ‹_›
  all_goals simp <;> omega

end

theorem Query.places_eq (q : Query) : q.places =
    placesIn .named (fun c => c.query.places) q.ctes 0 ++ q.body.places.map (.body :: ·) := by
  rw [Query.places]
  exact congrArg (· ++ _) (placesIn_attach .named (fun c => c.query.places) q.ctes 0)

theorem Body.places_select (s : Select) :
    (Body.select s).places = [] :: placesIn .inner Query.places s.subqueries 0 := by
  rw [Body.places]
  exact congrArg ([] :: ·) (placesIn_attach .inner Query.places s.subqueries 0)

theorem Body.places_paren (q : Query) : (Body.paren q).places = q.places.map (.paren :: ·) := by
  rw [Body.places]

theorem Body.places_setOperation (op : SetOperator) (quantifier : SetQuantifier) (l r : Body) :
    (Body.setOperation op quantifier l r).places =
      l.places.map (.left :: ·) ++ r.places.map (.right :: ·) := by
  rw [Body.places]

theorem Body.places_bare {b : Body} (h : b.isBare = true) : b.places = [] := by
  cases b with
  | select | paren | setOperation => cases h
  | values | table | insert | update | toDirectory => rw [Body.places]

/-- The places of a query are listed in reading order. -/
theorem Query.places_pairwise (q : Query) : q.places.Pairwise Place.Before := by
  refine query_blocks_induction (P := fun q => q.places.Pairwise Place.Before)
    (Q := fun k => k.places.Pairwise Place.Before) ?query ?select ?paren ?setOperation ?bare q
  case query =>
    intro q hctes hbody
    rw [Query.places_eq]
    refine List.pairwise_append.2 ⟨placesIn_pairwise .named hctes, pairwise_map_cons hbody _, ?_⟩
    intro x hx y hy
    obtain ⟨j, -, r, -, -, rfl⟩ := mem_placesIn.1 hx
    obtain ⟨r', -, rfl⟩ := List.mem_map.1 hy
    exact .rel (.body _)
  case select =>
    intro s hs
    rw [Body.places_select]
    refine List.pairwise_cons.2 ⟨fun p hp => ?_, placesIn_pairwise .inner hs⟩
    obtain ⟨j, -, r, -, -, rfl⟩ := mem_placesIn.1 hp
    exact .nil
  case paren =>
    intro q hq
    rw [Body.places_paren]
    exact pairwise_map_cons hq _
  case setOperation =>
    intro op quantifier l r hl hr
    rw [Body.places_setOperation]
    refine List.pairwise_append.2 ⟨pairwise_map_cons hl _, pairwise_map_cons hr _, ?_⟩
    intro x hx y hy
    obtain ⟨p, -, rfl⟩ := List.mem_map.1 hx
    obtain ⟨p', -, rfl⟩ := List.mem_map.1 hy
    exact .rel .sides
  case bare =>
    intro k hk
    rw [k.places_bare hk]
    exact .nil

/-- A place behind a numbered step is one of the thing with that number. -/
theorem exists_getElem_iff {α : Type} {step : Nat → Step} (hstep : ∀ {i j : Nat}, step i = step j → i = j)
    {places : α → List Place} {as : List α} {i : Nat} {p : Place} :
    step i :: p ∈ placesIn step places as 0 ↔ ∃ a, as[i]? = some a ∧ p ∈ places a := by
  rw [mem_placesIn]
  constructor
  · rintro ⟨j, a, r, ha, hr, heq⟩
    obtain ⟨hij, rfl⟩ := List.cons.inj heq
    obtain rfl : i = j := by rw [← hstep hij, Nat.zero_add]
    exact ⟨a, ha, hr⟩
  · rintro ⟨a, ha, hp⟩
    exact ⟨i, a, p, ha, hp, by rw [Nat.zero_add]⟩

/-- The places of a query are all at which `SELECT`s stand. -/
theorem Query.mem_places_iff (q : Query) : ∀ p, p ∈ q.places ↔ (q.selectAt p).isSome := by
  refine query_blocks_induction (P := fun q => ∀ p, p ∈ q.places ↔ (q.selectAt p).isSome)
    (Q := fun k => ∀ p, p ∈ k.places ↔ (k.selectAt p).isSome) ?query ?select ?paren ?setOperation ?bare q
  case query =>
    intro q hctes hbody p
    have hbodies : ∀ r, .body :: r ∉ placesIn .named (fun c => c.query.places) q.ctes 0 := by
      simp [mem_placesIn]
    rw [Query.places_eq, List.mem_append]
    match p with
    | .named i :: p =>
      rw [exists_getElem_iff Step.named.inj, Query.selectAt]
      cases hc : q.ctes[i]? with
      | none => simp
      | some c => simpa using hctes c (List.mem_of_getElem? hc) p
    | .body :: p => simpa [Query.selectAt, hbodies] using hbody p
    | [] | .paren :: _ | .left :: _ | .right :: _ | .inner _ :: _ => simp [mem_placesIn, Query.selectAt]
  case select =>
    intro s hs p
    rw [Body.places_select, List.mem_cons]
    match p with
    | [] => simp [Body.selectAt]
    | .inner i :: p =>
      rw [exists_getElem_iff Step.inner.inj, Body.selectAt]
      cases hq : s.subqueries[i]? with
      | none => simp
      | some q => simpa using hs q (List.mem_of_getElem? hq) p
    | .named _ :: _ | .body :: _ | .paren :: _ | .left :: _ | .right :: _ =>
      simp [mem_placesIn, Body.selectAt]
  case paren =>
    intro q hq p
    rw [Body.places_paren]
    match p with
    | .paren :: p => simpa [Body.selectAt] using hq p
    | [] | .named _ :: _ | .body :: _ | .left :: _ | .right :: _ | .inner _ :: _ => simp [Body.selectAt]
  case setOperation =>
    intro op quantifier l r hl hr p
    rw [Body.places_setOperation]
    match p with
    | .left :: p => simpa [Body.selectAt] using hl p
    | .right :: p => simpa [Body.selectAt] using hr p
    | [] | .named _ :: _ | .body :: _ | .paren :: _ | .inner _ :: _ => simp [Body.selectAt]
  case bare =>
    intro k hk p
    rw [k.places_bare hk]
    cases k with
    | select | paren | setOperation => cases hk
    | values | table | insert | update | toDirectory => cases p <;> simp [Body.selectAt]

/-- What stands in a `SELECT` stands behind its place. -/
theorem selectAt_append (a t : Place) (s : Select) :
    (∀ q : Query, q.selectAt a = some s → q.selectAt (a ++ t) = (Body.select s).selectAt t) ∧
      ∀ b : Body, b.selectAt a = some s → b.selectAt (a ++ t) = (Body.select s).selectAt t := by
  induction a with
  | nil =>
    refine ⟨fun q h => ?_, fun b h => ?_⟩
    · cases h
    · cases b with
      | select s' => rw [← Option.some.inj h, List.nil_append]
      | paren | setOperation | values | table | insert | update | toDirectory => cases h
  | cons step a ih =>
    obtain ⟨hquery, hbody⟩ := ih
    refine ⟨fun q h => ?_, fun b h => ?_⟩
    · cases step with
      | named i =>
        rw [Query.selectAt, Option.bind_eq_some_iff] at h
        obtain ⟨c, hc, h⟩ := h
        rw [List.cons_append, Query.selectAt, hc]
        exact hquery c.query h
      | body => exact hbody q.body h
      | paren | left | right | inner => cases h
    · unfold Body.selectAt at h
      split at h
      · obtain ⟨q, hq, h⟩ := Option.bind_eq_some_iff.1 h
        rw [List.cons_append, Body.selectAt, hq]
        exact hquery q h
      · exact hquery _ h
      · exact hbody _ h
      · exact hbody _ h
      · cases h

end Sql

/-! ## 3. Depths -/

/-- A block is the `SELECT` at a place, as deep as the boundaries say that the place is behind. -/
structure Block.StandsAt (selectAt : Place → Option Select) (depth : Nat) (p : Place) (b : Block) : Prop where
  select : selectAt p = some b.select
  depth : b.depth = depth + p.boundaries

/-- Behind a step a block is as deep as before, or by one deeper if the step is a boundary. -/
theorem Block.StandsAt.behind {selectAt selectAt' : Place → Option Select} {depth depth' : Nat} {p : Place}
    {b : Block} {s : Step} (h : b.StandsAt selectAt depth' p)
    (hdepth : depth' = depth + if s.isBoundary then 1 else 0) (hselect : selectAt' (s :: p) = selectAt p) :
    b.StandsAt selectAt' depth (s :: p) where
  select := hselect.trans h.select
  depth := by rw [h.depth, hdepth, Place.boundaries_cons, Nat.add_right_comm, Nat.add_assoc]

section Places

variable {α : Type} {step : Nat → Step} {places : α → List Place} {f : α → Nat → List Block} {as : List α}
  {i : Nat}

theorem forall₂_sortFirst {R : Place → Block → Prop} (h : ∀ p b keys, R p b → R p { b with orderBy := keys })
    {ps : List Place} {bs : List Block} (hbs : List.Forall₂ R ps bs) (keys : List Expr) :
    List.Forall₂ R ps (sortFirst keys bs) := by
  cases hbs with
  | nil => exact .nil
  | cons hb hbs => exact .cons (h _ _ keys hb) hbs

theorem forall₂_numbered {R : Place → Block → Prop}
    (h : ∀ (j : Nat) a, as[j]? = some a → ∀ n,
      List.Forall₂ (fun p b => R (step (i + j) :: p) b) (places a) (f a n)) (n : Nat) :
    List.Forall₂ R (placesIn step places as i) (numbered f as n) := by
  induction as generalizing i n with
  | nil => exact .nil
  | cons a as ih =>
    refine List.rel_append (List.forall₂_map_left_iff.2 (h 0 a rfl n)) (ih (fun j b hb n => ?_) _)
    rw [Nat.add_assoc, Nat.add_comm 1 j]
    exact h (j + 1) b hb n

/-- The blocks of a query stand at its places, in order. -/
theorem standsAt_queryBlocks (q : Query) : ∀ depth parent start,
    List.Forall₂ (Block.StandsAt q.selectAt depth) q.places (queryBlocks q depth parent start) := by
  refine query_blocks_induction
    (P := fun q => ∀ depth parent start,
      List.Forall₂ (Block.StandsAt q.selectAt depth) q.places (queryBlocks q depth parent start))
    (Q := fun k => ∀ depth parent start,
      List.Forall₂ (Block.StandsAt k.selectAt depth) k.places (bodyBlocks k depth parent start))
    ?query ?select ?paren ?setOperation ?bare q
  case query =>
    intro q hctes hbody depth parent start
    rw [Query.places_eq, queryBlocks_eq]
    refine List.rel_append (forall₂_numbered (fun j c hc n => ?_) start) (List.forall₂_map_left_iff.2 ?_)
    · refine (hctes c (List.mem_of_getElem? hc) (depth + 1) parent n).imp fun p b hb => hb.behind rfl ?_
      rw [Nat.zero_add, Query.selectAt, hc, Option.bind_some]
    · refine forall₂_sortFirst (fun p b keys hb => ⟨hb.select, hb.depth⟩) ?_ _
      exact (hbody depth parent _).imp fun p b hb => hb.behind rfl rfl
  case select =>
    intro s hs depth parent start
    rw [Body.places_select, bodyBlocks_select]
    refine .cons ⟨rfl, rfl⟩ (forall₂_numbered (fun j q hq n => ?_) (start + 1))
    refine (hs q (List.mem_of_getElem? hq) (depth + 1) (some start) n).imp fun p b hb => hb.behind rfl ?_
    rw [Nat.zero_add, Body.selectAt, hq, Option.bind_some]
  case paren =>
    intro q hq depth parent start
    rw [Body.places_paren, bodyBlocks_paren, List.forall₂_map_left_iff]
    exact (hq depth parent start).imp fun p b hb => hb.behind rfl rfl
  case setOperation =>
    intro op quantifier l r hl hr depth parent start
    rw [Body.places_setOperation, bodyBlocks_setOperation]
    refine List.rel_append (List.forall₂_map_left_iff.2 ?_) (List.forall₂_map_left_iff.2 ?_)
    · exact (hl depth parent start).imp fun p b hb => hb.behind rfl rfl
    · exact (hr depth parent _).imp fun p b hb => hb.behind rfl rfl
  case bare =>
    intro k hk depth parent start
    rw [k.places_bare hk, bodyBlocks_bare hk]
    exact .nil

end Places

/-! ## 4. Parents -/

namespace Sql.Place

/-- The number of the innermost of some places around a place, where the first of them has the number `start`;
`outer` if none of them is around it. -/
inductive IsParent (ps : List Place) (start : Nat) (outer : Option Nat) (p : Place) : Option Nat → Prop
  | outside (none : ∀ x ∈ ps, ¬x.Encloses p) : IsParent ps start outer p outer
  | inside {i : Nat} {a : Place} (listed : ps[i]? = some a) (around : a.Encloses p)
      (innermost : ∀ x ∈ ps, x.Encloses p → x <+: a) : IsParent ps start outer p (some (start + i))

/-- Two places neither of which is around the other. -/
def Apart (x y : Place) : Prop := ¬x.Encloses y ∧ ¬y.Encloses x

theorem apart_of_ne {s t : Step} (h : s ≠ t) (x y : Place) : Apart (s :: x) (t :: y) :=
  ⟨not_encloses_of_ne h, not_encloses_of_ne h.symm⟩

variable {ps qs : List Place} {start : Nat} {outer parent : Option Nat} {p : Place}

theorem IsParent.behind (h : IsParent ps start outer p parent) (s : Step) :
    IsParent (ps.map (s :: ·)) start outer (s :: p) parent := by
  cases h with
  | outside none =>
    refine .outside fun x hx => ?_
    obtain ⟨y, hy, rfl⟩ := List.mem_map.1 hx
    exact mt encloses_cons_iff.1 (none y hy)
  | @inside i a listed around innermost =>
    refine .inside (a := s :: a) (by simp [listed]) (encloses_cons_iff.2 around) fun x hx hxp => ?_
    obtain ⟨y, hy, rfl⟩ := List.mem_map.1 hx
    exact List.cons_prefix_cons.2 ⟨rfl, innermost y hy (encloses_cons_iff.1 hxp)⟩

theorem IsParent.append_left (h : IsParent ps start outer p parent) (hqs : ∀ x ∈ qs, ¬x.Encloses p) :
    IsParent (ps ++ qs) start outer p parent := by
  cases h with
  | outside none => exact .outside fun x hx => (List.mem_append.1 hx).elim (none x) (hqs x)
  | inside listed around innermost =>
    refine .inside ?_ around fun x hx hxp => ?_
    · rw [List.getElem?_append_left (List.getElem?_eq_some_iff.1 listed).1, listed]
    · exact (List.mem_append.1 hx).elim (innermost x · hxp) fun hx => absurd hxp (hqs x hx)

theorem IsParent.append_right (h : IsParent qs (start + ps.length) outer p parent)
    (hps : ∀ x ∈ ps, ¬x.Encloses p) : IsParent (ps ++ qs) start outer p parent := by
  cases h with
  | outside none => exact .outside fun x hx => (List.mem_append.1 hx).elim (hps x) (none x)
  | @inside i a listed around innermost =>
    rw [Nat.add_assoc]
    refine .inside (a := a) ?_ around fun x hx hxp => ?_
    · rw [List.getElem?_append_right (Nat.le_add_right _ _), Nat.add_sub_cancel_left, listed]
    · exact (List.mem_append.1 hx).elim (fun hx => absurd hxp (hps x hx)) (innermost x · hxp)

/-- What has no place around it among those in a `SELECT` has the `SELECT` around it. -/
theorem IsParent.select (h : IsParent ps (start + 1) (some start) p parent) (hp : p ≠ []) :
    IsParent ([] :: ps) start outer p parent := by
  have hroot : Encloses [] p := ⟨List.nil_prefix, hp.symm⟩
  cases h with
  | outside none =>
    refine .inside (i := 0) rfl hroot fun x hx hxp => ?_
    rcases List.mem_cons.1 hx with rfl | hx
    · exact List.nil_prefix
    · exact absurd hxp (none x hx)
  | @inside i a listed around innermost =>
    rw [Nat.add_assoc, Nat.add_comm 1]
    refine .inside (i := i + 1) listed around fun x hx hxp => ?_
    rcases List.mem_cons.1 hx with rfl | hx
    · exact List.nil_prefix
    · exact innermost x hx hxp

end Sql.Place

/-- Blocks, the first of which has the number `start`, have the parents that their places say. -/
def ParentsFit (ps : List Place) (start : Nat) (outer : Option Nat) (bs : List Block) : Prop :=
  List.Forall₂ (fun p b => Place.IsParent ps start outer p b.parent) ps bs

section Parents

variable {α : Type} {step : Nat → Step} {places : α → List Place} {f : α → Nat → List Block} {as : List α}
  {i start : Nat} {outer : Option Nat} {ps qs : List Place} {bs cs : List Block}

theorem ParentsFit.behind (h : ParentsFit ps start outer bs) (s : Step) :
    ParentsFit (ps.map (s :: ·)) start outer bs :=
  List.forall₂_map_left_iff.2 (h.imp fun _ _ hb => hb.behind s)

theorem ParentsFit.append (hb : ParentsFit ps start outer bs)
    (hc : ParentsFit qs (start + bs.length) outer cs) (hapart : ∀ x ∈ ps, ∀ y ∈ qs, x.Apart y) :
    ParentsFit (ps ++ qs) start outer (bs ++ cs) := by
  rw [← List.Forall₂.length_eq hb] at hc
  refine List.rel_append ?_ ?_
  · refine ((List.forall₂_and_left _ _).2 ⟨hapart, hb⟩).imp fun p b ⟨hp, hb⟩ => ?_
    exact hb.append_left fun y hy => (hp y hy).2
  · refine ((List.forall₂_and_left _ _).2 ⟨fun y hy x hx => hapart x hx y hy, hc⟩).imp fun q b ⟨hq, hb⟩ => ?_
    exact hb.append_right fun x hx => (hq x hx).1

theorem ParentsFit.numbered (hstep : ∀ {i j : Nat}, step i = step j → i = j)
    (h : ∀ a ∈ as, ∀ n, ParentsFit (places a) n outer (f a n)) (n : Nat) :
    ParentsFit (placesIn step places as i) n outer (numbered f as n) := by
  induction as generalizing i n with
  | nil => exact .nil
  | cons a as ih =>
    refine ((h a List.mem_cons_self n).behind _).append
      (ih (fun b hb => h b (List.mem_cons_of_mem _ hb)) _) fun x hx y hy => ?_
    obtain ⟨x, -, rfl⟩ := List.mem_map.1 hx
    obtain ⟨j, -, y, -, -, rfl⟩ := mem_placesIn.1 hy
    exact Place.apart_of_ne (fun hsame => by have := hstep hsame; omega) x y

/-- The blocks of a query have the parents that its places say. -/
theorem parentsFit_queryBlocks (q : Query) : ∀ depth outer start,
    ParentsFit q.places start outer (queryBlocks q depth outer start) := by
  refine query_blocks_induction
    (P := fun q => ∀ depth outer start, ParentsFit q.places start outer (queryBlocks q depth outer start))
    (Q := fun k => ∀ depth outer start, ParentsFit k.places start outer (bodyBlocks k depth outer start))
    ?query ?select ?paren ?setOperation ?bare q
  case query =>
    intro q hctes hbody depth outer start
    have hnamed : ParentsFit (placesIn .named (fun c => c.query.places) q.ctes 0) start outer
        (cteBlocks q.ctes depth outer start) :=
      .numbered Step.named.inj (fun c hc n => hctes c hc (depth + 1) outer n) start
    rw [Query.places_eq, queryBlocks_eq]
    refine hnamed.append (forall₂_sortFirst (fun _ _ _ hb => hb) ((hbody depth outer _).behind _) _) ?_
    intro x hx y hy
    obtain ⟨j, -, x, -, -, rfl⟩ := mem_placesIn.1 hx
    obtain ⟨y, -, rfl⟩ := List.mem_map.1 hy
    exact Place.apart_of_ne (by simp) x y
  case select =>
    intro s hs depth outer start
    have hinner : ParentsFit (placesIn .inner Query.places s.subqueries 0) (start + 1) (some start)
        (innerBlocks s.subqueries depth start) :=
      .numbered Step.inner.inj (fun q hq n => hs q hq (depth + 1) (some start) n) (start + 1)
    have hne : ∀ p ∈ placesIn .inner Query.places s.subqueries 0, p ≠ [] := by
      intro p hp
      obtain ⟨j, -, r, -, -, rfl⟩ := mem_placesIn.1 hp
      exact List.cons_ne_nil _ _
    rw [Body.places_select, bodyBlocks_select]
    refine .cons (.outside fun x _ => Place.not_encloses_nil x) ?_
    exact ((List.forall₂_and_left _ _).2 ⟨hne, hinner⟩).imp fun p b ⟨hp, hb⟩ => hb.select hp
  case paren =>
    intro q hq depth outer start
    rw [Body.places_paren, bodyBlocks_paren]
    exact (hq depth outer start).behind _
  case setOperation =>
    intro op quantifier l r hl hr depth outer start
    rw [Body.places_setOperation, bodyBlocks_setOperation]
    refine ((hl depth outer start).behind _).append ((hr depth outer _).behind _) fun x hx y hy => ?_
    obtain ⟨x, -, rfl⟩ := List.mem_map.1 hx
    obtain ⟨y, -, rfl⟩ := List.mem_map.1 hy
    exact Place.apart_of_ne (by simp) x y
  case bare =>
    intro k hk depth outer start
    rw [k.places_bare hk, bodyBlocks_bare hk]
    exact .nil

end Parents

/-! ## 5. Outlines -/

namespace Sql.Query

/-- A place with a `SELECT` is behind more boundaries than the `SELECT`s around it. -/
theorem boundaries_lt {q : Query} {a p : Place} {s s' : Select} (ha : q.selectAt a = some s)
    (hp : q.selectAt p = some s') (h : a.Encloses p) : a.boundaries < p.boundaries := by
  obtain ⟨⟨t, rfl⟩, hne⟩ := h
  rw [(selectAt_append a t s).1 q ha] at hp
  -- out of a `SELECT` the way can only go into a query inside it, and that is a boundary
  match t with
  | [] => exact absurd (List.append_nil a).symm hne
  | .inner i :: t =>
    have hsum : Place.boundaries (a ++ .inner i :: t) = a.boundaries + (Place.boundaries t + 1) := by
      rw [Place.boundaries, List.countP_append]
      exact congrArg (a.boundaries + ·) (Place.boundaries_cons (.inner i) t)
    omega
  | .named _ :: _ | .body :: _ | .paren :: _ | .left :: _ | .right :: _ => cases hp

/-- A place is listed before those in it, and nothing else is listed between. -/
theorem listed_of_encloses (q : Query) {i j : Nat} {a p : Place} (hi : q.places[i]? = some a)
    (hj : q.places[j]? = some p) (h : a.Encloses p) :
    i < j ∧ ∀ (k : Nat) x, q.places[k]? = some x → i < k → k ≤ j → a.Encloses x := by
  have hbefore : ∀ {i j : Nat} {a p : Place}, q.places[i]? = some a → q.places[j]? = some p → i < j →
      a.Before p := by
    intro i j a p hi hj hij
    obtain ⟨_, rfl⟩ := List.getElem?_eq_some_iff.1 hi
    obtain ⟨_, rfl⟩ := List.getElem?_eq_some_iff.1 hj
    exact List.pairwise_iff_getElem.1 q.places_pairwise i j _ _ hij
  obtain ⟨hstarts, hne⟩ := h
  refine ⟨Nat.lt_of_not_le fun hji => ?_, fun k x hk hik hkj => ⟨?_, ?_⟩⟩
  · rcases Nat.lt_or_eq_of_le hji with hlt | rfl
    · exact Place.not_before_of_prefix hstarts (hbefore hj hi hlt)
    · exact hne (Option.some.inj (hi.symm.trans hj))
  · rcases Nat.lt_or_eq_of_le hkj with hlt | rfl
    · exact Place.prefix_of_between (hbefore hi hk hik) (hbefore hk hj hlt) hstarts
    · exact Option.some.inj (hj.symm.trans hk) ▸ hstarts
  · rintro rfl
    exact Place.not_before_of_prefix List.prefix_rfl (hbefore hi hk hik)

end Sql.Query

/-- Of two lists that fit entry by entry the first has an entry wherever the second has one. -/
theorem exists_getElem?_of_forall₂ {α β : Type} {R : α → β → Prop} {as : List α} {bs : List β}
    (h : List.Forall₂ R as bs) {i : Nat} {b : β} (hb : bs[i]? = some b) : ∃ a, as[i]? = some a ∧ R a b := by
  induction h generalizing i with
  | nil => cases hb
  | cons hab _ ih =>
    cases i with
    | zero => exact ⟨_, rfl, Option.some.inj hb ▸ hab⟩
    | succ i => exact ih hb

namespace QueryConstraint

variable {o : Outline}

/-- Any number of subqueries that are not nested in each other will do. -/
theorem checkFlat_eq_none_iff :
    checkSubqueries o (.atLeast 0) .flat = none ↔ ¬o.hasNestedSubqueries = true := by
  simp [checkSubqueries, countWithin, Bounds.admits, Bounds.atLeast, passIf]

/-- Any number of subqueries will do if they are nested deeply enough. -/
theorem checkNested_eq_none_iff : checkSubqueries o (.atLeast 0) .nested = none ↔ 3 ≤ o.maxDepth := by
  simp [checkSubqueries, countWithin, Bounds.admits, Bounds.atLeast, passIf]

end QueryConstraint

namespace Outline

variable (o : Outline)

/-- Every block stands at its place and has its parent from there. -/
theorem exists_place {o : Outline} {i : Nat} {b : Block} (h : o.blocks[i]? = some b) :
    ∃ p, o.query.places[i]? = some p ∧ b.StandsAt o.query.selectAt 1 p ∧
      p.IsParent o.query.places 0 none b.parent := by
  obtain ⟨p, hp, hstands⟩ := exists_getElem?_of_forall₂ (standsAt_queryBlocks o.query 1 none 0) h
  obtain ⟨p', hp', hparent⟩ := exists_getElem?_of_forall₂ (parentsFit_queryBlocks o.query 1 none 0) h
  obtain rfl : p = p' := Option.some.inj (hp.symm.trans hp')
  exact ⟨p, hp, hstands, hparent⟩

theorem exists_block {o : Outline} {i : Nat} {p : Place} (h : o.query.places[i]? = some p) :
    ∃ b, o.blocks[i]? = some b ∧ b.StandsAt o.query.selectAt 1 p :=
  exists_getElem?_of_forall₂ (standsAt_queryBlocks o.query 1 none 0).flip h

theorem le_maxDepth_iff {n : Nat} (hn : 0 < n) : n ≤ o.maxDepth ↔ ∃ b ∈ o.blocks, n ≤ b.depth := by
  have hfold : ∀ (bs : List Block) (m : Nat), n ≤ bs.foldl (fun n b => max n b.depth) m ↔
      n ≤ m ∨ ∃ b ∈ bs, n ≤ b.depth := by
    intro bs
    induction bs with
    | nil => simp
    | cons b bs ih =>
      intro m
      have hmax : n ≤ max m b.depth ↔ n ≤ m ∨ n ≤ b.depth := by omega
      rw [List.foldl_cons, ih, List.exists_mem_cons_iff, hmax, or_assoc]
  rw [maxDepth, hfold]
  exact or_iff_right (by omega)

theorem hasNestedSubqueries_iff : o.hasNestedSubqueries = true ↔ ∃ b ∈ o.blocks, 3 ≤ b.depth := by
  -- subqueries are the blocks at depth two and the deeper ones
  have hcount : o.subqueryCount = o.topSubqueryCount + o.blocks.countP fun b => 3 ≤ b.depth := by
    rw [subqueryCount, topSubqueryCount]
    induction o.blocks with
    | nil => rfl
    | cons b bs ih =>
      rw [List.countP_cons, List.countP_cons, List.countP_cons, ih]
      grind
  rw [hasNestedSubqueries, decide_eq_true_iff, hcount, Nat.lt_add_right_iff_pos, List.countP_pos_iff]
  simp

/-- What the depths and parents of blocks tell of the nesting of their query. -/
structure TellsNesting (o : Outline) : Prop where
  /-- The places are in reading order. -/
  reading : o.query.places.Pairwise Place.Before
  /-- The places are all at which `SELECT`s stand. -/
  complete : ∀ p, p ∈ o.query.places ↔ (o.query.selectAt p).isSome
  /-- Each place has its block, with the `SELECT` that stands there and a depth of one more than the boundaries
  that the place is behind. -/
  standing : List.Forall₂ (Block.StandsAt o.query.selectAt 1) o.query.places o.blocks
  /-- The parent of a block is the number of the innermost `SELECT` around its place, if there is one. -/
  parents : ParentsFit o.query.places 0 none o.blocks
  /-- A parent stands before its child and is less deep. -/
  parent_before : ∀ {i j : Nat} {b : Block}, o.blocks[i]? = some b → b.parent = some j →
    j < i ∧ ∃ a, o.blocks[j]? = some a ∧ a.depth < b.depth
  /-- What stands in a `SELECT` follows it without a gap. -/
  contiguous : ∀ {i j : Nat} {a p : Place}, o.query.places[i]? = some a → o.query.places[j]? = some p →
    a.Encloses p → i < j ∧ ∀ (k : Nat) x, o.query.places[k]? = some x → i < k → k ≤ j → a.Encloses x
  /-- The blocks at depth one are the `SELECT`s that make up the result, in order. -/
  main : o.mainBlocks.map Block.select = o.query.mainSelects
  /-- The main block is the first of them. -/
  first : o.mainBlock? = o.mainBlocks.head?
  /-- Just one of the two requirements on nesting is met. -/
  nesting : ∀ catalog l,
    (QueryConstraint.subqueries (.atLeast 0) .flat).validate o catalog l = .ok () ↔
      (QueryConstraint.subqueries (.atLeast 0) .nested).validate o catalog l ≠ .ok ()

/-- **The depths and parents of blocks tell how their `SELECT`s are nested in the query.** -/
theorem tellsNesting : o.TellsNesting where
  reading := o.query.places_pairwise
  complete := o.query.mem_places_iff
  standing := standsAt_queryBlocks o.query 1 none 0
  parents := parentsFit_queryBlocks o.query 1 none 0
  parent_before := by
    intro i j b hb hj
    obtain ⟨p, hp, hstands, hparent⟩ := exists_place hb
    rw [hj] at hparent
    cases hparent with
    | @inside j a ha haround =>
      obtain ⟨b', hb', hstands'⟩ := exists_block ha
      have hlt := Query.boundaries_lt hstands'.select hstands.select haround
      rw [Nat.zero_add]
      refine ⟨(o.query.listed_of_encloses ha hp haround).1, b', hb', ?_⟩
      rw [hstands.depth, hstands'.depth]
      omega
  contiguous := o.query.listed_of_encloses
  main := selects_blocksAt_queryBlocks o.query 1 none 0
  first := o.mainBlock?_eq_head?
  nesting := by
    intro catalog l
    have hdeep := o.le_maxDepth_iff (n := 3) (by omega)
    rw [← hasNestedSubqueries_iff] at hdeep
    rw [Ne, QueryConstraint.validate_eq_ok_iff, QueryConstraint.validate_eq_ok_iff, QueryConstraint.check,
      QueryConstraint.check, QueryConstraint.checkFlat_eq_none_iff, QueryConstraint.checkNested_eq_none_iff, hdeep]

/-- A query of the `WITH` list is deeper than the main one, but in no block. -/
example : ((parse .postgres "WITH c AS (SELECT id FROM a) SELECT id FROM b WHERE id IN (SELECT id FROM c)").map
    fun o => o.blocks.map fun b => (b.depth, b.parent)).toOption = some [(2, none), (1, none), (2, some 1)] := by
  decide +kernel

end Outline

end QueryDrill
