import Mathlib.Data.List.Forall2
import QueryDrill.Outline.Condition
/-!
How a predicate is taken apart into its atoms.

Atoms are what is met on the way down from a predicate through `AND`, `OR`, `NOT` and parentheses where the way
cannot go on (`Expr.mem_atoms_iff`). The chunks of a predicate share out its atoms in order, none lost and none
twice (`Expr.atoms_eq_flatMap_chunks`). A condition tells of its chunk how many atoms mention a column and whether
an `OR` joins them, and the total counts the atoms and the connectives inside them
(`Predicate.takesApart_ofExpr`).
-/

namespace QueryDrill

open Sql

namespace Sql

/-! ## 1. Routes and atoms -/

/-- A turn on the way down from a predicate. -/
inductive Turn where
  /-- To the left operand of an `AND` or an `OR`. -/
  | left
  /-- To the right operand of an `AND` or an `OR`. -/
  | right
  /-- To what stands in parentheses or after `NOT`. -/
  | inside
  deriving DecidableEq, Repr

/-- A way down from a predicate through `AND`, `OR`, `NOT` and parentheses. -/
abbrev Route := List Turn

/-- Whether one route turns left where another one turns right. -/
def Route.LeftOf : Route → Route → Prop := List.Lex fun s t => s = .left ∧ t = .right

namespace Expr

/-- The operand that a turn leads to, if there is one. -/
def operand? : Expr → Turn → Option Expr
  | .binary a .and _, .left => some a
  | .binary _ .and b, .right => some b
  | .binary a .or _, .left => some a
  | .binary _ .or b, .right => some b
  | .nested a, .inside => some a
  | .unary .not a, .inside => some a
  | _, _ => none

/-- The expression that a route leads to, if it leads to one. -/
def under? (e : Expr) (route : Route) : Option Expr := route.foldlM operand? e

@[simp] theorem under?_nil (e : Expr) : e.under? [] = some e := rfl

@[simp] theorem under?_cons (e : Expr) (turn : Turn) (route : Route) :
    e.under? (turn :: route) = (e.operand? turn).bind (·.under? route) := rfl

theorem under?_append (e : Expr) (route rest : Route) :
    e.under? (route ++ rest) = (e.under? route).bind (·.under? rest) :=
  List.foldlM_append

/-- Whether no way leads down from an expression. -/
def isAtom : Expr → Bool
  | .binary _ .and _ => false
  | .binary _ .or _ => false
  | .nested _ => false
  | .unary .not _ => false
  | _ => true

/-- Expressions on routes that go on from a given one. -/
def behind (route : Route) (es : List (Route × Expr)) : List (Route × Expr) :=
  es.map fun e => (route ++ e.1, e.2)

/-- The atoms of a predicate with the routes that lead to them, from left to right. -/
def atoms : Expr → List (Route × Expr)
  | .binary a .and b => behind [.left] a.atoms ++ behind [.right] b.atoms
  | .binary a .or b => behind [.left] a.atoms ++ behind [.right] b.atoms
  | .nested a => behind [.inside] a.atoms
  | .unary .not a => behind [.inside] a.atoms
  | e => [([], e)]

/-- The operands of the outermost `AND`s of a predicate with the routes that lead to them. -/
def chunks : Expr → List (Route × Expr)
  | .binary a .and b => behind [.left] a.chunks ++ behind [.right] b.chunks
  | .nested a => if isConjunction a then behind [.inside] a.chunks else [([], .nested a)]
  | e => [([], e)]

/-- What holds of atoms, and of a predicate if of its operands, holds of every predicate. -/
theorem atom_induction {P : Expr → Prop} (and : ∀ a b, P a → P b → P (.binary a .and b))
    (or : ∀ a b, P a → P b → P (.binary a .or b)) (nested : ∀ a, P a → P (.nested a))
    (not : ∀ a, P a → P (.unary .not a)) (atom : ∀ e, e.isAtom = true → P e) (e : Expr) : P e :=
  match e with
  | .binary a .and b =>
    and a b (a.atom_induction and or nested not atom) (b.atom_induction and or nested not atom)
  | .binary a .or b =>
    or a b (a.atom_induction and or nested not atom) (b.atom_induction and or nested not atom)
  | .nested a => nested a (a.atom_induction and or nested not atom)
  | .unary .not a => not a (a.atom_induction and or nested not atom)
  | .binary _ (.symbol _) _ | .unary (.before _) _ | .unary (.after _) _ | .column _ | .literal _
  | .nullTest .. | .like .. | .subquery .. | .inSubquery .. | .call .. | .choice .. | .trimOf ..
  | .form .. => atom _ rfl

section Atom

variable {e : Expr} (h : e.isAtom = true)

include h

theorem atoms_of_isAtom : e.atoms = [([], e)] := by
  unfold atoms
  split <;> simp_all [isAtom]

theorem chunks_of_isAtom : e.chunks = [([], e)] := by
  unfold chunks
  split <;> simp_all [isAtom]

theorem conjuncts_of_isAtom : conjuncts e = [e] := by
  unfold conjuncts
  split <;> simp_all [isAtom]

theorem comparisons_of_isAtom : comparisons e = [e] := by
  unfold comparisons
  split <;> simp_all [isAtom]

theorem joinsByOr_of_isAtom : joinsByOr e = false := by
  unfold joinsByOr
  split <;> simp_all [isAtom]

theorem operand?_of_isAtom (turn : Turn) : e.operand? turn = none := by
  unfold operand?
  split <;> simp_all [isAtom]

end Atom

theorem map_snd_behind (route : Route) (es : List (Route × Expr)) :
    (behind route es).map Prod.snd = es.map Prod.snd := by
  simp [behind]

/-- The atoms of a predicate are all expressions under it from which no way leads on. -/
theorem mem_atoms_iff (e : Expr) :
    ∀ route a, (route, a) ∈ e.atoms ↔ e.under? route = some a ∧ a.isAtom = true := by
  induction e using atom_induction with
  | and l r ihl ihr | or l r ihl ihr =>
    intro route a
    match route with
    | [] => simpa [atoms, behind] using fun h => h ▸ rfl
    | .left :: route => simpa [atoms, behind, operand?] using ihl route a
    | .right :: route => simpa [atoms, behind, operand?] using ihr route a
    | .inside :: route => simp [atoms, behind, operand?]
  | nested b ih | not b ih =>
    intro route a
    match route with
    | [] => simpa [atoms, behind] using fun h => h ▸ rfl
    | .inside :: route => simpa [atoms, behind, operand?] using ih route a
    | .left :: route | .right :: route => simp [atoms, behind, operand?]
  | atom e h =>
    intro route a
    match route with
    | [] =>
      rw [atoms_of_isAtom h, List.mem_singleton, under?_nil]
      constructor
      · rintro ⟨⟩
        exact ⟨rfl, h⟩
      · rintro ⟨⟨⟩, -⟩
        rfl
    | turn :: route => simp [atoms_of_isAtom h, operand?_of_isAtom h]

/-- Atoms are listed from left to right. -/
theorem atoms_pairwise (e : Expr) : (e.atoms.map Prod.fst).Pairwise Route.LeftOf := by
  have hbehind : ∀ (turn : Turn) (es : List (Route × Expr)), (es.map Prod.fst).Pairwise Route.LeftOf →
      ((behind [turn] es).map Prod.fst).Pairwise Route.LeftOf := by
    intro turn es h
    rw [behind, List.map_map]
    exact List.pairwise_map.2 ((List.pairwise_map.1 h).imp .cons)
  induction e using atom_induction with
  | and l r ihl ihr | or l r ihl ihr =>
    rw [atoms, List.map_append]
    refine List.pairwise_append.2 ⟨hbehind .left _ ihl, hbehind .right _ ihr, fun x hx y hy => ?_⟩
    simp only [behind, List.map_map, List.mem_map] at hx hy
    obtain ⟨_, -, rfl⟩ := hx
    obtain ⟨_, -, rfl⟩ := hy
    exact .rel ⟨rfl, rfl⟩
  | nested a ih | not a ih => exact hbehind .inside _ ih
  | atom e h => simp [atoms_of_isAtom h]

theorem atoms_ne_nil (e : Expr) : e.atoms ≠ [] := by
  induction e using atom_induction with
  | and l r ihl ihr | or l r ihl ihr => simp [atoms, behind, ihl]
  | nested a ih | not a ih => simp [atoms, behind, ih]
  | atom e h => simp [atoms_of_isAtom h]

/-! ## 2. Chunks -/

theorem chunks_or (a b : Expr) : (binary a .or b).chunks = [([], binary a .or b)] := rfl

theorem chunks_not (a : Expr) : (unary .not a).chunks = [([], unary .not a)] := rfl

/-- A chunk stands where its route leads. -/
theorem under?_of_mem_chunks (e : Expr) : ∀ c ∈ e.chunks, e.under? c.1 = some c.2 := by
  induction e using atom_induction with
  | and l r ihl ihr =>
    intro c hc
    simp only [chunks, behind, List.mem_append, List.mem_map] at hc
    rcases hc with ⟨c, hc, rfl⟩ | ⟨c, hc, rfl⟩
    · exact ihl c hc
    · exact ihr c hc
  | nested a ih =>
    intro c hc
    rw [chunks] at hc
    split at hc
    · obtain ⟨c', hc', rfl⟩ := List.mem_map.1 hc
      exact ih c' hc'
    · rw [List.mem_singleton.1 hc, under?_nil]
  | or | not =>
    intro c hc
    rw [List.mem_singleton.1 hc, under?_nil]
  | atom e h =>
    intro c hc
    rw [chunks_of_isAtom h] at hc
    rw [List.mem_singleton.1 hc, under?_nil]

theorem map_snd_chunks (e : Expr) : e.chunks.map Prod.snd = conjuncts e := by
  induction e using atom_induction with
  | and l r ihl ihr => rw [chunks, List.map_append, map_snd_behind, map_snd_behind, ihl, ihr, conjuncts]
  | nested a ih =>
    rw [chunks, conjuncts]
    split
    · rw [map_snd_behind, ih]
    · rfl
  | or | not => rfl
  | atom e h => rw [chunks_of_isAtom h, conjuncts_of_isAtom h, List.map_singleton]

/-- The chunks of a predicate have its atoms, in order. -/
theorem atoms_eq_flatMap_chunks (e : Expr) : e.atoms = e.chunks.flatMap fun c => behind c.1 c.2.atoms := by
  have hbehind : ∀ (turn : Turn) (es : List (Route × Expr)),
      behind [turn] (es.flatMap fun c => behind c.1 c.2.atoms) =
        (behind [turn] es).flatMap fun c => behind c.1 c.2.atoms := by
    intro turn es
    simp [behind, List.map_flatMap, List.flatMap_map, Function.comp_def]
  have hself : ∀ e : Expr, behind [] e.atoms = e.atoms := by
    intro e
    simp [behind]
  induction e using atom_induction with
  | and l r ihl ihr => rw [atoms, chunks, List.flatMap_append, ← hbehind, ← hbehind, ← ihl, ← ihr]
  | nested a ih =>
    rw [chunks]
    split
    · rw [atoms, ← hbehind, ← ih]
    · rw [List.flatMap_singleton, hself]
  | or a b => rw [chunks_or, List.flatMap_singleton, hself]
  | not a => rw [chunks_not, List.flatMap_singleton, hself]
  | atom e h => rw [chunks_of_isAtom h, List.flatMap_singleton, hself]

theorem conjuncts_ne_nil (e : Expr) : conjuncts e ≠ [] := by
  rw [← e.map_snd_chunks]
  intro hnil
  have hatoms := e.atoms_eq_flatMap_chunks
  rw [List.map_eq_nil_iff.1 hnil] at hatoms
  exact e.atoms_ne_nil hatoms

/-! ## 3. What is told of atoms -/

theorem map_snd_atoms (e : Expr) : e.atoms.map Prod.snd = comparisons e := by
  induction e using atom_induction with
  | and l r ihl ihr | or l r ihl ihr =>
    rw [atoms, List.map_append, map_snd_behind, map_snd_behind, ihl, ihr, comparisons]
  | nested a ih | not a ih => rw [atoms, map_snd_behind, ih, comparisons]
  | atom e h => rw [atoms_of_isAtom h, comparisons_of_isAtom h, List.map_singleton]

/-- An atom under what a route leads to is an atom at the end of a longer route. -/
theorem exists_atom_behind {e x : Expr} {route : Route} (h : e.under? route = some x) :
    ∃ a ∈ e.atoms, route <+: a.1 := by
  obtain ⟨⟨rest, a⟩, hatom⟩ := List.exists_mem_of_ne_nil _ x.atoms_ne_nil
  obtain ⟨hunder, ha⟩ := (x.mem_atoms_iff rest a).1 hatom
  refine ⟨(route ++ rest, a), (e.mem_atoms_iff _ a).2 ⟨?_, ha⟩, List.prefix_append _ _⟩
  rw [under?_append, h]
  exact hunder

theorem joinsByOr_iff (e : Expr) :
    joinsByOr e = true ↔ ∃ route a b, e.under? route = some (.binary a .or b) := by
  induction e using atom_induction with
  | and l r ihl ihr =>
    rw [joinsByOr, Bool.or_eq_true, ihl, ihr]
    constructor
    · rintro (⟨route, a, b, h⟩ | ⟨route, a, b, h⟩)
      · exact ⟨.left :: route, a, b, h⟩
      · exact ⟨.right :: route, a, b, h⟩
    · rintro ⟨_ | ⟨_ | _ | _, route⟩, a, b, h⟩
      · cases h
      · exact .inl ⟨route, a, b, h⟩
      · exact .inr ⟨route, a, b, h⟩
      · cases h
  | or l r => exact iff_of_true rfl ⟨[], l, r, rfl⟩
  | nested x ih | not x ih =>
    rw [joinsByOr, ih]
    constructor
    · rintro ⟨route, a, b, h⟩
      exact ⟨.inside :: route, a, b, h⟩
    · rintro ⟨_ | ⟨_ | _ | _, route⟩, a, b, h⟩
      · cases h
      · cases h
      · cases h
      · exact ⟨route, a, b, h⟩
  | atom e h =>
    refine iff_of_false (by simp [joinsByOr_of_isAtom h]) ?_
    rintro ⟨_ | ⟨turn, route⟩, a, b, hunder⟩
    · rw [Option.some.inj hunder] at h
      cases h
    · rw [under?_cons, operand?_of_isAtom h] at hunder
      cases hunder

theorem parts_binary (a b : Expr) (op : BinaryOp) :
    (binary a op b).parts = binary a op b :: (a.parts ++ b.parts) := by
  simp [parts, visits, Visit.expr?]

theorem parts_nested (a : Expr) : (nested a).parts = nested a :: a.parts := by
  simp [parts, visits, Visit.expr?]

theorem parts_unary (op : UnaryOp) (a : Expr) : (unary op a).parts = unary op a :: a.parts := by
  simp [parts, visits, Visit.expr?]

/-- The connectives inside atoms. -/
def atomConnectives (es : List (Route × Expr)) : Nat := (es.flatMap fun a => a.2.parts).countP isConnective

theorem atomConnectives_append (es es' : List (Route × Expr)) :
    atomConnectives (es ++ es') = atomConnectives es + atomConnectives es' := by
  rw [atomConnectives, List.flatMap_append, List.countP_append]
  rfl

theorem atomConnectives_behind (route : Route) (es : List (Route × Expr)) :
    atomConnectives (behind route es) = atomConnectives es := by
  rw [atomConnectives, behind, List.flatMap_map]
  rfl

/-- A predicate has one connective less than atoms, and those inside its atoms. -/
theorem connectiveCount_add_one (e : Expr) :
    connectiveCount e + 1 = e.atoms.length + atomConnectives e.atoms := by
  have hlength : ∀ (turn : Turn) (es : List (Route × Expr)), (behind [turn] es).length = es.length :=
    fun _ _ => List.length_map _
  induction e using atom_induction with
  | and l r ihl ihr | or l r ihl ihr =>
    have hjoined (op : BinaryOp) (hop : isConnective (binary l op r) = true) :
        connectiveCount (binary l op r) = connectiveCount l + connectiveCount r + 1 := by
      simp [connectiveCount, parts_binary, hop]
    rw [hjoined _ rfl, atoms, List.length_append, hlength, hlength, atomConnectives_append,
      atomConnectives_behind, atomConnectives_behind]
    omega
  | nested a ih =>
    have hsame : connectiveCount (nested a) = connectiveCount a := by
      simp [connectiveCount, parts_nested, isConnective]
    rw [hsame, atoms, hlength, atomConnectives_behind, ih]
  | not a ih =>
    have hsame : connectiveCount (unary .not a) = connectiveCount a := by
      simp [connectiveCount, parts_unary, isConnective]
    rw [hsame, atoms, hlength, atomConnectives_behind, ih]
  | atom e h => simp [atoms_of_isAtom h, atomConnectives, connectiveCount, Nat.add_comm]

/-- Whether an expression refers, outside nested queries, to a column with a key. -/
def mentions (owner : Option String → Option String) (key : String) (e : Expr) : Bool :=
  e.parts.any fun p => p.column?.any fun column => columnKey (owner p.qualifier?) column == key

theorem mem_comparedColumns {owner : Option String → Option String} {key : String} {e : Expr} :
    key ∈ comparedColumns owner e ↔ e.mentions owner key = true := by
  simp only [comparedColumns, mem_sortedSet, columnRefs, List.mem_map, List.mem_filterMap, mentions,
    List.any_eq_true, Option.any_eq_true, Option.map_eq_some_iff, beq_iff_eq]
  constructor
  · rintro ⟨_, ⟨p, hp, column, hcolumn, rfl⟩, rfl⟩
    exact ⟨p, hp, column, hcolumn, rfl⟩
  · rintro ⟨p, hp, column, hcolumn, rfl⟩
    exact ⟨_, ⟨p, hp, column, hcolumn, rfl⟩, rfl⟩

/-- Each atom counts once for each column that it mentions. -/
theorem count_flatMap_comparedColumns (owner : Option String → Option String) (key : String)
    (e : Expr) : ((comparisons e).flatMap (comparedColumns owner)).count key =
      e.atoms.countP fun a => a.2.mentions owner key := by
  rw [← map_snd_atoms]
  induction e.atoms with
  | nil => rfl
  | cons a as ih =>
    -- a comparison lists each of its columns once, so it counts once for a column or not at all
    have hnodup : (comparedColumns owner a.2).Nodup := nodup_sortedSet _
    rw [List.map_cons, List.flatMap_cons, List.count_append, ih, List.countP_cons, hnodup.count, Nat.add_comm]
    simp only [mem_comparedColumns]

end Expr

end Sql

/-! ## 4. Predicates -/

/-- What a condition tells of a chunk of a predicate. -/
structure Condition.TellsOf (owner : Option String → Option String) (e : Expr) (c : Condition) : Prop where
  text : c.text = e.sql
  /-- A column has the number of atoms that mention it, if there are any. -/
  counts : ∀ key, c.counts.get? key =
    if e.atoms.countP (fun a => a.2.mentions owner key) = 0 then none
    else some (e.atoms.countP fun a => a.2.mentions owner key)
  /-- An `OR` is told of just if there is one above some atom. -/
  hasOr : c.hasOr = true ↔
    ∃ x ∈ e.atoms, ∃ route a b, route <+: x.1 ∧ e.under? route = some (.binary a .or b)

/-- What a predicate tells of the expression that it was taken apart from. -/
structure Predicate.TakesApart (owner : Option String → Option String) (e : Expr) (p : Predicate) : Prop where
  /-- The atoms are where routes end. -/
  atoms : ∀ route a, (route, a) ∈ e.atoms ↔ e.under? route = some a ∧ a.isAtom = true
  /-- The atoms are listed from left to right. -/
  order : (e.atoms.map Prod.fst).Pairwise Route.LeftOf
  /-- Each chunk is where its route leads, and it has atoms. -/
  chunks : ∀ c ∈ e.chunks, e.under? c.1 = some c.2 ∧ c.2.atoms ≠ []
  /-- The chunks share out the atoms in order. -/
  shared : e.atoms = e.chunks.flatMap fun c => Expr.behind c.1 c.2.atoms
  /-- Each condition tells of its chunk. -/
  conditions : List.Forall₂ (Condition.TellsOf owner) (e.chunks.map Prod.snd) p.conditions
  /-- The total counts the atoms and the connectives inside them. -/
  total : p.total = e.atoms.length + Expr.atomConnectives e.atoms

theorem Condition.tellsOf_ofExpr (owner : Option String → Option String) (e : Expr) :
    (Condition.ofExpr owner e).TellsOf owner e where
  text := rfl
  counts := by
    intro key
    rw [ofExpr, Keyed.get?_counted, ← e.count_flatMap_comparedColumns]
    simp only [List.count_eq_zero, ite_not]
  hasOr := by
    rw [ofExpr, e.joinsByOr_iff]
    constructor
    · rintro ⟨route, a, b, h⟩
      obtain ⟨x, hx, hstarts⟩ := Expr.exists_atom_behind h
      exact ⟨x, hx, route, a, b, hstarts, h⟩
    · rintro ⟨x, hx, route, a, b, hstarts, h⟩
      exact ⟨route, a, b, h⟩

theorem Predicate.isEmpty_ofExpr (owner : Option String → Option String) (e : Expr) :
    (ofExpr owner e).isEmpty = false := by
  simpa [isEmpty, ofExpr] using e.conjuncts_ne_nil

/-- **A predicate loses no atom and makes none up.** Its chunks share out the atoms of the expression in order;
of each chunk its condition tells how many atoms mention a column and whether an `OR` joins them; and the total
counts the atoms and the connectives inside them. -/
theorem Predicate.takesApart_ofExpr (owner : Option String → Option String) (e : Expr) :
    (Predicate.ofExpr owner e).TakesApart owner e where
  atoms := e.mem_atoms_iff
  order := e.atoms_pairwise
  chunks c hc := ⟨e.under?_of_mem_chunks c hc, c.2.atoms_ne_nil⟩
  shared := e.atoms_eq_flatMap_chunks
  conditions := by
    rw [e.map_snd_chunks, ofExpr, List.forall₂_map_right_iff, List.forall₂_same]
    exact fun x _ => Condition.tellsOf_ofExpr owner x
  total := by
    rw [total, isEmpty_ofExpr, ← e.connectiveCount_add_one]
    rfl

end QueryDrill
