import QueryDrill.Language
/-!
What constraints are made of: bounds on a count, and choices between modes.

A check answers with what it observed where it fails, and with nothing where it passes.
-/

namespace QueryDrill

/-! ## 1. Bounds -/

/-- A lower bound and perhaps an upper bound. -/
structure Bounds where
  min : Nat
  max : Option Nat
  deriving DecidableEq, Repr, Inhabited

namespace Bounds

/-- A lower bound alone. -/
def atLeast (min : Nat) : Bounds := ⟨min, none⟩

/-- Whether a count lies within bounds, both ends included. -/
def admits (b : Bounds) (n : Nat) : Bool :=
  decide (b.min ≤ n) && match b.max with
    | some m => decide (n ≤ m)
    | none => true

/-- The larger of two lower bounds. -/
def joinMin (a b : Nat) : Nat := Nat.max a b

/-- The smaller of two upper bounds. A missing bound admits everything. -/
def joinMax : Option Nat → Option Nat → Option Nat
  | some a, some b => some (Nat.min a b)
  | some a, none => some a
  | none, b => b

/-- The bounds that admit what both admit. -/
def join (a b : Bounds) : Bounds := ⟨joinMin a.min b.min, joinMax a.max b.max⟩

/-- Bounds in words. -/
def phrase (l : Language) : Bounds → String
  | ⟨0, none⟩ => l.pick "any number of" "un numero qualsiasi di"
  | ⟨n, none⟩ => l.pick "at least" "almeno" ++ " " ++ toString n
  | ⟨0, some m⟩ => l.pick "at most" "al massimo" ++ " " ++ toString m
  | ⟨n, some m⟩ =>
    if n = m then l.pick "exactly" "esattamente" ++ " " ++ toString n
    else l.pick "between" "tra" ++ " " ++ toString n ++ " " ++ l.pick "and" "e" ++ " " ++ toString m

end Bounds

/-! ## 2. Modes -/

/-- Whether something has to be there or has to be absent. -/
inductive Presence where
  | present
  | absent
  deriving DecidableEq, Repr, Inhabited

namespace Presence

/-- The word a presence is known by. -/
def name : Presence → String
  | present => "present"
  | absent => "absent"

/-- Whether a presence holds of what is found. -/
def holds (p : Presence) (found : Bool) : Bool :=
  match p with
  | present => found
  | absent => !found

/-- The verb of a requirement. -/
def verb (l : Language) : Presence → String
  | present => l.pick "must" "deve"
  | absent => l.pick "must not" "non deve"

end Presence

/-- How subqueries may be nested. -/
inductive Nesting where
  | any
  /-- None is inside another. -/
  | flat
  /-- At least one is inside another. -/
  | nested
  deriving DecidableEq, Repr, Inhabited

/-- The word a nesting is known by. -/
def Nesting.name : Nesting → String
  | any => "any"
  | flat => "flat"
  | nested => "nested"

/-- What is asked about duplicate rows of a result. -/
inductive DuplicateMode where
  /-- Duplicates can occur. -/
  | allowed
  /-- No duplicate can occur. -/
  | unique
  /-- `DISTINCT` is used, and duplicates would occur without it. -/
  | distinctRequired
  deriving DecidableEq, Repr, Inhabited

/-- The word a mode is known by. -/
def DuplicateMode.name : DuplicateMode → String
  | allowed => "allowed"
  | unique => "unique"
  | distinctRequired => "distinct_required"

/-! ## 3. Checks -/

/-- The outcome of a check: what was observed instead, where it fails. -/
abbrev Observation := Option String

/-- Passes if a condition holds. -/
def passIf (holds : Bool) (observed : String) : Observation := if holds then none else some observed

@[simp] theorem passIf_eq_none_iff {holds : Bool} {observed : String} :
    passIf holds observed = none ↔ holds = true := by
  cases holds <;> simp [passIf]

/-- Passes if a count lies within bounds. -/
def countWithin (b : Bounds) (n : Nat) (what : String) : Observation :=
  passIf (b.admits n) (toString n ++ " " ++ what)

@[simp] theorem countWithin_eq_none_iff {b : Bounds} {n : Nat} {what : String} :
    countWithin b n what = none ↔ b.admits n = true := passIf_eq_none_iff

/-- Passes if there is nothing to object to. -/
def noneOf (objections : List String) (separator : String) : Observation :=
  passIf objections.isEmpty (separator.intercalate objections)

@[simp] theorem noneOf_eq_none_iff {objections : List String} {separator : String} :
    noneOf objections separator = none ↔ objections = [] := by
  rw [noneOf, passIf_eq_none_iff, List.isEmpty_iff]

end QueryDrill
