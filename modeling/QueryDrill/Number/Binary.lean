/-!
Binary floating-point numbers, exactly.

A finite number is a whole significand times a power of two. A format bounds both; what lies between two
numbers of a format is rounded to the nearer one, and halfway to the one with the even significand.
-/

namespace QueryDrill

/-! ## 1. Formats -/

/-- A format: significands below `2 ^ precision`, exponents from `least` to `greatest`. -/
structure BinaryFormat where
  precision : Nat
  least : Int
  greatest : Int
  deriving DecidableEq, Repr, Inhabited

namespace BinaryFormat

/-- Numbers of 64 bits. -/
def double : BinaryFormat := ⟨53, -1074, 971⟩

/-- Numbers of 32 bits. -/
def single : BinaryFormat := ⟨24, -149, 104⟩

end BinaryFormat

/-- A number with a sign, also if it is zero. -/
inductive Binary where
  /-- The significand times two to the exponent. -/
  | finite (negative : Bool) (significand : Nat) (exponent : Int)
  | infinite (negative : Bool)
  | nan
  deriving DecidableEq, Repr, Inhabited

/-! ## 2. Rounding -/

/-- The whole number next to `num / den`; halfway between two, the even one. -/
def divNearest (num den : Nat) : Nat :=
  let quotient := num / den
  let rest := num % den
  if 2 * rest < den then quotient
  else if den < 2 * rest then quotient + 1
  else quotient + quotient % 2

/-- The fraction `num / den` divided by two to the exponent, as a fraction. -/
def scaleDown (num den : Nat) : Int → Nat × Nat
  | .ofNat k => (num, den * Nat.pow 2 k)
  | .negSucc k => (num * Nat.pow 2 (k + 1), den)

/-- The greatest exponent whose power of two is not above a positive fraction. -/
def floorLog2 (num den : Nat) : Int :=
  let guess : Int := num.log2 - den.log2
  let (a, b) := scaleDown num den guess
  if a < b then guess - 1 else guess

namespace Binary

/-- The number of a format next to a fraction. -/
def round (f : BinaryFormat) (negative : Bool) (num den : Nat) : Binary :=
  if num = 0 then finite negative 0 f.least
  else
    let exponent := max f.least (floorLog2 num den - (f.precision - 1 : Nat))
    let (a, b) := scaleDown num den exponent
    let significand := divNearest a b
    let (significand, exponent) :=
      if significand = Nat.pow 2 f.precision then (significand / 2, exponent + 1) else (significand, exponent)
    if f.greatest < exponent then infinite negative else finite negative significand exponent

/-- A finite number as a fraction without its sign. -/
def fraction (significand : Nat) : Int → Nat × Nat
  | .ofNat k => (significand * Nat.pow 2 k, 1)
  | .negSucc k => (significand, Nat.pow 2 (k + 1))

/-- A number in another format. -/
def convert (f : BinaryFormat) : Binary → Binary
  | finite negative m e =>
    let (num, den) := fraction m e
    round f negative num den
  | infinite negative => infinite negative
  | nan => nan

/-- A whole number in a format. -/
def ofInt (f : BinaryFormat) (n : Int) : Binary := round f (decide (n < 0)) n.natAbs 1

/-- The number of a format next to `digits` times ten to the exponent. Beyond four hundred places on
either side of the point every format has overflowed or come down to zero. -/
def ofDecimal (f : BinaryFormat) (negative : Bool) (digits : Nat) (exponent : Int) : Binary :=
  let places : Int := (Nat.toDigits 10 digits).length + exponent
  if digits = 0 ∨ places < -400 then finite negative 0 f.least
  else if 400 < places then infinite negative
  else
    match exponent with
    | .ofNat k => round f negative (digits * Nat.pow 10 k) 1
    | .negSucc k => round f negative digits (Nat.pow 10 (k + 1))

/-- The number with the other sign. -/
def negate : Binary → Binary
  | finite negative m e => finite (!negative) m e
  | infinite negative => infinite (!negative)
  | nan => nan

/-- Whether a number lies between zero and a whole number, both included. -/
def isBetweenZeroAnd (bound : Nat) : Binary → Bool
  | finite negative m e =>
    let (num, den) := fraction m e
    decide (m = 0) || (!negative && decide (num ≤ bound * den))
  | _ => false

end Binary

end QueryDrill
