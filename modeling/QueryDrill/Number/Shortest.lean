import QueryDrill.Number.Binary
/-!
Shortest decimal texts of binary numbers: the fewest digits that read back as the number, and of those
with the fewest digits the nearest to it.

The reals that round to a number form an interval around it. A grid of decimals with a given last place
hits the interval just if one of the two grid points next to the number does, so the grids are tried from
the coarsest on.
-/

namespace QueryDrill

/-- A decimal: `digits` times ten to the exponent. -/
structure Decimal where
  digits : Nat
  exponent : Int
  deriving DecidableEq, Repr, Inhabited

namespace Decimal

/-! ## 1. Digits -/

/-- The interval of the reals that round to a number, in quarters of its last binary place, and whether
its ends belong to it. -/
structure Interval where
  lower : Nat
  upper : Nat
  closed : Bool

/-- The interval around a positive significand. Below a power of two the neighbour is only half as far
away. -/
def Interval.around (f : BinaryFormat) (significand : Nat) (exponent : Int) : Interval where
  lower :=
    if significand = Nat.pow 2 (f.precision - 1) ∧ f.least < exponent then 4 * significand - 1
    else 4 * significand - 2
  upper := 4 * significand + 2
  closed := significand % 2 = 0

/-- The point of the grid with the last place `10 ^ place` that reads back as the number, if there is
one: of two the nearer, and of two equally near the even one. -/
def onGrid? (i : Interval) (significand : Nat) (exponent place : Int) : Option Nat :=
  let quarter := exponent - 2
  let unit := Nat.pow 2 quarter.toNat * Nat.pow 10 (-place).toNat
  let step := Nat.pow 2 (-quarter).toNat * Nat.pow 10 place.toNat
  let value := 4 * significand * unit
  let inside (d : Nat) : Bool :=
    if i.closed then decide (i.lower * unit ≤ d * step ∧ d * step ≤ i.upper * unit)
    else decide (i.lower * unit < d * step ∧ d * step < i.upper * unit)
  let below := value / step
  match inside below, inside (below + 1) with
  | true, true => some (divNearest value step)
  | true, false => some below
  | false, true => some (below + 1)
  | false, false => none

/-- The shortest decimal that reads back as a positive number. -/
def shortest (f : BinaryFormat) (significand : Nat) (exponent : Int) : Decimal :=
  let i := Interval.around f significand exponent
  let top : Int := (significand.log2 + 1 + exponent) * 30103 / 100000 + 2
  let hit := (List.range 32).findSome? fun (k : Nat) =>
    (onGrid? i significand exponent (top - k)).map fun d => Decimal.mk d (top - k)
  hit.getD ⟨0, 0⟩

/-! ## 2. Texts -/

/-- The digits of a decimal with a point where it belongs. -/
def positional (d : Decimal) : String :=
  let digits := toString d.digits
  match d.exponent with
  | .ofNat k => digits ++ String.ofList (List.replicate k '0')
  | .negSucc k =>
    let places := k + 1
    if places < digits.length then
      String.ofList (digits.toList.take (digits.length - places)) ++ "."
        ++ String.ofList (digits.toList.drop (digits.length - places))
    else "0." ++ String.ofList (List.replicate (places - digits.length) '0') ++ digits

/-- The digits of a decimal with a point after the first of several, and a power of ten. -/
def scientific (d : Decimal) : String :=
  let digits := toString d.digits
  let power := "e" ++ toString (digits.length - 1 + d.exponent)
  match digits.toList with
  | first :: second :: rest => String.ofList (first :: '.' :: second :: rest) ++ power
  | _ => digits ++ power

end Decimal

namespace Binary

/-- The sign of a number as it is written. -/
def signText (negative : Bool) : String := if negative then "-" else ""

/-- A number in positional notation. -/
def plain (f : BinaryFormat) : Binary → String
  | finite negative 0 _ => signText negative ++ "0"
  | finite negative m e => signText negative ++ (Decimal.shortest f m e).positional
  | infinite negative => signText negative ++ "inf"
  | nan => "NaN"

/-- A finite number that always shows that it is not a whole number of another type: with a point or a
power of ten. It is positional while the point is at most sixteen digits to the right and four zeros to
the left. -/
def pointed (f : BinaryFormat) (negative : Bool) (significand : Nat) (exponent : Int) : String :=
  if significand = 0 then signText negative ++ "0.0"
  else
    let d := Decimal.shortest f significand exponent
    let point : Int := (toString d.digits).length + d.exponent
    signText negative ++
      if 0 ≤ d.exponent ∧ point ≤ 16 then d.positional ++ ".0"
      else if -5 < point ∧ point ≤ 16 then d.positional
      else d.scientific

end Binary

end QueryDrill
