import QueryDrill.Text.CaseTable
/-!
Lower and upper case of a text, by the full case maps of the Unicode standard.

A character can grow when its case changes (`ß` has the upper-case form `SS`), so both maps go from
a character to a list of characters. One letter depends on its neighbours: a capital sigma that ends
a word has the lower-case form `ς`, and elsewhere `σ`. A word ends at a sigma when the nearest
character before it that is not passed over has case, and the nearest such character after it has
none.
-/

namespace QueryDrill.Text

/-! ## 1. Tables -/

/-- Whether a code point lies in one of the inclusive ranges. -/
def inRanges (ranges : List (Nat × Nat)) (n : Nat) : Bool :=
  ranges.any fun r => r.1 ≤ n && n ≤ r.2

/-- The other case of a code point, if one of the runs covers it. -/
def runTarget (runs : List CaseRun) (n : Nat) : Option Nat :=
  runs.findSome? fun (first, last, step, target) =>
    if first ≤ n && n ≤ last && (n - first) % step == 0 then some (target + (n - first)) else none

/-- The other case of a character above ASCII by an expansion table and a table of runs. -/
def mapByTable (expansions : List (Nat × List Nat)) (runs : List CaseRun) (c : Char) : List Char :=
  match expansions.lookup c.toNat with
  | some ns => ns.map Char.ofNat
  | none =>
    match runTarget runs c.toNat with
    | some n => [Char.ofNat n]
    | none => [c]

/-! ## 2. Single characters -/

/-- The lower-case form of a character taken by itself. -/
def lowerChar (c : Char) : List Char :=
  if c.toNat < 0x80 then [c.toLower] else mapByTable lowerExpansions lowerRuns c

/-- The upper-case form of a character. -/
def upperChar (c : Char) : List Char :=
  if c.toNat < 0x80 then [c.toUpper] else mapByTable upperExpansions upperRuns c

/-- Whether a character has case. -/
def isCased (c : Char) : Bool := inRanges casedRanges c.toNat

/-- Whether a search for a cased neighbour passes over a character. -/
def isCaseIgnorable (c : Char) : Bool := inRanges caseIgnorableRanges c.toNat

/-- Whether the nearest character that is not passed over has case. -/
def meetsCased (cs : List Char) : Bool :=
  match cs.dropWhile isCaseIgnorable with
  | [] => false
  | c :: _ => isCased c

/-! ## 3. Texts -/

/-- The lower-case form of `cs`, where `before` holds the characters already read, nearest first. -/
def lowerAfter (before : List Char) : List Char → List Char
  | [] => []
  | c :: cs =>
    if c = 'Σ' then
      (if meetsCased before && !meetsCased cs then 'ς' else 'σ') :: lowerAfter (c :: before) cs
    else lowerChar c ++ lowerAfter (c :: before) cs

/-- The lower-case form of a text. -/
def lower (s : String) : String := String.ofList (lowerAfter [] s.toList)

/-- The upper-case form of a text. -/
def upper (s : String) : String := String.ofList (s.toList.flatMap upperChar)

/-- The lower-case form of the ASCII letters of a text; other characters stay. -/
def lowerAscii (s : String) : String := String.ofList (s.toList.map Char.toLower)

end QueryDrill.Text
