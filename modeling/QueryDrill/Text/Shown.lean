import QueryDrill.Text.Case
import QueryDrill.Text.HiddenTable
/-!
Texts as messages show them: between double quotes, with escapes for what would not be seen.
-/

namespace QueryDrill.Text

/-- Whether a character has no shape of its own. -/
def isHidden (c : Char) : Bool :=
  if c.toNat < 0x80 then c.toNat < 0x20 || c.toNat == 0x7F else inRanges hiddenRanges c.toNat

/-- A character as messages show it. -/
def shownChar (c : Char) : List Char :=
  match c with
  | '"' => ['\\', '"']
  | '\\' => ['\\', '\\']
  | '\n' => ['\\', 'n']
  | '\r' => ['\\', 'r']
  | '\t' => ['\\', 't']
  | '\x00' => ['\\', '0']
  | c =>
    if isHidden c then "\\u\x7b".toList ++ Nat.toDigits 16 c.toNat ++ ['\x7d'] else [c]

/-- A text as messages show it. -/
def shownText (s : String) : String := "\"" ++ String.ofList (s.toList.flatMap shownChar) ++ "\""

end QueryDrill.Text
