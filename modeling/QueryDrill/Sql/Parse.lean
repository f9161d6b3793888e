import QueryDrill.Sql.Lexer
import QueryDrill.Sql.Grammar.Statement
/-!
From text to statements.

A fault is a cause with the place where it arose, counted in characters left; its message names the
line and the column.
-/

namespace QueryDrill.Sql

/-- Why a text holds no statements. Places are counted in characters left; a fault at the end of the
text has none. -/
inductive TextFault where
  | lexical (fault : LexFault) (left : Nat)
  | expected (what found : String) (left : Option Nat)
  | refused (reason : String) (left : Option Nat)
  | tooDeep
  deriving DecidableEq, Repr

namespace TextFault

/-- The message of a fault in a text. -/
def message (text : String) (fault : TextFault) : String :=
  let place (left : Option Nat) : String :=
    match left with
    | some n => positionText text.toList n
    | none => ""
  "sql parser error: " ++ match fault with
    | lexical f left => f.message ++ positionText text.toList left
    | expected what found left => "Expected " ++ what ++ ", found: " ++ found ++ place left
    | refused reason left => reason ++ place left
    | tooDeep => "recursion limit exceeded"

end TextFault

/-- The fault in a text with the given tokens that a parser met. -/
def SyntaxFault.inText (tokens : List (Token × Nat)) : SyntaxFault → TextFault
  | .tooDeep => .tooDeep
  | .refused reason none => .refused reason none
  | .refused reason (some left) =>
    .refused reason ((tokens.drop (tokens.length - left)).head?.map Prod.snd)
  | .expected what left =>
    let rest := tokens.drop (tokens.length - left)
    .expected what (foundText (rest.map Prod.fst)) (rest.head?.map Prod.snd)

/-- The statements of a text. -/
def parseStatements (d : Dialect) (text : String) : Except TextFault (List Statement) :=
  match lex d text.toList with
  | .error (fault, left) => .error (.lexical fault left)
  | .ok lexemes =>
    let tokens := tokensOf lexemes
    match Parser.statements ⟨d, lexemes.map Prod.fst⟩ (tokens.map Prod.fst) with
    | .ok (found, _) => .ok found
    | .error stop => .error (stop.fault.inText tokens)

end QueryDrill.Sql
