import QueryDrill.Sql.Grammar.Expression
/-!
What a `FROM` clause lists: tables, derived tables, computed sources, and joins of them.

A parenthesis may open a derived table or a join. It is read as a derived table first; if that fails,
as a join.
-/

namespace QueryDrill.Sql.Parser

open QueryDrill.Sql

/-! ## 1. Joins -/

/-- What a join matches rows by. -/
def joinConstraint (g : Grammar) (natural : Bool) : Parser JoinConstraint := do
  if natural then return .natural
  if ← keyword? "ON" then return .on (← g.expr)
  if ← keyword? "USING" then return .using (← columnList false)
  return .none

/-- The operator of a join that has a constraint, or none if no join follows. -/
def joinOperator? (natural : Bool) : Parser (Option JoinOperator) := do
  let sided (word : String) (outer semi anti : JoinOperator) : Parser (Option JoinOperator) := do
    let _ ← next?
    match ← oneOf? ["OUTER", "SEMI", "ANTI", "JOIN"] with
    | some "OUTER" =>
      keyword "JOIN"
      return some outer
    | some "SEMI" =>
      keyword "JOIN"
      return some semi
    | some "ANTI" =>
      keyword "JOIN"
      return some anti
    | some _ => return some outer
    | none => refuse ("expected OUTER, SEMI, ANTI or JOIN after " ++ word)
  match ← peekKeyword with
  | "INNER" | "JOIN" =>
    let _ ← keyword? "INNER"
    keyword "JOIN"
    return some .inner
  | "LEFT" => sided "LEFT" .leftOuter .leftSemi .leftAnti
  | "RIGHT" => sided "RIGHT" .rightOuter .rightSemi .rightAnti
  | "FULL" =>
    let _ ← next?
    let _ ← keyword? "OUTER"
    keyword "JOIN"
    return some .fullOuter
  | "OUTER" => fail "LEFT, RIGHT, or FULL"
  | _ => if natural then fail "a join type after NATURAL" else return none

/-- A join, or nothing. -/
def join? (g : Grammar) (factor : Parser TableFactor) : Parser (Option Join) := do
  if ← keyword? "CROSS" then
    if ← keyword? "JOIN" then return some ⟨← factor, .cross, .none⟩
    if ← keyword? "APPLY" then return some ⟨← factor, .crossApply, .none⟩
    fail "JOIN or APPLY after CROSS"
  if ← keyword? "OUTER" then
    keyword "APPLY"
    return some ⟨← factor, .outerApply, .none⟩
  let natural ← keyword? "NATURAL"
  match ← joinOperator? natural with
  | none => return none
  | some operator =>
    let relation ← factor
    return some ⟨relation, operator, ← joinConstraint g natural⟩

/-- A source and what is joined to it. -/
def joinChain (g : Grammar) (factor : Parser TableFactor) : Parser FromItem := do
  let relation ← factor
  let joins ← repeatWhile (fun joins => do
    return (← join? g factor).map (· :: joins)) []
  return ⟨relation, joins.reverse⟩

/-! ## 2. Clauses of a source -/

/-- A `PIVOT` clause, after its opening word. -/
def pivot (g : Grammar) (relation : TableFactor) : Parser TableFactor := do
  symbol "("
  let aggregate ← match ← next? with
    | some (.word v _ _) => call g [⟨v, none⟩]
    | _ => fail "an aggregate function name"
  keyword "FOR"
  let column ← name
  keyword "IN"
  symbol "("
  let values ← commaSeparated literal
  symbol ")"
  symbol ")"
  let after := " FOR " ++ nameSql column ++ " IN (" ++ commaList (values.map Literal.sql) ++ "))"
  return .turned relation [" PIVOT(", after] [aggregate] (← sourceAlias?)

/-- An `UNPIVOT` clause, after its opening word. -/
def unpivot (relation : TableFactor) : Parser TableFactor := do
  symbol "("
  let value ← ident
  keyword "FOR"
  let name ← ident
  keyword "IN"
  let columns ← columnList false
  symbol ")"
  let text := " UNPIVOT(" ++ value.sql ++ " FOR " ++ name.sql ++ " IN (" ++ identList columns ++ "))"
  return .turned relation [text] [] (← sourceAlias?)

/-- A source with the `PIVOT` and `UNPIVOT` clauses after it. -/
def turns (g : Grammar) (relation : TableFactor) : Parser TableFactor :=
  repeatWhile (fun relation => do
    if ← keyword? "PIVOT" then return some (← pivot g relation)
    if ← keyword? "UNPIVOT" then return some (← unpivot relation)
    return none) relation

/-- What a column of a document table holds where the document has no value or an error. -/
def documentFallback? : Parser (Option String) := do
  let fallback ← do
    if ← keyword? "NULL" then pure "NULL"
    else if ← keyword? "ERROR" then pure "ERROR"
    else if ← keyword? "DEFAULT" then pure ("DEFAULT " ++ (← literal).sql)
    else return none
  keyword "ON"
  return some fallback

/-- A column of a document table. -/
def documentColumn : Parser String := do
  let column ← ident
  let type ← dataType
  let isTest ← keyword? "EXISTS"
  keyword "PATH"
  let path ← literal
  let (onEmpty, onError) ← repeatWhile (fun (onEmpty, onError) => do
    match ← documentFallback? with
    | none => return none
    | some fallback =>
      if ← keyword? "EMPTY" then return some (" " ++ fallback ++ " ON EMPTY", onError)
      keyword "ERROR"
      return some (onEmpty, " " ++ fallback ++ " ON ERROR")) ("", "")
  return column.sql ++ " " ++ type.text ++ (if isTest then " EXISTS" else "") ++ " PATH " ++ path.sql
    ++ onEmpty ++ onError

/-! ## 3. Sources -/

/-- A derived table, after its opening parenthesis. -/
def derivedTable (g : Grammar) (lateral : Bool) : Parser TableFactor := do
  let q ← g.query
  symbol ")"
  return .derived lateral q (← sourceAlias?)

/-- A source that unrolls arrays, after its opening word. -/
def unnest (g : Grammar) : Parser TableFactor := do
  symbol "("
  let arrays ← commaSeparated g.expr
  symbol ")"
  let label ← sourceAlias?
  let rest ← do
    if ← keyword? "WITH" then
      if ← keyword? "OFFSET" then
        match ← label? reservedForColumn with
        | some a => pure (" WITH OFFSET AS " ++ a.sql)
        | none => pure " WITH OFFSET"
      else pure ""
    else pure ""
  let (ws, es) := Piece.split (.words "UNNEST(" :: Piece.commaList arrays ++ [.words ")"])
  return .computed ws es label rest

/-- A table that a document holds, after its opening word. -/
def documentTable (g : Grammar) : Parser TableFactor := do
  symbol "("
  let document ← g.expr
  symbol ","
  let path ← literal
  keyword "COLUMNS"
  symbol "("
  let columns ← commaSeparated documentColumn
  symbol ")"
  symbol ")"
  let after := ", " ++ path.sql ++ " COLUMNS(" ++ commaList columns ++ "))"
  return .computed ["JSON_TABLE(", after] [document] (← sourceAlias?) ""

/-- A table by its name, perhaps with arguments and hints. -/
def namedTable (g : Grammar) : Parser TableFactor := do
  let d ← dialect
  let table ← name
  let partitions ← do
    if d = .mysql || d = .generic then
      if ← keyword? "PARTITION" then parenthesized (commaSeparated ident) else pure []
    else pure []
  let args ← do
    if ← symbol? "(" then
      let args ← arguments g
      pure (some (.ofPieces (.words "(" :: Piece.commaList args ++ [.words ")"])))
    else pure none
  let label ← sourceAlias?
  let hints ← do
    if (← peekAt? 1) = some (.symbol "(") then
      if ← keyword? "WITH" then parenthesized (commaSeparated g.expr) else pure []
    else pure []
  turns g (.table table partitions args label hints)

/-- The alias of a source. -/
def factorAlias : TableFactor → Option TableAlias
  | .table _ _ _ a _ | .derived _ _ a | .joined _ a | .computed _ _ a _ | .turned _ _ _ a => a

/-- A source with another alias. -/
def withAlias (a : TableAlias) : TableFactor → TableFactor
  | .table name partitions args _ hints => .table name partitions args (some a) hints
  | .derived lateral q _ => .derived lateral q (some a)
  | .joined item _ => .joined item (some a)
  | .computed words operands _ rest => .computed words operands (some a) rest
  | .turned relation words operands _ => .turned relation words operands (some a)

/-- A join in parentheses, after the opening one. Only the generic dialect lets a single source stand
in parentheses, and takes an alias after them for the alias of the source. -/
def enclosedSource (inner : Parser FromItem) : Parser TableFactor := do
  let item ← inner
  let joined := !item.joins.isEmpty || (match item.relation with
    | .joined .. => true
    | _ => false)
  if joined then
    symbol ")"
    return .joined item (← sourceAlias?)
  unless (← dialect) = .generic do fail "joined table"
  symbol ")"
  match ← sourceAlias?, factorAlias item.relation with
  | none, _ => return item.relation
  | some _, some a => refuse ("duplicate alias " ++ a.sql)
  | some a, none => return withAlias a item.relation

/-- A source. `fuel` bounds how many parentheses stand inside one another. -/
def tableFactor (g : Grammar) : Nat → Parser TableFactor
  | 0 => fail "identifier"
  | fuel + 1 => do
    let d ← dialect
    if ← keyword? "LATERAL" then
      if ← symbol? "(" then derivedTable g true
      else
        let callee ← name
        symbol "("
        let args ← arguments g
        let (ws, es) := Piece.split (.words ("LATERAL " ++ nameSql callee ++ "(") ::
          Piece.commaList args ++ [.words ")"])
        return .computed ws es (← sourceAlias?) ""
    else if ← keyword? "TABLE" then
      let e ← parenthesized g.expr
      return .computed ["TABLE(", ")"] [e] (← sourceAlias?) ""
    else if ← symbol? "(" then
      match ← attempt (derivedTable g false) with
      | some table => turns g table
      | none => enclosedSource (joinChain g (tableFactor g fuel))
    else
      let k ← peekKeyword
      if k = "UNNEST" && (d = .postgres || d = .generic) then
        let _ ← next?
        unnest g
      else if k = "JSON_TABLE" then
        let _ ← next?
        documentTable g
      else namedTable g

/-- An entry of a `FROM` list. -/
def fromItem (g : Grammar) : Parser FromItem := do
  joinChain g (tableFactor g ((← get).length + 1))

end QueryDrill.Sql.Parser
