import QueryDrill.Failure
import QueryDrill.Proofs.Sql.Lexing
/-!
Statements in a row.

A statement may be read differently where more follows it: the grammar looks ahead. `ReadsAs` says of tokens
that they are read as certain statements wherever they stand, before a semicolon or the end of the text. Such tokens
can be put one after the other with a semicolon between (`ReadsAs.append`), and more semicolons at the end do not
matter (`ReadsAs.append_replicate`). A text with such tokens has exactly these statements
(`parseStatements_of_readsAs`). That is shown along the loop over a list of statements, which goes on with what was
found before (`ReadsAs.repeatWhile_listStep`).
-/

namespace QueryDrill.Sql

open Text

/-! ## 1. Running a parser -/

namespace Parser

variable {α β : Type} {p : Parser α} {s : Setting} {ts rest : List Token}

theorem run_bind (p : Parser α) (f : α → Parser β) (s : Setting) (ts : List Token) :
    (p >>= f) s ts = match p s ts with
      | .ok (a, rest) => f a s rest
      | .error e => .error e := by
  show StateT.bind (p s) (fun a => f a s) ts = _
  unfold StateT.bind
  simp only [bind, Except.bind]
  cases p s ts <;> rfl

theorem run_bind_ok {a : α} (f : α → Parser β) (h : p s ts = .ok (a, rest)) : (p >>= f) s ts = f a s rest := by
  rw [run_bind, h]

theorem repeatWhile_none {a : α} {step : α → Parser (Option α)} (h : step a s ts = .ok (none, rest)) :
    repeatWhile step a s ts = .ok (a, rest) := by
  rw [repeatWhile, h]

theorem repeatWhile_some {a b : α} {step : α → Parser (Option α)} (h : step a s ts = .ok (some b, rest))
    (hlength : rest.length < ts.length) : repeatWhile step a s ts = repeatWhile step b s rest := by
  rw [repeatWhile, h]
  exact if_pos hlength

/-- One step through a list of statements: a semicolon, or a statement. -/
def listStep (statement : Parser α) : List α × Bool × Bool → Parser (Option (List α × Bool × Bool)) :=
  fun (found, complete, done) => do
    if done then return none
    if ← symbol? ";" then return some (found, false, false)
    match ← peek? with
    | none => return none
    | some t =>
      if complete then
        if t.keyword = "END" then return none
        fail "end of statement"
      return some ((← statement) :: found, true, false)

theorem statementList_eq (statement : Parser α) :
    statementList statement = do
      let x ← repeatWhile (listStep statement) ([], false, false)
      return x.1.reverse := rfl

theorem listStep_nil (found : List α) (complete : Bool) :
    listStep p (found, complete, false) s [] = .ok (none, []) := rfl

theorem listStep_semicolon (found : List α) (complete : Bool) :
    listStep p (found, complete, false) s (.symbol ";" :: ts) = .ok (some (found, false, false), ts) := rfl

theorem symbol?_of_ne {t : Token} {m : String} (ht : t ≠ .symbol m) :
    symbol? m s (t :: ts) = .ok (false, t :: ts) := by
  show (if t = .symbol m then (do set ts; return true) else return false : Parser Bool) s (t :: ts) = _
  rw [if_neg ht]
  rfl

theorem listStep_statement {t : Token} {a : α} (ht : t ≠ .symbol ";") (h : p s (t :: ts) = .ok (a, rest))
    (found : List α) :
    listStep p (found, false, false) s (t :: ts) = .ok (some (a :: found, true, false), rest) := by
  refine (run_bind_ok _ (symbol?_of_ne ht)).trans ?_
  show (p >>= fun a => return some (a :: found, true, false)) s (t :: ts) = _
  exact run_bind_ok _ h

end Parser

/-! ## 2. Statements that stand alone -/

/-- Whether tokens end, or go on with a semicolon. -/
def AtEnd (ts : List Token) : Prop := ts = [] ∨ ∃ rest, ts = .symbol ";" :: rest

/-- Tokens that are read as the given statements, each complete before a semicolon or the end of the text,
whatever comes after that and whatever the lexemes of the text are. -/
inductive ReadsAs {α : Type} (p : Parser α) (d : Dialect) : List Token → List α → Prop where
  | nil : ReadsAs p d [] []
  | semicolon {ts : List Token} {found : List α} (h : ReadsAs p d ts found) :
    ReadsAs p d (.symbol ";" :: ts) found
  | statement {t : Token} {ts rest : List Token} {a : α} {found : List α} (ht : t ≠ .symbol ";")
    (hp : ∀ (s : Setting) (more : List Token), s.dialect = d → AtEnd more →
      p s (t :: ts ++ more) = .ok (a, more))
    (hrest : AtEnd rest) (h : ReadsAs p d rest found) : ReadsAs p d (t :: ts ++ rest) (a :: found)

namespace ReadsAs

variable {α : Type} {p : Parser α} {d : Dialect} {ts ts' : List Token} {found found' : List α}

theorem atEnd_append (h : AtEnd ts) : AtEnd (ts ++ .symbol ";" :: ts') := by
  rcases h with rfl | ⟨rest, rfl⟩
  · exact .inr ⟨ts', rfl⟩
  · exact .inr ⟨rest ++ .symbol ";" :: ts', rfl⟩

/-- What is read alone is read in a row, with a semicolon between. -/
theorem append (h : ReadsAs p d ts found) (h' : ReadsAs p d ts' found') :
    ReadsAs p d (ts ++ .symbol ";" :: ts') (found ++ found') := by
  induction h with
  | nil => exact .semicolon h'
  | semicolon _ ih => exact .semicolon ih
  | statement ht hp hrest _ ih =>
    rw [List.append_assoc]
    exact .statement ht hp (atEnd_append hrest) ih

theorem replicate (n : Nat) : ReadsAs p d (List.replicate n (.symbol ";")) [] := by
  induction n with
  | zero => exact .nil
  | succ n ih => exact .semicolon ih

/-- Semicolons at the end change nothing. -/
theorem append_replicate (h : ReadsAs p d ts found) (n : Nat) :
    ReadsAs p d (ts ++ List.replicate n (.symbol ";")) found := by
  cases n with
  | zero => rwa [List.replicate_zero, List.append_nil]
  | succ n => rw [List.replicate_succ, ← List.append_nil found]; exact h.append (replicate n)

/-- The loop over a list of statements goes through the tokens and adds what is read to what has been found. -/
theorem repeatWhile_listStep (h : ReadsAs p d ts found) {s : Setting} (hs : s.dialect = d) (before : List α)
    {complete : Bool} (hcomplete : complete = true → AtEnd ts) :
    ∃ complete', Parser.repeatWhile (Parser.listStep p) (before, complete, false) s ts =
      .ok ((found.reverse ++ before, complete', false), []) := by
  induction h generalizing before complete with
  | nil => exact ⟨complete, Parser.repeatWhile_none (Parser.listStep_nil before complete)⟩
  | @semicolon ts found h ih =>
    obtain ⟨complete', hloop⟩ := ih before fun h => nomatch (h : false = true)
    refine ⟨complete', ?_⟩
    rw [Parser.repeatWhile_some (Parser.listStep_semicolon before complete) (Nat.lt_succ_self _), hloop]
  | @statement t ts rest a found ht hp hrest h ih =>
    obtain rfl : complete = false := by
      refine Bool.eq_false_iff.mpr fun hc => ?_
      rcases hcomplete hc with h | ⟨_, h⟩
      · cases h
      · exact ht (List.cons.inj h).1
    obtain ⟨complete', hloop⟩ := ih (a :: before) fun _ => hrest
    refine ⟨complete', ?_⟩
    have hlength : rest.length < (t :: ts ++ rest).length := by
      rw [List.length_append, List.length_cons]
      omega
    have hstep : Parser.listStep p (before, false, false) s (t :: ts ++ rest) =
        .ok (some (a :: before, true, false), rest) := Parser.listStep_statement ht (hp s rest hs hrest) before
    rw [Parser.repeatWhile_some hstep hlength, hloop, List.reverse_cons, List.append_assoc]
    rfl

theorem statementList (h : ReadsAs p d ts found) {s : Setting} (hs : s.dialect = d) :
    Parser.statementList p s ts = .ok (found, []) := by
  obtain ⟨complete, hloop⟩ := h.repeatWhile_listStep hs [] fun h => nomatch (h : false = true)
  rw [Parser.statementList_eq, Parser.run_bind_ok _ hloop, List.append_nil]
  show Except.ok (found.reverse.reverse, []) = _
  rw [List.reverse_reverse]

theorem single {t : Token} {a : α} (ht : t ≠ .symbol ";")
    (hp : ∀ (s : Setting) (more : List Token), s.dialect = d → AtEnd more →
      p s (t :: ts ++ more) = .ok (a, more)) :
    ReadsAs p d (t :: ts) [a] := by
  have h := statement ht hp (.inl rfl) .nil
  rwa [List.append_nil] at h

end ReadsAs

/-! ## 3. Texts -/

theorem lex_of_tokens? {d : Dialect} {cs : List Char} {ts : List Token} (h : tokens? d cs = some ts) :
    ∃ ls, lex d cs = .ok ls ∧ (tokensOf ls).map Prod.fst = ts := by
  unfold tokens? lexemes? at h
  cases hlex : lex d cs with
  | error => rw [hlex] at h; cases h
  | ok ls =>
    rw [hlex] at h
    refine ⟨ls, rfl, ?_⟩
    cases h
    show _ = (ls.map Prod.fst).filterMap Lexeme.token?
    rw [tokensOf, List.map_filterMap, List.filterMap_map]
    refine congrArg (List.filterMap · ls) (funext fun x => ?_)
    show (x.1.token?.map fun t => (t, x.2)).map Prod.fst = x.1.token?
    cases x.1.token? <;> rfl

/-- The tokens of a text decide which statements it has, if each is complete where it ends. -/
theorem parseStatements_of_readsAs {d : Dialect} {text : String} {ts : List Token} {found : List Statement}
    (hts : tokens? d text.toList = some ts) (h : ReadsAs (grammarAt nestingLimit).statement d ts found) :
    parseStatements d text = .ok found := by
  obtain ⟨ls, hlex, rfl⟩ := lex_of_tokens? hts
  rw [parseStatements, hlex]
  dsimp only
  rw [Parser.statements, h.statementList rfl]

/-! ## 4. A table without columns, and a row of defaults -/

namespace Parser

variable {lexemes : List Lexeme} {more : List Token}

theorem name_plain {s : Setting} (n : String) (hmore : more.head? ≠ some (.symbol ".")) :
    name s (.word n none "" :: more) = .ok ([⟨n, none⟩], more) := by
  have hdot : symbol? "." s more = .ok (false, more) := by
    cases more with
    | nil => rfl
    | cons t more => exact symbol?_of_ne fun h => hmore (h ▸ rfl)
  refine (run_bind_ok (p := ident) _ rfl).trans ?_
  refine (run_bind_ok _ (repeatWhile_none ?_)).trans rfl
  exact run_bind_ok _ hdot

theorem head?_of_atEnd {m : String} (hmore : AtEnd more) (hm : m ≠ ";") : more.head? ≠ some (.symbol m) := by
  rcases hmore with rfl | ⟨rest, rfl⟩
  · exact fun h => nomatch h
  · exact fun h => hm (Token.symbol.inj (Option.some.inj h)).symm

theorem createTable_plain (hmore : AtEnd more) (g : Grammar) (n : String) :
    createTable g "" ⟨.postgres, lexemes⟩ (.word n none "" :: more) =
      .ok (⟨"CREATE TABLE ", [⟨n, none⟩], "", [], [], true, ""⟩, more) := by
  have hname := name_plain (s := ⟨.postgres, lexemes⟩) n (head?_of_atEnd (m := ".") hmore (by decide))
  rcases hmore with rfl | ⟨rest, rfl⟩
  all_goals
    refine (run_bind_ok (p := unlessExists) _ rfl).trans ?_
    refine (run_bind_ok (p := name) _ hname).trans ?_
    refine (run_bind_ok (p := keywords? ["ON", "CLUSTER"]) _ rfl).trans ?_
    refine (run_bind_ok (p := pure "") _ rfl).trans ?_
    refine (run_bind_ok (p := oneOf? ["LIKE", "ILIKE"]) _ rfl).trans ?_
    refine (run_bind_ok (p := pure none) _ rfl).trans ?_
    refine (run_bind_ok (p := keyword? "CLONE") _ rfl).trans ?_
    refine (run_bind_ok (p := pure none) _ rfl).trans ?_
    refine (run_bind_ok (p := columnDefs g) _ rfl).trans ?_
    refine (run_bind_ok (p := keywords? ["WITHOUT", "ROWID"]) _ rfl).trans ?_
    refine (run_bind_ok (p := partitionColumns g) _ rfl).trans ?_
    refine (run_bind_ok (p := fileLayout g) _ (repeatWhile_none rfl)).trans ?_
    rfl

theorem statement_createTable (hmore : AtEnd more) (g : Grammar) (n : String) :
    statement g ⟨.postgres, lexemes⟩
        (.word "CREATE" none "CREATE" :: .word "TABLE" none "TABLE" :: .word n none "" :: more) =
      .ok (.createTable ⟨"CREATE TABLE ", [⟨n, none⟩], "", [], [], true, ""⟩, more) := by
  show (createTable g "" >>= fun t => return Statement.createTable t) ⟨.postgres, lexemes⟩
    (.word n none "" :: more) = _
  exact run_bind_ok _ (createTable_plain hmore g n)

theorem insertionInto_plain (hmore : AtEnd more) (g : Grammar) (verb n : String) :
    insertionInto g verb ⟨.postgres, lexemes⟩
        (.word n none "" :: .word "DEFAULT" none "DEFAULT" :: .word "VALUES" none "VALUES" :: more) =
      .ok (⟨verb, [⟨n, none⟩], none, [], none, [], [], [], []⟩, more) := by
  have hname : name ⟨.postgres, lexemes⟩ (.word n none "" :: .word "DEFAULT" none "DEFAULT" :: _) =
      .ok (_, .word "DEFAULT" none "DEFAULT" :: .word "VALUES" none "VALUES" :: more) :=
    name_plain n fun h => nomatch h
  rcases hmore with rfl | ⟨rest, rfl⟩
  all_goals
    refine (run_bind_ok (p := Parser.dialect) _ rfl).trans ?_
    refine (run_bind_ok (p := name) _ hname).trans ?_
    rfl

theorem insertion_plain (hmore : AtEnd more) (g : Grammar) (n : String) :
    insertion g ⟨.postgres, lexemes⟩ (.word "INTO" none "INTO" :: .word n none "" ::
        .word "DEFAULT" none "DEFAULT" :: .word "VALUES" none "VALUES" :: more) =
      .ok (.inl ⟨"INSERT INTO", [⟨n, none⟩], none, [], none, [], [], [], []⟩, more) := by
  have hinto : insertionInto g "INSERT INTO" ⟨.postgres, lexemes⟩ _ = _ :=
    insertionInto_plain hmore g "INSERT INTO" n
  refine (run_bind_ok (p := insertModifiers) _ rfl).trans ?_
  refine (run_bind_ok (p := oneOf? ["INTO", "OVERWRITE"]) _ rfl).trans ?_
  refine (run_bind_ok (p := keyword? "LOCAL") _ rfl).trans ?_
  refine (run_bind_ok (p := keyword? "DIRECTORY") _ rfl).trans ?_
  refine (run_bind_ok (p := keyword? "TABLE") _ rfl).trans ?_
  rw [if_neg (by decide)]
  exact run_bind_ok _ hinto

theorem statement_insert (hmore : AtEnd more) (g : Grammar) (n : String) :
    statement g ⟨.postgres, lexemes⟩ (.word "INSERT" none "INSERT" :: .word "INTO" none "INTO" ::
        .word n none "" :: .word "DEFAULT" none "DEFAULT" :: .word "VALUES" none "VALUES" :: more) =
      .ok (.insert ⟨"INSERT INTO", [⟨n, none⟩], none, [], none, [], [], [], []⟩, more) := by
  show insert g ⟨.postgres, lexemes⟩ _ = _
  exact run_bind_ok (p := insertion g) _ (insertion_plain hmore g n)

end Parser

/-- The definition of a table without columns is complete where it ends. -/
theorem readsAs_createTable (n : String) :
    ReadsAs (grammarAt nestingLimit).statement .postgres
      [.word "CREATE" none "CREATE", .word "TABLE" none "TABLE", .word n none ""]
      [.createTable ⟨"CREATE TABLE ", [⟨n, none⟩], "", [], [], true, ""⟩] := by
  refine .single Token.noConfusion ?_
  rintro ⟨_, lexemes⟩ more rfl hmore
  exact Parser.statement_createTable hmore _ n

/-- The insertion of a row of defaults is complete where it ends. -/
theorem readsAs_insert (n : String) :
    ReadsAs (grammarAt nestingLimit).statement .postgres
      [.word "INSERT" none "INSERT", .word "INTO" none "INTO", .word n none "", .word "DEFAULT" none "DEFAULT",
        .word "VALUES" none "VALUES"]
      [.insert ⟨"INSERT INTO", [⟨n, none⟩], none, [], none, [], [], [], []⟩] := by
  refine .single Token.noConfusion ?_
  rintro ⟨_, lexemes⟩ more rfl hmore
  exact Parser.statement_insert hmore _ n

end QueryDrill.Sql
