import QueryDrill.Proofs.Sql.Reading
/-!
A query is known by its tokens.

A parser has the lexemes of its text at hand, for the one statement in which blanks count: a copy of rows that stand
in the text. No query makes use of them, and no other statement turns into a query with other lexemes. `Stable` says
that of a parser and of the values that are to stay, and is shown for each statement (`statement_stable`) and along
the loop over a list of statements (`Stable.repeatWhile`). So the tokens of a text tell whether it is a query, and
which one (`parseStatements_congr`).
-/

namespace QueryDrill.Sql

/-- Whether a statement is a query. -/
def Statement.IsQuery (s : Statement) : Prop := ∃ q, s = .query q

namespace Parser

/-! ## 1. Parsers that do without lexemes -/

section Combinators

variable {α β : Type} {P : α → Prop} {Q : β → Prop} {p : Parser α} {f : α → Parser β}

/-- A parser makes no use of lexemes. -/
def Blind (p : Parser α) : Prop := ∀ s s' ts, s.dialect = s'.dialect → p s ts = p s' ts

/-- All values of a parser are of some kind. -/
def Yields (P : α → Prop) (p : Parser α) : Prop := ∀ s ts a rest, p s ts = .ok (a, rest) → P a

/-- Where a parser gives a value of some kind, it does so whatever the lexemes are. -/
def Stable (P : α → Prop) (p : Parser α) : Prop :=
  ∀ s s' ts a rest, s.dialect = s'.dialect → P a → p s ts = .ok (a, rest) → p s' ts = .ok (a, rest)

theorem Yields.pure {a : α} (h : P a) : Yields P (pure a) := by
  rintro s ts a' rest hp
  cases hp
  exact h

theorem Yields.stop (fault : SyntaxFault) : Yields P (stop fault) := by
  rintro s ts a rest hp
  cases hp

theorem Yields.fail (what : String) : Yields P (fail what) := by
  rintro s ts a rest hp
  cases hp

theorem Yields.ite {c : Prop} [Decidable c] {p q : Parser α} (hp : Yields P p) (hq : Yields P q) :
    Yields P (if c then p else q) := by
  split
  · exact hp
  · exact hq

theorem exists_of_bind {s : Setting} {ts rest : List Token} {b : β} (h : (p >>= f) s ts = .ok (b, rest)) :
    ∃ a rest', p s ts = .ok (a, rest') ∧ f a s rest' = .ok (b, rest) := by
  rw [run_bind] at h
  split at h
  · exact ⟨_, _, ‹_›, h⟩
  · cases h

theorem Yields.bind_of (hp : Yields P p) (hf : ∀ a, P a → Yields Q (f a)) : Yields Q (p >>= f) := by
  intro s ts b rest h
  obtain ⟨a, rest', ha, hrest⟩ := exists_of_bind h
  exact hf a (hp s ts a rest' ha) s rest' b rest hrest

theorem Yields.bind (hf : ∀ a, Yields Q (f a)) : Yields Q (p >>= f) :=
  bind_of (P := fun _ => True) (fun _ _ _ _ _ => trivial) fun a _ => hf a

theorem Blind.stable (h : Blind p) : Stable P p := fun s s' ts _ _ hs _ hp => h s s' ts hs ▸ hp

theorem Stable.of_yields (h : Yields (¬P ·) p) : Stable P p :=
  fun s _ ts a rest _ ha hp => absurd ha (h s ts a rest hp)

/-- One parser after another: the first may depend on lexemes where nothing of interest comes of it. -/
theorem Stable.bind (hp : Stable P p) (hf : ∀ a, P a → Stable Q (f a)) (hnot : ∀ a, ¬P a → Yields (¬Q ·) (f a)) :
    Stable Q (p >>= f) := by
  intro s s' ts b rest hs hb h
  obtain ⟨a, rest', ha, hrest⟩ := exists_of_bind h
  by_cases hP : P a
  · rw [run_bind_ok f (hp s s' ts a rest' hs hP ha)]
    exact hf a hP s s' rest' b rest hs hb hrest
  · exact absurd hb (hnot a hP s rest' b rest hrest)

theorem Stable.bind_blind (hp : Blind p) (hf : ∀ a, Stable Q (f a)) : Stable Q (p >>= f) :=
  .bind (P := fun _ => True) hp.stable (fun a _ => hf a) fun _ h => absurd trivial h

theorem Stable.ite {c : Prop} [Decidable c] {p q : Parser α} (hp : Stable P p) (hq : Stable P q) :
    Stable P (if c then p else q) := by
  split
  · exact hp
  · exact hq

/-- What a loop ends with is what each of its steps leads back from. -/
theorem of_repeatWhile {step : α → Parser (Option α)}
    (hback : ∀ a s ts b rest, step a s ts = .ok (some b, rest) → P b → P a) {a b : α} {s : Setting}
    {ts rest : List Token} (h : Parser.repeatWhile step a s ts = .ok (b, rest)) (hb : P b) : P a := by
  fun_induction Parser.repeatWhile step a s ts with
  | case1 a ts e hstep => cases h
  | case2 a ts rest' hstep =>
    cases h
    exact hb
  | case3 a ts c rest' hstep hlength ih => exact hback a s ts c rest' hstep (ih h)
  | case4 a ts c rest' hstep hlength =>
    cases h
    exact hback a s ts b rest hstep hb

/-- A loop, if values of interest come of such values only. -/
theorem Stable.repeatWhile {step : α → Parser (Option α)} (hstep : ∀ a, Stable (∀ b ∈ ·, P b) (step a))
    (hback : ∀ a s ts b rest, step a s ts = .ok (some b, rest) → P b → P a) (a : α) :
    Stable P (repeatWhile step a) := by
  intro s s' ts b rest hs hb h
  fun_induction Parser.repeatWhile step a s ts with
  | case1 a ts e hrun => cases h
  | case2 a ts rest' hrun =>
    cases h
    exact repeatWhile_none (hstep b s s' ts none rest hs nofun hrun)
  | case3 a ts c rest' hrun hlength ih =>
    have hc : ∀ b ∈ some c, P b := by
      rintro _ ⟨⟩
      exact of_repeatWhile hback h hb
    rw [repeatWhile_some (hstep a s s' ts _ rest' hs hc hrun) hlength]
    exact ih h
  | case4 a ts c rest' hrun hlength =>
    cases h
    have hc : ∀ c ∈ some b, P c := by
      rintro _ ⟨⟩
      exact hb
    rw [Parser.repeatWhile, hstep a s s' ts _ rest hs hc hrun]
    exact if_neg hlength

end Combinators

/-! ## 2. Statements -/

theorem keywords?_blind (ks : List String) : Blind (keywords? ks) := by
  intro s s' ts _
  have hget (s) : (get : Parser (List Token)) s ts = .ok (ts, ts) := rfl
  rw [keywords?, run_bind_ok _ (hget s), run_bind_ok _ (hget s')]
  cases afterKeywords? ks ts <;> rfl

theorem tableLocks?_stable : Stable (· = none) tableLocks? := by
  unfold tableLocks?
  refine .bind_blind (fun s s' ts hs => ?_) fun d => .ite ?_ ?_
  · show Except.ok (s.dialect, ts) = .ok (s'.dialect, ts)
    rw [hs]
  · refine .bind_blind (keywords?_blind _) fun locks => .ite ?_ ?_
    · exact .of_yields (.bind fun _ => .pure nofun)
    · refine .bind_blind (keywords?_blind _) fun unlocks => .ite ?_ ?_
      all_goals exact Blind.stable fun _ _ _ _ => rfl
  · exact Blind.stable fun _ _ _ _ => rfl

theorem create_yields (g : Grammar) : Yields (¬·.IsQuery) (create g) := by
  unfold create
  repeat' first
    | exact .fail _
    | exact .pure nofun
    | exact .bind fun _ => .pure nofun
    | refine .ite ?_ ?_
    | refine .bind fun _ => ?_

theorem insert_yields (g : Grammar) : Yields (¬·.IsQuery) (insert g) := by
  refine .bind fun found => ?_
  split
  · exact .pure nofun
  · exact .pure nofun

theorem replacement_yields (g : Grammar) : Yields (¬·.IsQuery) (replacement g) := by
  refine .bind fun d => ?_
  cases d with
  | mysql | generic =>
    refine (insert_yields g).bind_of fun s hs => ?_
    split
    · exact .pure nofun
    · exact .pure hs
  | sqlite => exact insert_yields g
  | postgres => exact .bind fun _ => .stop _

/-- What is no query does not open with one of its words, and is none with other lexemes. -/
theorem statement_stable {g : Grammar} (hquery : Blind g.query) : Stable Statement.IsQuery (statement g) := by
  have hopen (start : List Token) : Stable Statement.IsQuery (do set start; return .query (← g.query)) :=
    .bind_blind (fun _ _ _ _ => rfl) fun _ => .bind_blind hquery fun _ => Blind.stable fun _ _ _ _ => rfl
  unfold statement
  refine .bind tableLocks?_stable ?unlocked ?locked
  case locked =>
    rintro (_ | text) hlocks
    · exact absurd rfl hlocks
    · exact .pure nofun
  rintro _ rfl
  refine .bind_blind (fun _ _ _ _ => rfl) fun start => .bind_blind (fun _ _ _ _ => rfl) fun t => ?_
  split
  · refine .ite (hopen start) (.ite ?create (.ite ?insert (.ite ?replace ?text)))
    case create => exact .of_yields (create_yields g)
    case insert => exact .of_yields (insert_yields g)
    case replace =>
      refine .of_yields (.bind fun d => .ite (.bind fun _ => ?_) ?_)
      all_goals exact replacement_yields g
    case text =>
      refine .of_yields (.bind fun text => ?_)
      split
      · exact .pure nofun
      · exact .stop _
  · exact hopen start
  · exact Blind.stable fun _ _ _ _ => rfl

/-! ## 3. Lists of statements -/

theorem symbol?_blind (m : String) : Blind (symbol? m) := by
  intro s s' ts _
  rcases ts with _ | ⟨t, ts⟩
  · rfl
  · by_cases ht : t = .symbol m
    · show (if t = .symbol m then (do set ts; return true) else return false : Parser Bool) s (t :: ts) =
        (if t = .symbol m then (do set ts; return true) else return false : Parser Bool) s' (t :: ts)
      rw [if_pos ht]
      rfl
    · rw [symbol?_of_ne ht, symbol?_of_ne ht]

/-- A list of queries and nothing else. -/
def AllQueries (x : List Statement × Bool × Bool) : Prop := ∀ a ∈ x.1, a.IsQuery

theorem listStep_stable {p : Parser Statement} (hp : Stable Statement.IsQuery p)
    (x : List Statement × Bool × Bool) : Stable (∀ y ∈ ·, AllQueries y) (listStep p x) := by
  obtain ⟨found, complete, done⟩ := x
  unfold listStep
  refine .ite (Blind.stable fun _ _ _ _ => rfl) (.bind_blind (symbol?_blind ";") fun ended => .ite ?_ ?_)
  · exact Blind.stable fun _ _ _ _ => rfl
  · have hread : Stable (∀ y ∈ ·, AllQueries y) (do return some ((← p) :: found, true, false)) :=
      .bind hp (fun _ _ => Blind.stable fun _ _ _ _ => rfl) fun a ha =>
        .pure fun hall => ha (hall _ rfl a List.mem_cons_self)
    refine .bind_blind (fun _ _ _ _ => rfl) fun t => ?_
    split
    · exact Blind.stable fun _ _ _ _ => rfl
    · refine .ite (.ite ?_ (.bind_blind (fun _ _ _ _ => rfl) fun _ => hread)) hread
      exact Blind.stable fun _ _ _ _ => rfl

/-- A step adds to the statements that were found before. -/
theorem listStep_yields (p : Parser Statement) (x : List Statement × Bool × Bool) :
    Yields (∀ y ∈ ·, AllQueries y → AllQueries x) (listStep p x) := by
  obtain ⟨found, complete, done⟩ := x
  have hread : Yields (∀ y ∈ ·, AllQueries y → AllQueries (found, complete, done))
      (do return some ((← p) :: found, true, false)) := by
    refine .bind fun a => .pure ?_
    rintro _ ⟨⟩ hall b hb
    exact hall b (List.mem_cons_of_mem a hb)
  unfold listStep
  refine .ite (.pure nofun) (.bind fun ended => .ite (.pure ?_) (.bind fun t => ?_))
  · rintro _ ⟨⟩ hall
    exact hall
  · split
    · exact .pure nofun
    · exact .ite (.ite (.pure nofun) (.bind fun _ => hread)) hread

theorem statementList_stable {p : Parser Statement} (hp : Stable Statement.IsQuery p) :
    Stable (∀ a ∈ ·, a.IsQuery) (statementList p) := by
  rw [statementList_eq]
  have hback (x : List Statement × Bool × Bool) (s : Setting) (ts : List Token)
      (y : List Statement × Bool × Bool) (rest : List Token) (h : listStep p x s ts = .ok (some y, rest)) :
      AllQueries y → AllQueries x := listStep_yields p x s ts (some y) rest h y rfl
  refine .bind (P := AllQueries) (.repeatWhile (listStep_stable hp) hback _) ?_ ?_
  · exact fun _ _ => Blind.stable fun _ _ _ _ => rfl
  · exact fun x hx => .pure fun hall => hx fun a ha => hall a (List.mem_reverse.2 ha)

theorem query_blind (depth : Nat) : Blind (grammarAt depth).query := by
  cases depth with
  | zero => exact fun _ _ _ _ => rfl
  | succ depth => 
    rintro ⟨d, _⟩ ⟨_, _⟩ ts rfl
    rfl

theorem grammarAt_stable (depth : Nat) : Stable Statement.IsQuery (grammarAt depth).statement := by
  cases depth with
  | zero => exact Blind.stable fun _ _ _ _ => rfl
  | succ depth => exact statement_stable (query_blind depth)

theorem statements_stable : Stable (∀ a ∈ ·, a.IsQuery) statements :=
  statementList_stable (grammarAt_stable nestingLimit)

end Parser

/-! ## 4. Texts -/

theorem tokens?_of_lex {d : Dialect} {cs : List Char} {ls : List (Lexeme × Nat)} (h : lex d cs = .ok ls) :
    tokens? d cs = some ((tokensOf ls).map Prod.fst) := by
  have hsome : ∃ ts, tokens? d cs = some ts := ⟨_, by rw [tokens?, lexemes?, h]; rfl⟩
  obtain ⟨ts, hts⟩ := hsome
  obtain ⟨ls', hlex, rfl⟩ := lex_of_tokens? hts
  cases h.symm.trans hlex
  exact hts

/-- **The tokens of a text tell which queries it has.** -/
theorem parseStatements_congr {d : Dialect} {text text' : String}
    (htokens : tokens? d text'.toList = tokens? d text.toList) {found : List Statement}
    (hfound : ∀ a ∈ found, a.IsQuery) (h : parseStatements d text = .ok found) :
    parseStatements d text' = .ok found := by
  unfold parseStatements at h
  split at h
  · cases h
  · rename_i ls hlex
    dsimp only at h
    split at h
    · rename_i found' rest hrun
      cases h
      obtain ⟨ls', hlex', htokens'⟩ := lex_of_tokens? (htokens.trans (tokens?_of_lex hlex))
      have hrun' : Parser.statements ⟨d, ls'.map Prod.fst⟩ ((tokensOf ls').map Prod.fst) = .ok (found, rest) := by
        rw [htokens']
        exact Parser.statements_stable ⟨d, ls.map Prod.fst⟩ _ _ _ _ rfl hfound hrun
      rw [parseStatements, hlex']
      dsimp only
      rw [hrun']
    · cases h

end QueryDrill.Sql
