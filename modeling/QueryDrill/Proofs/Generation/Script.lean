import Mathlib.Data.List.Forall2
import QueryDrill.Generation.Dataset
import QueryDrill.Proofs.Sql.Reading
import QueryDrill.Proofs.Text.Trimming
/-!
When the script of a dataset makes the same dataset again.

The script has a line for each command: its bare statement (`bareStatement`) and a semicolon. Read as one text,
the lines have the tokens of their commands with semicolons between (`tokens?_scriptLine`), save that a comment at
the end of a command takes the semicolon of its line. The next command is then read as more of the same statement, so
a script may be refused although each command is read (`terminator_lost`).

* `toSql_reproduces`: the lines of the table definitions declare the same catalog as the definitions, and those
  of the insertions add the same rows, where each command stands alone (`StandsAlone`) and none but the last ends in
  a comment (`Rereadable`).

That a command stands alone is asked of its bare statement: no statement in it is read differently for what
comes after a semicolon.
-/

namespace QueryDrill

open Sql Text

namespace Dataset

/-! ## 1. Commands and their bare statements -/

/-- A command is its bare statement with blanks in front, and with blanks and semicolons behind. -/
theorem exists_bareStatement (cs : List Char) :
    ∃ opening ending, cs = opening ++ (bareStatement cs ++ ending) ∧ (∀ c ∈ opening, isBlank c = true) ∧
      ∀ c ∈ ending, isBlank c = true ∨ c = ';' := by
  obtain ⟨blanks, hblanks, hall⟩ := exists_eq_append isBlank (trimStartChars cs)
  obtain ⟨semicolons, hsemicolons, hall'⟩ := exists_eq_append (· == ';') (trimChars cs)
  obtain ⟨inner, hinner, hall''⟩ :=
    exists_eq_append isBlank ((trimChars cs).reverse.dropWhile (· == ';')).reverse
  refine ⟨cs.takeWhile isBlank, inner ++ (semicolons ++ blanks), ?_, fun c hc => List.mem_takeWhile_imp hc,
    fun c hc => ?_⟩
  · calc cs = cs.takeWhile isBlank ++ trimStartChars cs := List.takeWhile_append_dropWhile.symm
      _ = cs.takeWhile isBlank ++ (trimChars cs ++ blanks) := congrArg _ hblanks
      _ = cs.takeWhile isBlank ++ ((bareStatement cs ++ inner ++ semicolons) ++ blanks) := by
        refine congrArg (fun x => cs.takeWhile isBlank ++ (x ++ blanks)) (hsemicolons.trans ?_)
        exact congrArg (· ++ semicolons) hinner
      _ = cs.takeWhile isBlank ++ (bareStatement cs ++ (inner ++ (semicolons ++ blanks))) := by
        simp only [List.append_assoc]
  · rcases List.mem_append.mp hc with hc | hc
    · exact .inl (hall'' c hc)
    · rcases List.mem_append.mp hc with hc | hc
      · exact .inr (beq_iff_eq.mp (hall' c hc))
      · exact .inl (hall c hc)

/-- A command whose bare statement says the same in a script: no blank of the command is a letter of the
dialect, the bare statement does not end in a mark that opens a name, and what it says are statements that are
complete before a semicolon. -/
structure StandsAlone (d : Dialect) (command : String) (found : List Statement) : Prop where
  blanks : ∀ c ∈ command.toList, isBlank c = true → d.opensName c = false
  reads : ∃ ls, lexemes? d (bareStatement command.toList) = some ls ∧ endsInMark d ls = false ∧
    ReadsAs (grammarAt nestingLimit).statement d (ls.filterMap Lexeme.token?) found
  found_ne_nil : found ≠ []

/-- Whether the bare statement of a command ends in a comment that the next line end closes. -/
def endsInComment (d : Dialect) (command : String) : Bool :=
  (lexemes? d (bareStatement command.toList)).any endsInLine

variable {d : Dialect} {command : String} {found : List Statement}

/-- The tokens of a command are those of its bare statement, and semicolons. -/
theorem tokens?_command (hblanks : ∀ c ∈ command.toList, isBlank c = true → d.opensName c = false)
    {ls : List Lexeme} (hls : lexemes? d (bareStatement command.toList) = some ls)
    (hmark : endsInMark d ls = false) :
    ∃ n, tokens? d command.toList = some (ls.filterMap Lexeme.token? ++ List.replicate n (.symbol ";")) := by
  obtain ⟨opening, ending, heq, hopening, hending⟩ := exists_bareStatement command.toList
  have hopening' (c : Char) (hc : c ∈ opening) : Separates d c :=
    .inr ⟨hopening c hc, hblanks c (heq ▸ List.mem_append_left _ hc) (hopening c hc)⟩
  have hending (c : Char) (hc : c ∈ ending) : Separates d c := by
    rcases hending c hc with hblank | rfl
    · exact .inr ⟨hblank, hblanks c (heq ▸ List.mem_append_right _ (List.mem_append_right _ hc)) hblank⟩
    · exact .inl rfl
  have hsemicolon : ';' ∉ opening := fun h => absurd (hopening ';' h) (by decide)
  obtain ⟨n, -, htokens⟩ := tokens?_between hopening' hsemicolon hending hls hmark
  exact ⟨n, (congrArg (tokens? d) heq).trans htokens⟩

/-- The tokens of the line that a script has for a command: its own, and a semicolon, unless the command ends in
a comment, which takes the semicolon as well. -/
theorem tokens?_scriptLine {ls : List Lexeme} (hls : lexemes? d (bareStatement command.toList) = some ls)
    (hmark : endsInMark d ls = false) (hne : bareStatement command.toList ≠ []) (more : List Char) :
    tokens? d ((scriptLine command).toList ++ more) = (tokens? d more).map fun ts =>
      ls.filterMap Lexeme.token? ++ if endsInLine ls then ts else .symbol ";" :: ts := by
  have hline : (scriptLine command).toList ++ more = bareStatement command.toList ++ ';' :: '\n' :: more := by
    unfold scriptLine
    rw [if_neg (by rwa [List.isEmpty_iff]), String.toList_append, String.toList_ofList, List.append_assoc]
    rfl
  rw [hline, tokens?_append (.inl rfl) hls hmark]
  have hblank : Separates d '\n' := .inr ⟨by decide, by cases d <;> decide⟩
  by_cases hopen : endsInLine ls = true
  · simp only [if_pos hopen]
    rfl
  · simp only [if_neg hopen]
    rw [tokens?_semicolon, tokens?_blank hblank (by decide), Option.map_map]
    rfl

/-! ## 2. Scripts -/

/-- The part of a script that some commands make. -/
def scriptPart (commands : List String) : String := String.join (commands.map scriptLine)

theorem scriptPart_append (xs ys : List String) : scriptPart (xs ++ ys) = scriptPart xs ++ scriptPart ys := by
  rw [scriptPart, List.map_append, String.join_append]
  rfl

theorem scriptPart_cons (command : String) (commands : List String) :
    scriptPart (command :: commands) = scriptLine command ++ scriptPart commands := by
  rw [scriptPart, List.map_cons, String.join_cons]
  rfl

/-- The statements that open the script of a dataset. -/
def schemaStatements (schemaName : String) : List String :=
  ["BEGIN", "DROP SCHEMA IF EXISTS " ++ schemaName ++ " CASCADE", "CREATE SCHEMA " ++ schemaName,
    "SET search_path TO " ++ schemaName]

theorem toSql_eq (schemaName : String) (d : Dataset) :
    d.toSql schemaName = scriptPart (schemaStatements schemaName) ++ scriptPart d.record.createCommands ++
      scriptPart d.record.insertCommands ++ scriptPart ["COMMIT"] := by
  rw [← scriptPart_append, ← scriptPart_append, ← scriptPart_append]
  rfl

namespace StandsAlone

theorem bareStatement_ne_nil (h : StandsAlone d command found) : bareStatement command.toList ≠ [] := by
  intro hnil
  obtain ⟨ls, hls, -, hreads⟩ := h.reads
  rw [hnil, lexemes?_nil] at hls
  cases hls
  cases hreads
  exact h.found_ne_nil rfl

theorem parse (h : StandsAlone d command found) : readStatements d command = .ok found := by
  obtain ⟨ls, hls, hmark, hreads⟩ := h.reads
  obtain ⟨n, htokens⟩ := tokens?_command h.blanks hls hmark
  rw [readStatements, parseStatements_of_readsAs htokens (hreads.append_replicate n)]
  cases found with
  | nil => exact absurd rfl h.found_ne_nil
  | cons => rfl

end StandsAlone

/-- The part of a script that commands make is read as their statements, one after the other, if no command but
the last ends in a comment. -/
theorem exists_tokens?_scriptPart {commands : List String} {founds : List (List Statement)}
    (h : List.Forall₂ (StandsAlone d) commands founds)
    (hlines : ∀ command ∈ commands.dropLast, endsInComment d command = false) :
    ∃ ts, tokens? d (scriptPart commands).toList = some ts ∧
      ReadsAs (grammarAt nestingLimit).statement d ts founds.flatten := by
  induction h with
  | nil => exact ⟨[], tokens?_nil, .nil⟩
  | @cons command found commands founds hcommand hcommands ih =>
    obtain ⟨ls, hls, hmark, hreads⟩ := hcommand.reads
    have hline := tokens?_scriptLine hls hmark hcommand.bareStatement_ne_nil (scriptPart commands).toList
    rw [scriptPart_cons, String.toList_append, hline]
    rcases commands with _ | ⟨next, commands⟩
    · cases hcommands
      refine ⟨_, congrArg _ tokens?_nil, ?_⟩
      dsimp only
      split
      · rwa [List.append_nil, List.flatten_singleton]
      · exact hreads.append .nil
    · obtain ⟨ts, hts, hrest⟩ := ih fun c hc => hlines c (.tail _ hc)
      have hclosed : endsInLine ls = false := by
        have := hlines command List.mem_cons_self
        rwa [endsInComment, hls, Option.any_some] at this
      refine ⟨_, congrArg _ hts, ?_⟩
      rw [hclosed]
      exact hreads.append hrest

/-- Commands that a script reproduces: there is one, each stands alone, and none but the last ends in
a comment. -/
structure Rereadable (d : Dialect) (commands : List String) : Prop where
  ne_nil : commands ≠ []
  standAlone : ∃ founds, List.Forall₂ (StandsAlone d) commands founds
  lines : ∀ command ∈ commands.dropLast, endsInComment d command = false

/-- What is done with statements text after text is done with all the statements. -/
theorem foldlM_texts {γ : Type} (step : γ → Statement → Except Failure γ) {commands : List String}
    {founds : List (List Statement)} (h : List.Forall₂ (fun c f => readStatements d c = .ok f) commands founds)
    (x : γ) :
    commands.foldlM (fun x text => do (← readStatements d text).foldlM step x) x =
      founds.flatten.foldlM step x := by
  induction h generalizing x with
  | nil => rfl
  | cons hread _ ih =>
    rw [List.foldlM_cons, List.flatten_cons, List.foldlM_append, hread]
    exact congrArg (Except.bind _) (funext ih)

theorem flatten_ne_nil {commands : List String} {founds : List (List Statement)} (hne : commands ≠ [])
    (h : List.Forall₂ (StandsAlone d) commands founds) : founds.flatten ≠ [] := by
  cases h with
  | nil => exact absurd rfl hne
  | cons hcommand => exact List.append_ne_nil_of_left_ne_nil hcommand.found_ne_nil _

/-- The statements of a part of a script are the statements of its commands. -/
theorem readStatements_scriptPart {commands : List String} {founds : List (List Statement)}
    (hne : commands ≠ []) (h : List.Forall₂ (StandsAlone d) commands founds)
    (hlines : ∀ command ∈ commands.dropLast, endsInComment d command = false) :
    readStatements d (scriptPart commands) = .ok founds.flatten := by
  obtain ⟨ts, hts, hreads⟩ := exists_tokens?_scriptPart h hlines
  rw [readStatements, parseStatements_of_readsAs hts hreads]
  have hne := flatten_ne_nil hne h
  cases hfound : founds.flatten with
  | nil => exact absurd hfound hne
  | cons => rfl

/-- A part of a script does what its commands do. -/
theorem Rereadable.foldlM_eq {γ : Type} {commands : List String} (h : Rereadable d commands)
    (step : γ → Statement → Except Failure γ) (x : γ) :
    [scriptPart commands].foldlM (fun x text => do (← readStatements d text).foldlM step x) x =
      commands.foldlM (fun x text => do (← readStatements d text).foldlM step x) x := by
  obtain ⟨founds, hall⟩ := h.standAlone
  have hpart : List.Forall₂ (fun c f => readStatements d c = .ok f) [scriptPart commands] [founds.flatten] :=
    .cons (readStatements_scriptPart h.ne_nil hall h.lines) .nil
  rw [foldlM_texts step hpart, foldlM_texts step (hall.imp fun _ _ => StandsAlone.parse),
    List.flatten_singleton]

/-- The script of a dataset makes it again, if its commands can be read again. -/
theorem toSql_reproduces (schemaName : String) {d : Dataset}
    (hcreate : Rereadable d.record.dialect d.record.createCommands)
    (hinsert : Rereadable d.record.dialect d.record.insertCommands) :
    d.toSql schemaName = scriptPart (schemaStatements schemaName) ++ scriptPart d.record.createCommands ++
        scriptPart d.record.insertCommands ++ scriptPart ["COMMIT"] ∧
      Catalog.ofTexts d.record.dialect [scriptPart d.record.createCommands] =
        Catalog.ofTexts d.record.dialect d.record.createCommands ∧
      RowCounts.ofTexts d.record.dialect [scriptPart d.record.insertCommands] = d.insertedRows :=
  ⟨toSql_eq schemaName d, hcreate.foldlM_eq Catalog.afterStatement .empty,
    hinsert.foldlM_eq RowCounts.afterStatement .empty⟩

/-- A dataset whose commands have blanks and semicolons around them and a comment at the end. -/
def letters : Dataset :=
  ofRecord ⟨"letters", .postgres, ["CREATE TABLE a", "\n CREATE TABLE b;; -- done\n"],
    ["INSERT INTO a DEFAULT VALUES ; "]⟩

theorem rereadable_letters :
    Rereadable .postgres letters.record.createCommands ∧ Rereadable .postgres letters.record.insertCommands := by
  have ha : StandsAlone .postgres "CREATE TABLE a" _ := {
    blanks := fun _ _ => Dialect.opensName_of_isBlank (.inr rfl)
    reads := ⟨[.token (.word "CREATE" none "CREATE"), .blank .space, .token (.word "TABLE" none "TABLE"),
      .blank .space, .token (.word "a" none "")], by decide +kernel, by decide, readsAs_createTable "a"⟩
    found_ne_nil := List.cons_ne_nil _ _ }
  have hb : StandsAlone .postgres "\n CREATE TABLE b;; -- done\n" _ := {
    blanks := fun _ _ => Dialect.opensName_of_isBlank (.inr rfl)
    reads := ⟨[.token (.word "CREATE" none "CREATE"), .blank .space, .token (.word "TABLE" none "TABLE"),
      .blank .space, .token (.word "b" none ""), .token (.symbol ";"), .token (.symbol ";"), .blank .space,
      .blank (.comment "-- done")], by decide +kernel, by decide, (readsAs_createTable "b").append_replicate 2⟩
    found_ne_nil := List.cons_ne_nil _ _ }
  have hinsert : StandsAlone .postgres "INSERT INTO a DEFAULT VALUES ; " _ := {
    blanks := fun _ _ => Dialect.opensName_of_isBlank (.inr rfl)
    reads := ⟨[.token (.word "INSERT" none "INSERT"), .blank .space, .token (.word "INTO" none "INTO"),
      .blank .space, .token (.word "a" none ""), .blank .space, .token (.word "DEFAULT" none "DEFAULT"),
      .blank .space, .token (.word "VALUES" none "VALUES")], by decide +kernel, by decide, readsAs_insert "a"⟩
    found_ne_nil := List.cons_ne_nil _ _ }
  exact ⟨⟨List.cons_ne_nil _ _, ⟨_, .cons ha (.cons hb .nil)⟩, by decide +kernel⟩,
    ⟨List.cons_ne_nil _ _, ⟨_, .cons hinsert .nil⟩, by decide +kernel⟩⟩

theorem toSql_reproduces_letters :
    Rereadable .postgres letters.record.createCommands ∧ Rereadable .postgres letters.record.insertCommands ∧
      scriptPart letters.record.createCommands = "CREATE TABLE a;\nCREATE TABLE b;; -- done;\n" ∧
      (Catalog.ofTexts .postgres letters.record.createCommands).toOption.map Catalog.tableNames = some ["a", "b"] ∧
      Catalog.ofTexts .postgres ["CREATE TABLE a;\nCREATE TABLE b;; -- done;\n"] =
        Catalog.ofTexts .postgres letters.record.createCommands ∧
      RowCounts.ofTexts .postgres ["INSERT INTO a DEFAULT VALUES;\n"] = letters.insertedRows := by
  obtain ⟨hcreate, hinsert⟩ := rereadable_letters
  obtain ⟨-, hcatalog, hrows⟩ := toSql_reproduces "s" (d := letters) hcreate hinsert
  have hpart : scriptPart letters.record.createCommands = "CREATE TABLE a;\nCREATE TABLE b;; -- done;\n" := by
    decide +kernel
  have hpart' : scriptPart letters.record.insertCommands = "INSERT INTO a DEFAULT VALUES;\n" := by
    decide +kernel
  rw [hpart] at hcatalog
  rw [hpart'] at hrows
  exact ⟨hcreate, hinsert, hpart, by decide +kernel, hcatalog, hrows⟩

/-- A comment at the end of a command takes the semicolon that the script puts after it: the commands declare two
tables, and their lines are refused. -/
theorem terminator_lost :
    let d := ofRecord ⟨"d", .postgres, ["CREATE TABLE a (id INT) -- first", "CREATE TABLE b (id INT)"],
      ["INSERT INTO a VALUES (1)"]⟩
    (Catalog.ofTexts .postgres d.record.createCommands).toOption.map Catalog.tableNames = some ["a", "b"] ∧
      d.insertedRows.toOption.isSome = true ∧
      d.toSql "s" = scriptPart (schemaStatements "s") ++
        "CREATE TABLE a (id INT) -- first;\nCREATE TABLE b (id INT);\n" ++
        "INSERT INTO a VALUES (1);\n" ++ scriptPart ["COMMIT"] ∧
      (Catalog.ofTexts .postgres ["CREATE TABLE a (id INT) -- first;\nCREATE TABLE b (id INT);\n"]).toOption.isNone =
        true := by
  decide +kernel

end Dataset

end QueryDrill
