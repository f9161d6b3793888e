import Mathlib.Algebra.Order.BigOperators.Group.List
import Mathlib.Algebra.Order.Group.Nat
import QueryDrill.Proofs.Generation.Script
/-!
When each statement of a script has one terminator.

A command is trimmed, then semicolons are dropped at its end, then blanks once more: each kind a fixed number of times.
So the body of the command is left and perhaps more (`bareStatement_eq`), namely when a blank stands between two
semicolons behind the body. The line of such a command ends in two semicolons (`terminator_doubled`), and it has a line
even if it has no body.

* `toSql_eq_terminated_iff`: a script has one line for each statement, its body and one semicolon, just if the semicolons
  behind each body stand together (`semicolonsTogether`).

A line is never shorter than the body with its semicolon, so whole scripts are the same just if all their lines are
(`join_map_eq_iff`).
-/

namespace QueryDrill

open Sql Text

namespace Dataset

/-! ## 1. Bodies -/

/-- Whether a character can stand behind the body of a command. -/
def isEnding (c : Char) : Bool := isBlank c || c == ';'

/-- A command without the blanks in front of it and without the semicolons and blanks behind it, in whatever order
these stand. -/
def bodyOf (command : String) : List Char := (trimStartChars command.toList).rdropWhile isEnding

/-- The semicolons and blanks behind the body of a command. -/
def endingOf (command : String) : List Char := (trimStartChars command.toList).rtakeWhile isEnding

/-- Whether a command holds anything besides semicolons and blanks. -/
def hasBody (command : String) : Bool := !command.toList.all isEnding

/-- Whether no blank stands between two semicolons behind the body of a command. -/
def semicolonsTogether (command : String) : Bool :=
  (trimStartChars (trimEndChars (endingOf command))).all (· == ';')

variable {command : String}

theorem isEnding_of_isBlank {c : Char} (h : isBlank c = true) : isEnding c = true := by
  rw [isEnding, h, Bool.true_or]

theorem isEnding_of_semicolon {c : Char} (h : (c == ';') = true) : isEnding c = true := by
  rw [isEnding, h, Bool.or_true]

theorem bodyOf_append_endingOf (command : String) :
    bodyOf command ++ endingOf command = trimStartChars command.toList :=
  List.rdropWhile_append_rtakeWhile

theorem isEnding_of_mem_endingOf {c : Char} (h : c ∈ endingOf command) : isEnding c = true :=
  List.mem_rtakeWhile_imp h

theorem bodyOf_eq_nil_iff : bodyOf command = [] ↔ hasBody command = false := by
  have hblanks : (command.toList.takeWhile isBlank).all isEnding = true :=
    List.all_eq_true.2 fun c hc => isEnding_of_isBlank (List.mem_takeWhile_imp hc)
  -- so the blanks in front make no difference
  have hall : (trimStartChars command.toList).all isEnding = command.toList.all isEnding := by
    conv_rhs => rw [← List.takeWhile_append_dropWhile (p := isBlank) (l := command.toList), List.all_append, hblanks]
    rfl
  rw [bodyOf, List.rdropWhile_eq_nil_iff, ← List.all_eq_true, hall, hasBody, Bool.not_eq_false']

/-- What the body of a command is: all of it but blanks in front, and blanks and semicolons behind; so it neither begins
with a blank nor ends in a blank or a semicolon. -/
structure IsBody (command : String) (body : List Char) : Prop where
  split : ∃ opening ending, command.toList = opening ++ (body ++ ending) ∧ (∀ c ∈ opening, isBlank c = true) ∧
    ∀ c ∈ ending, isBlank c = true ∨ c = ';'
  first : ∀ c, body.head? = some c → isBlank c = false
  last : ∀ c, body.getLast? = some c → isBlank c = false ∧ c ≠ ';'

theorem isBody_bodyOf (command : String) : IsBody command (bodyOf command) where
  split := by
    refine ⟨command.toList.takeWhile isBlank, endingOf command, ?_, fun c hc => List.mem_takeWhile_imp hc, fun c hc => ?_⟩
    · rw [bodyOf_append_endingOf]
      exact List.takeWhile_append_dropWhile.symm
    · simpa [isEnding] using isEnding_of_mem_endingOf hc
  first c hc := by
    have hprefix : bodyOf command <+: trimStartChars command.toList := List.rdropWhile_prefix isEnding _
    obtain ⟨body, hbody⟩ := List.head?_eq_some_iff.1 hc
    obtain ⟨rest, hrest⟩ := hprefix
    have hfirst := List.head?_dropWhile_not isBlank command.toList
    rw [hbody] at hrest
    rwa [← trimStartChars, ← hrest] at hfirst
  last c hc := by
    have hne : bodyOf command ≠ [] := fun hnil => by simp [hnil] at hc
    rw [List.getLast?_eq_some_getLast hne] at hc
    obtain rfl := Option.some.inj hc
    have hlast : ¬ isEnding ((bodyOf command).getLast hne) = true := List.rdropWhile_last_not isEnding _ hne
    simpa [isEnding] using hlast

/-! ## 2. What trimming leaves behind a body -/

/-- Dropping at the end stops where nothing is dropped any more. -/
theorem rdropWhile_append_of_eq_self {p : Char → Bool} {cs : List Char} (h : cs.rdropWhile p = cs)
    (rest : List Char) : (cs ++ rest).rdropWhile p = cs ++ rest.rdropWhile p := by
  rw [List.rdropWhile, List.reverse_append, List.dropWhile_append]
  split
  · rename_i hnil
    have hrest : rest.rdropWhile p = [] := by
      rw [List.rdropWhile, List.isEmpty_iff.1 hnil, List.reverse_nil]
    rw [hrest, List.append_nil]
    exact h
  · rw [List.reverse_append, List.reverse_reverse]
    rfl

/-- If a list without some characters at its end has others only, then it has only the former without the latter at its
front, and conversely. -/
theorem all_rdropWhile_iff {p q : Char → Bool} {cs : List Char} :
    (cs.rdropWhile p).all q = true ↔ (cs.dropWhile q).all p = true := by
  constructor
  · intro h
    rw [← List.rdropWhile_append_rtakeWhile (p := p) (l := cs),
      List.dropWhile_append_of_pos (List.all_eq_true.1 h), List.all_eq_true]
    exact fun c hc => List.mem_rtakeWhile_imp ((List.dropWhile_sublist q).subset hc)
  · intro h
    rw [← List.takeWhile_append_dropWhile (p := q) (l := cs), List.rdropWhile, List.reverse_append,
      List.dropWhile_append_of_pos fun c hc => List.all_eq_true.1 h c (List.mem_reverse.1 hc), List.all_reverse,
      List.all_eq_true]
    exact fun c hc => List.mem_takeWhile_imp (List.mem_reverse.1 ((List.dropWhile_sublist p).subset hc))

/-- What is left of the ending of a command. -/
def leftover (command : String) : List Char :=
  trimEndChars ((trimEndChars (endingOf command)).rdropWhile (· == ';'))

/-- Of a command its body is left, and what is left of its ending. -/
theorem bareStatement_eq (command : String) :
    bareStatement command.toList = bodyOf command ++ leftover command := by
  have hkept {p : Char → Bool} (hp : ∀ {c}, p c = true → isEnding c = true) (rest : List Char) :
      (bodyOf command ++ rest).rdropWhile p = bodyOf command ++ rest.rdropWhile p := by
    refine rdropWhile_append_of_eq_self (List.rdropWhile_eq_self_iff.2 fun hne hlast => ?_) rest
    exact List.rdropWhile_last_not isEnding _ hne (hp hlast)
  calc bareStatement command.toList
      = (((trimStartChars command.toList).rdropWhile isBlank).rdropWhile (· == ';')).rdropWhile isBlank := rfl
    _ = (((bodyOf command ++ endingOf command).rdropWhile isBlank).rdropWhile (· == ';')).rdropWhile isBlank := by
      rw [bodyOf_append_endingOf]
    _ = bodyOf command ++ leftover command := by
      rw [hkept isEnding_of_isBlank, hkept isEnding_of_semicolon, hkept isEnding_of_isBlank]
      rfl

/-- Nothing is left behind the body just if the semicolons stand together. -/
theorem leftover_eq_nil_iff : leftover command = [] ↔ semicolonsTogether command = true := by
  have hnil : leftover command = [] ↔
      ((trimEndChars (endingOf command)).rdropWhile (· == ';')).all isBlank = true := by
    rw [List.all_eq_true]
    exact List.rdropWhile_eq_nil_iff
  exact hnil.trans all_rdropWhile_iff

/-- What is left behind the body ends in a semicolon. -/
theorem exists_leftover_eq (h : semicolonsTogether command = false) : ∃ cs, leftover command = cs ++ [';'] := by
  have hne : leftover command ≠ [] := fun hnil => by simp [leftover_eq_nil_iff.1 hnil] at h
  have hprefix : leftover command <+: endingOf command :=
    (List.rdropWhile_prefix isBlank _).trans
      ((List.rdropWhile_prefix _ _).trans (List.rdropWhile_prefix isBlank _))
  have hending := hprefix.subset (List.getLast_mem hne)
  have hblank : ¬ isBlank ((leftover command).getLast hne) = true := List.rdropWhile_last_not isBlank _ hne
  have hlast : (leftover command).getLast hne = ';' := by
    simpa [isEnding, hblank] using isEnding_of_mem_endingOf hending
  exact ⟨_, (List.dropLast_append_getLast hne).symm.trans (by rw [hlast])⟩

/-- Without semicolons nothing is in disorder. -/
theorem semicolonsTogether_of_not_mem (h : ';' ∉ command.toList) : semicolonsTogether command = true := by
  have hblank (c : Char) (hc : c ∈ endingOf command) : isBlank c = true := by
    have hne : c ≠ ';' := fun heq =>
      h (heq ▸ (List.dropWhile_sublist isBlank).subset ((List.rtakeWhile_suffix isEnding _).subset hc))
    simpa [isEnding, hne] using isEnding_of_mem_endingOf hc
  have hnil : trimEndChars (endingOf command) = [] := List.rdropWhile_eq_nil_iff.2 hblank
  rw [semicolonsTogether, hnil]
  rfl

/-! ## 3. Lines -/

/-- The body of a command and one semicolon, on a line. -/
def terminatedLine (command : String) : String := String.ofList (bodyOf command) ++ ";\n"

/-- The line that a command should have: none if it has no body. -/
def lineOfBody (command : String) : String := if hasBody command then terminatedLine command else ""

/-- The line of a command is that of its body if the semicolons stand together. -/
theorem scriptLine_of_semicolonsTogether (h : semicolonsTogether command = true) :
    scriptLine command = lineOfBody command := by
  have hbare : bareStatement command.toList = bodyOf command := by
    rw [bareStatement_eq, leftover_eq_nil_iff.2 h, List.append_nil]
  unfold scriptLine lineOfBody
  dsimp only
  rw [hbare]
  cases hbody : hasBody command with
  | false => rw [bodyOf_eq_nil_iff.2 hbody]; rfl
  | true =>
    have hne : bodyOf command ≠ [] := fun hnil => by simp [bodyOf_eq_nil_iff.1 hnil] at hbody
    rw [if_neg (by rwa [List.isEmpty_iff]), if_pos rfl]
    rfl

/-- Otherwise it ends in two semicolons. -/
theorem scriptLine_of_not_semicolonsTogether (h : semicolonsTogether command = false) :
    ∃ cs, scriptLine command = String.ofList (bodyOf command ++ cs) ++ ";;\n" := by
  obtain ⟨cs, hcs⟩ := exists_leftover_eq h
  have hbare : bareStatement command.toList = bodyOf command ++ cs ++ [';'] := by
    rw [bareStatement_eq, hcs, List.append_assoc]
  refine ⟨cs, ?_⟩
  unfold scriptLine
  dsimp only
  rw [hbare, if_neg (by simp), String.ofList_append, String.append_assoc]
  rfl

theorem length_lineOfBody_le (command : String) :
    (lineOfBody command).length ≤ (String.ofList (bodyOf command)).length + 2 := by
  unfold lineOfBody
  split
  · exact (String.length_append _ _).le
  · exact Nat.zero_le _

/-- A command has the line of its body just if the semicolons stand together; otherwise its line is longer. -/
theorem scriptLine_cases (command : String) :
    semicolonsTogether command = true ∧ scriptLine command = lineOfBody command ∨
      semicolonsTogether command = false ∧ (lineOfBody command).length < (scriptLine command).length := by
  cases h : semicolonsTogether command with
  | true => exact .inl ⟨rfl, scriptLine_of_semicolonsTogether h⟩
  | false =>
    obtain ⟨cs, hline⟩ := scriptLine_of_not_semicolonsTogether h
    have hle := length_lineOfBody_le command
    have hlength : (scriptLine command).length =
        (String.ofList (bodyOf command)).length + (String.ofList cs).length + 3 := by
      rw [hline, String.length_append, String.ofList_append, String.length_append]
      rfl
    exact .inr ⟨rfl, by omega⟩

/-! ## 4. Scripts -/

/-- Two ways to write lines, one of which never writes a longer line, write the same text just if all lines are the
same. -/
theorem join_map_eq_iff {f g : String → String} {xs : List String}
    (h : ∀ x ∈ xs, (g x).length ≤ (f x).length) :
    String.join (xs.map f) = String.join (xs.map g) ↔ ∀ x ∈ xs, f x = g x := by
  refine ⟨fun heq => ?_, fun hall => congrArg String.join (List.map_congr_left hall)⟩
  induction xs with
  | nil => nofun
  | cons x xs ih =>
    obtain ⟨hx, hxs⟩ := List.forall_mem_cons.1 h
    rw [List.map_cons, List.map_cons, String.join_cons, String.join_cons] at heq
    have hrest : (String.join (xs.map g)).length ≤ (String.join (xs.map f)).length := by
      rw [String.length_join, String.length_join, List.map_map, List.map_map]
      exact List.sum_le_sum hxs
    have hsum := congrArg String.length heq
    rw [String.length_append, String.length_append] at hsum
    have hlength : (f x).length = (g x).length := by omega
    have hchars := congrArg String.toList heq
    rw [String.toList_append, String.toList_append] at hchars
    obtain ⟨hline, hlines⟩ := List.append_inj hchars (by rwa [String.length_toList, String.length_toList])
    exact List.forall_mem_cons.2 ⟨String.toList_inj.1 hline, ih hxs (String.toList_inj.1 hlines)⟩

/-- Commands without a body have no line. -/
theorem join_map_lineOfBody (commands : List String) :
    String.join (commands.map lineOfBody) = String.join ((commands.filter hasBody).map terminatedLine) := by
  induction commands with
  | nil => rfl
  | cons command commands ih =>
    rw [List.map_cons, String.join_cons, ih, List.filter_cons, lineOfBody]
    split
    · rw [List.map_cons, String.join_cons]
    · rw [String.empty_append]

/-- A script has the lines of the bodies just if all semicolons stand together. -/
theorem scriptPart_eq_iff {commands : List String} :
    scriptPart commands = String.join ((commands.filter hasBody).map terminatedLine) ↔
      ∀ command ∈ commands, semicolonsTogether command = true := by
  have hline (command : String) : (lineOfBody command).length ≤ (scriptLine command).length ∧
      (scriptLine command = lineOfBody command ↔ semicolonsTogether command = true) := by
    rcases scriptLine_cases command with ⟨htogether, hline⟩ | ⟨hapart, hlt⟩
    · exact ⟨hline ▸ Nat.le_refl _, fun _ => htogether, fun _ => hline⟩
    · refine ⟨hlt.le, fun heq => absurd (heq ▸ hlt) (Nat.lt_irrefl _), fun htogether => ?_⟩
      rw [hapart] at htogether
      cases htogether
  rw [scriptPart, ← join_map_lineOfBody, join_map_eq_iff fun command _ => (hline command).1]
  exact forall₂_congr fun command _ => (hline command).2

theorem hasBody_append {s t : String} (h : hasBody s = true) : hasBody (s ++ t) = true := by
  rw [hasBody, Bool.not_eq_true'] at h
  rw [hasBody, String.toList_append, List.all_append, h, Bool.false_and, Bool.not_false]

theorem hasBody_schemaStatements (schemaName : String) :
    ∀ statement ∈ schemaStatements schemaName, hasBody statement = true := by
  simp only [schemaStatements, List.forall_mem_cons]
  exact ⟨by decide, hasBody_append (hasBody_append (by decide)), hasBody_append (by decide),
    hasBody_append (by decide), List.forall_mem_nil _⟩

theorem not_mem_schemaStatements {schemaName : String} (h : ';' ∉ schemaName.toList) :
    ∀ statement ∈ schemaStatements schemaName, ';' ∉ statement.toList := by
  simp only [schemaStatements, List.forall_mem_cons, String.toList_append, List.mem_append, not_or]
  exact ⟨by decide, ⟨⟨by decide, h⟩, by decide⟩, ⟨by decide, h⟩, ⟨by decide, h⟩, List.forall_mem_nil _⟩

/-- The commands of a dataset. -/
def commands (d : Dataset) : List String := d.record.createCommands ++ d.record.insertCommands

theorem scriptStatements_eq (schemaName : String) (d : Dataset) :
    d.scriptStatements schemaName = schemaStatements schemaName ++ d.commands ++ ["COMMIT"] := by
  rw [scriptStatements, schemaStatements, commands, List.append_assoc _ d.record.createCommands]

/-- The statements that a script should have: those that open it, the commands with a body, and the last one. -/
def bodiedStatements (schemaName : String) (d : Dataset) : List String :=
  schemaStatements schemaName ++ d.commands.filter hasBody ++ ["COMMIT"]

theorem filter_hasBody_scriptStatements (schemaName : String) (d : Dataset) :
    (d.scriptStatements schemaName).filter hasBody = d.bodiedStatements schemaName := by
  rw [scriptStatements_eq, List.filter_append, List.filter_append,
    List.filter_eq_self.2 (hasBody_schemaStatements schemaName)]
  rfl

/-- **Each statement of a script has one terminator, if the semicolons behind each command stand together.** A script is
one line for each statement that opens it, for each command with a body and for the last statement, each its body and
one semicolon, just if no command has a blank between two semicolons behind its body. Otherwise the line of such a
command ends in two semicolons. -/
theorem toSql_eq_terminated_iff {schemaName : String} (h : ';' ∉ schemaName.toList) (d : Dataset) :
    (d.toSql schemaName = String.join ((d.bodiedStatements schemaName).map terminatedLine) ↔
      ∀ command ∈ d.commands, semicolonsTogether command = true) ∧
    (∀ statement ∈ d.bodiedStatements schemaName, bodyOf statement ≠ [] ∧ IsBody statement (bodyOf statement)) ∧
    ∀ command ∈ d.commands, semicolonsTogether command = false →
      ∃ text, scriptLine command = text ++ ";;\n" := by
  have hopening : ∀ statement ∈ schemaStatements schemaName, semicolonsTogether statement = true := fun s hs =>
    semicolonsTogether_of_not_mem (not_mem_schemaStatements h s hs)
  have hlast : ∀ statement ∈ ["COMMIT"], semicolonsTogether statement = true := by decide
  rw [← filter_hasBody_scriptStatements]
  refine ⟨?_, fun statement hstatement => ⟨fun hnil => ?_, isBody_bodyOf statement⟩, fun command _ hapart => ?_⟩
  · refine scriptPart_eq_iff.trans ?_
    rw [scriptStatements_eq, List.forall_mem_append, List.forall_mem_append]
    exact ⟨fun hall => hall.1.2, fun hcommands => ⟨⟨hopening, hcommands⟩, hlast⟩⟩
  · have hbody := (List.mem_filter.1 hstatement).2
    rw [bodyOf_eq_nil_iff.1 hnil] at hbody
    cases hbody
  · obtain ⟨cs, hline⟩ := scriptLine_of_not_semicolonsTogether hapart
    exact ⟨_, hline⟩

/-- A dataset whose commands have blanks and semicolons around them, one of them nothing else. -/
def spacedLetters : Dataset :=
  ofRecord ⟨"letters", .postgres, ["\u00a0CREATE TABLE a (id INT) ;;\u2003\n", " ;; "], ["INSERT INTO a VALUES (1)"]⟩

theorem toSql_eq_terminated_iff_letters :
    ';' ∉ "shop ".toList ∧ (∀ command ∈ spacedLetters.commands, semicolonsTogether command = true) ∧
      spacedLetters.toSql "shop " =
        "BEGIN;\nDROP SCHEMA IF EXISTS shop  CASCADE;\nCREATE SCHEMA shop;\nSET search_path TO shop;\n"
          ++ "CREATE TABLE a (id INT);\nINSERT INTO a VALUES (1);\nCOMMIT;\n" := by
  have hname : ';' ∉ "shop ".toList := by decide
  have htogether : ∀ command ∈ spacedLetters.commands, semicolonsTogether command = true := by decide
  refine ⟨hname, htogether, ((toSql_eq_terminated_iff hname spacedLetters).1.2 htogether).trans ?_⟩
  decide +kernel

/-- A dataset with a command that has a blank between two semicolons. -/
def gappedLetters : Dataset := ofRecord ⟨"letters", .postgres, ["CREATE TABLE a (id INT); ;"], []⟩

/-- Its statement has two terminators and not one. -/
theorem terminator_doubled :
    gappedLetters.toSql "s" =
        "BEGIN;\nDROP SCHEMA IF EXISTS s CASCADE;\nCREATE SCHEMA s;\nSET search_path TO s;\n"
          ++ "CREATE TABLE a (id INT);;\nCOMMIT;\n" ∧
      String.join ((gappedLetters.bodiedStatements "s").map terminatedLine) =
        "BEGIN;\nDROP SCHEMA IF EXISTS s CASCADE;\nCREATE SCHEMA s;\nSET search_path TO s;\n"
          ++ "CREATE TABLE a (id INT);\nCOMMIT;\n" := by
  constructor
  · decide +kernel
  · decide +kernel

end Dataset

end QueryDrill
