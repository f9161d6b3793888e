import QueryDrill.Outline.Basic
/-!
How joins connect the sources of a `FROM` list.

A `FROM` list is written in pieces (`listPieces`): leaves, which are the sources that are no joins in parentheses;
the commas and join operators that connect them; and marks around these, such as parentheses and conditions. What
the pieces of a source show is kept by each way to put sources together (`Displays.connected`, `Displays.before`,
`Displays.after`), so by induction on the syntax it is what a block reads off the source. The pieces have the text
of the list, and leaves and connectors take turns in it. So a block lists one join for each connector and one
table for each leaf that is a table, in the order in which they are written, and there is one leaf more than there
are joins (`Block.joins_connect_leaves`).
-/

namespace QueryDrill

open Sql Text

/-! ## 1. Pieces -/

/-- What connects two sources. -/
inductive Connector where
  | comma
  | operator (op : JoinOperator)
  deriving DecidableEq, Repr

namespace Connector

/-- The join that a connector makes. -/
def kind : Connector → JoinKind
  | comma => .implicit
  | operator op => .ofOperator op

/-- A connector as it is written. -/
def sql : Connector → String
  | comma => ", "
  | operator op => op.sql

end Connector

/-- A piece of the text of a `FROM` list. -/
inductive SourcePiece where
  /-- A source that is no join in parentheses. -/
  | leaf (source : TableFactor)
  | connector (c : Connector)
  /-- What stands around sources: parentheses, labels of joins, and what a join matches rows by. -/
  | mark (text : String)

namespace SourcePiece

/-- The text of a piece. -/
def sql : SourcePiece → String
  | leaf s => s.sql
  | connector c => c.sql
  | mark text => text

/-- The leaf that a piece is. -/
def leaf? : SourcePiece → Option TableFactor
  | leaf s => some s
  | connector _ => none
  | mark _ => none

/-- The connector that a piece is. -/
def connector? : SourcePiece → Option Connector
  | leaf _ => none
  | connector c => some c
  | mark _ => none

/-- Whether a piece is a mark. -/
def isMark : SourcePiece → Bool
  | leaf _ => false
  | connector _ => false
  | mark _ => true

/-- Leaves with connectors between them: one leaf, then each connector with the leaf after it. -/
def alternating (first : TableFactor) (rest : List (Connector × TableFactor)) : List SourcePiece :=
  leaf first :: rest.flatMap fun r => [connector r.1, leaf r.2]

/-- Marks count for nothing where only leaves, or only connectors, are taken. -/
theorem filterMap_unmarked {α : Type} {f : SourcePiece → Option α} (hf : ∀ text, f (mark text) = none)
    (ps : List SourcePiece) : (ps.filter (!·.isMark)).filterMap f = ps.filterMap f := by
  rw [List.filterMap_filter]
  congr 1
  funext p
  cases p with
  | leaf | connector => rfl
  | mark text => exact (hf text).symm

theorem filterMap_leaf?_alternating (first : TableFactor) (rest : List (Connector × TableFactor)) :
    (alternating first rest).filterMap leaf? = first :: rest.map Prod.snd := by
  induction rest with
  | nil => rfl
  | cons r rest ih => simpa [alternating, leaf?, List.filterMap_cons] using ih

theorem filterMap_connector?_alternating (first : TableFactor) (rest : List (Connector × TableFactor)) :
    (alternating first rest).filterMap connector? = rest.map Prod.fst := by
  induction rest with
  | nil => rfl
  | cons r rest ih => simpa [alternating, connector?, List.filterMap_cons] using ih

end SourcePiece

namespace Sql

/-- Whether a source is a join in parentheses. -/
def TableFactor.isJoined : TableFactor → Bool
  | .joined .. => true
  | _ => false

/-- A source as a block lists it, if it is a table: the last part of its name and its label, in lower case. -/
def TableFactor.ref? : TableFactor → Option TableRef
  | .table name _ _ label _ => some ⟨name.key, label.map fun a => lower a.name.value⟩
  | _ => none

/-- What stands before a join operator. -/
def JoinConstraint.opening : JoinConstraint → String
  | .natural => " NATURAL "
  | _ => " "

end Sql

mutual

/-- The pieces of a source. A join in parentheses is taken apart, any other source is a leaf. -/
def sourcePieces : TableFactor → List SourcePiece
  | .joined item label => .mark "(" :: itemPieces item ++ [.mark (")" ++ aliasSql label)]
  | .table name partitions args label hints => [.leaf (.table name partitions args label hints)]
  | .derived lateral q label => [.leaf (.derived lateral q label)]
  | .computed words operands label rest => [.leaf (.computed words operands label rest)]
  | .turned relation words operands label => [.leaf (.turned relation words operands label)]

/-- The pieces of what stands between two commas. -/
def itemPieces : FromItem → List SourcePiece
  | ⟨relation, joins⟩ => sourcePieces relation ++ joinedPieces joins

/-- The pieces of a chain of joins. -/
def joinedPieces : List Join → List SourcePiece
  | [] => []
  | ⟨relation, operator, constraint⟩ :: js =>
    [.mark constraint.opening, .connector (.operator operator), .mark " "] ++ sourcePieces relation
      ++ .mark constraint.sql :: joinedPieces js

end

/-- The pieces of a `FROM` list. -/
def listPieces : List FromItem → List SourcePiece
  | [] => []
  | [i] => itemPieces i
  | i :: is => itemPieces i ++ .connector .comma :: listPieces is

/-! ## 2. What pieces show -/

/-- What some pieces show of the sources that they are the pieces of. -/
structure Displays (ps : List SourcePiece) (text : String) (tables : List TableRef) (joins : List JoinKind) :
    Prop where
  text_eq : String.join (ps.map SourcePiece.sql) = text
  tables_eq : (ps.filterMap SourcePiece.leaf?).filterMap TableFactor.ref? = tables
  joins_eq : (ps.filterMap SourcePiece.connector?).map Connector.kind = joins
  not_joined : ∀ s ∈ ps.filterMap SourcePiece.leaf?, s.isJoined = false
  /-- Leaves and connectors take turns, from a leaf to a leaf. -/
  turns : ∃ first rest, ps.filter (!·.isMark) = SourcePiece.alternating first rest

namespace Displays

variable {ps qs : List SourcePiece} {text text' : String} {tables tables' : List TableRef}
  {joins joins' : List JoinKind}

/-- A leaf shows itself. -/
theorem leaf {s : TableFactor} (h : s.isJoined = false) : Displays [.leaf s] s.sql s.ref?.toList [] where
  text_eq := by simp [SourcePiece.sql]
  tables_eq := by cases hs : s.ref? <;> simp [SourcePiece.leaf?, hs]
  joins_eq := by simp [SourcePiece.connector?]
  not_joined := by simpa [SourcePiece.leaf?] using h
  turns := ⟨s, [], rfl⟩

/-- A mark before sources adds nothing but its text. -/
theorem before (h : Displays ps text tables joins) (opening : String) :
    Displays (.mark opening :: ps) (opening ++ text) tables joins where
  text_eq := by simp [SourcePiece.sql, h.text_eq]
  tables_eq := by simp [List.filterMap_cons, SourcePiece.leaf?, h.tables_eq]
  joins_eq := by simp [List.filterMap_cons, SourcePiece.connector?, h.joins_eq]
  not_joined := by simpa [List.filterMap_cons, SourcePiece.leaf?] using h.not_joined
  turns := by simpa [SourcePiece.isMark] using h.turns

/-- A mark after sources adds nothing but its text. -/
theorem after (h : Displays ps text tables joins) (closing : String) :
    Displays (ps ++ [.mark closing]) (text ++ closing) tables joins where
  text_eq := by simp [SourcePiece.sql, h.text_eq]
  tables_eq := by simp [SourcePiece.leaf?, h.tables_eq]
  joins_eq := by simp [SourcePiece.connector?, h.joins_eq]
  not_joined := by simpa [SourcePiece.leaf?] using h.not_joined
  turns := by simpa [SourcePiece.isMark] using h.turns

/-- A connector adds its join, between those of the two sides. -/
theorem connected (h : Displays ps text tables joins) (c : Connector) (h' : Displays qs text' tables' joins') :
    Displays (ps ++ .connector c :: qs) (text ++ c.sql ++ text') (tables ++ tables')
      (joins ++ c.kind :: joins') where
  text_eq := by simp [SourcePiece.sql, h.text_eq, h'.text_eq, String.append_assoc]
  tables_eq := by simp [List.filterMap_cons, SourcePiece.leaf?, h.tables_eq, h'.tables_eq]
  joins_eq := by simp [SourcePiece.connector?, h.joins_eq, h'.joins_eq]
  not_joined := by
    intro s hs
    rw [List.filterMap_append, List.mem_append] at hs
    exact hs.elim (h.not_joined s) (h'.not_joined s)
  turns := by
    obtain ⟨first, rest, hturns⟩ := h.turns
    obtain ⟨first', rest', hturns'⟩ := h'.turns
    refine ⟨first, rest ++ (c, first') :: rest', ?_⟩
    rw [List.filter_append, List.filter_cons_of_pos rfl, hturns, hturns']
    simp [SourcePiece.alternating]

/-- There is one leaf more than there are joins. -/
theorem length_leaves (h : Displays ps text tables joins) :
    (ps.filterMap SourcePiece.leaf?).length = joins.length + 1 := by
  obtain ⟨first, rest, hturns⟩ := h.turns
  have hleaves : ps.filterMap SourcePiece.leaf? = first :: rest.map Prod.snd := by
    rw [← SourcePiece.filterMap_unmarked fun _ => rfl, hturns, SourcePiece.filterMap_leaf?_alternating]
  have hconnectors : ps.filterMap SourcePiece.connector? = rest.map Prod.fst := by
    rw [← SourcePiece.filterMap_unmarked fun _ => rfl, hturns, SourcePiece.filterMap_connector?_alternating]
  simp [← h.joins_eq, hleaves, hconnectors]

end Displays

/-! ## 3. Sources, chains of joins and lists -/

theorem sqlJoins_cons (relation : TableFactor) (operator : JoinOperator) (constraint : JoinConstraint)
    (js : List Join) : sqlJoins (⟨relation, operator, constraint⟩ :: js) =
      constraint.opening ++ operator.sql ++ " " ++ relation.sql ++ constraint.sql ++ sqlJoins js := by
  cases constraint <;> simp [sqlJoins, JoinConstraint.opening]

mutual

theorem displays_sourcePieces (s : TableFactor) :
    Displays (sourcePieces s) s.sql (sourceTables s) (sourceJoins s) := by
  cases s with
  | joined item label =>
    have h := ((displays_itemPieces item).before "(").after (")" ++ aliasSql label)
    simpa [sourcePieces, TableFactor.sql, sourceTables, sourceJoins, String.append_assoc] using h
  | table | derived | computed | turned => exact .leaf rfl

theorem displays_itemPieces (i : FromItem) : Displays (itemPieces i) i.sql (itemTables i) (itemJoins i) := by
  cases i with
  | mk relation joins =>
    rw [itemPieces, FromItem.sql, itemTables, itemJoins]
    exact (displays_sourcePieces relation).chained joins

/-- A chain of joins adds its joins and its tables to those of the source before it. -/
theorem Displays.chained {ps : List SourcePiece} {text : String} {tables : List TableRef}
    {joins : List JoinKind} (h : Displays ps text tables joins) (js : List Join) :
    Displays (ps ++ joinedPieces js) (text ++ sqlJoins js) (tables ++ joinedTables js)
      (joins ++ chainJoins js) := by
  match js with
  | [] => simpa [joinedPieces, sqlJoins, joinedTables, chainJoins] using h
  | ⟨relation, operator, constraint⟩ :: js =>
    have hsource := ((displays_sourcePieces relation).before " ").after constraint.sql
    have hjoined := (h.after constraint.opening).connected (.operator operator) hsource
    have hchain := hjoined.chained js
    rw [sqlJoins_cons, joinedTables, chainJoins]
    simpa [joinedPieces, Connector.kind, Connector.sql, String.append_assoc] using hchain

end

/-- A comma is a connector like any join operator. -/
theorem displays_listPieces {is : List FromItem} (h : is ≠ []) :
    Displays (listPieces is) (commaList (sqlSources is)) (is.flatMap itemTables) (listJoins is) := by
  induction is with
  | nil => exact absurd rfl h
  | cons i is ih =>
    cases is with
    | nil => simpa [listPieces, sqlSources, commaList, listJoins] using displays_itemPieces i
    | cons j js =>
      have hlist := (displays_itemPieces i).connected .comma (ih (List.cons_ne_nil j js))
      simpa [listPieces, sqlSources, commaList, listJoins, Connector.sql, Connector.kind] using hlist

/-! ## 4. Blocks -/

namespace Block

/-- The pieces of the `FROM` list of a block. -/
def sourcePieces (b : Block) : List SourcePiece := listPieces b.select.sources

/-- The sources of a block that are no joins in parentheses, in the order in which they are written. -/
def leaves (b : Block) : List TableFactor := b.sourcePieces.filterMap SourcePiece.leaf?

/-- The commas and join operators between the sources of a block, in the order in which they are written. -/
def connectors (b : Block) : List Connector := b.sourcePieces.filterMap SourcePiece.connector?

/-- **Joins connect the sources.** A `FROM` list is written as its pieces, in which leaves and connectors take
turns. A block lists a join for each connector and a table for each leaf that is a table, in the order in which
they are written, so there is one leaf more than there are joins. -/
theorem joins_connect_leaves {b : Block} (h : b.select.sources ≠ []) :
    clause " FROM " (sqlSources b.select.sources) "" =
      " FROM " ++ String.join (b.sourcePieces.map SourcePiece.sql) ∧
    (∃ first rest, b.sourcePieces.filter (!·.isMark) = SourcePiece.alternating first rest) ∧
    (∀ s ∈ b.leaves, s.isJoined = false) ∧
    b.tables = b.leaves.filterMap TableFactor.ref? ∧
    b.joins = b.connectors.map Connector.kind ∧
    b.joins.length + 1 = b.leaves.length := by
  have hdisplays := displays_listPieces h
  refine ⟨?_, hdisplays.turns, hdisplays.not_joined, hdisplays.tables_eq.symm, hdisplays.joins_eq.symm,
    hdisplays.length_leaves.symm⟩
  have hwritten : (sqlSources b.select.sources).isEmpty = false := by
    cases hsources : b.select.sources with
    | nil => exact absurd hsources h
    | cons => simp [sqlSources]
  simp [clause, hwritten, sourcePieces, hdisplays.text_eq]

/-- A table under a label, and a join in parentheses that is joined to a query. -/
def offers : String := "SELECT * FROM Shop.Offers AS O, (a JOIN b ON a.x = b.x) LEFT JOIN (SELECT 1) AS d ON true"

/-- A comma and two join operators connect four sources, three of which are tables. -/
theorem joins_connect_leaves_offers :
    ∃ o b, Outline.parse .postgres offers = .ok o ∧ o.mainBlock? = some b ∧ b.select.sources ≠ [] ∧
      b.connectors = [.comma, .operator .inner, .operator .leftOuter] ∧ b.joins = [.implicit, .inner, .left] ∧
      b.leaves.length = 4 ∧ b.tables = [⟨"offers", some "o"⟩, ⟨"a", none⟩, ⟨"b", none⟩] := by
  have hview : ((Outline.parse .postgres offers).map fun o => o.mainBlock?.map fun b =>
      (b.select.sources.isEmpty, b.connectors, b.leaves.filterMap TableFactor.ref?)).toOption =
      some (some (false, [.comma, .operator .inner, .operator .leftOuter],
        [⟨"offers", some "o"⟩, ⟨"a", none⟩, ⟨"b", none⟩])) := by
    decide +kernel
  obtain ⟨o, ho, hseen⟩ := Outline.exists_parse_eq_ok hview
  obtain ⟨b, hb, hseen⟩ := Option.map_eq_some_iff.1 hseen
  simp only [Prod.mk.injEq] at hseen
  obtain ⟨hsources, hconnectors, hrefs⟩ := hseen
  have hne : b.select.sources ≠ [] := by simpa using hsources
  obtain ⟨-, -, -, htables, hjoins, hlength⟩ := joins_connect_leaves hne
  rw [hconnectors] at hjoins
  have hjoins : b.joins = [.implicit, .inner, .left] := hjoins
  exact ⟨o, b, ho, hb, hne, hconnectors, hjoins, by rw [← hlength, hjoins]; rfl, htables.trans hrefs⟩

end Block

end QueryDrill
