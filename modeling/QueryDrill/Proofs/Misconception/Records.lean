import QueryDrill.Misconception.Basic
import QueryDrill.Proofs.Constraint.Records
/-!
Misconceptions read back from their records, with all their levels and constraints.

Each record in a misconception is read back however its fields are rearranged (`Level.toJson_rearranged`,
`Levels.toJson_rearranged`, `Misconception.toJson_rearranged`), so it survives being printed and read
(`records_readBack`).
-/

namespace QueryDrill

open Json

variable {r : Json → Json}

/-! ## 1. Levels -/

namespace Level

/-- A level in which all bounds are sizes. -/
def IsSized (l : Level) : Prop := (∀ c ∈ l.schema, c.IsSized) ∧ ∀ c ∈ l.query, c.IsSized

/-- The fields of a level, in their order. -/
def fields (l : Level) : List (String × Json) :=
  [("extra_details", .string l.extraDetails), ("schema", .array (l.schema.map SchemaConstraint.toJson)),
   ("query", .array (l.query.map QueryConstraint.toJson))]

theorem toJson_eq (l : Level) : l.toJson = .object l.fields := rfl

theorem nodup_fieldNames (l : Level) : (l.fields.map Prod.fst).Nodup := by simp [fields]

theorem rearranged_ne_null (l : Level) (hr : Rearranges r) : r l.toJson ≠ .null := by
  obtain ⟨fs, heq, -⟩ := hr.exists_lookup l.nodup_fieldNames
  rw [toJson_eq, heq]
  exact nofun

variable {l : Level}

theorem toJson_rearranged (hl : l.IsSized) (hr : Rearranges r) : ofJson? (r l.toJson) = some l := by
  obtain ⟨fs, heq, hlookup⟩ := hr.exists_lookup l.nodup_fieldNames
  have hextra := JsonRecord.withDefault_of_lookup
    (hlookup ("extra_details", .string l.extraDetails) (by simp [fields]))
    (string?_rearranged hr l.extraDetails) 0 ""
  have hschema := JsonRecord.withDefault_of_lookup
    (hlookup ("schema", .array (l.schema.map SchemaConstraint.toJson)) (by simp [fields]))
    (list?_rearranged hr fun c hc => SchemaConstraint.toJson_rearranged (hl.1 c hc) hr) 1 []
  have hquery := JsonRecord.withDefault_of_lookup
    (hlookup ("query", .array (l.query.map QueryConstraint.toJson)) (by simp [fields]))
    (list?_rearranged hr fun c hc => QueryConstraint.toJson_rearranged (hl.2 c hc) hr) 2 []
  rw [toJson_eq, heq]
  simp [ofJson?, JsonRecord.ofJson?, hextra, hschema, hquery]

theorem readable_toJson (hl : l.IsSized) (depth : Nat) : Readable (depth + 4) l.toJson := by
  have hschema : Readable (depth + 3) (.array (l.schema.map SchemaConstraint.toJson)) :=
    .array (List.forall_mem_map.2 fun c hc => SchemaConstraint.readable_toJson (hl.1 c hc) depth)
  have hquery : Readable (depth + 3) (.array (l.query.map QueryConstraint.toJson)) :=
    .array (List.forall_mem_map.2 fun c hc => QueryConstraint.readable_toJson (hl.2 c hc) depth)
  exact .object (by simpa [hschema, hquery] using Readable.string _)

end Level

namespace Levels

/-- Levels in which all bounds are sizes. -/
def IsSized (ls : Levels) : Prop := ∀ d, ∀ l ∈ ls.get? d, l.IsSized

/-- The fields of levels, in their order. -/
def fields (ls : Levels) : List (String × Json) :=
  Difficulty.all.map fun d => (d.name, .ofOption Level.toJson (ls.get? d))

theorem toJson_eq (ls : Levels) : ls.toJson = .object ls.fields := rfl

theorem nodup_fieldNames (ls : Levels) : (ls.fields.map Prod.fst).Nodup := by
  have hnames : ls.fields.map Prod.fst = Difficulty.all.map Difficulty.name := List.map_map
  rw [hnames]
  decide

variable {ls : Levels}

theorem toJson_rearranged (hls : ls.IsSized) (hr : Rearranges r) : ofJson? (r ls.toJson) = some ls := by
  obtain ⟨fs, heq, hlookup⟩ := hr.exists_lookup ls.nodup_fieldNames
  have hlevel (d : Difficulty) (position : Nat) :
      (JsonRecord.named fs).withDefault position d.name .none (Json.option? Level.ofJson?) = some (ls.get? d) := by
    have hd : d ∈ Difficulty.all := by cases d <;> decide
    refine JsonRecord.withDefault_of_lookup (hlookup _ (List.mem_map_of_mem hd)) ?_ position Option.none
    exact option?_rearranged hr fun l hl => ⟨l.rearranged_ne_null hr, Level.toJson_rearranged (hls d l hl) hr⟩
  rw [toJson_eq, heq]
  simp [ofJson?, JsonRecord.ofJson?, hlevel, get?]

theorem readable_toJson (hls : ls.IsSized) (depth : Nat) : Readable (depth + 5) ls.toJson := by
  refine .object (List.forall_mem_map.2 fun d _ => ?_)
  show Readable (depth + 4) (.ofOption Level.toJson (ls.get? d))
  cases hlevel : ls.get? d with
  | none => exact .null
  | some l => exact Level.readable_toJson (hls d l hlevel) depth

end Levels

/-! ## 2. Misconceptions -/

namespace Misconception

/-- A misconception in which all bounds are sizes. -/
def IsSized (m : Misconception) : Prop := m.levels.IsSized

/-- The fields of a misconception, in their order. -/
def fields (m : Misconception) : List (String × Json) :=
  [("id", .string m.id), ("title", .string m.title), ("description", .string m.description),
   ("levels", m.levels.toJson)]

theorem toJson_eq (m : Misconception) : m.toJson = .object m.fields := rfl

theorem nodup_fieldNames (m : Misconception) : (m.fields.map Prod.fst).Nodup := by simp [fields]

variable {m : Misconception}

theorem toJson_rearranged (hm : m.IsSized) (hr : Rearranges r) : ofJson? (r m.toJson) = some m := by
  obtain ⟨fs, heq, hlookup⟩ := hr.exists_lookup m.nodup_fieldNames
  have hid := JsonRecord.required_of_lookup (hlookup ("id", .string m.id) (by simp [fields]))
    (string?_rearranged hr m.id) 0
  have htitle := JsonRecord.required_of_lookup (hlookup ("title", .string m.title) (by simp [fields]))
    (string?_rearranged hr m.title) 1
  have hdescription := JsonRecord.required_of_lookup
    (hlookup ("description", .string m.description) (by simp [fields])) (string?_rearranged hr m.description) 2
  have hlevels := JsonRecord.withDefault_of_lookup (hlookup ("levels", m.levels.toJson) (by simp [fields]))
    (Levels.toJson_rearranged hm hr) 3 .none
  rw [toJson_eq, heq]
  simp [ofJson?, JsonRecord.ofJson?, hid, htitle, hdescription, hlevels]

theorem readable_toJson (hm : m.IsSized) (depth : Nat) : Readable (depth + 6) m.toJson := by
  have hlevels : Readable (depth + 5) m.levels.toJson := Levels.readable_toJson hm depth
  refine .object ?_
  simp [hlevels, Readable.string]

end Misconception

/-! ## 3. Reading back -/

/-- **Constraints and misconceptions survive being written and read.** The record of a constraint has the name of
the constraint as tag; it is read back, as a value and from both of its texts, also when fields that have their
defaults are left out. So is the record of a misconception, whichever levels it has. -/
theorem records_readBack :
    (∀ c : QueryConstraint, c.IsSized → IsRecordOf QueryConstraint.ofJson? c.name c.fields c.toJson c) ∧
    (∀ c : SchemaConstraint, c.IsSized → IsRecordOf SchemaConstraint.ofJson? c.name c.fields c.toJson c) ∧
    ∀ m : Misconception, m.IsSized → ReadBack Misconception.ofJson? m.toJson m :=
  ⟨fun _ => QueryConstraint.isRecordOf, fun _ => SchemaConstraint.isRecordOf,
    fun _ hm => .of_rearranges (Misconception.readable_toJson hm 121) fun _ => Misconception.toJson_rearranged hm⟩

/-- Left joins of any number. -/
def leftJoins : QueryConstraint := .joins ⟨0, none⟩ [.left]

/-- One level alone, about rows and left joins. -/
def lostRows : Misconception where
  id := "lost_rows"
  title := "Lost \"rows\""
  description := "Rows without a match\nare lost."
  levels := { Levels.none with medium := some ⟨"", [.of .rowsPerTable (.atLeast 5)], [leftJoins, .unionBalance]⟩ }

theorem records_readBack_lostRows :
    ReadBack QueryConstraint.ofJson? (.object [("type", .string "joins"), ("kinds", .strings ["left"])]) leftJoins ∧
    ReadBack Misconception.ofJson? lostRows.toJson lostRows := by
  have hjoins : leftJoins.IsSized := ⟨by decide, nofun⟩
  have hlevels : lostRows.IsSized := by
    rintro (_ | _ | _) l hl
    · cases hl
    · cases hl
      refine ⟨List.forall_mem_singleton.2 ⟨by decide, nofun⟩, ?_⟩
      exact List.forall_mem_cons.2 ⟨hjoins, List.forall_mem_singleton.2 trivial⟩
    · cases hl
  have hdefaults : LeavesOutDefaults leftJoins.fields [("kinds", .strings ["left"])] := by
    refine ⟨.cons _ (.cons _ (.refl _)), ?_⟩
    simp [leftJoins, QueryConstraint.fields, Bounds.fields, defaultFields, JoinKind.name, ofOption]
  exact ⟨(records_readBack.1 leftJoins hjoins).withoutDefaults _ hdefaults, records_readBack.2.2 lostRows hlevels⟩

end QueryDrill
