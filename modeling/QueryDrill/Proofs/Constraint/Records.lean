import QueryDrill.Proofs.Json.Decoding
/-!
Constraints read back from their records.

`Carries` says of the fields of an object that one of them has a value or that it is missing and the value is its
default. An object that has the tag of a constraint and carries its fields is read as this constraint, whatever the
order of its fields (`QueryConstraint.ofJson?_of_carries`, `SchemaConstraint.ofJson?_of_carries`). The record of a
constraint is such an object, and remains one when fields with their defaults are left out
(`LeavesOutDefaults.exists_carries`).
-/

namespace QueryDrill

open Sql Json

/-! ## 1. Sizes -/

/-- Bounds that are sizes. -/
def Bounds.IsSized (b : Bounds) : Prop := b.min < UInt64.size ∧ ∀ max ∈ b.max, max < UInt64.size

/-- A constraint whose bounds are sizes. -/
def QueryConstraint.IsSized : QueryConstraint → Prop
  | tables b | joins b _ | conditions b | aggregations b _ | subqueries b _ | selectedColumns b
  | wildcardLength b => b.IsSized
  | repeatedColumnConditions min | groupBy _ min | having _ min | orderBy _ min | columnAliases min
  | setOperations min _ => min < UInt64.size
  | distinct _ | duplicates _ | wildcardCharacters _ | unionBalance | foreignKeyProjection _ | nullChecks _ => True

/-- A constraint whose bounds are sizes. -/
def SchemaConstraint.IsSized (c : SchemaConstraint) : Prop := c.bounds.IsSized

/-! ## 2. Values of fields -/

/-- A value without fields: null, a size, a string or a list of strings. -/
inductive IsPlain : Json → Prop
  | null : IsPlain .null
  | nat {n : Nat} (h : n < UInt64.size) : IsPlain (.nat n)
  | string (s : String) : IsPlain (.string s)
  | strings (texts : List String) : IsPlain (.strings texts)

namespace IsPlain

variable {v : Json}

/-- There are no fields to rearrange. -/
theorem rearrange (h : IsPlain v) {r : Json → Json} (hr : Rearranges r) : r v = v := by
  cases h with
  | null => exact hr.null
  | nat _ => exact hr.number _
  | string s => exact hr.string s
  | strings texts =>
    have hmap : (texts.map Json.string).map r = texts.map Json.string := by
      simp [Function.comp_def, hr.string]
    rw [Json.strings, hr.array, hmap]

theorem readable (h : IsPlain v) (depth : Nat) : Readable (depth + 1) v := by
  cases h with
  | null => exact .null
  | nat h => exact .nat (Nat.le_sub_one_of_lt h)
  | string s => exact .string s
  | strings texts =>
    refine .array fun w hw => ?_
    obtain ⟨s, -, rfl⟩ := List.mem_map.1 hw
    exact .string s

end IsPlain

theorem Bounds.isPlain_of_mem_fields {b : Bounds} (h : b.IsSized) : ∀ f ∈ b.fields, IsPlain f.2 := by
  intro f hf
  obtain rfl | rfl : f = ("min", .nat b.min) ∨ f = ("max", .ofOption .nat b.max) := by
    simpa [Bounds.fields] using hf
  · exact .nat h.1
  · cases hmax : b.max with
    | none => exact .null
    | some max => exact .nat (h.2 max hmax)

/-! ## 3. Fields with defaults -/

/-- The fields that a record of a constraint may lack, with the values they then have. -/
def defaultFields : List (String × Json) :=
  [("min", .nat 0), ("max", .null), ("kinds", .array []), ("functions", .array []),
   ("nesting", .string Nesting.any.name), ("min_columns", .nat 0), ("min_conditions", .nat 0)]

/-- Fields of which one has a value, or lacks it and the value is its default. -/
def Carries (fs : List (String × Json)) (f : String × Json) : Prop :=
  fs.lookup f.1 = some f.2 ∨ fs.lookup f.1 = none ∧ f ∈ defaultFields

namespace Carries

variable {α : Type} {fs : List (String × Json)} {name : String} {v : Json} {decode : Json → Option α} {a : α}

/-- The default of a field is what it is read as when it is missing. -/
theorem withDefault (h : Carries fs (name, v)) {default : α} (hv : decode v = some a)
    (hdefault : (name, v) ∈ defaultFields → a = default) (position : Nat) :
    (JsonRecord.named fs).withDefault position name default decode = some a := by
  rcases h with h | ⟨h, hmem⟩
  · exact JsonRecord.withDefault_of_lookup h hv position default
  · rw [JsonRecord.withDefault, JsonRecord.field?, h]
    exact congrArg some (hdefault hmem).symm

/-- A field without a default is there. -/
theorem required (h : Carries fs (name, v)) (hv : decode v = some a) (hname : name ∉ defaultFields.map Prod.fst)
    (position : Nat) : (JsonRecord.named fs).required position name decode = some a := by
  have hlookup : fs.lookup name = some v := h.resolve_right fun h => hname (List.mem_map_of_mem h.2)
  exact JsonRecord.required_of_lookup hlookup hv position

theorem size {n : Nat} (h : Carries fs (name, .nat n)) (hn : n < UInt64.size) (position : Nat) :
    (JsonRecord.named fs).sizeOrZero position name = some n := by
  refine h.withDefault (size?_nat hn) (fun hmem => ?_) position
  have hzero : (name = "min" ∧ n = 0) ∨ (name = "min_columns" ∧ n = 0) ∨ name = "min_conditions" ∧ n = 0 := by
    simpa [defaultFields, Json.nat] using hmem
  exact hzero.elim And.right fun h => h.elim And.right And.right

theorem list {encode : α → Json} {l : List α} (h : Carries fs (name, .array (l.map encode)))
    (decode : Json → Option α) (hdecode : ∀ a, decode (encode a) = some a) (position : Nat) :
    (JsonRecord.named fs).withDefault position name [] (list? decode) = some l := by
  refine h.withDefault (list?_map fun a _ => hdecode a) (fun hmem => ?_) position
  have hnil : (name = "kinds" ∧ l = []) ∨ name = "functions" ∧ l = [] := by
    simpa [defaultFields, Json.nat] using hmem
  exact hnil.elim And.right And.right

theorem words {nameOf : α → String} {l : List α} (h : Carries fs (name, .strings (l.map nameOf)))
    (all : List α) (hall : (all.map nameOf).Nodup) (hmem : ∀ a, a ∈ all) (position : Nat) :
    (JsonRecord.named fs).withDefault position name [] (list? (ofWord? all nameOf)) = some l := by
  rw [Json.strings, List.map_map] at h
  exact h.list _ (fun a => ofWord?_name hall (hmem a)) position

theorem state {p : Presence} (h : Carries fs ("state", .string p.name)) :
    (JsonRecord.named fs).state = some p := by
  have hp : ofWord? Presence.all Presence.name (.string p.name) = some p :=
    ofWord?_name (by decide) (by cases p <;> decide)
  exact h.required hp (by decide) 0

end Carries

/-- Bounds are read from their fields. -/
theorem bounds_of_carries {fs : List (String × Json)} {b : Bounds} (hb : b.IsSized)
    (h : ∀ f ∈ b.fields, Carries fs f) : (JsonRecord.named fs).bounds = some b := by
  have hmin := (h ("min", .nat b.min) (by simp [Bounds.fields])).size hb.1 0
  have hmax : (JsonRecord.named fs).withDefault 1 "max" none (option? size?) = some b.max := by
    refine (h ("max", .ofOption .nat b.max) (by simp [Bounds.fields])).withDefault ?_ (fun hmem => ?_) 1
    · exact option?_ofOption fun n hn => ⟨nofun, size?_nat (hb.2 n hn)⟩
    · cases hm : b.max with
      | none => rfl
      | some m => simp [hm, defaultFields, ofOption, Json.nat] at hmem
  rw [JsonRecord.bounds, hmin, hmax]
  rfl

/-! ## 4. Records without defaults -/

/-- Fields from which some that have their defaults are left out. -/
structure LeavesOutDefaults (all fs : List (String × Json)) : Prop where
  sublist : fs.Sublist all
  isDefault : ∀ f ∈ all, f ∉ fs → f ∈ defaultFields

namespace LeavesOutDefaults

theorem refl (all : List (String × Json)) : LeavesOutDefaults all all := ⟨.refl all, fun _ h hf => absurd h hf⟩

variable {all fs : List (String × Json)}

/-- However its fields are rearranged, what is left carries what was there. -/
theorem exists_carries (h : LeavesOutDefaults all fs) (hnodup : ("type" :: all.map Prod.fst).Nodup)
    (hplain : ∀ f ∈ all, IsPlain f.2) (tag : String) {r : Json → Json} (hr : Rearranges r) :
    ∃ fs', r (.object (("type", .string tag) :: fs)) = .object fs' ∧
      fs'.lookup "type" = some (.string tag) ∧ ∀ f ∈ all, Carries fs' f := by
  have hkeys : ((("type", Json.string tag) :: fs).map Prod.fst).Nodup :=
    hnodup.sublist ((h.sublist.map Prod.fst).cons_cons "type")
  obtain ⟨fs', heq, hlookup⟩ := hr.object _ hkeys
  refine ⟨fs', heq, ?_, fun f hf => ?_⟩
  · rw [hlookup, lookup_of_mem hkeys List.mem_cons_self, Option.map_some, hr.string]
  · by_cases hleft : f ∈ fs
    · have hmem : (f.1, f.2) ∈ ("type", Json.string tag) :: fs := List.mem_cons_of_mem _ hleft
      refine .inl ?_
      rw [hlookup, lookup_of_mem hkeys hmem, Option.map_some, (hplain f hf).rearrange hr]
    · refine .inr ⟨?_, h.isDefault f hf hleft⟩
      obtain ⟨htype, hnames⟩ := List.nodup_cons.1 hnodup
      have hfresh : f.1 ∉ (("type", Json.string tag) :: fs).map Prod.fst := by
        intro hkey
        rcases List.mem_cons.1 hkey with hname | hkey
        · have hname : f.1 = "type" := hname
          exact htype (hname ▸ List.mem_map_of_mem hf)
        · exact hleft (mem_of_key_mem hnames h.sublist.subset hf hkey)
      rw [hlookup, lookup_eq_none_of_notMem_keys hfresh]
      rfl

theorem readable (h : LeavesOutDefaults all fs) (hplain : ∀ f ∈ all, IsPlain f.2) (tag : String) (depth : Nat) :
    Readable (depth + 2) (.object (("type", .string tag) :: fs)) :=
  .object (List.forall_mem_cons.2 ⟨.string tag, fun f hf => (hplain f (h.sublist.subset hf)).readable depth⟩)

end LeavesOutDefaults

/-- What is asked of the record of a constraint with a name and fields: it is read back and has the name as tag,
which tells the constraint from others, and it can do without fields that have their defaults. -/
structure IsRecordOf {α : Type} (decode : Json → Option α) (name : String) (fields : List (String × Json))
    (record : Json) (c : α) : Prop where
  readBack : ReadBack decode record c
  tag : ReadBack (field? "type") record (.string name)
  /-- No value with another tag is read as the constraint. -/
  onlyTag : ∀ v, decode v = some c → ∃ r, JsonRecord.tagged? v = some (name, r)
  withoutDefaults : ∀ fs, LeavesOutDefaults fields fs → ReadBack decode (.object (("type", .string name) :: fs)) c

section Decoding

variable {α : Type} {decode : Json → Option α} {name : String} {fields : List (String × Json)} {c : α}
  (hnodup : ("type" :: fields.map Prod.fst).Nodup) (hplain : ∀ f ∈ fields, IsPlain f.2)
  (hread : ∀ fs, fs.lookup "type" = some (.string name) → (∀ f ∈ fields, Carries fs f) →
    decode (.object fs) = some c)

include hnodup hplain hread

theorem LeavesOutDefaults.decode_rearranged {fs : List (String × Json)} (h : LeavesOutDefaults fields fs)
    {r : Json → Json} (hr : Rearranges r) : decode (r (.object (("type", .string name) :: fs))) = some c := by
  obtain ⟨fs', heq, htag, hcarries⟩ := h.exists_carries hnodup hplain name hr
  exact heq ▸ hread fs' htag hcarries

/-- It is enough to read a constraint from any object that has its name as tag and carries its fields. -/
theorem IsRecordOf.of_carries (honly : ∀ v, decode v = some c → ∃ r, JsonRecord.tagged? v = some (name, r)) :
    IsRecordOf decode name fields (.object (("type", .string name) :: fields)) c := by
  have hall (fs : List (String × Json)) (h : LeavesOutDefaults fields fs) :
      ReadBack decode (.object (("type", .string name) :: fs)) c :=
    .of_rearranges (h.readable hplain name 125) fun _ hr => h.decode_rearranged hnodup hplain hread hr
  have htag : ReadBack (field? "type") (.object (("type", .string name) :: fields)) (.string name) := by
    refine .of_rearranges ((LeavesOutDefaults.refl fields).readable hplain name 125) fun r hr => ?_
    obtain ⟨fs', heq, htag, -⟩ := (LeavesOutDefaults.refl fields).exists_carries hnodup hplain name hr
    exact heq ▸ htag
  exact ⟨hall fields (.refl fields), htag, honly, hall⟩

end Decoding

/-! ## 5. Constraints on a query -/

namespace QueryConstraint

variable {c : QueryConstraint} {fs : List (String × Json)}

theorem isPlain_of_mem_fields (hc : c.IsSized) : ∀ f ∈ c.fields, IsPlain f.2 := by
  cases c with
  | tables b | conditions b | selectedColumns b | wildcardLength b => exact Bounds.isPlain_of_mem_fields hc
  | joins b kinds =>
    exact List.forall_mem_append.2 ⟨Bounds.isPlain_of_mem_fields hc, List.forall_mem_singleton.2 (.strings _)⟩
  | aggregations b functions =>
    exact List.forall_mem_append.2 ⟨Bounds.isPlain_of_mem_fields hc, List.forall_mem_singleton.2 (.strings _)⟩
  | subqueries b nesting =>
    exact List.forall_mem_append.2 ⟨Bounds.isPlain_of_mem_fields hc, List.forall_mem_singleton.2 (.string _)⟩
  | repeatedColumnConditions min | columnAliases min => exact List.forall_mem_singleton.2 (.nat hc)
  | groupBy state min | having state min | orderBy state min =>
    exact List.forall_mem_cons.2 ⟨.string _, List.forall_mem_singleton.2 (.nat hc)⟩
  | distinct | duplicates | wildcardCharacters | foreignKeyProjection | nullChecks =>
    exact List.forall_mem_singleton.2 (.string _)
  | unionBalance => exact List.forall_mem_nil _
  | setOperations min kinds =>
    exact List.forall_mem_cons.2 ⟨.nat hc, List.forall_mem_singleton.2 (.strings _)⟩

theorem nodup_fieldNames (c : QueryConstraint) : ("type" :: c.fields.map Prod.fst).Nodup := by
  cases c <;> simp [fields, Bounds.fields]

/-- The tag chooses what is read. -/
theorem ofJson?_object {tag : String} (h : fs.lookup "type" = some (.string tag)) :
    ofJson? (.object fs) = ofRecord? tag (.named fs) := by
  simp [ofJson?, JsonRecord.tagged?, h, string?, JsonRecord.fits]

/-- **A constraint is read from any object that has its name as tag and carries its fields.** -/
theorem ofJson?_of_carries (hc : c.IsSized) (htag : fs.lookup "type" = some (.string c.name))
    (h : ∀ f ∈ c.fields, Carries fs f) : ofJson? (.object fs) = some c := by
  rw [ofJson?_object htag]
  cases c with
  | tables b | conditions b | selectedColumns b | wildcardLength b =>
    exact congrArg (Option.map _) (bounds_of_carries hc h)
  | joins b kinds =>
    obtain ⟨hbounds, hlast⟩ := List.forall_mem_append.1 h
    have hkinds := (List.forall_mem_singleton.1 hlast).words JoinKind.all (by decide)
      (fun kind => by cases kind <;> decide) 2
    simp [name, ofRecord?, bounds_of_carries hc hbounds, hkinds]
  | repeatedColumnConditions min | columnAliases min =>
    exact congrArg (Option.map _) ((List.forall_mem_singleton.1 h).size hc 0)
  | aggregations b functions =>
    obtain ⟨hbounds, hlast⟩ := List.forall_mem_append.1 h
    have hfunctions := (List.forall_mem_singleton.1 hlast).list string? (fun _ => rfl) 2
    simp [name, ofRecord?, bounds_of_carries hc hbounds, hfunctions]
  | groupBy state min | having state min | orderBy state min =>
    obtain ⟨hstate, hlast⟩ := List.forall_mem_cons.1 h
    have hmin := (List.forall_mem_singleton.1 hlast).size hc 1
    simp [name, ofRecord?, hstate.state, hmin]
  | distinct state | foreignKeyProjection state | nullChecks state =>
    exact congrArg (Option.map _) (List.forall_mem_singleton.1 h).state
  | subqueries b nesting =>
    obtain ⟨hbounds, hlast⟩ := List.forall_mem_append.1 h
    have hword : ofWord? Nesting.all Nesting.name (.string nesting.name) = some nesting :=
      ofWord?_name (by decide) (by cases nesting <;> decide)
    have hdefault (hmem : ("nesting", Json.string nesting.name) ∈ defaultFields) : nesting = .any := by
      cases nesting <;> simp [defaultFields, Nesting.name, Json.nat] at hmem ⊢
    have hnesting := (List.forall_mem_singleton.1 hlast).withDefault hword hdefault 2
    simp [name, ofRecord?, bounds_of_carries hc hbounds, hnesting]
  | duplicates mode =>
    have hword : ofWord? DuplicateMode.all DuplicateMode.name (.string mode.name) = some mode :=
      ofWord?_name (by decide) (by cases mode <;> decide)
    have hmode := (List.forall_mem_singleton.1 h).required hword (by decide) 0
    simp [name, ofRecord?, hmode]
  | wildcardCharacters required =>
    have hread : string? (.string required) = some required := rfl
    exact congrArg (Option.map _) ((List.forall_mem_singleton.1 h).required hread (by decide) 0)
  | unionBalance => rfl
  | setOperations min kinds =>
    obtain ⟨hfirst, hlast⟩ := List.forall_mem_cons.1 h
    have hkinds := (List.forall_mem_singleton.1 hlast).words setOperators (by decide)
      (fun kind => by cases kind <;> decide) 1
    simp [name, ofRecord?, hfirst.size hc 0, hkinds]

theorem name_of_ofRecord? {tag : String} {r : JsonRecord} (h : ofRecord? tag r = some c) : c.name = tag := by
  unfold ofRecord? at h
  split at h <;>
    simp only [Option.map_eq_some_iff, Option.bind_eq_bind, Option.bind_eq_some_iff, Option.pure_def,
      Option.some.injEq, reduceCtorEq] at h <;>
    grind [name]

/-- Nothing is read but from a record that has the name of the constraint as tag. -/
theorem tagged?_of_ofJson? {v : Json} (h : ofJson? v = some c) :
    ∃ r, JsonRecord.tagged? v = some (c.name, r) := by
  cases htagged : JsonRecord.tagged? v with
  | none => simp [ofJson?, htagged] at h
  | some tagged =>
    obtain ⟨tag, r⟩ := tagged
    simp only [ofJson?, htagged, Option.bind_eq_bind, Option.bind_some] at h
    split at h
    · exact ⟨r, by rw [name_of_ofRecord? h]⟩
    · cases h

theorem toJson_rearranged (hc : c.IsSized) {r : Json → Json} (hr : Rearranges r) :
    ofJson? (r c.toJson) = some c :=
  (LeavesOutDefaults.refl c.fields).decode_rearranged c.nodup_fieldNames (isPlain_of_mem_fields hc)
    (fun _ => ofJson?_of_carries hc) hr

theorem isRecordOf (hc : c.IsSized) : IsRecordOf ofJson? c.name c.fields c.toJson c :=
  .of_carries c.nodup_fieldNames (isPlain_of_mem_fields hc) (fun _ => ofJson?_of_carries hc)
    fun _ => tagged?_of_ofJson?

theorem readable_toJson (hc : c.IsSized) (depth : Nat) : Readable (depth + 2) c.toJson :=
  (LeavesOutDefaults.refl c.fields).readable (isPlain_of_mem_fields hc) c.name depth

end QueryConstraint

/-! ## 6. Constraints on a schema -/

namespace SchemaConstraint

variable {c : SchemaConstraint} {fs : List (String × Json)}

/-- The fields of a constraint, in their order. -/
def fields (c : SchemaConstraint) : List (String × Json) :=
  if c.measure.hasMax then c.bounds.fields else [("min", .nat c.bounds.min)]

theorem toJson_eq (c : SchemaConstraint) : c.toJson = .object (("type", .string c.name) :: c.fields) := rfl

theorem isPlain_of_mem_fields (hc : c.IsSized) : ∀ f ∈ c.fields, IsPlain f.2 := by
  rw [fields]
  split
  · exact Bounds.isPlain_of_mem_fields hc
  · exact List.forall_mem_singleton.2 (.nat hc.1)

theorem nodup_fieldNames (c : SchemaConstraint) : ("type" :: c.fields.map Prod.fst).Nodup := by
  rw [fields]
  split
  · simp [Bounds.fields]
  · simp

theorem of_measure_bounds (c : SchemaConstraint) : of c.measure c.bounds = c := by
  obtain ⟨measure, ⟨min, max⟩, hmax⟩ := c
  cases h : measure.hasMax with
  | true => simp [of, h]
  | false =>
    have hnone : max = none := hmax h
    simp [of, h, hnone, Bounds.atLeast]

theorem find?_measure (m : SchemaMeasure) : (SchemaMeasure.all.find? fun n => n.name == m.name) = some m :=
  find?_name (by decide) (by cases m <;> decide)

/-- **A constraint is read from any object that has its name as tag and carries its fields.** -/
theorem ofJson?_of_carries (hc : c.IsSized) (htag : fs.lookup "type" = some (.string c.name))
    (h : ∀ f ∈ c.fields, Carries fs f) : ofJson? (.object fs) = some c := by
  have htagged : JsonRecord.tagged? (.object fs) = some (c.measure.name, .named fs) := by
    simp [JsonRecord.tagged?, htag, string?, name]
  rw [ofJson?, htagged]
  show (SchemaMeasure.all.find? _).bind _ = _
  rw [find?_measure]
  rw [fields] at h
  cases hmax : c.measure.hasMax with
  | true =>
    rw [if_pos hmax] at h
    simp [hmax, JsonRecord.fits, bounds_of_carries hc h, of_measure_bounds]
  | false =>
    rw [if_neg (by simp [hmax])] at h
    have hmin := (List.forall_mem_singleton.1 h).size hc.1 0
    have hbounds : c.bounds = .atLeast c.bounds.min := by
      have hnone := c.max_eq_none hmax
      cases hb : c.bounds
      simp_all [Bounds.atLeast]
    have hc : of c.measure (.atLeast c.bounds.min) = c := hbounds ▸ of_measure_bounds c
    simp [hmax, JsonRecord.fits, hmin, hc]

theorem name_of (m : SchemaMeasure) (b : Bounds) : (of m b).name = m.name := by
  rw [of]
  split <;> rfl

/-- Nothing is read but from a record that has the name of the constraint as tag. -/
theorem tagged?_of_ofJson? {v : Json} (h : ofJson? v = some c) :
    ∃ r, JsonRecord.tagged? v = some (c.name, r) := by
  cases htagged : JsonRecord.tagged? v with
  | none => simp [ofJson?, htagged] at h
  | some tagged =>
    obtain ⟨tag, r⟩ := tagged
    simp only [ofJson?, htagged, Option.bind_eq_bind, Option.bind_some] at h
    obtain ⟨m, hfind, h⟩ := Option.bind_eq_some_iff.1 h
    have hname : m.name = tag := by simpa using List.find?_some hfind
    have hof : ∃ b, of m b = c := by
      split at h <;> split at h
      · cases h
      · obtain ⟨b, -, h⟩ := Option.bind_eq_some_iff.1 h
        exact ⟨b, Option.some.inj h⟩
      · cases h
      · obtain ⟨min, -, h⟩ := Option.bind_eq_some_iff.1 h
        exact ⟨_, Option.some.inj h⟩
    obtain ⟨b, rfl⟩ := hof
    exact ⟨r, by rw [name_of, hname]⟩

theorem toJson_rearranged (hc : c.IsSized) {r : Json → Json} (hr : Rearranges r) :
    ofJson? (r c.toJson) = some c :=
  (LeavesOutDefaults.refl c.fields).decode_rearranged c.nodup_fieldNames (isPlain_of_mem_fields hc)
    (fun _ => ofJson?_of_carries hc) hr

theorem isRecordOf (hc : c.IsSized) : IsRecordOf ofJson? c.name c.fields c.toJson c :=
  .of_carries c.nodup_fieldNames (isPlain_of_mem_fields hc) (fun _ => ofJson?_of_carries hc)
    fun _ => tagged?_of_ofJson?

theorem readable_toJson (hc : c.IsSized) (depth : Nat) : Readable (depth + 2) c.toJson :=
  (LeavesOutDefaults.refl c.fields).readable (isPlain_of_mem_fields hc) c.name depth

end SchemaConstraint

end QueryDrill
