import QueryDrill.CommandLine.Program
import QueryDrill.Proofs.Generation.Assignment
/-!
A check agrees with its constraints, each taken by itself.

A check merges the constraints on the schema twice, those of the picked profiles first and then what comes out
with those of the file, and it reports on merged constraints only. Merging asks no more and no less than its list
(`SchemaConstraint.holds_merge`), so both steps together ask what all the constraints ask
(`Material.constraintSet_eq`). The reports on the set say whether it holds, and the exit status says what the
reports say (`Material.answer_exit`).
-/

namespace QueryDrill

open Sql

/-! ## 1. Merging in stages -/

namespace SchemaConstraint

variable {catalog : Catalog} {rows : RowCounts}

/-- Nothing is merged only to nothing. -/
theorem merge_eq_nil_iff {cs ms : List SchemaConstraint} (h : merge cs = .ok ms) : ms = [] ↔ cs = [] := by
  have hmeasures := measures_merge h
  constructor
  · intro hms
    rw [hms, List.map_nil, eq_comm] at hmeasures
    cases cs with
    | nil => rfl
    | cons c cs =>
      rw [List.map_cons, List.eraseDups_cons] at hmeasures
      cases hmeasures
  · rintro rfl
    exact (Except.ok.inj h).symm

/-- A list that goes on after a merged one asks what it asks after the list that was merged. -/
theorem holds_merge_append {as cs ms ns : List SchemaConstraint} (has : merge as = .ok ms)
    (h : merge (ms ++ cs) = .ok ns) :
    (∀ c ∈ ns, c.check catalog rows = none) ↔ ∀ c ∈ as ++ cs, c.check catalog rows = none := by
  rw [holds_merge h, List.forall_mem_append, List.forall_mem_append, holds_merge has]

theorem merge_append_eq_nil_iff {as cs ms ns : List SchemaConstraint} (has : merge as = .ok ms)
    (h : merge (ms ++ cs) = .ok ns) : ns = [] ↔ as ++ cs = [] := by
  rw [merge_eq_nil_iff h, List.append_eq_nil_iff, List.append_eq_nil_iff, merge_eq_nil_iff has]

end SchemaConstraint

namespace ConstraintSet

variable {s : ConstraintSet} {catalog : Catalog} {l : Language}

theorem validateSchema_isValid_iff {rows : RowCounts} :
    (s.validateSchema catalog rows l).isValid = true ↔ ∀ c ∈ s.schema, c.check catalog rows = none := by
  rw [validateSchema, Report.isValid_ofOutcomes_iff, List.forall_mem_map]
  simp only [SchemaConstraint.validate_eq_ok_iff]

theorem validateQuery_isValid_iff {o : Outline} :
    (s.validateQuery o catalog l).isValid = true ↔ ∀ c ∈ s.query, c.check o catalog = none := by
  rw [validateQuery, Report.isValid_ofOutcomes_iff, List.forall_mem_map]
  simp only [QueryConstraint.validate_eq_ok_iff]

end ConstraintSet

namespace CommandLine

/-! ## 2. What a check reads -/

/-- What a check finds in its files. -/
structure Material where
  /-- The profiles that are picked, in the order of the picks. -/
  profiles : List Profile
  /-- The constraints of the file. -/
  extra : Level
  catalog : Catalog
  rows : RowCounts
  query : Option Outline

namespace Material

/-- The level without constraints. -/
def noExtra : Level := ⟨"", [], []⟩

/-- All files that a request names can be read and hold what they should, and all picks resolve. -/
structure IsRead (w : World) (r : CheckRequest) (m : Material) : Prop where
  profiles : ∃ registry, w.registry r.registry = .ok registry ∧ Resolves registry r.picks m.profiles
  extra : match r.constraints with
    | none => m.extra = noExtra
    | some path => ∃ text v, w.read path = .ok text ∧ Toml.parse? text = some v ∧ Level.ofJson? v = some m.extra
  catalog : ∃ text, w.read r.schema = .ok text ∧ Catalog.ofTexts r.dialect [text] = .ok m.catalog
  rows : match r.data with
    | none => m.rows = .empty
    | some path => ∃ text, w.read path = .ok text ∧ RowCounts.ofTexts r.dialect [text] = .ok m.rows
  query : match r.query with
    | none => m.query = none
    | some path => ∃ text o, w.read path = .ok text ∧ Outline.parse r.dialect text = .ok o ∧ m.query = some o

/-- The constraints on the schema that are asked for, by each profile and by the file. -/
def schemaAsked (m : Material) : List SchemaConstraint :=
  (m.profiles.flatMap fun p => p.level.schema) ++ m.extra.schema

/-- The constraints on the query that are asked for. -/
def queryAsked (m : Material) : List QueryConstraint :=
  (m.profiles.flatMap fun p => p.level.query) ++ m.extra.query

/-- Each constraint on the schema holds by itself, and each one on the query if there is a query. -/
def Holds (l : Language) (m : Material) : Prop :=
  (∀ c ∈ m.schemaAsked, c.validate m.catalog m.rows l = .ok ()) ∧
    ∀ o ∈ m.query, ∀ c ∈ m.queryAsked, c.validate o m.catalog l = .ok ()

variable {w : World} {r : CheckRequest} {m : Material}

/-! ## 3. The parts of a check -/

theorem content_eq {path text : String} (h : w.read path = .ok text) : w.content path = .ok text := by
  rw [World.content, h]
  rfl

theorem IsRead.pickedProfiles_eq (h : m.IsRead w r) :
    ∃ registry, w.registry r.registry = .ok registry ∧ pickedProfiles registry r.picks = .ok m.profiles := by
  obtain ⟨registry, hregistry, hresolves⟩ := h.profiles
  exact ⟨registry, hregistry, mapM_eq_ok_iff.2 hresolves⟩

/-- The constraints of the file go to those of the picks. -/
theorem IsRead.constraintSet_eq_add (h : m.IsRead w r) {s : ConstraintSet}
    (hs : ConstraintSet.ofProfiles m.profiles = .ok s) :
    constraintSet w r =
      if r.constraints = none then .ok s else orComplain (s.add m.extra.schema m.extra.query) := by
  obtain ⟨registry, hregistry, hpicked⟩ := h.pickedProfiles_eq
  have hextra := h.extra
  unfold constraintSet
  rw [hregistry]
  show (orComplain (pickedProfiles registry r.picks >>= ConstraintSet.ofProfiles) >>= _) = _
  rw [hpicked]
  show (orComplain (ConstraintSet.ofProfiles m.profiles) >>= _) = _
  rw [hs]
  cases hfile : r.constraints with
  | none => rfl
  | some path =>
    rw [hfile] at hextra
    obtain ⟨text, v, hread, hparse, hlevel⟩ := hextra
    have hlevel : constraintFile w path = .ok m.extra := by
      have hboth : (Toml.parse? text).bind Level.ofJson? = some m.extra := by
        rw [hparse, Option.bind_some, hlevel]
      rw [constraintFile, content_eq hread]
      simp only [bind, Except.bind, hboth]
      rfl
    show (constraintFile w path >>= _) = _
    rw [hlevel]
    rfl

/-- The set that a check goes by asks what all the constraints ask. -/
theorem IsRead.constraintSet_eq (h : m.IsRead w r) :
    ∃ s, constraintSet w r = .ok s ∧ s.query = m.queryAsked ∧ (s.schema = [] ↔ m.schemaAsked = []) ∧
      ∀ catalog rows, (∀ c ∈ s.schema, c.check catalog rows = none) ↔
        ∀ c ∈ m.schemaAsked, c.check catalog rows = none := by
  obtain ⟨ms, hms⟩ := SchemaConstraint.merge_ok (m.profiles.flatMap fun p => p.level.schema)
  have hpicked : ConstraintSet.ofProfiles m.profiles = .ok ⟨ms, m.profiles.flatMap fun p => p.level.query⟩ := by
    rw [ConstraintSet.ofProfiles, hms]
    rfl
  rw [h.constraintSet_eq_add hpicked]
  have hextra := h.extra
  cases hfile : r.constraints with
  | none =>
    rw [hfile] at hextra
    have hschema : m.schemaAsked = m.profiles.flatMap fun p => p.level.schema := by
      rw [schemaAsked, hextra, noExtra, List.append_nil]
    refine ⟨_, if_pos rfl, ?_, ?_, fun catalog rows => ?_⟩
    · rw [queryAsked, hextra, noExtra, List.append_nil]
    · rw [hschema]
      exact SchemaConstraint.merge_eq_nil_iff hms
    · rw [hschema]
      exact SchemaConstraint.holds_merge hms
  | some path =>
    obtain ⟨ns, hns⟩ := SchemaConstraint.merge_ok (ms ++ m.extra.schema)
    refine ⟨⟨ns, m.queryAsked⟩, ?_, rfl, SchemaConstraint.merge_append_eq_nil_iff hms hns,
      fun catalog rows => SchemaConstraint.holds_merge_append hms hns⟩
    rw [if_neg (Option.some_ne_none path), ConstraintSet.add, hns]
    rfl

/-- A check reads its files and reports on the set. -/
theorem IsRead.checkResult_eq (h : m.IsRead w r) (s : ConstraintSet) :
    checkResult w r s = .ok ⟨s.validateSchema m.catalog m.rows r.language,
      m.query.map fun o => s.validateQuery o m.catalog r.language⟩ := by
  obtain ⟨text, hread, hcatalog⟩ := h.catalog
  have hrows : fileRows w r.dialect r.data = .ok m.rows := by
    have hrows := h.rows
    cases hdata : r.data with
    | none =>
      rw [hdata] at hrows
      rw [hrows]
      rfl
    | some path =>
      rw [hdata] at hrows
      obtain ⟨text, hread, hrows⟩ := hrows
      rw [fileRows, content_eq hread]
      show orComplain (RowCounts.ofTexts r.dialect [text]) = _
      rw [hrows]
      rfl
  unfold checkResult
  rw [content_eq hread]
  show (orComplain (Catalog.ofTexts r.dialect [text]) >>= _) = _
  rw [hcatalog]
  show (fileRows w r.dialect r.data >>= _) = _
  rw [hrows]
  have hquery := h.query
  cases hfile : r.query with
  | none =>
    rw [hfile] at hquery
    rw [hquery]
    rfl
  | some path =>
    rw [hfile] at hquery
    obtain ⟨text, o, hread, hparse, ho⟩ := hquery
    show (w.content path >>= _) = _
    rw [content_eq hread]
    show (orComplain (Outline.parse r.dialect text) >>= _) = _
    rw [hparse, ho]
    rfl

end Material

/-- A result is valid just if the constraints of its set hold. -/
theorem CheckResult.isValid_iff {s : ConstraintSet} {catalog : Catalog} {rows : RowCounts} {l : Language}
    {query : Option Outline} :
    (CheckResult.mk (s.validateSchema catalog rows l) (query.map fun o => s.validateQuery o catalog l)).isValid =
        true ↔
      (∀ c ∈ s.schema, c.check catalog rows = none) ∧
        ∀ o ∈ query, ∀ c ∈ s.query, c.check o catalog = none := by
  rw [isValid, Bool.and_eq_true, ConstraintSet.validateSchema_isValid_iff]
  refine and_congr_right fun _ => ?_
  cases query with
  | none => simp
  | some o => simp [ConstraintSet.validateQuery_isValid_iff]

namespace Material

variable {w : World} {r : CheckRequest} {m : Material} {words : List String}

/-- The field of a result that says whether it is valid. -/
theorem valid_toJson (result : CheckResult) : result.toJson.field? "valid" = some (.bool result.isValid) := rfl

/-- **A check agrees with the constraints, each taken by itself.** Where the files read as what they should be
and something is asked for, the exit status is zero, and the field `valid` is true, just if each constraint of
each picked profile and of the file holds; otherwise the status is one. -/
theorem answer_exit (hwords : Reading.ofWords words = .request (.check r)) (hread : m.IsRead w r)
    (hasked : m.schemaAsked ≠ [] ∨ m.queryAsked ≠ []) :
    ∃ a, answer w words = a ∧ a.save = none ∧ (a.exit = 0 ↔ m.Holds r.language) ∧
      (a.exit = 1 ↔ ¬m.Holds r.language) ∧
      (r.asJson = true → ∃ (v : Json) (valid : Bool), a.out = v.pretty ++ "\n" ∧ v.field? "valid" = some (.bool valid) ∧
        (valid = true ↔ m.Holds r.language)) := by
  obtain ⟨s, hset, hquery, hnil, hholds⟩ := hread.constraintSet_eq
  have hempty : s.isEmpty = false := by
    rw [ConstraintSet.isEmpty, Bool.and_eq_false_iff, List.isEmpty_eq_false_iff, List.isEmpty_eq_false_iff,
      hquery, ne_eq, hnil]
    exact hasked
  have hresult := hread.checkResult_eq s
  generalize hdef : CheckResult.mk _ _ = result at hresult
  have hvalid : result.isValid = true ↔ m.Holds r.language := by
    rw [← hdef, CheckResult.isValid_iff, hholds, hquery, Holds]
    simp only [SchemaConstraint.validate_eq_ok_iff, QueryConstraint.validate_eq_ok_iff]
  have hanswer : answer w words = ⟨result.exit,
      if r.asJson then result.toJson.pretty ++ "\n" else result.text, skippedWarning r s, none⟩ := by
    rw [answer, hwords]
    show Answer.ofExcept (check w r) = _
    rw [check, hset]
    show Answer.ofExcept (if s.isEmpty then _ else _) = _
    rw [hempty, if_neg Bool.false_ne_true, hresult]
    rfl
  refine ⟨_, hanswer, rfl, ?_, ?_, fun hjson => ⟨result.toJson, result.isValid, ?_, valid_toJson result, hvalid⟩⟩
  · rw [← hvalid]
    show (if result.isValid then 0 else 1) = 0 ↔ _
    cases result.isValid <;> decide
  · rw [← hvalid]
    show (if result.isValid then 0 else 1) = 1 ↔ _
    cases result.isValid <;> decide
  · exact if_pos hjson

/-- A schema of two tables, a query over it, and a file of constraints. -/
def shopFiles : List (String × String) :=
  [("schema.sql", "CREATE TABLE a (id INT PRIMARY KEY, name TEXT); CREATE TABLE b (id INT, name TEXT)"),
    ("query.sql", "SELECT a.name FROM a JOIN b ON a.id = b.id"),
    ("more.toml",
      "schema = [\x7btype = 'tables', max = 2\x7d]\nquery = [\x7btype = 'distinct', state = 'absent'\x7d]")]

/-- The world in which there are these files. -/
def shop : World where
  read path := (shopFiles.lookup path).elim (.error "No such file or directory (os error 2)") .ok
  env _ := none
  configFiles := []

/-- A check of the files against a built-in profile and the constraints of the file, as words of a command line. -/
def shopWords : List String :=
  ["check", "--schema", "schema.sql", "--query=query.sql", "--pick", "ambiguous_column:easy", "--constraints",
    "more.toml", "--format", "json"]

/-- What the words ask for. -/
def shopRequest : CheckRequest :=
  { CheckRequest.start with
    schema := "schema.sql", query := some "query.sql", picks := [("ambiguous_column", .easy)]
    constraints := some "more.toml", asJson := true }

/-- The profile asks for at least two tables and the file for at most two, so both are merged; each holds. -/
theorem answer_exit_shop :
    Reading.ofWords shopWords = .request (.check shopRequest) ∧
      ∃ m : Material, m.IsRead shop shopRequest ∧ m.schemaAsked ≠ [] ∧ (answer shop shopWords).exit = 0 ∧
        m.Holds .english := by
  have hwords : Reading.ofWords shopWords = .request (.check shopRequest) := by decide +kernel
  obtain ⟨profile, hprofile, hne⟩ := exists_of_map_toOption (b := false) (show
    ((Registry.builtin.profile "ambiguous_column" .easy).map fun p => p.level.schema.isEmpty).toOption = _ by
      decide +kernel)
  obtain ⟨extra, hextra⟩ := Option.isSome_iff_exists.1 (show ((Toml.parse?
    "schema = [\x7btype = 'tables', max = 2\x7d]\nquery = [\x7btype = 'distinct', state = 'absent'\x7d]").bind
      Level.ofJson?).isSome = true by decide +kernel)
  obtain ⟨v, hparse, hlevel⟩ := Option.bind_eq_some_iff.1 hextra
  obtain ⟨catalog, hcatalog, -⟩ := exists_of_map_toOption (b := ["a", "b"]) (show ((Catalog.ofTexts .postgres
    ["CREATE TABLE a (id INT PRIMARY KEY, name TEXT); CREATE TABLE b (id INT, name TEXT)"]).map
      Catalog.tableNames).toOption = _ by decide +kernel)
  obtain ⟨o, ho, -⟩ := exists_of_map_toOption (b := ["a", "b"]) (show ((Outline.parse .postgres
    "SELECT a.name FROM a JOIN b ON a.id = b.id").map Outline.tables).toOption = _ by decide +kernel)
  have hread : Material.IsRead shop shopRequest ⟨[profile], extra, catalog, .empty, some o⟩ := {
    profiles := ⟨Registry.builtin, rfl, .cons hprofile .nil⟩
    extra := ⟨_, v, rfl, hparse, hlevel⟩
    catalog := ⟨_, rfl, hcatalog⟩
    rows := rfl
    query := ⟨_, o, rfl, ho, rfl⟩ }
  have hasked : (⟨[profile], extra, catalog, .empty, some o⟩ : Material).schemaAsked ≠ [] := by
    intro hnil
    have hprofiles := (List.append_eq_nil_iff.1 hnil).1
    rw [List.flatMap_singleton, ← List.isEmpty_iff, hne] at hprofiles
    cases hprofiles
  have hexit : (answer shop shopWords).exit = 0 := by decide +kernel
  obtain ⟨a, ha, -, hzero, -⟩ := answer_exit hwords hread (.inl hasked)
  exact ⟨hwords, _, hread, hasked, hexit, hzero.1 (ha ▸ hexit)⟩

end Material

end CommandLine

end QueryDrill
