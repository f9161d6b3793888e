import QueryDrill.Proofs.Generation.Repair
import QueryDrill.Proofs.Text.Trimming
/-!
Acceptance is sound: what a generator gives meets all that was asked of it.

`Dataset.Meets` and `Exercise.Meets` say what that is, on the artifact itself and without its drafts: the
texts are read again, and each constraint is validated again. The checks of drafts are turned into these
statements once (`DatasetDraft.of_checkReply`, `ExerciseDraft.of_checkReply`); the loop adds that its value
is an accepted draft, and refinement that it does not touch the solution.
-/

namespace QueryDrill

open Sql Text

variable {α β : Type}

/-! ## 1. Accepting outcomes -/

namespace Outcome

theorem ofReport_eq_accepted {report : Report} {a b : α} (h : ofReport report a = accepted b) :
    report.isValid = true ∧ a = b := by
  unfold ofReport at h
  split at h
  · rename_i hvalid
    exact ⟨hvalid, accepted.inj h⟩
  · cases h

theorem ofRead_eq_accepted {read : Except Failure α} {next : α → Outcome β} {b : β}
    (h : ofRead read next = accepted b) : ∃ a, read = .ok a ∧ next a = accepted b := by
  cases read with
  | ok a => exact ⟨a, rfl, h⟩
  | error f => cases h

end Outcome

/-! ## 2. Datasets -/

/-- A dataset has table definitions, its catalog is the one that they declare, all its insertions go to
tables of the catalog, and the catalog with the rows inserted satisfies each of some constraints. -/
def Dataset.Meets (d : Dataset) (dialect : Dialect) (constraints : List SchemaConstraint) : Prop :=
  d.record.createCommands ≠ [] ∧
    ∃ built rows, d.catalog.1 = .ok built ∧
      Catalog.ofTexts dialect d.record.createCommands = .ok built.catalog ∧
      RowCounts.ofTexts dialect d.record.insertCommands = .ok rows ∧
      (∀ name ∈ rows.keys, (built.catalog.table? name).isSome) ∧
      ∀ c ∈ constraints, ∀ l, c.validate built.catalog rows l = .ok ()

/-- What an accepted draft of a dataset is like. -/
theorem DatasetDraft.of_checkReply {s : Settings} {request : DatasetRequest} {reply : String}
    {d : DatasetDraft} {catalog : Catalog} (h : checkReply s request reply = .accepted (d, catalog)) :
    d.schemaTables ≠ [] ∧ Catalog.ofTexts s.dialect d.schemaTables = .ok catalog ∧
      ∃ rows, RowCounts.ofTexts s.dialect d.insertCommands = .ok rows ∧
        (∀ name ∈ rows.keys, (catalog.table? name).isSome) ∧
        ∀ c ∈ request.constraints, c.check catalog rows = none := by
  unfold checkReply at h
  split at h
  · unfold check at h
    split at h
    · cases h
    · rename_i hne
      obtain ⟨catalog', hcatalog, h⟩ := Outcome.ofRead_eq_accepted h
      obtain ⟨rows, hrows, h⟩ := Outcome.ofRead_eq_accepted h
      split at h
      · cases h
      · rename_i hdeclared
        obtain ⟨hvalid, heq⟩ := Outcome.ofReport_eq_accepted h
        obtain ⟨rfl, rfl⟩ := Prod.mk.inj heq
        refine ⟨fun hnil => hne (by rw [hnil]; rfl), hcatalog, rows, hrows, ?_, ?_⟩
        · simpa [undeclared, Option.isSome_iff_ne_none] using hdeclared
        · intro c hc
          rw [Report.isValid_ofOutcomes_iff, List.forall_mem_map] at hvalid
          exact SchemaConstraint.validate_eq_ok_iff.1 (hvalid c hc)
  · cases h

/-- A dataset gives the catalog that it was made with as long as its statements stay the same. -/
theorem Dataset.catalog_withCatalog (r : DatasetRecord) (c : Catalog) :
    (withCatalog r c).catalog.1 = .ok ⟨.ofParts r.createCommands, 0, c⟩ := by
  simp [catalog, withCatalog]

/-- A generated dataset meets its request. -/
theorem Dataset.meets_of_generate {s : Settings} {request : DatasetRequest} {script script' : Script}
    {d : Dataset} (h : (Dataset.generate s request).against script = (.ok d, script')) :
    d.Meets s.dialect request.constraints := by
  rcases generate_cases h with ⟨f, -, hf⟩ | ⟨draft, catalog, hdrafts, hd⟩
  · cases hf
  · obtain rfl := Except.ok.inj hd
    obtain ⟨reply, -, hreply⟩ := exists_accepted hdrafts
    obtain ⟨hne, hcatalog, rows, hrows, hdeclared, hall⟩ := DatasetDraft.of_checkReply hreply
    exact ⟨hne, _, rows, catalog_withCatalog _ _, hcatalog, hrows, hdeclared,
      fun c hc l => SchemaConstraint.validate_eq_ok_iff.2 (hall c hc)⟩

/-! ## 3. Exercises -/

/-- The solution of an exercise satisfies each of some constraints over a catalog and reads only tables of
the catalog, and its request is not blank. -/
def Exercise.Meets (e : Exercise) (catalog : Catalog) (constraints : List QueryConstraint) : Prop :=
  (∀ c ∈ constraints, ∀ l, c.validate e.solution catalog l = .ok ()) ∧
    (∀ name ∈ e.solution.tables, (catalog.table? name).isSome) ∧ isBlankText e.request = false

/-- What an accepted draft of an exercise is like. -/
theorem ExerciseDraft.of_checkReply {l : Language} {request : ExerciseRequest} {catalog : Catalog}
    {dialect : Dialect} {reply text : String} {solution : Outline}
    (h : checkReply l request catalog dialect reply = .accepted (text, solution)) :
    (∀ c ∈ request.constraints, c.check solution catalog = none) ∧
      (∀ name ∈ solution.tables, (catalog.table? name).isSome) ∧ isBlankText text = false := by
  unfold checkReply at h
  split at h
  · unfold check at h
    split at h
    · cases h
    · rename_i hblank
      obtain ⟨solution', -, h⟩ := Outcome.ofRead_eq_accepted h
      split at h
      · cases h
      · rename_i hknown
        obtain ⟨hvalid, heq⟩ := Outcome.ofReport_eq_accepted h
        obtain ⟨rfl, rfl⟩ := Prod.mk.inj heq
        refine ⟨?_, ?_, ?_⟩
        · intro c hc
          rw [Report.isValid_ofOutcomes_iff, List.forall_mem_map] at hvalid
          exact QueryConstraint.validate_eq_ok_iff.1 (hvalid c hc)
        · simpa [unknownTables, Option.isSome_iff_ne_none] using hknown
        · simpa using hblank
  · cases h

/-- The exercise of an accepted draft meets its request, with any words that are not blank. -/
theorem Exercise.meets_ofDraft {request : ExerciseRequest} {catalog : Catalog} {text : String}
    {solution : Outline} (hall : ∀ c ∈ request.constraints, c.check solution catalog = none)
    (hknown : ∀ name ∈ solution.tables, (catalog.table? name).isSome)
    (hblank : isBlankText text = false) :
    (ofDraft request text solution).Meets catalog request.constraints :=
  ⟨fun c hc _ => QueryConstraint.validate_eq_ok_iff.2 (hall c hc), hknown, hblank⟩

/-- Other words are not blank when the words that they replace are not. -/
theorem isBlankText_refinedBy {request : String} (reply : String) (h : isBlankText request = false) :
    isBlankText (refinedBy request reply) = false := by
  unfold refinedBy
  dsimp only
  split
  · exact h
  · rename_i hne
    exact isBlankText_stripFence (by simpa using hne)

/-- A generated exercise is the one that was asked for, and it meets its request over the catalog of its
dataset. -/
theorem Exercise.meets_of_generate {s : Settings} {dataset : Dataset} {request : ExerciseRequest}
    {script script' : Script} {e : Exercise}
    (h : (Exercise.generate s dataset request).against script = (.ok e, script')) :
    (e.title = request.title ∧ e.difficulty = request.difficulty ∧
      e.misconceptionId = request.misconceptionId) ∧
    ∃ built, dataset.catalog.1 = .ok built ∧ e.Meets built.catalog request.constraints := by
  generalize hresult : Except.ok e = result at h
  cases generate_cases h with
  | noCatalog | noDraft => cases hresult
  | plain hcatalog hdrafts hrefine =>
    obtain rfl := Except.ok.inj hresult
    obtain ⟨reply, -, hreply⟩ := exists_accepted hdrafts
    obtain ⟨hall, hknown, hblank⟩ := ExerciseDraft.of_checkReply hreply
    exact ⟨⟨rfl, rfl, rfl⟩, _, hcatalog, meets_ofDraft hall hknown hblank⟩
  | refined hcatalog hdrafts hrefine hwords =>
    obtain ⟨reply, -, hreply⟩ := exists_accepted hdrafts
    obtain ⟨hall, hknown, hblank⟩ := ExerciseDraft.of_checkReply hreply
    obtain ⟨-, rfl | ⟨words, rfl⟩⟩ := refineRequest_cases hwords
    · cases hresult
    · simp only [Except.map, Except.ok.injEq] at hresult
      subst hresult
      exact ⟨⟨rfl, rfl, rfl⟩, _, hcatalog, meets_ofDraft hall hknown (isBlankText_refinedBy words hblank)⟩

/-! ## 4. Soundness -/

/-- **Acceptance is sound.** Whatever the author replies, a dataset that is generated meets its request, and
an exercise that is generated meets its request over the catalog of its dataset. -/
theorem generated_meets (s : Settings) (script : Script) :
    (∀ request d script', (Dataset.generate s request).against script = (.ok d, script') →
      d.Meets s.dialect request.constraints) ∧
    ∀ dataset request e script',
      (Exercise.generate s dataset request).against script = (.ok e, script') →
        ∃ built, dataset.catalog.1 = .ok built ∧ e.Meets built.catalog request.constraints :=
  ⟨fun _ _ _ h => Dataset.meets_of_generate h, fun _ _ _ _ h => (Exercise.meets_of_generate h).2⟩

/-- Settings with a second attempt for each draft, and with refinement. -/
def lettersSettings : Settings := ⟨2, .postgres, .english, true⟩

/-- Replies for a dataset: one that lacks its fields, and one in a fence. -/
def lettersDrafts : Script :=
  .ofReplies ["\x7b\x7d",
    "```\n\x7b\"schema_tables\": [\"CREATE TABLE a(id INT)\"], "
      ++ "\"insert_commands\": [\"INSERT INTO a VALUES (1)\"]\x7d\n```"]

/-- Replies for an exercise: one that lacks its fields, a good one, and other words for it. -/
def letterDrafts : Script :=
  .ofReplies ["\x7b\x7d",
    "\x7b\"request\": \"Find a\", \"solution\": \"SELECT id FROM a WHERE id = 1\"\x7d", " Which is it? "]

/-- A dataset of at least one table, with rows in it. -/
def lettersRequest : DatasetRequest :=
  ⟨"letters", [], [.of .tables (.atLeast 1), .of .rowsPerTable (.atLeast 1)]⟩

/-- The dataset over which the exercise is asked for. -/
def letters : Dataset := .ofRecord ⟨"letters", .postgres, ["CREATE TABLE a(id INT)"], []⟩

/-- An exercise with a condition. -/
def letterRequest : ExerciseRequest :=
  ⟨"Filter a", "and_instead_of_or", "AND instead of OR", .easy, [], [.conditions (.atLeast 1)]⟩

theorem generated_meets_letters :
    (∃ d script',
      (Dataset.generate lettersSettings lettersRequest).against lettersDrafts = (.ok d, script') ∧
        d.Meets .postgres lettersRequest.constraints) ∧
    ∃ e script',
      (Exercise.generate lettersSettings letters letterRequest).against letterDrafts =
          (.ok e, script') ∧
        ∃ built, letters.catalog.1 = .ok built ∧ e.Meets built.catalog letterRequest.constraints := by
  have hdataset : ((Dataset.generate lettersSettings lettersRequest).against lettersDrafts).1.isOk := by
    decide +kernel
  have hexercise :
      ((Exercise.generate lettersSettings letters letterRequest).against letterDrafts).1.isOk := by
    decide +kernel
  obtain ⟨d, hd⟩ := Run.exists_eq_ok_of_isOk hdataset
  obtain ⟨e, he⟩ := Run.exists_eq_ok_of_isOk hexercise
  exact ⟨⟨d, _, hd, (generated_meets _ _).1 _ _ _ hd⟩, e, _, he, (generated_meets _ _).2 _ _ _ _ he⟩

end QueryDrill
