import QueryDrill.Generation.Assignment
/-!
What a run of a generator comes to.

Each generator is a loop over drafts with something before or after it. `Dataset.generate_cases` and
`Exercise.generate_cases` say once what a run of them can do, with the script that it leaves; other proofs
take the case that they need and open no generator.
-/

namespace QueryDrill

open Sql Text

/-! ## 1. Datasets -/

namespace Dataset

/-- The loop over drafts of a dataset. -/
def drafts (s : Settings) (request : DatasetRequest) : Run (DatasetDraft × Catalog) :=
  QueryDrill.generate "dataset" s (opening s request) (DatasetDraft.checkReply s request)

/-- The dataset of an accepted draft. -/
def ofDraft (s : Settings) (request : DatasetRequest) (d : DatasetDraft) (catalog : Catalog) : Dataset :=
  .withCatalog ⟨request.domain, s.dialect, d.schemaTables, d.insertCommands⟩ catalog

/-- A dataset is made of the accepted draft of its loop; a failure of the loop is the failure of the run. -/
theorem generate_cases {s : Settings} {request : DatasetRequest} {script script' : Script}
    {result : Except Failure Dataset}
    (h : (Dataset.generate s request).against script = (result, script')) :
    (∃ f, (drafts s request).against script = (.error f, script') ∧ result = .error f) ∨
      ∃ d catalog, (drafts s request).against script = (.ok (d, catalog), script') ∧
        result = .ok (ofDraft s request d catalog) := by
  rcases Run.against_bind_cases h with hfail | ⟨⟨d, catalog⟩, u, hrun, hnext⟩
  · exact .inl hfail
  · obtain ⟨rfl, rfl⟩ := Prod.mk.inj hnext
    exact .inr ⟨d, catalog, hrun, rfl⟩

end Dataset

/-! ## 2. Refinement -/

/-- One conversation asks for other words; the failure of the author is the failure of the run. -/
theorem refineRequest_cases {request solution : String} {aliases : List String} {l : Language}
    {script script' : Script} {result : Except Failure String}
    (h : (refineRequest request solution aliases l).against script = (result, script')) :
    script'.calls = script.calls ++ [refinementOpening request solution aliases l] ∧
      (result = .error (.oracle script.silence) ∨ ∃ reply, result = .ok (refinedBy request reply)) := by
  obtain ⟨_ | ⟨reply, rest⟩, calls, silence⟩ := script
  · obtain ⟨rfl, rfl⟩ := Prod.mk.inj h
    exact ⟨rfl, .inl rfl⟩
  · obtain ⟨rfl, rfl⟩ := Prod.mk.inj h
    exact ⟨rfl, .inr ⟨reply, rfl⟩⟩

/-! ## 3. Exercises -/

namespace Exercise

/-- The loop over drafts of an exercise. -/
def drafts (s : Settings) (dataset : DatasetRecord) (catalog : Catalog) (request : ExerciseRequest) :
    Run (String × Outline) :=
  QueryDrill.generate "exercise" s (opening s.language dataset request)
    (ExerciseDraft.checkReply s.language request catalog dataset.dialect)

/-- The exercise of an accepted draft. -/
def ofDraft (request : ExerciseRequest) (text : String) (solution : Outline) : Exercise :=
  ⟨request.title, request.difficulty, request.misconceptionId, text, solution⟩

/-- The ways in which the generation of an exercise can go. -/
inductive Course (s : Settings) (dataset : Dataset) (request : ExerciseRequest) (script : Script) :
    Except Failure Exercise → Script → Prop where
  /-- The dataset has no catalog, so nothing is asked. -/
  | noCatalog {f : Failure} (hcatalog : dataset.catalog.1 = .error f) :
      Course s dataset request script (.error f) script
  /-- No draft is accepted. -/
  | noDraft {built : BuiltCatalog} {f : Failure} {script' : Script}
      (hcatalog : dataset.catalog.1 = .ok built)
      (hdrafts : (drafts s dataset.record built.catalog request).against script = (.error f, script')) :
      Course s dataset request script (.error f) script'
  /-- The exercise is made of the accepted draft as it is. -/
  | plain {built : BuiltCatalog} {text : String} {solution : Outline} {script' : Script}
      (hcatalog : dataset.catalog.1 = .ok built)
      (hdrafts : (drafts s dataset.record built.catalog request).against script =
        (.ok (text, solution), script'))
      (hrefine : s.refineRequests = false) :
      Course s dataset request script (.ok (ofDraft request text solution)) script'
  /-- The request of the accepted draft is put into other words, if the author gives them. -/
  | refined {built : BuiltCatalog} {text : String} {solution : Outline} {between script' : Script}
      {words : Except Failure String} (hcatalog : dataset.catalog.1 = .ok built)
      (hdrafts : (drafts s dataset.record built.catalog request).against script =
        (.ok (text, solution), between))
      (hrefine : s.refineRequests = true)
      (hwords : (refineRequest text solution.text (ofDraft request text solution).solutionAliases
        s.language).against between = (words, script')) :
      Course s dataset request script (words.map fun w => ofDraft request w solution) script'

theorem generate_cases {s : Settings} {dataset : Dataset} {request : ExerciseRequest}
    {script script' : Script} {result : Except Failure Exercise}
    (h : (Exercise.generate s dataset request).against script = (result, script')) :
    Course s dataset request script result script' := by
  rcases Run.against_ofExcept_bind_cases h with ⟨f, hcatalog, rfl, rfl⟩ | ⟨built, hcatalog, hnext⟩
  · exact .noCatalog hcatalog
  · rcases Run.against_bind_cases hnext with ⟨f, hdrafts, rfl⟩ | ⟨⟨text, solution⟩, v, hdrafts, hlast⟩
    · exact .noDraft hcatalog hdrafts
    · dsimp only at hlast
      split at hlast
      · rename_i hrefine
        rcases Run.against_bind_cases hlast with ⟨f, hwords, rfl⟩ | ⟨words, w, hwords, hlast⟩
        · exact .refined hcatalog hdrafts hrefine hwords
        · obtain ⟨rfl, rfl⟩ := Prod.mk.inj hlast
          exact .refined hcatalog hdrafts hrefine hwords
      · rename_i hrefine
        obtain ⟨rfl, rfl⟩ := Prod.mk.inj hlast
        exact .plain hcatalog hdrafts (by simpa using hrefine)

end Exercise

end QueryDrill
