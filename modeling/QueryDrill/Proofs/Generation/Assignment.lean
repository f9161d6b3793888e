import QueryDrill.Proofs.Constraint.Merging
import QueryDrill.Proofs.Fallible
import QueryDrill.Proofs.Generation.Acceptance
import QueryDrill.Proofs.Generation.Budget
/-!
Assignments are all or nothing.

An assignment resolves its picks, generates one dataset for all of them, and then an exercise for each, one
after the other. `Run.Each` says what it is to run a computation on each element of a list until the end,
and `Assignment.Course` lists the places at which the whole can stop. That each pick gets what it asks for
comes from two facts: what is generated meets its request, and a schema that meets merged constraints meets
the constraints of each profile.
-/

namespace QueryDrill

open Sql

/-! ## 1. One after the other -/

namespace Run

variable {α β : Type} {x : α → Run β}

/-- Runs on the elements of a list, each with the script that the one before it left; all give a value. -/
inductive Each (x : α → Run β) : List α → Script → List β → Script → Prop where
  | nil (script : Script) : Each x [] script [] script
  | cons {a : α} {as : List α} {b : β} {bs : List β} {script between script' : Script}
      (hfirst : (x a).against script = (.ok b, between)) (hrest : Each x as between bs script') :
      Each x (a :: as) script (b :: bs) script'

/-- A run on each element that gets to the end gives a value for each. -/
theorem Each.of_mapM {as : List α} {bs : List β} {script script' : Script}
    (h : (as.mapM x).against script = (.ok bs, script')) : Each x as script bs script' := by
  induction as generalizing script bs with
  | nil =>
    obtain ⟨hbs, rfl⟩ := Prod.mk.inj h
    obtain rfl : [] = bs := Except.ok.inj hbs
    exact .nil _
  | cons a as ih =>
    rw [List.mapM_cons] at h
    rcases against_bind_cases h with ⟨f, -, hf⟩ | ⟨b, between, ha, hrest⟩
    · cases hf
    · rcases against_bind_cases hrest with ⟨f, -, hf⟩ | ⟨bs', last, has, hlast⟩
      · cases hf
      · obtain ⟨hbs, rfl⟩ := Prod.mk.inj hlast
        obtain rfl : b :: bs' = bs := Except.ok.inj hbs
        exact .cons ha (ih has)

/-- A run on each element that fails stops with the first element that gives no value. -/
theorem exists_of_mapM_fails {as : List α} {f : Failure} {script script' : Script}
    (h : (as.mapM x).against script = (.error f, script')) :
    ∃ done a rest bs between, as = done ++ a :: rest ∧ Each x done script bs between ∧
      (x a).against between = (.error f, script') := by
  induction as generalizing script with
  | nil => cases h
  | cons a as ih =>
    rw [List.mapM_cons] at h
    rcases against_bind_cases h with ⟨g, ha, hg⟩ | ⟨b, between, ha, hrest⟩
    · obtain rfl : f = g := Except.error.inj hg
      exact ⟨[], a, as, [], script, rfl, .nil _, ha⟩
    · rcases against_bind_cases hrest with ⟨g, has, hg⟩ | ⟨bs, last, -, hlast⟩
      · obtain rfl : f = g := Except.error.inj hg
        obtain ⟨done, c, rest, bs, last, rfl, hdone, hc⟩ := ih has
        exact ⟨a :: done, c, rest, b :: bs, last, rfl, .cons ha hdone, hc⟩
      · cases hlast

/-- What one element may ask for, a list of elements may ask for as often as it is long. -/
theorem Each.asksAtMost {drafts words : Nat} {as : List α} {bs : List β} {script script' : Script}
    (h : Each x as script bs script')
    (hx : ∀ a script script' b, (x a).against script = (.ok b, script') →
      AsksAtMost drafts words script script') :
    AsksAtMost (as.length * drafts) (as.length * words) script script' := by
  induction h with
  | nil script => exact (AsksAtMost.refl script).mono (Nat.zero_le _) (Nat.zero_le _)
  | cons hfirst hrest ih =>
    refine ((hx _ _ _ _ hfirst).trans ih).mono (Nat.le_of_eq ?_) (Nat.le_of_eq ?_)
    · rw [List.length_cons, Nat.succ_mul, Nat.add_comm]
    · rw [List.length_cons, Nat.succ_mul, Nat.add_comm]

end Run

/-! ## 2. Profiles -/

/-- A profile has the name and the difficulty that it was picked with. -/
theorem Registry.of_profile {r : Registry} {id : String} {d : Difficulty} {p : Profile}
    (h : r.profile id d = .ok p) : p.id = id ∧ p.difficulty = d := by
  unfold profile at h
  split at h
  · cases h
  · rename_i m hm
    split at h
    · cases h
    · obtain rfl := Except.ok.inj h
      exact ⟨by simpa [get?] using List.find?_some hm, rfl⟩

/-- The profiles of picks, in their order. -/
def Resolves (r : Registry) (picks : List Pick) (profiles : List Profile) : Prop :=
  List.Forall₂ (fun pick profile => r.profile pick.1 pick.2 = .ok profile) picks profiles

/-- The constraints of profiles can always be put together. -/
theorem ConstraintSet.ofProfiles_ok (ps : List Profile) :
    ∃ constraints, ofProfiles ps = .ok constraints ∧
      SchemaConstraint.merge (ps.flatMap fun p => p.level.schema) = .ok constraints.schema := by
  obtain ⟨ms, hms⟩ := SchemaConstraint.merge_ok (ps.flatMap fun p => p.level.schema)
  refine ⟨⟨ms, ps.flatMap fun p => p.level.query⟩, ?_, hms⟩
  unfold ofProfiles
  rw [hms]
  rfl

/-- A dataset that meets merged constraints meets the constraints of each profile. -/
theorem Dataset.Meets.of_merge {d : Dataset} {dialect : Dialect} {ps : List Profile}
    {ms : List SchemaConstraint} (h : d.Meets dialect ms)
    (hmerge : SchemaConstraint.merge (ps.flatMap fun p => p.level.schema) = .ok ms) {p : Profile}
    (hp : p ∈ ps) : d.Meets dialect p.level.schema := by
  obtain ⟨hne, built, rows, hcatalog, hbuilt, hrows, hdeclared, hall⟩ := h
  refine ⟨hne, built, rows, hcatalog, hbuilt, hrows, hdeclared, fun c hc l => ?_⟩
  have hmerged : ∀ m ∈ ms, m.check built.catalog rows = none :=
    fun m hm => SchemaConstraint.validate_eq_ok_iff.1 (hall m hm l)
  have hmem : c ∈ ps.flatMap fun p => p.level.schema := List.mem_flatMap.2 ⟨p, hp, hc⟩
  exact SchemaConstraint.validate_eq_ok_iff.2 ((SchemaConstraint.holds_merge hmerge).1 hmerged c hmem)

/-! ## 3. The course of an assignment -/

namespace Assignment

/-- The generation of the exercise for a profile. -/
def exerciseFor (s : Settings) (dataset : Dataset) (p : Profile) : Run Exercise :=
  Exercise.generate s dataset (.ofProfile p)

/-- The ways in which the generation of an assignment can go. -/
inductive Course (r : Registry) (s : Settings) (domain : String) (details : List String)
    (picks : List Pick) (script : Script) : Except Failure Assignment → Script → Prop where
  /-- A pick does not resolve, so nothing is asked. -/
  | unresolved {done rest : List Pick} {pick : Pick} {f : Failure} (hpicks : picks = done ++ pick :: rest)
      (hdone : ∀ p ∈ done, (r.profile p.1 p.2).isOk) (hpick : r.profile pick.1 pick.2 = .error f) :
      Course r s domain details picks script (.error f) script
  /-- There is no dataset, so no exercise is asked for. -/
  | noDataset {profiles : List Profile} {merged : List SchemaConstraint} {f : Failure} {script' : Script}
      (hprofiles : Resolves r picks profiles)
      (hmerge : SchemaConstraint.merge (profiles.flatMap fun p => p.level.schema) = .ok merged)
      (hdataset : (Dataset.generate s ⟨domain, details, merged⟩).against script = (.error f, script')) :
      Course r s domain details picks script (.error f) script'
  /-- There is no exercise for one of the profiles, so none is asked for after it. -/
  | noExercise {done rest : List Profile} {p : Profile} {merged : List SchemaConstraint}
      {dataset : Dataset} {exercises : List Exercise} {f : Failure} {between last script' : Script}
      (hprofiles : Resolves r picks (done ++ p :: rest))
      (hmerge : SchemaConstraint.merge ((done ++ p :: rest).flatMap fun p => p.level.schema) = .ok merged)
      (hdataset : (Dataset.generate s ⟨domain, details, merged⟩).against script = (.ok dataset, between))
      (hdone : Run.Each (exerciseFor s dataset) done between exercises last)
      (hexercise : (exerciseFor s dataset p).against last = (.error f, script')) :
      Course r s domain details picks script (.error f) script'
  /-- There is a dataset, and an exercise for each profile. -/
  | complete {profiles : List Profile} {merged : List SchemaConstraint} {dataset : Dataset}
      {exercises : List Exercise} {between script' : Script} (hprofiles : Resolves r picks profiles)
      (hmerge : SchemaConstraint.merge (profiles.flatMap fun p => p.level.schema) = .ok merged)
      (hdataset : (Dataset.generate s ⟨domain, details, merged⟩).against script = (.ok dataset, between))
      (hexercises : Run.Each (exerciseFor s dataset) profiles between exercises script') :
      Course r s domain details picks script (.ok ⟨dataset, exercises⟩) script'

variable {r : Registry} {s : Settings} {domain : String} {details : List String} {picks : List Pick}
  {script script' : Script} {result : Except Failure Assignment}

theorem generate_cases (h : (generate r s domain details picks).against script = (result, script')) :
    Course r s domain details picks script result script' := by
  rcases Run.against_ofExcept_bind_cases h with ⟨f, hmap, rfl, rfl⟩ | ⟨profiles, hmap, hrun⟩
  · obtain ⟨done, pick, rest, hpicks, hdone, hpick⟩ := exists_of_mapM_eq_error hmap
    exact .unresolved hpicks hdone hpick
  · have hprofiles : Resolves r picks profiles := mapM_eq_ok_iff.1 hmap
    obtain ⟨constraints, hconstraints, hmerge⟩ := ConstraintSet.ofProfiles_ok profiles
    unfold generateFor at hrun
    rcases Run.against_ofExcept_bind_cases hrun with ⟨f, hf, -⟩ | ⟨c, hc, hrun⟩
    · rw [hconstraints] at hf
      cases hf
    obtain rfl : constraints = c := Except.ok.inj (hconstraints.symm.trans hc)
    rcases Run.against_bind_cases hrun with ⟨f, hdataset, rfl⟩ | ⟨dataset, between, hdataset, hnext⟩
    · exact .noDataset hprofiles hmerge hdataset
    · rcases Run.against_bind_cases hnext with ⟨f, hexercises, rfl⟩ | ⟨exercises, last, hexercises, hlast⟩
      · obtain ⟨done, p, rest, exercises, last, rfl, hdone, hp⟩ := Run.exists_of_mapM_fails hexercises
        exact .noExercise hprofiles hmerge hdataset hdone hp
      · obtain ⟨rfl, rfl⟩ := Prod.mk.inj hlast
        exact .complete hprofiles hmerge hdataset (.of_mapM hexercises)

namespace Course

/-- A pick that does not resolve ends the generation before anything is asked. -/
theorem of_unresolved (h : Course r s domain details picks script result script') {pick : Pick}
    (hpick : pick ∈ picks) {f : Failure} (hf : r.profile pick.1 pick.2 = .error f) :
    script' = script ∧ ∃ g, result = .error g := by
  have hnone : ∀ profiles, ¬ Resolves r picks profiles := by
    intro profiles hprofiles
    obtain ⟨i, hi, rfl⟩ := List.mem_iff_getElem.1 hpick
    have hok := hprofiles.get hi (hprofiles.length_eq ▸ hi)
    simp only [List.get_eq_getElem] at hok
    rw [hf] at hok
    cases hok
  cases h with
  | unresolved => exact ⟨rfl, _, rfl⟩
  | noDataset hprofiles | noExercise hprofiles | complete hprofiles => exact absurd hprofiles (hnone _)

/-- The dataset takes one round of drafts, and each exercise another one. -/
theorem asksAtMost (h : Course r s domain details picks script result script') :
    AsksAtMost ((picks.length + 1) * s.maxAttempts) picks.length script script' := by
  have heach : ∀ {dataset profiles between exercises last},
      Run.Each (exerciseFor s dataset) profiles between exercises last →
        AsksAtMost (profiles.length * s.maxAttempts) (profiles.length * 1) between last :=
    fun h => h.asksAtMost fun _ _ _ _ h => Exercise.generate_asksAtMost h
  cases h with
  | unresolved => exact (AsksAtMost.refl script).mono (Nat.zero_le _) (Nat.zero_le _)
  | noDataset hprofiles hmerge hdataset =>
    refine (Dataset.generate_asksAtMost hdataset).mono ?_ (Nat.zero_le _)
    exact Nat.le_mul_of_pos_left _ (Nat.succ_pos _)
  | @noExercise done rest p _ _ _ _ _ _ _ hprofiles hmerge hdataset hdone hexercise =>
    have hlength : picks.length = done.length + 1 + rest.length := by
      rw [hprofiles.length_eq, List.length_append, List.length_cons]
      omega
    refine (((Dataset.generate_asksAtMost hdataset).trans (heach hdone)).trans
      (Exercise.generate_asksAtMost hexercise)).mono ?_ (by omega)
    calc
      s.maxAttempts + done.length * s.maxAttempts + s.maxAttempts = (done.length + 1 + 1) * s.maxAttempts := by
        rw [Nat.succ_mul, Nat.succ_mul, Nat.add_comm s.maxAttempts]
      _ ≤ (picks.length + 1) * s.maxAttempts := Nat.mul_le_mul_right _ (by omega)
  | complete hprofiles hmerge hdataset hexercises =>
    have hlength := hprofiles.length_eq
    refine ((Dataset.generate_asksAtMost hdataset).trans (heach hexercises)).mono ?_ (by omega)
    rw [hlength, Nat.succ_mul, Nat.add_comm]

end Course

/-! ## 4. What each pick gets -/

/-- An exercise is the one for a pick: it carries the name, the title and the difficulty of the pick, its
dataset meets what the pick asks of the schema, and it meets what the pick asks of the query. -/
def Answers (r : Registry) (dialect : Dialect) (dataset : Dataset) (pick : Pick) (e : Exercise) : Prop :=
  ∃ profile built, r.profile pick.1 pick.2 = .ok profile ∧
    (e.misconceptionId = pick.1 ∧ e.title = profile.title ∧ e.difficulty = pick.2) ∧
    dataset.Meets dialect profile.level.schema ∧
    dataset.catalog.1 = .ok built ∧ e.Meets built.catalog profile.level.query

/-- An exercise for the profile of a pick is the one for the pick. -/
theorem answers_of_exerciseFor {dialect : Dialect} {dataset : Dataset} {pick : Pick} {p : Profile}
    {e : Exercise} (hprofile : r.profile pick.1 pick.2 = .ok p)
    (hdataset : dataset.Meets dialect p.level.schema)
    (h : (exerciseFor s dataset p).against script = (.ok e, script')) :
    Answers r dialect dataset pick e := by
  obtain ⟨⟨htitle, hdifficulty, hid⟩, built, hcatalog, hmeets⟩ := Exercise.meets_of_generate h
  obtain ⟨hname, hlevel⟩ := Registry.of_profile hprofile
  exact ⟨p, built, hprofile, ⟨hid.trans hname, htitle, hdifficulty.trans hlevel⟩, hdataset, hcatalog,
    hmeets⟩

/-- Exercises for the profiles of picks are the ones for the picks. -/
theorem answers_of_each {dialect : Dialect} {dataset : Dataset} {profiles : List Profile}
    {exercises : List Exercise} (hprofiles : Resolves r picks profiles)
    (hdataset : ∀ p ∈ profiles, dataset.Meets dialect p.level.schema)
    (h : Run.Each (exerciseFor s dataset) profiles script exercises script') :
    List.Forall₂ (Answers r dialect dataset) picks exercises := by
  induction h generalizing picks with
  | nil =>
    cases hprofiles
    exact .nil
  | cons hfirst hrest ih =>
    cases hprofiles with
    | cons hprofile hprofiles =>
      obtain ⟨hp, hps⟩ := List.forall_mem_cons.1 hdataset
      exact .cons (answers_of_exerciseFor hprofile hp hfirst) (ih hprofiles hps)

/-! ## 5. All or nothing -/

/-- **Assignments are all or nothing.** Nothing is asked unless all picks resolve. The first artifact that
fails ends the generation with its failure and with the script that it left. Otherwise there is an exercise
for each pick, in the order of the picks, and the one dataset meets what each pick asks by itself. The
author is asked for one round of drafts more than there are picks, and once for other words for each. -/
theorem generate_all_or_nothing (r : Registry) (s : Settings) (domain : String) (details : List String)
    (picks : List Pick) (script : Script) :
    ∃ result script', (generate r s domain details picks).against script = (result, script') ∧
      Course r s domain details picks script result script' ∧
      (∀ pick ∈ picks, ∀ f, r.profile pick.1 pick.2 = .error f →
        script' = script ∧ ∃ g, result = .error g) ∧
      (∀ a, result = .ok a → List.Forall₂ (Answers r s.dialect a.dataset) picks a.exercises) ∧
      AsksAtMost ((picks.length + 1) * s.maxAttempts) picks.length script script' := by
  rcases hrun : (generate r s domain details picks).against script with ⟨result, script'⟩
  have hcourse := generate_cases hrun
  refine ⟨result, script', rfl, hcourse, fun pick hpick f hf => hcourse.of_unresolved hpick hf, ?_,
    hcourse.asksAtMost⟩
  rintro a rfl
  cases hcourse with
  | complete hprofiles hmerge hdataset hexercises =>
    have hmeets := Dataset.meets_of_generate hdataset
    exact answers_of_each hprofiles (fun p hp => hmeets.of_merge hmerge hp) hexercises

/-- Two misconceptions that ask for different numbers of tables. -/
def lettersRegistry : Registry :=
  Registry.empty.registerAll
    [⟨"any_table", "Any table", "", ⟨some ⟨"", [.of .tables (.atLeast 1)], []⟩, none, none⟩⟩,
      ⟨"no_filter", "No filter", "",
        ⟨some ⟨"", [.of .tables (.atLeast 2)], [.conditions (.atLeast 1)]⟩, none, none⟩⟩]

/-- Picks in another order than that of the registry. -/
def lettersPicks : List Pick := [("no_filter", .easy), ("any_table", .easy)]

/-- Replies for a dataset and two exercises, each with other words for it. -/
def assignmentDrafts : Script :=
  .ofReplies ["\x7b\"schema_tables\": [\"CREATE TABLE a(id INT)\", \"CREATE TABLE b(id INT)\"], "
      ++ "\"insert_commands\": []\x7d",
    "\x7b\"request\": \"Find b\", \"solution\": \"SELECT id FROM b WHERE id = 1\"\x7d", "Which is it?",
    "\x7b\"request\": \"Find a\", \"solution\": \"SELECT id FROM a\"\x7d", ""]

theorem generate_all_or_nothing_letters :
    ∃ a script', (generate lettersRegistry lettersSettings "letters" [] lettersPicks).against
        assignmentDrafts = (.ok a, script') ∧
      List.Forall₂ (Answers lettersRegistry .postgres a.dataset) lettersPicks a.exercises := by
  have hgenerated : ((generate lettersRegistry lettersSettings "letters" [] lettersPicks).against
      assignmentDrafts).1.isOk := by
    decide +kernel
  obtain ⟨a, ha⟩ := Run.exists_eq_ok_of_isOk hgenerated
  obtain ⟨result, script', hrun, -, -, hanswers, -⟩ := generate_all_or_nothing lettersRegistry
    lettersSettings "letters" [] lettersPicks assignmentDrafts
  obtain ⟨rfl, -⟩ := Prod.mk.inj (ha.symm.trans hrun)
  exact ⟨a, _, ha, hanswers a rfl⟩

end Assignment

end QueryDrill
