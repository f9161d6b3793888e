import QueryDrill.Proofs.Constraint.Requirements
import QueryDrill.Proofs.Generation.Acceptance
/-!
Feedback echoes the requirements that were stated.

The requirements of a request are put into words twice: as a section of the prompt, which trims its items and leaves out
blank ones, and in the feedback on a draft, which words what the draft violates. Both come out as bullets of the same
texts (`bulleted`): the text of a requirement has nothing to trim (`Prompt.titled_eq`), and a report has just the
requirements that fail, in their order (`Brief.violations_report`).

* `Brief` is what the two generators have in common: constraints, in words and as a check of replies. What is observed of
  a reply (`Brief.observed?`) is told apart from the check, and `Brief.Judges` ties the one to the other.
* `Echoes` says what the conversations of a run are like: the first one states each requirement in a bullet of its own,
  and if another one follows a draft that reads and fails, it ends in a message whose bullets are the requirements that
  fail on the draft, each with what was found.
* `feedback_echoes_requirements`: every run of either generator echoes its requirements.

The conversation that asks for other words after an exercise is accepted makes no difference, since the draft before it
does not fail (`Echoes.concat`).
-/

namespace QueryDrill

open Sql Text

/-! ## 1. Bullets -/

/-- Items, each on a new line after a dash. -/
def bulleted (items : List String) : String := String.join (items.map ("\n- " ++ ·))

/-- A section with a title and a bullet for each item; nothing if there are none. -/
def bulletedSection (title : String) (items : List String) : String :=
  if items.isEmpty then "" else "\n\n" ++ title ++ ":" ++ bulleted items

/-- A line that is not a bullet. -/
def IsPlainLine (line : String) : Prop := '\n' ∉ line.toList ∧ line.toList.head? ≠ some '-'

/-- The bullets of a message: a line, these bullets, and a line. -/
def HasBullets (message : String) (items : List String) : Prop :=
  ∃ front back, message = front ++ bulleted items ++ "\n" ++ back ∧ IsPlainLine front ∧ IsPlainLine back

theorem bulleted_cons (item : String) (items : List String) :
    bulleted (item :: items) = "\n- " ++ item ++ bulleted items := by
  rw [bulleted, List.map_cons, String.join_cons]
  rfl

/-- Bullets on lines of their own are bullets that are joined by line ends. -/
theorem bulleted_eq_intercalate {items : List String} (h : items ≠ []) :
    bulleted items = "\n" ++ "\n".intercalate (items.map ("- " ++ ·)) := by
  have hmark (item : String) : "\n- " ++ item = "\n" ++ ("- " ++ item) := by rw [← String.append_assoc]; rfl
  induction items with
  | nil => exact absurd rfl h
  | cons item items ih =>
    cases items with
    | nil =>
      rw [bulleted_cons, hmark, List.map_cons, List.map_nil, String.intercalate_singleton]
      exact String.append_empty
    | cons next items =>
      have hnext := ih (List.cons_ne_nil _ _)
      rw [bulleted_cons, hnext, hmark]
      simp only [List.map_cons, String.intercalate_cons_cons, String.append_assoc]

/-- A section of a prompt lists items as they are, if they have nothing to trim. -/
theorem Prompt.titled_eq (title : String) {items : List String} (h : ∀ i ∈ items, IsTight i) :
    titled title items = bulletedSection title items := by
  have hfilter : (items.filter fun i => !isBlankText i) = items :=
    List.filter_eq_self.2 fun i hi => by rw [(h i hi).isBlankText_eq, Bool.not_false]
  have hbullets : items.map bullet = items.map ("- " ++ ·) :=
    List.map_congr_left fun i hi => congrArg ("- " ++ ·) (h i hi).trim_eq
  have hcolon : ":\n" = ":" ++ "\n" := String.toList_inj.1 (String.toList_append ▸ rfl)
  unfold titled bulletedSection
  dsimp only
  rw [hfilter, hbullets]
  split
  · rfl
  · rename_i hne
    rw [bulleted_eq_intercalate (by simpa using hne), hcolon]
    simp only [String.append_assoc]

/-- A section without items is not there. -/
theorem Prompt.titled_nil (title : String) : titled title [] = "" := titled_eq title (List.forall_mem_nil _)

/-- A prompt for a dataset is the one without requirements and a section with all of them. -/
theorem Prompt.dataset_eq (domain : String) (extraDetails : List String) {requirements : List String} (d : Dialect)
    (h : ∀ r ∈ requirements, IsTight r) :
    Prompt.dataset domain extraDetails requirements d =
      Prompt.dataset domain extraDetails [] d ++ bulletedSection "Requirements" requirements := by
  unfold Prompt.dataset
  rw [titled_eq _ h, titled_nil, String.append_empty]

/-- So is a prompt for an exercise. -/
theorem Prompt.exercise_eq (domain : String) (createCommands : List String) (title misconception : String)
    (difficulty : Difficulty) (extraDetails : List String) {requirements : List String} (l : Language)
    (h : ∀ r ∈ requirements, IsTight r) :
    Prompt.exercise domain createCommands title misconception difficulty extraDetails requirements l =
      Prompt.exercise domain createCommands title misconception difficulty extraDetails [] l
        ++ bulletedSection "Requirements for the solution" requirements := by
  unfold Prompt.exercise
  rw [titled_eq _ h, titled_nil, String.append_empty]

/-! ## 2. Feedback -/

/-- A requirement that fails, with what was found instead. -/
def found (l : Language) (requirement observed : String) : String :=
  requirement ++ " (" ++ l.pick "found" "trovato" ++ ": " ++ observed ++ ")"

theorem isPlainLine_ofList {cs : List Char} (h : ('\n' ∉ cs) ∧ cs.head? ≠ some '-') :
    IsPlainLine (String.ofList cs) := by
  rwa [IsPlainLine, String.toList_ofList]

theorem isPlainLine_pick {l : Language} {s t : String} (hs : IsPlainLine s) (ht : IsPlainLine t) :
    IsPlainLine (l.pick s t) := by
  cases l with
  | english => exact hs
  | italian => exact ht

/-- The bullets of the feedback on a report are its violations. -/
theorem Report.hasBullets_feedback (l : Language) (r : Report) :
    HasBullets (r.feedback l) (r.violations.map fun v => found l v.description v.observed) := by
  have hbullet : bullet l = fun v => "\n- " ++ found l v.description v.observed := by
    funext v
    simp only [bullet, found, String.append_assoc]
  refine ⟨l.pick "The previous answer does not satisfy these requirements:"
      "La risposta precedente non rispetta questi requisiti:",
    l.pick "Fix the answer so that all requirements hold."
      "Correggi la risposta in modo che tutti i requisiti siano rispettati.", ?_, ?_, ?_⟩
  · unfold feedback bulleted
    rw [hbullet, List.map_map]
    rfl
  · exact isPlainLine_pick (isPlainLine_ofList (by decide)) (isPlainLine_ofList (by decide))
  · exact isPlainLine_pick (isPlainLine_ofList (by decide)) (isPlainLine_ofList (by decide))

/-! ## 3. Briefs -/

/-- What the author of drafts is asked for: constraints, in words and as a check of replies. -/
structure Brief (γ α : Type) where
  language : Language
  constraints : List γ
  /-- The name of a constraint. -/
  name : γ → String
  /-- A constraint in words. -/
  describe : γ → String
  /-- What is observed of a reply for each constraint, if the reply reads. -/
  observed? : String → Option (γ → Observation)
  check : String → Outcome α
  /-- The prompt without the constraints. -/
  prompt : String
  /-- The title of the section with the constraints. -/
  title : String

namespace Brief

variable {γ α : Type}

/-- The prompt with a section of all constraints. -/
def fullPrompt (b : Brief γ α) : String := b.prompt ++ bulletedSection b.title (b.constraints.map b.describe)

/-- The constraints that fail where something is observed, in their order, each with what it is. -/
def failing (b : Brief γ α) (observe : γ → Observation) : List String :=
  b.constraints.filterMap fun c => (observe c).map (found b.language (b.describe c))

/-- The report on what is observed. -/
def report (b : Brief γ α) (observe : γ → Observation) : Report :=
  .ofOutcomes <| b.constraints.map fun c =>
    match observe c with
    | none => .ok ()
    | some observed => .error ⟨b.name c, b.describe c, observed⟩

/-- What is observed of a reply: that of the draft in it. -/
def observedOfReply? {δ : Type} (reader : JsonReader δ) (observed? : δ → Option (γ → Observation)) (reply : String) :
    Option (γ → Observation) :=
  (readReply reader reply).toOption.bind observed?

section Replies

variable {δ : Type} {reader : JsonReader δ} {observed? : δ → Option (γ → Observation)} {reply : String}

theorem observedOfReply?_of_ok {d : δ} (h : readReply reader reply = .ok d) :
    observedOfReply? reader observed? reply = observed? d := by
  rw [observedOfReply?, h]
  rfl

theorem observedOfReply?_of_error {message : String} (h : readReply reader reply = .error message) :
    observedOfReply? reader observed? reply = none := by
  rw [observedOfReply?, h]
  rfl

end Replies

/-- An outcome goes by what is observed: a draft that does not read is answered as such, and one that reads is judged by
the report on it. -/
inductive Judges (b : Brief γ α) : Option (γ → Observation) → Outcome α → Prop where
  | unread (message : String) : Judges b none (.unreadable message)
  | read (observe : γ → Observation) (value : α) : Judges b (some observe) (.ofReport (b.report observe) value)

variable {b : Brief γ α} {observe : γ → Observation}

theorem isValid_report_iff : (b.report observe).isValid = true ↔ ∀ c ∈ b.constraints, observe c = none := by
  rw [report, Report.isValid_ofOutcomes_iff, List.forall_mem_map]
  refine forall₂_congr fun c _ => ?_
  cases observe c <;> simp

theorem failing_eq_nil_iff : b.failing observe = [] ↔ ∀ c ∈ b.constraints, observe c = none := by
  simp only [failing, List.filterMap_eq_nil_iff, Option.map_eq_none_iff]

/-- A report has the constraints that fail, in their order. -/
theorem violations_report (b : Brief γ α) (observe : γ → Observation) :
    (b.report observe).violations.map (fun v => found b.language v.description v.observed) = b.failing observe := by
  unfold report failing Report.ofOutcomes
  dsimp only
  rw [List.filterMap_map, List.map_filterMap]
  refine List.filterMap_congr fun c _ => ?_
  rw [Function.comp_apply]
  cases observe c <;> rfl

namespace Judges

/-- A text that is read on the way to a draft is judged with the draft. -/
theorem ofRead {δ : Type} {read : Except Failure δ} {observed? : δ → Option (γ → Observation)}
    {next : δ → Outcome α} (h : ∀ d, b.Judges (observed? d) (next d)) :
    b.Judges (read.toOption.bind observed?) (.ofRead read next) := by
  cases read with
  | ok d => exact h d
  | error f => exact unread f.message

variable {observed : Option (γ → Observation)} {outcome : Outcome α}

/-- A draft is invalid if it reads and some constraint fails. -/
theorem invalid_iff (h : b.Judges observed outcome) :
    (∃ report, outcome = .invalid report) ↔
      ∃ observe, observed = some observe ∧ ∃ c ∈ b.constraints, observe c ≠ none := by
  cases h with
  | unread message => simp
  | read observe value =>
    unfold Outcome.ofReport
    by_cases hvalid : (b.report observe).isValid = true
    · have hall := isValid_report_iff.1 hvalid
      simpa [hvalid] using hall
    · have hsome := mt isValid_report_iff.2 hvalid
      simpa [hvalid] using hsome

/-- The bullets of the feedback on a draft that fails are the constraints that do. -/
theorem exists_feedback (h : b.Judges (some observe) outcome) (hfails : ∃ c ∈ b.constraints, observe c ≠ none) :
    ∃ feedback, outcome.feedback? b.language = some feedback ∧ HasBullets feedback (b.failing observe) := by
  cases h with
  | read observe value =>
    have hvalid : (b.report observe).isValid ≠ true := by
      obtain ⟨c, hc, hfail⟩ := hfails
      exact fun hvalid => hfail (isValid_report_iff.1 hvalid c hc)
    refine ⟨(b.report observe).feedback b.language, ?_, ?_⟩
    · rw [Outcome.ofReport, if_neg hvalid, Outcome.feedback?]
    · rw [← violations_report]
      exact Report.hasBullets_feedback _ _

end Judges

end Brief

/-! ## 4. Conversations -/

/-- The conversations of a run, given the replies of its script, echo the constraints of a brief: the first one has a
bullet for each, and one that goes on after a draft that fails has a bullet for each that fails on it. -/
structure Echoes {γ α : Type} (b : Brief γ α) (replies : List String) (asked : List (List Message)) : Prop where
  /-- The first conversation ends in the prompt, with a section of all constraints. -/
  stated : ∀ first, asked[0]? = some first → ∃ system, first = [⟨.system, system⟩, ⟨.user, b.fullPrompt⟩]
  /-- The drafts that are refused as invalid are those that read and fail. -/
  invalid_iff : ∀ reply, (∃ report, b.check reply = .invalid report) ↔
    ∃ observe, b.observed? reply = some observe ∧ ∃ c ∈ b.constraints, observe c ≠ none
  /-- A conversation after a draft that fails adds the draft and feedback with the constraints that fail. -/
  echoed : ∀ k reply observe next, replies[k]? = some reply → b.observed? reply = some observe →
    (∃ c ∈ b.constraints, observe c ≠ none) → asked[k + 1]? = some next →
      ∃ previous feedback, asked[k]? = some previous ∧
        next = previous ++ [⟨.assistant, reply⟩, ⟨.user, feedback⟩] ∧ HasBullets feedback (b.failing observe)

section Loop

variable {γ α : Type} {b : Brief γ α} {replies : List String} {asked : List (List Message)}

/-- The conversations of a loop echo the constraints that its opening states. -/
theorem Brief.echoes (h : ∀ reply, b.Judges (b.observed? reply) (b.check reply))
    {opening : List Message} {system : String} (hopening : opening = [⟨.system, system⟩, ⟨.user, b.fullPrompt⟩])
    (htranscript : Transcript b.language b.check opening replies asked) : Echoes b replies asked where
  stated first hfirst := ⟨system, (htranscript.first first hfirst).trans hopening⟩
  invalid_iff reply := (h reply).invalid_iff
  echoed k reply observe next hreply hread hfails hnext := by
    obtain ⟨previous, reply', feedback', hprevious, hreply', hfeedback', rfl⟩ := htranscript.next k next hnext
    obtain rfl := Option.some.inj (hreply.symm.trans hreply')
    obtain ⟨feedback, hfeedback, hbullets⟩ := Judges.exists_feedback (hread ▸ h reply) hfails
    obtain rfl := Option.some.inj (hfeedback.symm.trans hfeedback')
    exact ⟨previous, feedback, hprevious, rfl, hbullets⟩

/-- A conversation after an accepted draft does not matter, since that draft does not fail. -/
theorem Echoes.concat (h : Echoes b replies asked) {k : Nat} {reply : String} {value : α}
    (hlength : asked.length = k + 1) (hreply : replies[k]? = some reply) (haccepted : b.check reply = .accepted value)
    (last : List Message) : Echoes b replies (asked ++ [last]) where
  stated first hfirst := h.stated first (by rwa [List.getElem?_append_left (by omega)] at hfirst)
  invalid_iff := h.invalid_iff
  echoed j reply' observe next hreply' hread hfails hnext := by
    obtain ⟨hlt, -⟩ := List.getElem?_eq_some_iff.1 hnext
    rw [List.length_append, List.length_singleton, hlength] at hlt
    rcases Nat.lt_or_ge j k with hj | hj
    · rw [List.getElem?_append_left (by omega)] at hnext
      obtain ⟨previous, feedback, hprevious, hrest⟩ := h.echoed j reply' observe next hreply' hread hfails hnext
      exact ⟨previous, feedback, by rwa [List.getElem?_append_left (by omega)], hrest⟩
    · obtain rfl : j = k := by omega
      obtain rfl := Option.some.inj (hreply.symm.trans hreply')
      obtain ⟨report, hinvalid⟩ := (h.invalid_iff reply).2 ⟨observe, hread, hfails⟩
      rw [haccepted] at hinvalid
      cases hinvalid

/-- The feedback on a draft, given what fails on it. -/
theorem Echoes.of_failing (h : Echoes b replies asked) {k : Nat} {reply : String} {failing : List String}
    {next : List Message} (hreply : replies[k]? = some reply)
    (hfailing : (b.observed? reply).map b.failing = some failing) (hne : failing ≠ [])
    (hnext : asked[k + 1]? = some next) :
    ∃ previous feedback, asked[k]? = some previous ∧
      next = previous ++ [⟨.assistant, reply⟩, ⟨.user, feedback⟩] ∧ HasBullets feedback failing := by
  obtain ⟨observe, hread, rfl⟩ := Option.map_eq_some_iff.1 hfailing
  have hfails : ∃ c ∈ b.constraints, observe c ≠ none := by
    simpa using mt Brief.failing_eq_nil_iff.2 hne
  exact h.echoed k reply observe next hreply hread hfails hnext

/-- A loop with success ends with the reply to its last conversation. -/
theorem Ending.exists_reply {artifact : String} {s : Settings} {check : String → Outcome α} {silence : String}
    {n : Nat} {value : α} (h : Ending artifact s check silence replies n (.ok value)) :
    ∃ k reply, n = k + 1 ∧ replies[k]? = some reply ∧ check reply = .accepted value := by
  cases h with
  | @accepted refused rest reply value hrefused hleft hreply =>
    exact ⟨refused.length, reply, rfl, by simp, hreply⟩

/-- A loop adds conversations that echo the constraints; with success, so do they before any other conversation. -/
theorem Brief.exists_echoes (h : ∀ reply, b.Judges (b.observed? reply) (b.check reply)) {artifact : String}
    {s : Settings} {check : String → Outcome α} (hlanguage : b.language = s.language) (hcheck : b.check = check)
    {opening : List Message} {system : String}
    (hopening : opening = [⟨.system, system⟩, ⟨.user, b.fullPrompt⟩])
    {script script' : Script} {result : Except Failure α}
    (hrun : (generate artifact s opening check).against script = (result, script')) :
    ∃ asked, script'.calls = script.calls ++ asked ∧ Echoes b script.replies asked ∧
      (result.isOk → ∀ last, Echoes b script.replies (asked ++ [last])) := by
  subst hcheck
  obtain ⟨n, result', hending⟩ := exists_ending artifact s b.check script.silence script.replies
  rw [generate_of_ending hending] at hrun
  obtain ⟨rfl, rfl⟩ := Prod.mk.inj hrun
  have htranscript := transcript_conversations s.language b.check opening fun k hk => hending.refused_of_lt hk
  rw [← hlanguage] at htranscript ⊢
  have hechoes := Brief.echoes h hopening htranscript
  refine ⟨_, rfl, hechoes, fun hok last => ?_⟩
  cases result' with
  | error f => cases hok
  | ok value =>
    obtain ⟨k, reply, rfl, hreply, haccepted⟩ := hending.exists_reply
    exact hechoes.concat (length_conversations _ _ _ _ _) hreply haccepted last

end Loop

/-! ## 5. Datasets -/

namespace DatasetDraft

/-- What is observed of a draft that reads: constraints are checked on the tables that it declares and the rows that it
inserts into them. -/
def observed? (dialect : Dialect) (d : DatasetDraft) : Option (SchemaConstraint → Observation) :=
  if d.schemaTables = [] then none
  else do
    let catalog ← (Catalog.ofTexts dialect d.schemaTables).toOption
    let rows ← (RowCounts.ofTexts dialect d.insertCommands).toOption
    if ∀ name ∈ rows.keys, (catalog.table? name).isSome then some (·.check catalog rows) else none

end DatasetDraft

namespace Dataset

/-- What is asked for with a dataset. -/
def brief (s : Settings) (request : DatasetRequest) : Brief SchemaConstraint (DatasetDraft × Catalog) where
  language := s.language
  constraints := request.constraints
  name := SchemaConstraint.name
  describe := SchemaConstraint.description s.language
  observed? := Brief.observedOfReply? DatasetDraft.reader (DatasetDraft.observed? s.dialect)
  check := DatasetDraft.checkReply s request
  prompt := Prompt.dataset request.domain request.extraDetails [] s.dialect
  title := "Requirements"

theorem check_brief (s : Settings) (request : DatasetRequest) :
    (brief s request).check = DatasetDraft.checkReply s request := by
  simp only [brief]

theorem observed?_brief (s : Settings) (request : DatasetRequest) :
    (brief s request).observed? =
      Brief.observedOfReply? DatasetDraft.reader (DatasetDraft.observed? s.dialect) := by
  simp only [brief]

theorem opening_eq (s : Settings) (request : DatasetRequest) :
    opening s request =
      [⟨.system, Prompt.system s.language s.dialect⟩, ⟨.user, (brief s request).fullPrompt⟩] := by
  have htight := List.forall_mem_map.2 fun c (_ : c ∈ request.constraints) => c.isTight_description s.language
  rw [opening, Prompt.dataset_eq _ _ _ htight]
  rfl

theorem judges_check (s : Settings) (request : DatasetRequest) (d : DatasetDraft) :
    (brief s request).Judges (d.observed? s.dialect) (d.check s request) := by
  unfold DatasetDraft.observed? DatasetDraft.check
  by_cases hnil : d.schemaTables = []
  · rw [if_pos hnil, if_pos (List.isEmpty_iff.2 hnil)]
    exact .unread _
  · rw [if_neg hnil, if_neg (mt List.isEmpty_iff.1 hnil)]
    refine .ofRead fun catalog => .ofRead fun rows => ?_
    have hdeclared : (!(DatasetDraft.undeclared catalog rows).isEmpty) = true ↔
        ¬ ∀ name ∈ rows.keys, (catalog.table? name).isSome := by
      simp [DatasetDraft.undeclared, Option.isSome_iff_ne_none]
    by_cases hall : ∀ name ∈ rows.keys, (catalog.table? name).isSome
    · rw [if_pos hall, if_neg (mt hdeclared.1 (not_not_intro hall))]
      exact .read _ _
    · rw [if_neg hall, if_pos (hdeclared.2 hall)]
      exact .unread _

theorem judges_checkReply (s : Settings) (request : DatasetRequest) (reply : String) :
    (brief s request).Judges ((brief s request).observed? reply) ((brief s request).check reply) := by
  rw [observed?_brief, check_brief]
  unfold DatasetDraft.checkReply
  split
  · rename_i d hread
    rw [Brief.observedOfReply?_of_ok hread]
    exact judges_check s request d
  · rename_i message hread
    rw [Brief.observedOfReply?_of_error hread]
    exact .unread message

end Dataset

/-! ## 6. Exercises -/

namespace ExerciseDraft

/-- What is observed of a draft that reads: constraints are checked on its solution, which is one over the tables of the
catalog. -/
def observed? (catalog : Catalog) (dialect : Dialect) (d : ExerciseDraft) : Option (QueryConstraint → Observation) :=
  if isBlankText d.request then none
  else do
    let solution ← (Outline.parse dialect (stripFence d.solution)).toOption
    if ∀ name ∈ solution.tables, (catalog.table? name).isSome then some (·.check solution catalog) else none

end ExerciseDraft

namespace Exercise

/-- What is asked for with an exercise. -/
def brief (l : Language) (dataset : DatasetRecord) (catalog : Catalog) (request : ExerciseRequest) :
    Brief QueryConstraint (String × Outline) where
  language := l
  constraints := request.constraints
  name := QueryConstraint.name
  describe := QueryConstraint.description l
  observed? := Brief.observedOfReply? ExerciseDraft.reader (ExerciseDraft.observed? catalog dataset.dialect)
  check := ExerciseDraft.checkReply l request catalog dataset.dialect
  prompt := Prompt.exercise dataset.domain dataset.createCommands request.title request.misconception
    request.difficulty request.extraDetails [] l
  title := "Requirements for the solution"

variable (l : Language) (dataset : DatasetRecord) (catalog : Catalog) (request : ExerciseRequest)

theorem check_brief :
    (brief l dataset catalog request).check = ExerciseDraft.checkReply l request catalog dataset.dialect := by
  simp only [brief]

theorem observed?_brief :
    (brief l dataset catalog request).observed? =
      Brief.observedOfReply? ExerciseDraft.reader (ExerciseDraft.observed? catalog dataset.dialect) := by
  simp only [brief]

theorem opening_eq :
    opening l dataset request =
      [⟨.system, Prompt.system l dataset.dialect⟩, ⟨.user, (brief l dataset catalog request).fullPrompt⟩] := by
  have htight := List.forall_mem_map.2 fun c (_ : c ∈ request.constraints) => c.isTight_description l
  rw [opening, Prompt.exercise_eq _ _ _ _ _ _ _ htight]
  rfl

theorem judges_check (d : ExerciseDraft) :
    (brief l dataset catalog request).Judges (d.observed? catalog dataset.dialect)
      (d.check l request catalog dataset.dialect) := by
  unfold ExerciseDraft.observed? ExerciseDraft.check
  by_cases hblank : isBlankText d.request = true
  · rw [if_pos hblank, if_pos hblank]
    exact .unread _
  · rw [if_neg hblank, if_neg hblank]
    refine .ofRead fun solution => ?_
    have hknown : (!(ExerciseDraft.unknownTables catalog solution).isEmpty) = true ↔
        ¬ ∀ name ∈ solution.tables, (catalog.table? name).isSome := by
      simp [ExerciseDraft.unknownTables, Option.isSome_iff_ne_none]
    by_cases hall : ∀ name ∈ solution.tables, (catalog.table? name).isSome
    · rw [if_pos hall, if_neg (mt hknown.1 (not_not_intro hall))]
      exact .read _ _
    · rw [if_neg hall, if_pos (hknown.2 hall)]
      exact .unread _

theorem judges_checkReply (reply : String) :
    (brief l dataset catalog request).Judges ((brief l dataset catalog request).observed? reply)
      ((brief l dataset catalog request).check reply) := by
  rw [observed?_brief, check_brief]
  unfold ExerciseDraft.checkReply
  split
  · rename_i d hread
    rw [Brief.observedOfReply?_of_ok hread]
    exact judges_check l dataset catalog request d
  · rename_i message hread
    rw [Brief.observedOfReply?_of_error hread]
    exact .unread message

end Exercise

/-! ## 7. Runs -/

/-- The loop over drafts of a dataset echoes what it asks for. -/
theorem Dataset.exists_echoes {s : Settings} {request : DatasetRequest} {script script' : Script}
    {result : Except Failure Dataset} (h : (Dataset.generate s request).against script = (result, script')) :
    ∃ asked, script'.calls = script.calls ++ asked ∧ Echoes (brief s request) script.replies asked := by
  have hloop {value : Except Failure (DatasetDraft × Catalog)}
      (hdrafts : (drafts s request).against script = (value, script')) :
      ∃ asked, script'.calls = script.calls ++ asked ∧ Echoes (brief s request) script.replies asked := by
    unfold drafts at hdrafts
    obtain ⟨asked, hcalls, hechoes, -⟩ :=
      Brief.exists_echoes (judges_checkReply s request) rfl (check_brief s request) (opening_eq s request) hdrafts
    exact ⟨asked, hcalls, hechoes⟩
  rcases generate_cases h with ⟨f, hdrafts, -⟩ | ⟨d, catalog, hdrafts, -⟩
  · exact hloop hdrafts
  · exact hloop hdrafts

/-- So does the loop over drafts of an exercise, also with a conversation that asks for other words after it. -/
theorem Exercise.exists_echoes {s : Settings} {dataset : Dataset} {request : ExerciseRequest} {script script' : Script}
    {result : Except Failure Exercise} (h : (Exercise.generate s dataset request).against script = (result, script')) :
    (∃ f, dataset.catalog.1 = .error f ∧ script' = script) ∨
      ∃ built asked, dataset.catalog.1 = .ok built ∧ script'.calls = script.calls ++ asked ∧
        Echoes (brief s.language dataset.record built.catalog request) script.replies asked := by
  have hloop (built : BuiltCatalog) {value : Except Failure (String × Outline)} {between : Script}
      (hdrafts : (drafts s dataset.record built.catalog request).against script = (value, between)) :=
    Brief.exists_echoes (judges_checkReply s.language dataset.record built.catalog request) rfl
      (check_brief s.language dataset.record built.catalog request)
      (opening_eq s.language dataset.record built.catalog request) hdrafts
  cases generate_cases h with
  | noCatalog hcatalog => exact .inl ⟨_, hcatalog, rfl⟩
  | @noDraft built f _ hcatalog hdrafts | @plain built _ _ _ hcatalog hdrafts hrefine =>
    obtain ⟨asked, hcalls, hechoes, -⟩ := hloop built hdrafts
    exact .inr ⟨built, asked, hcatalog, hcalls, hechoes⟩
  | @refined built text solution between _ words hcatalog hdrafts hrefine hwords =>
    obtain ⟨asked, hcalls, -, hlast⟩ := hloop built hdrafts
    have hwords := (refineRequest_cases hwords).1
    rw [hcalls, List.append_assoc] at hwords
    exact .inr ⟨built, _, hcatalog, hwords, hlast rfl _⟩

/-- **Feedback echoes the requirements.** Whatever the author replies, in every run of a generator the opening states each
requirement in a bullet of its own, and the feedback on each draft that fails has the same bullets for just the
requirements that fail on it, with what was found. A dataset without a catalog asks for no exercise. -/
theorem feedback_echoes_requirements (s : Settings) (script : Script) :
    (∀ request result script', (Dataset.generate s request).against script = (result, script') →
      ∃ asked, script'.calls = script.calls ++ asked ∧ Echoes (Dataset.brief s request) script.replies asked) ∧
    ∀ dataset request result script', (Exercise.generate s dataset request).against script = (result, script') →
      (∃ f, dataset.catalog.1 = .error f ∧ script' = script) ∨
        ∃ built asked, dataset.catalog.1 = .ok built ∧ script'.calls = script.calls ++ asked ∧
          Echoes (Exercise.brief s.language dataset.record built.catalog request) script.replies asked :=
  ⟨fun _ _ _ h => Dataset.exists_echoes h, fun _ _ _ _ h => Exercise.exists_echoes h⟩

/-- Settings in Italian, with a second attempt for each draft and with refinement. -/
def italianSettings : Settings := ⟨2, .postgres, .italian, true⟩

/-- A dataset of which two tables are asked for twice, and columns in between. -/
def twoTables : DatasetRequest :=
  ⟨"letters", [], [.of .tables (.atLeast 2), .of .columnsPerTable (.atLeast 1), .of .tables (.atLeast 2)]⟩

/-- A dataset of one table. -/
def oneTable : String :=
  "\x7b\"schema_tables\": [\"CREATE TABLE a(id INT)\"], \"insert_commands\": []\x7d"

/-- An exercise whose solution has no condition. -/
def unfiltered : String := "\x7b\"request\": \"Find a\", \"solution\": \"SELECT id FROM a\"\x7d"

/-- One with a condition. -/
def filtered : String := "\x7b\"request\": \"Find a\", \"solution\": \"SELECT id FROM a WHERE id = 1\"\x7d"

theorem feedback_echoes_requirements_italian :
    (∃ first feedback,
      ((Dataset.generate italianSettings twoTables).against (.ofReplies [oneTable, oneTable])).2.calls =
          [first, first ++ [⟨.assistant, oneTable⟩, ⟨.user, feedback⟩]] ∧
        HasBullets feedback ["Lo schema deve contenere almeno 2 tabelle (trovato: 1 tables)",
          "Lo schema deve contenere almeno 2 tabelle (trovato: 1 tables)"]) ∧
    ∃ first feedback last,
      ((Exercise.generate italianSettings letters letterRequest).against
          (.ofReplies [unfiltered, filtered, "Which?"])).2.calls =
          [first, first ++ [⟨.assistant, unfiltered⟩, ⟨.user, feedback⟩], last] ∧
        HasBullets feedback ["La clausola WHERE della query principale deve contenere almeno 1 "
          ++ "condizioni combinate con AND/OR (trovato: 0 conditions)"] := by
  constructor
  · have hlength : ((Dataset.generate italianSettings twoTables).against
        (.ofReplies [oneTable, oneTable])).2.calls.length = 2 := by decide +kernel
    have hfailing : ((Dataset.brief italianSettings twoTables).observed? oneTable).map
        (Dataset.brief italianSettings twoTables).failing =
          some ["Lo schema deve contenere almeno 2 tabelle (trovato: 1 tables)",
            "Lo schema deve contenere almeno 2 tabelle (trovato: 1 tables)"] := by decide +kernel
    obtain ⟨asked, hcalls, hechoes⟩ := (feedback_echoes_requirements italianSettings
      (.ofReplies [oneTable, oneTable])).1 twoTables _ _ (Prod.eta _).symm
    rw [hcalls] at hlength ⊢
    obtain ⟨first, next, rfl⟩ := List.length_eq_two.1 hlength
    obtain ⟨previous, feedback, hprevious, rfl, hbullets⟩ :=
      hechoes.of_failing (k := 0) rfl hfailing (List.cons_ne_nil _ _) rfl
    obtain rfl := Option.some.inj hprevious
    exact ⟨first, feedback, rfl, hbullets⟩
  · have hlength : ((Exercise.generate italianSettings letters letterRequest).against
        (.ofReplies [unfiltered, filtered, "Which?"])).2.calls.length = 3 := by decide +kernel
    have hfailing : letters.catalog.1.toOption.bind (fun built =>
        ((Exercise.brief .italian letters.record built.catalog letterRequest).observed? unfiltered).map
          (Exercise.brief .italian letters.record built.catalog letterRequest).failing) =
        some ["La clausola WHERE della query principale deve contenere almeno 1 "
          ++ "condizioni combinate con AND/OR (trovato: 0 conditions)"] := by decide +kernel
    rcases (feedback_echoes_requirements italianSettings (.ofReplies [unfiltered, filtered, "Which?"])).2
      letters letterRequest _ _ (Prod.eta _).symm with
      ⟨f, hcatalog, -⟩ | ⟨built, asked, hcatalog, hcalls, hechoes⟩
    · rw [hcatalog] at hfailing
      cases hfailing
    · rw [hcatalog] at hfailing
      rw [hcalls] at hlength ⊢
      obtain ⟨first, next, last, rfl⟩ := List.length_eq_three.1 hlength
      obtain ⟨previous, feedback, hprevious, rfl, hbullets⟩ :=
        hechoes.of_failing (k := 0) rfl hfailing (List.cons_ne_nil _ _) rfl
      obtain rfl := Option.some.inj hprevious
      exact ⟨first, feedback, last, rfl, hbullets⟩

end QueryDrill
