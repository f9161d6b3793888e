import QueryDrill.Proofs.Generation.Repair
/-!
How often the author is asked.

A conversation for a draft begins with a message of the system, and refusals only add to its end. A
conversation for other words is a single message of the user. So the conversations of a run can be told
apart, and `AsksAtMost` bounds how many there are of each kind. Bounds add up along a run, and each
generator has its own; a failure does not take away what was asked before it.
-/

namespace QueryDrill

variable {α : Type}

/-! ## 1. Kinds of conversations -/

/-- A conversation for a draft. -/
def asksForDraft (c : List Message) : Bool := c.head?.map Message.role == some .system

/-- A conversation for other words. -/
def asksForWords (c : List Message) : Bool := c.map Message.role == [.user]

/-- No conversation is of both kinds. -/
theorem asksForWords_of_asksForDraft {c : List Message} (h : asksForDraft c) : asksForWords c = false := by
  cases c with
  | nil => cases h
  | cons m c =>
    have hm : m.role = .system := by simpa [asksForDraft] using h
    simp [asksForWords, hm]

/-- A refusal leaves the kind of a conversation as it is. -/
theorem asksForDraft_followUp {c : List Message} (h : asksForDraft c) (l : Language)
    (check : String → Outcome α) (reply : String) : asksForDraft (followUp l check c reply) := by
  unfold followUp
  split
  · cases c with
    | nil => cases h
    | cons m c => exact h
  · exact h

theorem asksForDraft_foldl {c : List Message} (h : asksForDraft c) (l : Language)
    (check : String → Outcome α) (refused : List String) :
    asksForDraft (refused.foldl (followUp l check) c) := by
  induction refused generalizing c with
  | nil => exact h
  | cons reply refused ih => exact ih (asksForDraft_followUp h l check reply)

/-- All conversations of a loop are for drafts if its opening is. -/
theorem asksForDraft_of_mem_conversations {l : Language} {check : String → Outcome α}
    {opening c : List Message} {replies : List String} {n : Nat} (h : asksForDraft opening)
    (hc : c ∈ conversations l check opening replies n) : asksForDraft c := by
  obtain ⟨k, -, rfl⟩ := List.mem_map.1 hc
  exact asksForDraft_foldl h l check (replies.take k)

/-! ## 2. Bounds -/

/-- Between two scripts at most so many drafts and so many other words are asked for, and nothing else. -/
def AsksAtMost (drafts words : Nat) (before after : Script) : Prop :=
  ∃ asked, after.calls = before.calls ++ asked ∧ (∀ c ∈ asked, asksForDraft c ∨ asksForWords c) ∧
    asked.countP asksForDraft ≤ drafts ∧ asked.countP asksForWords ≤ words

namespace AsksAtMost

variable {drafts words drafts' words' : Nat} {before between after : Script}

/-- Nothing is asked. -/
theorem refl (script : Script) : AsksAtMost 0 0 script script :=
  ⟨[], by simp, by simp, by simp, by simp⟩

/-- What is asked one after the other adds up. -/
theorem trans (h : AsksAtMost drafts words before between)
    (h' : AsksAtMost drafts' words' between after) :
    AsksAtMost (drafts + drafts') (words + words') before after := by
  obtain ⟨asked, hcalls, hkind, hdrafts, hwords⟩ := h
  obtain ⟨asked', hcalls', hkind', hdrafts', hwords'⟩ := h'
  refine ⟨asked ++ asked', ?_, List.forall_mem_append.2 ⟨hkind, hkind'⟩, ?_, ?_⟩
  · rw [hcalls', hcalls, List.append_assoc]
  · rw [List.countP_append]
    exact Nat.add_le_add hdrafts hdrafts'
  · rw [List.countP_append]
    exact Nat.add_le_add hwords hwords'

/-- A bound may be raised. -/
theorem mono (h : AsksAtMost drafts words before after) (hd : drafts ≤ drafts') (hw : words ≤ words') :
    AsksAtMost drafts' words' before after := by
  obtain ⟨asked, hcalls, hkind, hdrafts, hwords⟩ := h
  exact ⟨asked, hcalls, hkind, Nat.le_trans hdrafts hd, Nat.le_trans hwords hw⟩

end AsksAtMost

/-! ## 3. Generators -/

/-- A loop asks for as many drafts as it may. -/
theorem generate_asksAtMost {artifact : String} {s : Settings} {opening : List Message}
    {check : String → Outcome α} {script script' : Script} {result : Except Failure α}
    (hopening : asksForDraft opening)
    (h : (generate artifact s opening check).against script = (result, script')) :
    AsksAtMost s.maxAttempts 0 script script' := by
  obtain ⟨n, result', hending⟩ := exists_ending artifact s check script.silence script.replies
  rw [generate_of_ending hending] at h
  obtain ⟨-, rfl⟩ := Prod.mk.inj h
  have hdraft : ∀ c ∈ conversations s.language check opening script.replies n, asksForDraft c :=
    fun c hc => asksForDraft_of_mem_conversations hopening hc
  refine ⟨_, rfl, fun c hc => .inl (hdraft c hc), ?_, ?_⟩
  · calc
      _ ≤ (conversations s.language check opening script.replies n).length := List.countP_le_length
      _ = n := length_conversations _ _ _ _ _
      _ ≤ s.maxAttempts := hending.le_maxAttempts
  · refine Nat.le_of_eq (List.countP_eq_zero.2 fun c hc => ?_)
    simp [asksForWords_of_asksForDraft (hdraft c hc)]

/-- The generation of a dataset asks for drafts only. -/
theorem Dataset.generate_asksAtMost {s : Settings} {request : DatasetRequest} {script script' : Script}
    {result : Except Failure Dataset}
    (h : (Dataset.generate s request).against script = (result, script')) :
    AsksAtMost s.maxAttempts 0 script script' := by
  rcases generate_cases h with ⟨f, hdrafts, -⟩ | ⟨d, catalog, hdrafts, -⟩
  · exact QueryDrill.generate_asksAtMost rfl hdrafts
  · exact QueryDrill.generate_asksAtMost rfl hdrafts

/-- Refinement asks for other words once. -/
theorem refineRequest_asksAtMost {request solution : String} {aliases : List String} {l : Language}
    {script script' : Script} {result : Except Failure String}
    (h : (refineRequest request solution aliases l).against script = (result, script')) :
    AsksAtMost 0 1 script script' := by
  obtain ⟨hcalls, -⟩ := refineRequest_cases h
  refine ⟨_, hcalls, ?_, ?_, ?_⟩
  · exact List.forall_mem_singleton.2 (.inr rfl)
  · exact Nat.le_of_eq rfl
  · exact Nat.le_of_eq rfl

/-- The generation of an exercise asks for drafts, and at most once for other words. -/
theorem Exercise.generate_asksAtMost {s : Settings} {dataset : Dataset} {request : ExerciseRequest}
    {script script' : Script} {result : Except Failure Exercise}
    (h : (Exercise.generate s dataset request).against script = (result, script')) :
    AsksAtMost s.maxAttempts 1 script script' := by
  cases generate_cases h with
  | noCatalog => exact (AsksAtMost.refl script).mono (Nat.zero_le _) (Nat.zero_le _)
  | noDraft hcatalog hdrafts | plain hcatalog hdrafts =>
    exact (QueryDrill.generate_asksAtMost rfl hdrafts).mono (Nat.le_refl _) (Nat.zero_le _)
  | refined hcatalog hdrafts hrefine hwords =>
    exact (QueryDrill.generate_asksAtMost rfl hdrafts).trans (refineRequest_asksAtMost hwords)

end QueryDrill
