import QueryDrill.Proofs.Fallible
import QueryDrill.Proofs.Generation.Artifact
/-!
The protocol of the repair loop.

What a loop does with a script depends on the replies up to the first one that is accepted, or on as many
as there are attempts. `Ending` lists the three ways in which this can go. `exists_ending` finds the one
that the replies of a script lead to, and `generate_of_ending` runs the loop along it: it tells the result,
the replies that are left and every conversation that the author was sent. All that is said about the loop
is read off these two, so no other proof looks into it.

The run lemma is `attempts_append`: a loop passes over replies that are refused, one attempt for each.
-/

namespace QueryDrill

open Sql

variable {α : Type}

/-! ## 1. Refused drafts -/

namespace Outcome

/-- Whether a draft is accepted. -/
def isAccepted : Outcome α → Bool
  | accepted _ => true
  | _ => false

/-- What the author is told about a draft that is refused. -/
def feedback? (l : Language) : Outcome α → Option String
  | unreadable message => some (Prompt.unreadable l message)
  | invalid report => some (report.feedback l)
  | accepted _ => none

/-- What was wrong with a draft. -/
def reasons : Outcome α → List String
  | unreadable message => [message]
  | invalid report => report.failures
  | accepted _ => []

theorem exists_feedback {o : Outcome α} (h : o.isAccepted = false) (l : Language) :
    ∃ feedback, o.feedback? l = some feedback := by
  cases o with
  | unreadable message => exact ⟨_, rfl⟩
  | invalid report => exact ⟨_, rfl⟩
  | accepted value => simp [isAccepted] at h

theorem eq_accepted_of_isAccepted {o : Outcome α} (h : o.isAccepted = true) :
    ∃ value, o = accepted value := by
  cases o with
  | accepted value => exact ⟨value, rfl⟩
  | _ => simp [isAccepted] at h

end Outcome

/-- A check refuses each of some replies. -/
def RefusesAll (check : String → Outcome α) (replies : List String) : Prop :=
  ∀ reply ∈ replies, (check reply).isAccepted = false

/-- What was wrong with the last of some drafts. -/
def lastReasons (check : String → Outcome α) (replies : List String) : List String :=
  (replies.getLast?.map fun reply => (check reply).reasons).getD []

/-! ## 2. Conversations -/

/-- A conversation after a reply that is refused: the reply and the feedback on it are added. -/
def followUp (l : Language) (check : String → Outcome α) (conversation : List Message)
    (reply : String) : List Message :=
  match (check reply).feedback? l with
  | some feedback => afterRefusal conversation reply feedback
  | none => conversation

/-- The first `n` conversations of a loop: each is the opening after the replies before it. -/
def conversations (l : Language) (check : String → Outcome α) (opening : List Message)
    (replies : List String) (n : Nat) : List (List Message) :=
  (List.range n).map fun k => (replies.take k).foldl (followUp l check) opening

@[simp] theorem length_conversations (l : Language) (check : String → Outcome α)
    (opening : List Message) (replies : List String) (n : Nat) :
    (conversations l check opening replies n).length = n := by
  simp [conversations]

theorem conversations_cons (l : Language) (check : String → Outcome α) (opening : List Message)
    (reply : String) (replies : List String) (n : Nat) :
    conversations l check opening (reply :: replies) (n + 1) =
      opening :: conversations l check (followUp l check opening reply) replies n := by
  simp [conversations, List.range_succ_eq_map]

/-- Only the replies before the last conversation count. -/
theorem conversations_append (l : Language) (check : String → Outcome α) (opening : List Message)
    {replies : List String} {n : Nat} (h : n ≤ replies.length + 1) (rest : List String) :
    conversations l check opening (replies ++ rest) n = conversations l check opening replies n := by
  unfold conversations
  refine List.map_congr_left fun k hk => ?_
  have hk : k ≤ replies.length := by
    have := List.mem_range.1 hk
    omega
  rw [List.take_append_of_le_length hk]

/-- The conversations of a loop, given the replies of its script: the first is the opening, and each later
one is the one before it, the reply to it, which was refused, and the feedback on that reply. -/
structure Transcript (l : Language) (check : String → Outcome α) (opening : List Message)
    (replies : List String) (asked : List (List Message)) : Prop where
  first : ∀ c, asked[0]? = some c → c = opening
  next : ∀ k c, asked[k + 1]? = some c →
    ∃ previous reply feedback, asked[k]? = some previous ∧ replies[k]? = some reply ∧
      (check reply).feedback? l = some feedback ∧
      c = previous ++ [⟨.assistant, reply⟩, ⟨.user, feedback⟩]

/-- Conversations make a transcript as long as each but the last is met with a refused reply. -/
theorem transcript_conversations (l : Language) (check : String → Outcome α) (opening : List Message)
    {replies : List String} {n : Nat}
    (h : ∀ k, k + 1 < n → ∃ reply, replies[k]? = some reply ∧ (check reply).isAccepted = false) :
    Transcript l check opening replies (conversations l check opening replies n) where
  first c hc := by
    obtain ⟨hlt, rfl⟩ := List.getElem?_eq_some_iff.1 hc
    simp [conversations]
  next k c hc := by
    obtain ⟨hlt, rfl⟩ := List.getElem?_eq_some_iff.1 hc
    rw [length_conversations] at hlt
    obtain ⟨reply, hreply, hrefused⟩ := h k hlt
    obtain ⟨feedback, hfeedback⟩ := Outcome.exists_feedback hrefused l
    have hk : k < n := by omega
    refine ⟨(replies.take k).foldl (followUp l check) opening, reply, feedback, ?_, hreply, hfeedback, ?_⟩
    · simp [conversations, hk]
    · -- one more reply is one more step of the fold
      simp [conversations, List.take_add_one, hreply, followUp, hfeedback, afterRefusal]

/-! ## 3. Steps of the loop -/

section Steps

variable {artifact : String} {s : Settings} {check : String → Outcome α} {left : Nat}
  {conversation : List Message} {reasons rest : List String} {calls : List (List Message)}
  {silence : String}

theorem attempts_zero {script : Script} :
    (attempts artifact s check 0 conversation reasons).against script =
      (.error (.generation artifact s.maxAttempts reasons), script) := rfl

theorem attempts_silent :
    (attempts artifact s check (left + 1) conversation reasons).against ⟨[], calls, silence⟩ =
      (.error (.oracle silence), ⟨[], calls ++ [conversation], silence⟩) := rfl

theorem attempts_accepted {reply : String} {value : α} (h : check reply = .accepted value) :
    (attempts artifact s check (left + 1) conversation reasons).against
        ⟨reply :: rest, calls, silence⟩ =
      (.ok value, ⟨rest, calls ++ [conversation], silence⟩) := by
  simp [attempts, Run.against_bind, Script.answer, h]

theorem attempts_refused {reply : String} (h : (check reply).isAccepted = false) :
    (attempts artifact s check (left + 1) conversation reasons).against
        ⟨reply :: rest, calls, silence⟩ =
      (attempts artifact s check left (followUp s.language check conversation reply)
        (check reply).reasons).against ⟨rest, calls ++ [conversation], silence⟩ := by
  cases hcheck : check reply with
  | accepted value => simp [hcheck, Outcome.isAccepted] at h
  | _ =>
    simp [attempts, Run.against_bind, Script.answer, hcheck, followUp, Outcome.feedback?,
      Outcome.reasons]

end Steps

/-- A loop passes over replies that are refused, one attempt for each. -/
theorem attempts_append (artifact : String) (s : Settings) {check : String → Outcome α}
    {refused : List String} (h : RefusesAll check refused) (left : Nat) (conversation : List Message)
    (reasons rest : List String) (calls : List (List Message)) (silence : String) :
    (attempts artifact s check (refused.length + left) conversation reasons).against
        ⟨refused ++ rest, calls, silence⟩ =
      (attempts artifact s check left (refused.foldl (followUp s.language check) conversation)
        ((refused.getLast?.map fun reply => (check reply).reasons).getD reasons)).against
          ⟨rest, calls ++ conversations s.language check conversation refused refused.length,
            silence⟩ := by
  induction refused generalizing conversation reasons calls with
  | nil => simp [conversations]
  | cons reply refused ih =>
    obtain ⟨hreply, hrefused⟩ := List.forall_mem_cons.1 h
    rw [List.length_cons, Nat.add_right_comm, List.cons_append, attempts_refused hreply, ih hrefused,
      conversations_cons, List.getLast?_cons]
    cases refused.getLast? <;> simp

/-! ## 4. Endings -/

/-- The ways in which a loop ends, given the replies of its script: after how many conversations, and with
what result. -/
inductive Ending (artifact : String) (s : Settings) (check : String → Outcome α) (silence : String) :
    List String → Nat → Except Failure α → Prop where
  /-- A draft is accepted after some that were refused. -/
  | accepted {refused rest : List String} {reply : String} {value : α} (hrefused : RefusesAll check refused)
      (hleft : refused.length < s.maxAttempts) (hreply : check reply = .accepted value) :
      Ending artifact s check silence (refused ++ reply :: rest) (refused.length + 1) (.ok value)
  /-- All replies are refused, and there is none to the next conversation. -/
  | silent {refused : List String} (hrefused : RefusesAll check refused)
      (hleft : refused.length < s.maxAttempts) :
      Ending artifact s check silence refused (refused.length + 1) (.error (.oracle silence))
  /-- As many replies are refused as there are attempts. -/
  | exhausted {refused rest : List String} (hrefused : RefusesAll check refused)
      (hleft : refused.length = s.maxAttempts) :
      Ending artifact s check silence (refused ++ rest) refused.length
        (.error (.generation artifact s.maxAttempts (lastReasons check refused)))

/-- Replies are refused until one is accepted, until there are no more, or `n` times. -/
theorem refused_until (check : String → Outcome α) (replies : List String) (n : Nat) :
    (∃ refused reply rest value, replies = refused ++ reply :: rest ∧ refused.length < n ∧
        RefusesAll check refused ∧ check reply = .accepted value) ∨
      (replies.length < n ∧ RefusesAll check replies) ∨
      ∃ refused rest, replies = refused ++ rest ∧ refused.length = n ∧ RefusesAll check refused := by
  induction replies generalizing n with
  | nil =>
    rcases Nat.eq_zero_or_pos n with rfl | hn
    · exact .inr (.inr ⟨[], [], rfl, rfl, by simp [RefusesAll]⟩)
    · exact .inr (.inl ⟨hn, by simp [RefusesAll]⟩)
  | cons reply replies ih =>
    rcases n with _ | n
    · exact .inr (.inr ⟨[], reply :: replies, rfl, rfl, by simp [RefusesAll]⟩)
    · rcases hreply : (check reply).isAccepted with _ | _
      · -- the reply goes in front of what happens to the others
        have hcons : ∀ {refused}, RefusesAll check refused → RefusesAll check (reply :: refused) :=
          fun h => List.forall_mem_cons.2 ⟨hreply, h⟩
        rcases ih n with ⟨refused, last, rest, value, rfl, hn, hall, hlast⟩ | ⟨hn, hall⟩ |
          ⟨refused, rest, rfl, hn, hall⟩
        · exact .inl ⟨reply :: refused, last, rest, value, rfl, Nat.succ_lt_succ hn, hcons hall, hlast⟩
        · exact .inr (.inl ⟨Nat.succ_lt_succ hn, hcons hall⟩)
        · exact .inr (.inr ⟨reply :: refused, rest, rfl, congrArg (· + 1) hn, hcons hall⟩)
      · obtain ⟨value, hvalue⟩ := Outcome.eq_accepted_of_isAccepted hreply
        exact .inl ⟨[], reply, replies, value, rfl, Nat.succ_pos n, by simp [RefusesAll], hvalue⟩

/-- The replies of a script always lead to an ending. -/
theorem exists_ending (artifact : String) (s : Settings) (check : String → Outcome α)
    (silence : String) (replies : List String) :
    ∃ n result, Ending artifact s check silence replies n result := by
  rcases refused_until check replies s.maxAttempts with
    ⟨refused, reply, rest, value, rfl, hleft, hrefused, hreply⟩ | ⟨hleft, hrefused⟩ |
      ⟨refused, rest, rfl, hleft, hrefused⟩
  · exact ⟨_, _, .accepted hrefused hleft hreply⟩
  · exact ⟨_, _, .silent hrefused hleft⟩
  · exact ⟨_, _, .exhausted hrefused hleft⟩

/-- A loop ends as the replies of its script lead it to. -/
theorem generate_of_ending {artifact : String} {s : Settings} {check : String → Outcome α}
    {script : Script} {n : Nat} {result : Except Failure α}
    (h : Ending artifact s check script.silence script.replies n result) (opening : List Message) :
    (generate artifact s opening check).against script =
      (result, ⟨script.replies.drop n,
        script.calls ++ conversations s.language check opening script.replies n, script.silence⟩) := by
  obtain ⟨replies, calls, silence⟩ := script
  dsimp only at h ⊢
  unfold generate
  cases h with
  | @accepted refused rest reply value hrefused hleft hreply =>
    obtain ⟨left, hmax⟩ : ∃ left, s.maxAttempts = refused.length + (left + 1) :=
      ⟨s.maxAttempts - refused.length - 1, by omega⟩
    rw [hmax, attempts_append _ _ hrefused, attempts_accepted hreply,
      conversations_append _ _ _ (Nat.le_refl _)]
    simp [conversations, List.range_succ]
  | silent hrefused hleft =>
    obtain ⟨left, hmax⟩ : ∃ left, s.maxAttempts = replies.length + (left + 1) :=
      ⟨s.maxAttempts - replies.length - 1, by omega⟩
    have hrun := attempts_append artifact s hrefused (left + 1) opening [] [] calls silence
    rw [List.append_nil] at hrun
    rw [hmax, hrun, attempts_silent]
    simp [conversations, List.range_succ]
  | @exhausted refused rest hrefused hleft =>
    have hrun := attempts_append artifact s hrefused 0 opening [] rest calls silence
    rw [Nat.add_zero] at hrun
    rw [← hleft, hrun, attempts_zero, conversations_append _ _ _ (Nat.le_succ _), List.drop_left, hleft]
    rfl

/-! ## 5. What endings have in common -/

namespace Ending

variable {artifact : String} {s : Settings} {check : String → Outcome α} {silence : String}
  {replies : List String} {n : Nat} {result : Except Failure α}

/-- A loop with attempts asks. -/
theorem pos (h : Ending artifact s check silence replies n result) (hmax : 0 < s.maxAttempts) : 0 < n := by
  cases h with
  | accepted => exact Nat.succ_pos _
  | silent => exact Nat.succ_pos _
  | exhausted hrefused hleft => exact hleft ▸ hmax

/-- A loop never asks more often than it may. -/
theorem le_maxAttempts (h : Ending artifact s check silence replies n result) : n ≤ s.maxAttempts := by
  cases h with
  | accepted hrefused hleft hreply => exact hleft
  | silent hrefused hleft => exact hleft
  | exhausted hrefused hleft => exact Nat.le_of_eq hleft

/-- Each conversation of a loop is answered, unless the loop ends with silence. -/
theorem le_length (h : Ending artifact s check silence replies n result)
    (hresult : result ≠ .error (.oracle silence)) : n ≤ replies.length := by
  cases h with
  | accepted => simp
  | silent => exact absurd rfl hresult
  | exhausted => simp

/-- The replies before the last conversation are refused. -/
theorem refused_of_lt (h : Ending artifact s check silence replies n result) {k : Nat} (hk : k + 1 < n) :
    ∃ reply, replies[k]? = some reply ∧ (check reply).isAccepted = false := by
  obtain ⟨refused, rest, rfl, hall, hn⟩ : ∃ refused rest, replies = refused ++ rest ∧
      RefusesAll check refused ∧ n ≤ refused.length + 1 := by
    cases h with
    | accepted hrefused hleft hreply => exact ⟨_, _, rfl, hrefused, Nat.le_refl _⟩
    | silent hrefused hleft => exact ⟨_, [], (List.append_nil _).symm, hrefused, Nat.le_refl _⟩
    | exhausted hrefused hleft => exact ⟨_, _, rfl, hrefused, Nat.le_succ _⟩
  have hlt : k < refused.length := by omega
  refine ⟨refused[k], ?_, hall _ (List.getElem_mem hlt)⟩
  rw [List.getElem?_append_left hlt, List.getElem?_eq_getElem hlt]

/-- All attempts are used up just if there are as many replies and all of them are refused; the last of
them gives the reasons. -/
theorem eq_generation_iff (h : Ending artifact s check silence replies n result) {name : String}
    {count : Nat} {reasons : List String} :
    result = .error (.generation name count reasons) ↔
      name = artifact ∧ count = s.maxAttempts ∧ s.maxAttempts ≤ replies.length ∧
        RefusesAll check (replies.take s.maxAttempts) ∧
        reasons = lastReasons check (replies.take s.maxAttempts) := by
  cases h with
  | @accepted refused rest reply value hrefused hleft hreply =>
    constructor
    · intro h
      cases h
    · rintro ⟨-, -, -, hall, -⟩
      have hmem : reply ∈ (refused ++ reply :: rest).take s.maxAttempts :=
        List.mem_take_iff_getElem.2 ⟨refused.length, by simp; omega, by simp⟩
      have hnot := hall reply hmem
      rw [hreply] at hnot
      cases hnot
  | silent hrefused hleft =>
    constructor
    · intro h
      cases h
    · rintro ⟨-, -, hlen, -⟩
      omega
  | @exhausted refused rest hrefused hleft =>
    rw [List.take_left' hleft]
    constructor
    · intro h
      obtain ⟨rfl, rfl, rfl⟩ : artifact = name ∧ s.maxAttempts = count ∧
          lastReasons check refused = reasons := by simpa using h
      exact ⟨rfl, rfl, by simp [← hleft], hrefused, rfl⟩
    · rintro ⟨rfl, rfl, -, -, rfl⟩
      rfl

/-- Replies that are not used have no part in an ending. -/
theorem of_unused (h : Ending artifact s check silence replies n result)
    (hresult : result ≠ .error (.oracle silence)) (rest : List String) :
    Ending artifact s check silence (replies.take n ++ rest) n result := by
  cases h with
  | @accepted refused unused reply value hrefused hleft hreply =>
    rw [List.append_cons, List.take_left' (by simp), List.append_assoc]
    exact .accepted hrefused hleft hreply
  | silent hrefused hleft => exact absurd rfl hresult
  | exhausted hrefused hleft =>
    rw [List.take_left]
    exact .exhausted hrefused hleft

/-- More attempts have no part in an ending with success. -/
theorem of_le_maxAttempts {value : α} (h : Ending artifact s check silence replies n (.ok value)) {m : Nat}
    (hm : s.maxAttempts ≤ m) :
    Ending artifact { s with maxAttempts := m } check silence replies n (.ok value) := by
  cases h with
  | accepted hrefused hleft hreply => exact .accepted hrefused (Nat.lt_of_lt_of_le hleft hm) hreply

end Ending

/-- The value of a loop is that of a reply which is accepted. -/
theorem exists_accepted {artifact : String} {s : Settings} {opening : List Message}
    {check : String → Outcome α} {script script' : Script} {value : α}
    (h : (generate artifact s opening check).against script = (.ok value, script')) :
    ∃ reply ∈ script.replies, check reply = .accepted value := by
  obtain ⟨n, result, hending⟩ := exists_ending artifact s check script.silence script.replies
  rw [generate_of_ending hending] at h
  obtain ⟨rfl, -⟩ := Prod.mk.inj h
  generalize script.replies = replies at hending
  cases hending with
  | @accepted refused rest reply value hrefused hleft hreply => exact ⟨reply, by simp, hreply⟩

/-! ## 6. Reasons

A draft of a dataset or of an exercise is refused with a reason, since a report is only given when it holds
a violation. So a loop over such drafts that gives up without a reason had no attempt at all. -/

namespace Outcome

/-- A draft is not refused without a reason. -/
def IsExplained (o : Outcome α) : Prop := o.isAccepted = false → o.reasons ≠ []

theorem isExplained_unreadable (message : String) : (unreadable message : Outcome α).IsExplained := by
  simp [IsExplained, reasons]

theorem isExplained_ofReport (report : Report) (value : α) : (ofReport report value).IsExplained := by
  unfold ofReport
  split
  · simp [IsExplained, isAccepted]
  · rename_i hvalid
    intro _ hnone
    exact hvalid (by simpa [reasons, Report.failures, Report.isValid] using hnone)

theorem isExplained_ofRead {β : Type} {read : Except Failure β} {next : β → Outcome α}
    (h : ∀ b, (next b).IsExplained) : (ofRead read next).IsExplained := by
  cases read with
  | ok b => exact h b
  | error f => exact isExplained_unreadable f.message

end Outcome

theorem DatasetDraft.isExplained_checkReply (s : Settings) (request : DatasetRequest) (reply : String) :
    (checkReply s request reply).IsExplained := by
  unfold checkReply
  split
  · unfold check
    split
    · exact Outcome.isExplained_unreadable _
    · refine Outcome.isExplained_ofRead fun catalog => Outcome.isExplained_ofRead fun rows => ?_
      split
      · exact Outcome.isExplained_unreadable _
      · exact Outcome.isExplained_ofReport _ _
  · exact Outcome.isExplained_unreadable _

theorem ExerciseDraft.isExplained_checkReply (l : Language) (request : ExerciseRequest)
    (catalog : Catalog) (dialect : Dialect) (reply : String) :
    (checkReply l request catalog dialect reply).IsExplained := by
  unfold checkReply
  split
  · unfold check
    split
    · exact Outcome.isExplained_unreadable _
    · refine Outcome.isExplained_ofRead fun o => ?_
      split
      · exact Outcome.isExplained_unreadable _
      · exact Outcome.isExplained_ofReport _ _
  · exact Outcome.isExplained_unreadable _

/-- A loop that gives up without a reason had no attempt. -/
theorem maxAttempts_eq_zero {artifact name : String} {s : Settings} {opening : List Message}
    {check : String → Outcome α} {script script' : Script} {count : Nat}
    (hcheck : ∀ reply, (check reply).IsExplained)
    (h : (generate artifact s opening check).against script =
      (.error (.generation name count []), script')) : s.maxAttempts = 0 := by
  obtain ⟨n, result, hending⟩ := exists_ending artifact s check script.silence script.replies
  rw [generate_of_ending hending] at h
  obtain ⟨-, -, hlen, hall, hreasons⟩ := hending.eq_generation_iff.1 (Prod.mk.inj h).1
  rcases hlast : (script.replies.take s.maxAttempts).getLast? with _ | last
  · rw [List.getLast?_eq_none_iff, List.take_eq_nil_iff] at hlast
    rcases hlast with hzero | hnil
    · exact hzero
    · simpa [hnil] using hlen
  · have hrefused := hall last (List.mem_of_getLast? hlast)
    refine absurd ?_ (hcheck last hrefused)
    simpa [lastReasons, hlast] using hreasons.symm

/-! ### Catalogs that cannot be built

The generation of an exercise can also fail before its loop, when its dataset has no catalog. That failure
is one of reading and not one of generation. -/

/-- A failure to read a text. -/
def Failure.IsParsing (f : Failure) : Prop := ∃ fragment message, f = .parsing fragment message

theorem readStatements_eq_error {d : Dialect} {text : String} {f : Failure}
    (h : readStatements d text = .error f) : f.IsParsing := by
  unfold readStatements at h
  split at h
  · exact ⟨_, _, (Except.error.inj h).symm⟩
  · exact ⟨_, _, (Except.error.inj h).symm⟩
  · cases h

theorem Catalog.ofTexts_eq_error {d : Dialect} {texts : List String} {f : Failure}
    (h : Catalog.ofTexts d texts = .error f) : f.IsParsing := by
  refine of_foldlM_eq_error (fun catalog text g hg => ?_) h
  obtain hread | ⟨statements, -, hstatements⟩ := bind_eq_error_iff.1 hg
  · exact readStatements_eq_error hread
  · refine of_foldlM_eq_error (fun catalog statement g hg => ?_) hstatements
    unfold afterStatement at hg
    split at hg
    · cases hg
    · exact ⟨_, _, (Except.error.inj hg).symm⟩

theorem Dataset.catalog_eq_error {d : Dataset} {f : Failure} (h : d.catalog.1 = .error f) :
    f.IsParsing := by
  have hbuild : ∀ hash, (d.buildCatalog hash).1 = .error f → f.IsParsing := by
    intro hash h
    unfold buildCatalog at h
    split at h
    · cases h
    · rename_i g hg
      obtain rfl : g = f := Except.error.inj h
      exact Catalog.ofTexts_eq_error hg
  unfold catalog at h
  dsimp only at h
  split at h
  · split at h
    · cases h
    · exact hbuild _ h
  · exact hbuild _ h

/-! ## 7. The protocol -/

/-- The generation of a dataset gives up without a reason only if it has no attempt. -/
theorem Dataset.maxAttempts_eq_zero {s : Settings} {request : DatasetRequest} {script script' : Script}
    {name : String} {count : Nat}
    (h : (Dataset.generate s request).against script = (.error (.generation name count []), script')) :
    s.maxAttempts = 0 := by
  rcases generate_cases h with ⟨f, hdrafts, hf⟩ | ⟨d, catalog, -, hd⟩
  · obtain rfl := Except.error.inj hf
    exact QueryDrill.maxAttempts_eq_zero (DatasetDraft.isExplained_checkReply s request) hdrafts
  · cases hd

/-- The generation of an exercise gives up without a reason only if it has no attempt. -/
theorem Exercise.maxAttempts_eq_zero {s : Settings} {dataset : Dataset} {request : ExerciseRequest}
    {script script' : Script} {name : String} {count : Nat}
    (h : (Exercise.generate s dataset request).against script =
      (.error (.generation name count []), script')) : s.maxAttempts = 0 := by
  generalize hresult : Except.error (Failure.generation name count []) = result at h
  cases generate_cases h with
  | noCatalog hcatalog =>
    obtain rfl := Except.error.inj hresult
    obtain ⟨_, _, hf⟩ := Dataset.catalog_eq_error hcatalog
    cases hf
  | noDraft hcatalog hdrafts =>
    obtain rfl := Except.error.inj hresult
    exact QueryDrill.maxAttempts_eq_zero (ExerciseDraft.isExplained_checkReply _ _ _ _) hdrafts
  | plain => cases hresult
  | refined hcatalog hdrafts hrefine hwords =>
    obtain ⟨-, rfl | ⟨reply, rfl⟩⟩ := refineRequest_cases hwords
    · cases hresult
    · cases hresult

/-- **The repair loop follows its protocol.** It sends the opening first and then, each time, the
conversation so far with the refused reply and the feedback on it. It ends in one of three ways, and uses
the replies of the script in their order as far as it asks. It gives up just if all attempts were answered
and all drafts refused, with the reasons of the last draft; for datasets and exercises there are such
reasons unless there was no attempt. The replies that it does not use, and attempts that it is not in need
of, change nothing. -/
theorem generate_protocol (artifact : String) (s : Settings) (opening : List Message)
    (check : String → Outcome α) (script : Script) :
    (∃ result asked,
      (generate artifact s opening check).against script =
        (result, ⟨script.replies.drop asked.length, script.calls ++ asked, script.silence⟩) ∧
      (0 < s.maxAttempts → asked[0]? = some opening) ∧
      Transcript s.language check opening script.replies asked ∧
      Ending artifact s check script.silence script.replies asked.length result ∧
      (∀ name count reasons, result = .error (.generation name count reasons) ↔
        name = artifact ∧ count = s.maxAttempts ∧ s.maxAttempts ≤ script.replies.length ∧
          RefusesAll check (script.replies.take s.maxAttempts) ∧
          reasons = lastReasons check (script.replies.take s.maxAttempts)) ∧
      (result ≠ .error (.oracle script.silence) → ∀ rest,
        (generate artifact s opening check).against
            { script with replies := script.replies.take asked.length ++ rest } =
          (result, ⟨rest, script.calls ++ asked, script.silence⟩)) ∧
      (∀ value, result = .ok value → ∀ m, s.maxAttempts ≤ m →
        (generate artifact { s with maxAttempts := m } opening check).against script =
          (generate artifact s opening check).against script)) ∧
    (∀ request name count script',
      (Dataset.generate s request).against script = (.error (.generation name count []), script') →
        s.maxAttempts = 0) ∧
    ∀ dataset request name count script',
      (Exercise.generate s dataset request).against script =
        (.error (.generation name count []), script') → s.maxAttempts = 0 := by
  refine ⟨?_, fun _ _ _ _ h => Dataset.maxAttempts_eq_zero h, fun _ _ _ _ _ h =>
    Exercise.maxAttempts_eq_zero h⟩
  obtain ⟨n, result, hending⟩ := exists_ending artifact s check script.silence script.replies
  have hrun := generate_of_ending hending opening
  refine ⟨result, conversations s.language check opening script.replies n, ?_, ?_,
    transcript_conversations _ _ _ fun k hk => hending.refused_of_lt hk, ?_,
    fun _ _ _ => hending.eq_generation_iff, ?_, ?_⟩
  · rw [length_conversations]
    exact hrun
  · intro hmax
    simp [conversations, hending.pos hmax]
  · rw [length_conversations]
    exact hending
  · intro hresult rest
    have hlen : (script.replies.take n).length = n := by
      rw [List.length_take, Nat.min_eq_left (hending.le_length hresult)]
    -- neither the replies that were left nor those in their place are met by a conversation
    have hasked : ∀ more, conversations s.language check opening (script.replies.take n ++ more) n =
        conversations s.language check opening (script.replies.take n) n :=
      conversations_append _ _ _ (by omega)
    have hold := hasked (script.replies.drop n)
    rw [List.take_append_drop] at hold
    rw [length_conversations, generate_of_ending (hending.of_unused hresult rest), hasked, hold,
      List.drop_left' hlen]
  · rintro value rfl m hm
    rw [hrun, generate_of_ending (hending.of_le_maxAttempts hm) opening]

/-- Settings with three attempts. -/
def wordSettings : Settings := ⟨3, .postgres, .english, false⟩

/-- A check that accepts one word. -/
def wordCheck (reply : String) : Outcome String :=
  if reply = "good" then .accepted reply else .unreadable "not the word"

/-- A reply that is refused, one that is accepted, and one that is not used. -/
def wordReplies : Script := .ofReplies ["bad", "good", "worse"]

theorem generate_protocol_words :
    (∃ asked, (generate "word" wordSettings [⟨.user, "Which word?"⟩] wordCheck).against wordReplies =
        (.ok "good", ⟨["worse"], asked, wordReplies.silence⟩) ∧
      asked[0]? = some [⟨.user, "Which word?"⟩] ∧
      Transcript .english wordCheck [⟨.user, "Which word?"⟩] wordReplies.replies asked ∧
      ∀ m, 3 ≤ m →
        (generate "word" { wordSettings with maxAttempts := m } [⟨.user, "Which word?"⟩]
          wordCheck).against wordReplies = (.ok "good", ⟨["worse"], asked, wordReplies.silence⟩)) ∧
    (Dataset.generate ⟨0, .postgres, .english, false⟩ ⟨"words", [], []⟩).against wordReplies =
        (.error (.generation "dataset" 0 []), wordReplies) ∧
      (⟨0, .postgres, .english, false⟩ : Settings).maxAttempts = 0 := by
  have hok : ((generate "word" wordSettings [⟨.user, "Which word?"⟩] wordCheck).against
      wordReplies).1 = .ok "good" := by rfl
  have hleft : ((generate "word" wordSettings [⟨.user, "Which word?"⟩] wordCheck).against
      wordReplies).2.replies = ["worse"] := by rfl
  have hnone : (Dataset.generate ⟨0, .postgres, .english, false⟩ ⟨"words", [], []⟩).against wordReplies =
      (.error (.generation "dataset" 0 []), wordReplies) := by rfl
  obtain ⟨⟨result, asked, hrun, hfirst, htranscript, -, -, -, hmore⟩, -, -⟩ :=
    generate_protocol "word" wordSettings [⟨.user, "Which word?"⟩] wordCheck wordReplies
  rw [hrun] at hok hleft
  obtain rfl : result = .ok "good" := hok
  have hend : (generate "word" wordSettings [⟨.user, "Which word?"⟩] wordCheck).against wordReplies =
      (.ok "good", ⟨["worse"], asked, wordReplies.silence⟩) := by
    rw [hrun]
    exact congrArg (fun replies => (Except.ok "good", Script.mk replies asked wordReplies.silence)) hleft
  exact ⟨⟨asked, hend, hfirst (by decide), htranscript, fun m hm => (hmore "good" rfl m hm).trans hend⟩,
    hnone, (generate_protocol "word" _ [] wordCheck wordReplies).2.1 _ _ _ _ hnone⟩

end QueryDrill
