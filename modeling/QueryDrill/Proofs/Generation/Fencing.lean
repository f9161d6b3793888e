import QueryDrill.Generation.DatasetDraft
import QueryDrill.Generation.Exercise
import QueryDrill.Proofs.Generation.Acceptance
import QueryDrill.Proofs.Text.Trimming
/-!
A fence around a text does not matter.

`Text.fenced` puts a text between two fences, with blanks before and after them. What is left when the fence is
stripped is the text in the fence, without blanks at its ends (`stripFence_fenced`): the first trimming ends at the
fences, which are not blank, the line of the opening fence goes up to the first newline, and the closing fence is the
last thing that is left. Only then is the text itself trimmed, so nothing in it is taken for a part of the fence.

All that reads a reply reads what is left of it without its fence (`fences_transparent`).
-/

namespace QueryDrill

/-! ## 1. Blanks and fences at the ends -/

namespace Text

variable {cs opening ending line rest : List Char}

theorem trimChars_append_left (h : opening.all isBlank = true) : trimChars (opening ++ cs) = trimChars cs := by
  rw [trimChars, trimStartChars, List.dropWhile_append_of_pos (List.all_eq_true.1 h)]
  rfl

theorem trimEndChars_append (h : ending.all isBlank = true) : trimEndChars (cs ++ ending) = trimEndChars cs := by
  rw [trimEndChars, List.reverse_append, List.dropWhile_append_of_pos]
  · rfl
  · exact fun c hc => List.all_eq_true.1 h c (List.mem_reverse.1 hc)

theorem trimChars_append_right (h : ending.all isBlank = true) : trimChars (cs ++ ending) = trimChars cs := by
  by_cases hblank : cs.all isBlank = true
  · rw [trimChars_eq_nil_iff.2 hblank, trimChars_eq_nil_iff, List.all_append, hblank, h]
    rfl
  · have hne : ((cs.dropWhile isBlank).isEmpty = true) ↔ False := by
      rw [List.isEmpty_iff, List.dropWhile_eq_nil_iff, iff_false, ← List.all_eq_true]
      exact hblank
    rw [trimChars, trimStartChars, List.dropWhile_append]
    simp only [hne, if_false]
    exact trimEndChars_append h

/-- A fence at the end is not trimmed. -/
theorem trimEndChars_append_fence (cs : List Char) : trimEndChars (cs ++ fence) = cs ++ fence := by
  refine List.rdropWhile_eq_self_iff.2 fun hne => ?_
  rw [List.getLast_append_of_ne_nil hne (by decide)]
  decide

/-- Nor is one at the front. -/
theorem trimChars_fence_append_fence (cs : List Char) :
    trimChars (fence ++ (cs ++ fence)) = fence ++ (cs ++ fence) := by
  have hstart : trimStartChars (fence ++ (cs ++ fence)) = fence ++ cs ++ fence := by
    rw [List.append_assoc]
    rfl
  rw [trimChars, hstart, trimEndChars_append_fence, List.append_assoc]

theorem dropPrefix?_append_self (p cs : List Char) : dropPrefix? p (p ++ cs) = some cs := by
  induction p with
  | nil => rfl
  | cons c p ih => rw [List.cons_append, dropPrefix?, if_pos rfl, ih]

theorem dropPrefix?_eq_none {p cs : List Char} (h : ¬ p <+: cs) : dropPrefix? p cs = none := by
  fun_induction dropPrefix? p cs with
  | case1 cs => exact absurd cs.nil_prefix h
  | case2 => rfl
  | case3 p c cs ih => exact ih fun hp => h (List.cons_prefix_cons.2 ⟨rfl, hp⟩)
  | case4 => rfl

theorem dropSuffix?_append_self (p cs : List Char) : dropSuffix? p (cs ++ p) = some cs := by
  rw [dropSuffix?, List.reverse_append, dropPrefix?_append_self, Option.map_some, List.reverse_reverse]

theorem splitLine?_append (h : '\n' ∉ line) : splitLine? (line ++ '\n' :: rest) = some (line, rest) := by
  induction line with
  | nil => rfl
  | cons c line ih =>
    rw [List.mem_cons, not_or] at h
    rw [List.cons_append, splitLine?, if_neg (Ne.symm h.1), ih h.2]
    rfl

/-! ## 2. Fenced texts -/

/-- What is in a fence is left without its blanks. -/
theorem stripFenceChars_fenced (hopening : opening.all isBlank = true) (hending : ending.all isBlank = true)
    (hline : '\n' ∉ line) (cs : List Char) :
    stripFenceChars (opening ++ (fence ++ (line ++ '\n' :: (cs ++ '\n' :: fence)) ++ ending)) = trimChars cs := by
  have houter : trimChars (opening ++ (fence ++ (line ++ '\n' :: (cs ++ '\n' :: fence)) ++ ending)) =
      fence ++ (line ++ '\n' :: (cs ++ '\n' :: fence)) := by
    have hend : line ++ '\n' :: (cs ++ '\n' :: fence) = (line ++ '\n' :: (cs ++ ['\n'])) ++ fence := by simp
    rw [trimChars_append_left hopening, trimChars_append_right hending, hend, trimChars_fence_append_fence]
  have hfirst : afterFirstLine (line ++ '\n' :: (cs ++ '\n' :: fence)) = (cs ++ ['\n']) ++ fence := by
    rw [afterFirstLine, splitLine?_append hline]
    simp
  have hlast : dropClosingFence ((cs ++ ['\n']) ++ fence) = cs ++ ['\n'] := by
    rw [dropClosingFence, trimEndChars_append_fence, dropSuffix?_append_self]
    rfl
  unfold stripFenceChars
  rw [houter]
  dsimp only
  rw [dropPrefix?_append_self]
  dsimp only
  rw [hfirst, hlast, trimChars_append_right (by decide)]

/-- A text in a fence, with a line for the kind of text. -/
def fenced (opening info body ending : String) : String :=
  opening ++ "```" ++ info ++ "\n" ++ body ++ "\n```" ++ ending

theorem stripFence_fenced {opening info ending : String} (hopening : isBlankText opening = true)
    (hending : isBlankText ending = true) (hinfo : '\n' ∉ info.toList) (body : String) :
    stripFence (fenced opening info body ending) = trim body := by
  have hlist : (fenced opening info body ending).toList =
      opening.toList ++ (fence ++ (info.toList ++ '\n' :: (body.toList ++ '\n' :: fence)) ++ ending.toList) := by
    simp [fenced, fence]
  rw [stripFence, hlist, stripFenceChars_fenced hopening hending hinfo, trim]

/-- A text that does not begin with a fence is only trimmed. -/
theorem stripFence_eq_trim {body : String} (h : ¬ fence <+: (trim body).toList) : stripFence body = trim body := by
  rw [trim, String.toList_ofList] at h
  rw [stripFence, trim, stripFenceChars, dropPrefix?_eq_none h]

end Text

/-! ## 3. Replies -/

open Sql Text

variable {reply reply' : String}

/-- What is read of a reply is read of what is left of it without its fence. -/
theorem readReply_congr {α : Type} (reader : JsonReader α) (h : stripFence reply = stripFence reply') :
    readReply reader reply = readReply reader reply' := by
  rw [readReply, readReply, h]

theorem DatasetDraft.checkReply_congr (s : Settings) (request : DatasetRequest)
    (h : stripFence reply = stripFence reply') : checkReply s request reply = checkReply s request reply' := by
  unfold checkReply
  rw [readReply_congr reader h]

namespace ExerciseDraft

variable {l : Language} {request : ExerciseRequest} {catalog : Catalog} {dialect : Dialect}

theorem checkReply_congr (h : stripFence reply = stripFence reply') :
    checkReply l request catalog dialect reply = checkReply l request catalog dialect reply' := by
  unfold checkReply
  rw [readReply_congr reader h]

/-- What is checked of a solution is what is left of it without its fence. -/
theorem check_congr {words solution solution' : String} (h : stripFence solution = stripFence solution') :
    check l request catalog dialect ⟨words, solution⟩ = check l request catalog dialect ⟨words, solution'⟩ := by
  unfold check
  rw [h]

end ExerciseDraft

theorem refinedBy_congr (request : String) (h : stripFence reply = stripFence reply') :
    refinedBy request reply = refinedBy request reply' := by
  rw [refinedBy, refinedBy, h]

/-- Other words that come from two replies are the same if the replies are without their fences. -/
theorem against_refineRequest_congr (request solution : String) (aliases : List String) (l : Language)
    (replies : List String) (calls : List (List Message)) (silence : String)
    (h : stripFence reply = stripFence reply') :
    (refineRequest request solution aliases l).against ⟨reply :: replies, calls, silence⟩ =
      (refineRequest request solution aliases l).against ⟨reply' :: replies, calls, silence⟩ := by
  have hrun (reply : String) : (refineRequest request solution aliases l).against ⟨reply :: replies, calls, silence⟩ =
      (.ok (refinedBy request reply), ⟨replies, calls ++ [refinementOpening request solution aliases l], silence⟩) :=
    rfl
  rw [hrun, hrun, refinedBy_congr request h]

/-- **A fence around a text does not matter.** Whatever stands in the line of the opening fence and whatever blanks are
around the fences, what is left of a fenced text is what is left of the text, and that is the text without blanks at its
ends. So drafts are checked alike with and without a fence around the reply or around the solution in it, and a request
is put into the same words. -/
theorem fences_transparent {opening info body ending : String} (hopening : isBlankText opening = true)
    (hending : isBlankText ending = true) (hinfo : '\n' ∉ info.toList) (hbody : ¬ fence <+: (trim body).toList) :
    stripFence (fenced opening info body ending) = trim body ∧ stripFence body = trim body ∧
    (∀ s request, DatasetDraft.checkReply s request (fenced opening info body ending) =
      DatasetDraft.checkReply s request body) ∧
    (∀ l request catalog dialect,
      ExerciseDraft.checkReply l request catalog dialect (fenced opening info body ending) =
        ExerciseDraft.checkReply l request catalog dialect body) ∧
    (∀ reply reply' words, readReply ExerciseDraft.reader reply = .ok ⟨words, fenced opening info body ending⟩ →
      readReply ExerciseDraft.reader reply' = .ok ⟨words, body⟩ →
      ∀ l request catalog dialect, ExerciseDraft.checkReply l request catalog dialect reply =
        ExerciseDraft.checkReply l request catalog dialect reply') ∧
    (∀ request solution aliases l replies calls silence,
      (refineRequest request solution aliases l).against
          ⟨fenced opening info body ending :: replies, calls, silence⟩ =
        (refineRequest request solution aliases l).against ⟨body :: replies, calls, silence⟩) := by
  have hfenced := stripFence_fenced hopening hending hinfo body
  have hplain := stripFence_eq_trim hbody
  have hsame : stripFence (fenced opening info body ending) = stripFence body := hfenced.trans hplain.symm
  refine ⟨hfenced, hplain, fun s request => DatasetDraft.checkReply_congr s request hsame,
    fun l request catalog dialect => ExerciseDraft.checkReply_congr hsame,
    fun reply reply' words hreply hreply' l request catalog dialect => ?_,
    fun request solution aliases l replies calls silence =>
      against_refineRequest_congr request solution aliases l replies calls silence hsame⟩
  unfold ExerciseDraft.checkReply
  rw [hreply, hreply']
  exact ExerciseDraft.check_congr hsame

/-- A solution that ends in a fence of its own, and blanks. -/
def tickedSolution : String := " SELECT id FROM a WHERE id = 1 -- ```\u2003\n"

/-- A reply with that solution. -/
def tickedReply : String :=
  "\x7b\"request\": \"Find a\", \"solution\": \" SELECT id FROM a WHERE id = 1 -- ```\u2003\\n\"\x7d"

/-- A reply with that solution in a fence, which stands between blanks. -/
def tickedFencedReply : String :=
  "\x7b\"request\": \"Find a\", \"solution\": \"\u00a0\\n```sql\\n SELECT id FROM a WHERE id = 1 -- ```\u2003\\n\\n" ++
    "```\\t\"\x7d"

theorem fences_transparent_ticked :
    stripFence (fenced "\u00a0\n" "sql" tickedSolution "\t") = "SELECT id FROM a WHERE id = 1 -- ```" ∧
    (∀ catalog, ExerciseDraft.checkReply .english letterRequest catalog .postgres tickedFencedReply =
      ExerciseDraft.checkReply .english letterRequest catalog .postgres tickedReply) ∧
    refinedBy "Find a" (fenced "\u00a0\n" "sql" tickedSolution "\t") = "SELECT id FROM a WHERE id = 1 -- ```" := by
  obtain ⟨hstrip, -, -, -, hreplies, -⟩ := @fences_transparent "\u00a0\n" "sql" tickedSolution "\t"
    (by decide) (by decide) (by decide) (by decide +kernel)
  have htrim : trim tickedSolution = "SELECT id FROM a WHERE id = 1 -- ```" := by decide +kernel
  refine ⟨hstrip.trans htrim, fun catalog => ?_, ?_⟩
  · exact hreplies tickedFencedReply tickedReply "Find a" (by decide +kernel) (by decide +kernel) .english letterRequest
      catalog .postgres
  · rw [refinedBy, hstrip, htrim]
    rfl

end QueryDrill
