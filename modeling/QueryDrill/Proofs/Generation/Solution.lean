import QueryDrill.Proofs.Generation.Acceptance
import QueryDrill.Proofs.Sql.Stability
/-!
The text that an exercise is kept with is its solution.

A solution is read from the text of a draft, less its fence, and is kept as that text without the blanks at both
ends. Reading that again gives the same query, as long as the tokens of the text are not changed by trimming
(`Outline.parse_text`); what is left of a text without its fence has nothing to trim, so of an accepted draft the same
text is read again (`ExerciseDraft.parse_of_checkReply`). Blanks at the ends of a text make no tokens, unless the
dialect takes them for letters or a mark that opens a name stands before them (`tokens?_trimChars`).
-/

namespace QueryDrill

open Sql Text

/-! ## 1. Blanks at the ends of a text -/

/-- A text has the tokens of what trimming leaves of it, if no blank is a letter of the dialect and what is left does
not end in a mark that opens a name. -/
theorem tokens?_trimChars {d : Dialect} {cs : List Char}
    (hblanks : ∀ c ∈ cs, isBlank c = true → d.opensName c = false) {ls : List Lexeme}
    (hls : lexemes? d (trimChars cs) = some ls) (hmark : endsInMark d ls = false) :
    tokens? d (trimChars cs) = tokens? d cs := by
  obtain ⟨opening, ending, heq, hopening, hending⟩ := exists_trimChars cs
  have hseparates (c : Char) (hc : c ∈ cs) (hblank : isBlank c = true) : Separates d c :=
    .inr ⟨hblank, hblanks c hc hblank⟩
  have hnone (blanks : List Char) (h : ∀ c ∈ blanks, isBlank c = true) : ';' ∉ blanks := fun hmem =>
    absurd (h ';' hmem) (by decide)
  have hopening' (c : Char) (hc : c ∈ opening) : Separates d c :=
    hseparates c (heq ▸ List.mem_append_left _ hc) (hopening c hc)
  have hending' (c : Char) (hc : c ∈ ending) : Separates d c :=
    hseparates c (heq ▸ List.mem_append_right _ (List.mem_append_right _ hc)) (hending c hc)
  obtain ⟨n, hn, htokens⟩ := tokens?_between hopening' (hnone opening hopening) hending' hls hmark
  rw [List.count_eq_zero_of_not_mem (hnone ending hending)] at hn
  obtain rfl := Nat.le_zero.1 hn
  rw [← heq, List.replicate_zero, List.append_nil] at htokens
  rw [htokens, tokens?, hls]
  rfl

/-! ## 2. Reading a stored text -/

namespace Outline

variable {d : Dialect} {text : String} {o : Outline}

/-- What is read of a text is one query, kept with the text. -/
theorem parse_eq_ok_iff : parse d text = .ok o ↔
    ∃ q, parseStatements d text = .ok [.query q] ∧ o = ⟨trim text, d, q⟩ := by
  unfold parse readStatements
  rcases parseStatements d text with fault | found
  · exact iff_of_false nofun nofun
  rcases found with _ | ⟨a, _ | ⟨b, found⟩⟩
  · exact iff_of_false nofun nofun
  · cases a with
    | query q =>
      constructor
      · rintro ⟨⟩
        exact ⟨q, rfl, rfl⟩
      · rintro ⟨q', hq, rfl⟩
        cases hq
        rfl
    | insert | createTable | other => exact iff_of_false nofun nofun
  · refine iff_of_false (fun h => ?_) ?_
    · cases a <;> cases h
    · rintro ⟨q, ⟨⟩, -⟩

/-- A query is read again from the text that it is kept with. -/
theorem parse_text (htokens : tokens? d (trimChars text.toList) = tokens? d text.toList)
    (h : parse d text = .ok o) : parse d o.text = .ok o := by
  obtain ⟨q, hq, rfl⟩ := parse_eq_ok_iff.1 h
  have hlist : (trim text).toList = trimChars text.toList := String.toList_ofList
  have hquery : ∀ a ∈ [Statement.query q], a.IsQuery := by
    intro a ha
    exact ⟨q, List.mem_singleton.1 ha⟩
  refine parse_eq_ok_iff.2 ⟨q, parseStatements_congr ?_ hquery hq, ?_⟩
  · rw [hlist, htokens]
  · rw [trim_trim]

end Outline

/-! ## 3. Accepted solutions -/

/-- An accepted solution is read from a text without its fence. -/
theorem ExerciseDraft.parse_of_checkReply {l : Language} {request : ExerciseRequest} {catalog : Catalog}
    {dialect : Dialect} {reply text : String} {solution : Outline}
    (h : checkReply l request catalog dialect reply = .accepted (text, solution)) :
    ∃ written, Outline.parse dialect (stripFence written) = .ok solution := by
  unfold checkReply at h
  split at h
  · rename_i draft _
    unfold check at h
    split at h
    · cases h
    · obtain ⟨solution', hparse, h⟩ := Outcome.ofRead_eq_accepted h
      split at h
      · cases h
      · obtain ⟨-, heq⟩ := Outcome.ofReport_eq_accepted h
        obtain ⟨-, rfl⟩ := Prod.mk.inj heq
        exact ⟨draft.solution, hparse⟩
  · cases h

/-- The solution of a generated exercise is that of an accepted draft. -/
theorem Exercise.exists_accepted {s : Settings} {dataset : Dataset} {request : ExerciseRequest}
    {script script' : Script} {e : Exercise}
    (h : (generate s dataset request).against script = (.ok e, script')) :
    ∃ built reply text, dataset.catalog.1 = .ok built ∧
      ExerciseDraft.checkReply s.language request built.catalog dataset.record.dialect reply =
        .accepted (text, e.solution) := by
  generalize hresult : Except.ok e = result at h
  cases generate_cases h with
  | noCatalog | noDraft => cases hresult
  | plain hcatalog hdrafts hrefine =>
    obtain rfl := Except.ok.inj hresult
    obtain ⟨reply, -, hreply⟩ := QueryDrill.exists_accepted hdrafts
    exact ⟨_, reply, _, hcatalog, hreply⟩
  | refined hcatalog hdrafts hrefine hwords =>
    obtain ⟨reply, -, hreply⟩ := QueryDrill.exists_accepted hdrafts
    obtain ⟨-, rfl | ⟨words, rfl⟩⟩ := refineRequest_cases hwords
    · cases hresult
    · obtain rfl := Except.ok.inj hresult
      exact ⟨_, reply, _, hcatalog, hreply⟩

/-! ## 4. The stored text -/

/-- **The stored text of a solution is the solution.** A query that is read from a text is read again from the text
that it is kept with, if trimming does not change the tokens of the text. Whatever the author replies, the text that a
generated exercise is stored with is read as its solution in the dialect of the dataset, and the solution satisfies
each constraint of the request over the catalog of the dataset. -/
theorem solution_reread :
    (∀ d text o, tokens? d (trimChars text.toList) = tokens? d text.toList → Outline.parse d text = .ok o →
      Outline.parse d o.text = .ok o) ∧
    ∀ s dataset request script e script',
      (Exercise.generate s dataset request).against script = (.ok e, script') →
        ∃ built stored, dataset.catalog.1 = .ok built ∧
          e.toJson.field? "solution" = some (.string stored) ∧
          Outline.parse dataset.record.dialect stored = .ok e.solution ∧
          ∀ c ∈ request.constraints, ∀ l, c.validate e.solution built.catalog l = .ok () := by
  refine ⟨fun d text o htokens h => Outline.parse_text htokens h, fun s dataset request script e script' h => ?_⟩
  obtain ⟨built, reply, text, hcatalog, hreply⟩ := Exercise.exists_accepted h
  obtain ⟨hall, -⟩ := ExerciseDraft.of_checkReply hreply
  obtain ⟨written, hparse⟩ := ExerciseDraft.parse_of_checkReply hreply
  have htext : e.solution.text = stripFence written := by
    obtain ⟨q, -, heq⟩ := Outline.parse_eq_ok_iff.1 hparse
    rw [heq]
    exact trim_stripFence written
  refine ⟨built, e.solution.text, hcatalog, rfl, ?_, fun c hc l => ?_⟩
  · rw [htext]
    exact hparse
  · exact QueryConstraint.validate_eq_ok_iff.2 (hall c hc)

/-- A query between blanks, with a comment at its end. -/
def commentedQuery : String := "\u00a0\n SELECT id FROM a; -- all\u2003\n"

/-- The query in blanks is read again without them, and so is the solution of an exercise. -/
theorem solution_reread_letters :
    (∃ o, Outline.parse .postgres commentedQuery = .ok o ∧ o.text = "SELECT id FROM a; -- all" ∧
      Outline.parse .postgres o.text = .ok o) ∧
    ∃ e script', (Exercise.generate lettersSettings letters letterRequest).against letterDrafts = (.ok e, script') ∧
      ∃ built stored, letters.catalog.1 = .ok built ∧ e.toJson.field? "solution" = some (.string stored) ∧
        Outline.parse letters.record.dialect stored = .ok e.solution ∧
        ∀ c ∈ letterRequest.constraints, ∀ l, c.validate e.solution built.catalog l = .ok () := by
  have hlexemes : (lexemes? .postgres (trimChars commentedQuery.toList)).any
      fun ls => !endsInMark .postgres ls := by
    decide +kernel
  obtain ⟨ls, hls, hmark⟩ := (Option.any_eq_true ..).1 hlexemes
  have htokens : tokens? .postgres (trimChars commentedQuery.toList) = tokens? .postgres commentedQuery.toList :=
    tokens?_trimChars (fun _ _ => Dialect.opensName_of_isBlank (.inr rfl)) hls (by simpa using hmark)
  have htext : ((Outline.parse .postgres commentedQuery).map Outline.text).toOption =
      some "SELECT id FROM a; -- all" := by
    decide +kernel
  obtain ⟨o, ho, htext⟩ := Outline.exists_parse_eq_ok htext
  have hexercise :
      ((Exercise.generate lettersSettings letters letterRequest).against letterDrafts).1.isOk := by
    decide +kernel
  obtain ⟨e, he⟩ := Run.exists_eq_ok_of_isOk hexercise
  exact ⟨⟨o, ho, htext, solution_reread.1 _ _ _ htokens ho⟩, e, _, he, solution_reread.2 _ _ _ _ _ _ he⟩

end QueryDrill
