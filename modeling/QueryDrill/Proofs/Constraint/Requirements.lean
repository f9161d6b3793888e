import QueryDrill.Constraint.Query
import QueryDrill.Constraint.Schema
import QueryDrill.Proofs.Text.Trimming
/-!
The text of a requirement has nothing to trim.

Each requirement begins with a word and ends in a word or a closing mark, whatever the numbers and names in it are: names
that could hold blanks stand between marks, and lists of names end in the last name. So where requirements are listed,
they are listed as they are (`Text.trim_eq_self`), and none is left out as blank.

The proofs look at the two ends of each text only: `beginsVisibly_append` and `endsVisibly_append` take a text apart to the
words that stand there.
-/

namespace QueryDrill

/-! ## 1. Texts with visible ends -/

namespace Text

/-- Whether a text begins with a character that is not blank. -/
def beginsVisibly (s : String) : Bool := s.toList.head?.any fun c => !isBlank c

/-- Whether a text ends in a character that is not blank. -/
def endsVisibly (s : String) : Bool := s.toList.getLast?.any fun c => !isBlank c

variable {s t : String}

theorem beginsVisibly_append (h : beginsVisibly s = true) : beginsVisibly (s ++ t) = true := by
  unfold beginsVisibly at h ⊢
  rw [String.toList_append]
  rcases hs : s.toList with _ | ⟨c, cs⟩
  · rw [hs] at h
    cases h
  · rwa [hs] at h

theorem endsVisibly_append (h : endsVisibly t = true) : endsVisibly (s ++ t) = true := by
  unfold endsVisibly at h ⊢
  rw [String.toList_append, List.getLast?_append]
  rcases ht : t.toList.getLast? with _ | c
  · rw [ht] at h
    cases h
  · rwa [ht] at h

/-- What is added may be nothing. -/
theorem endsVisibly_append_of_empty (hs : endsVisibly s = true) (ht : t = "" ∨ endsVisibly t = true) :
    endsVisibly (s ++ t) = true := by
  rcases ht with rfl | ht
  · rwa [String.append_empty]
  · exact endsVisibly_append ht

theorem endsVisibly_intercalate {sep : String} {items : List String} (hne : items ≠ [])
    (h : ∀ i ∈ items, endsVisibly i = true) : endsVisibly (sep.intercalate items) = true := by
  induction items with
  | nil => exact absurd rfl hne
  | cons item items ih =>
    obtain ⟨hitem, hitems⟩ := List.forall_mem_cons.1 h
    cases items with
    | nil => rwa [String.intercalate_singleton]
    | cons next items =>
      rw [String.intercalate_cons_cons]
      exact endsVisibly_append (ih (List.cons_ne_nil _ _) hitems)

/-- A text that neither begins nor ends with a blank. -/
structure IsTight (s : String) : Prop where
  begins : beginsVisibly s = true
  ends : endsVisibly s = true

namespace IsTight

/-- A text that begins visibly has a first character, and that is not blank. -/
theorem exists_cons (h : IsTight s) : ∃ c cs, s.toList = c :: cs ∧ isBlank c = false := by
  have hbegins := h.begins
  unfold beginsVisibly at hbegins
  rcases hs : s.toList with _ | ⟨c, cs⟩
  · rw [hs] at hbegins
    cases hbegins
  · rw [hs] at hbegins
    exact ⟨c, cs, rfl, by simpa using hbegins⟩

theorem isBlankText_eq (h : IsTight s) : isBlankText s = false := by
  obtain ⟨c, cs, hs, hc⟩ := h.exists_cons
  rw [isBlankText, hs, List.all_cons, hc, Bool.false_and]

theorem trim_eq (h : IsTight s) : trim s = s := by
  have hstart : trimStartChars s.toList = s.toList := by
    obtain ⟨c, cs, hs, hc⟩ := h.exists_cons
    rw [hs, trimStartChars, List.dropWhile_cons_of_neg (by rw [hc]; exact Bool.false_ne_true)]
  have hend : trimEndChars s.toList = s.toList := by
    refine List.rdropWhile_eq_self_iff.2 fun hne hlast => ?_
    have hends := h.ends
    rw [endsVisibly, List.getLast?_eq_some_getLast hne, Option.any_some, hlast] at hends
    cases hends
  rw [trim, trimChars, hstart, hend, String.ofList_toList]

end IsTight

end Text

open Text

variable {l : Language}

/-! ## 2. Words

Literals are read as lists of characters, and not by decoding them. -/

theorem beginsVisibly_ofList {c : Char} {cs : List Char} (h : isBlank c = false) :
    beginsVisibly (String.ofList (c :: cs)) = true := by
  rw [beginsVisibly, String.toList_ofList, List.head?_cons, Option.any_some, h]
  rfl

theorem endsVisibly_ofList {cs : List Char} (h : (cs.getLast?.any fun c => !isBlank c) = true) :
    endsVisibly (String.ofList cs) = true := by
  rwa [endsVisibly, String.toList_ofList]

theorem beginsVisibly_pick {c c' : Char} {cs cs' : List Char} (h : isBlank c = false) (h' : isBlank c' = false) :
    beginsVisibly (l.pick (String.ofList (c :: cs)) (String.ofList (c' :: cs'))) = true := by
  cases l with
  | english => exact beginsVisibly_ofList h
  | italian => exact beginsVisibly_ofList h'

theorem endsVisibly_pick {s t : String} (hs : endsVisibly s = true) (ht : endsVisibly t = true) :
    endsVisibly (l.pick s t) = true := by
  cases l with
  | english => exact hs
  | italian => exact ht

theorem isTight_pick {s t : String} (hs : IsTight s) (ht : IsTight t) : IsTight (l.pick s t) := by
  cases l with
  | english => exact hs
  | italian => exact ht

theorem isTight_ofList {c : Char} {cs : List Char} (h : isBlank c = false)
    (hlast : ((c :: cs).getLast?.any fun c => !isBlank c) = true) : IsTight (String.ofList (c :: cs)) :=
  ⟨beginsVisibly_ofList h, endsVisibly_ofList hlast⟩

theorem isTight_append {s t : String} (hs : beginsVisibly s = true) (ht : endsVisibly t = true) : IsTight (s ++ t) :=
  ⟨beginsVisibly_append hs, endsVisibly_append ht⟩

/-- A requirement with bounds is as tight as the words around them. -/
theorem isTight_bounded {opening middle closing : String} (hopening : beginsVisibly opening = true)
    (hclosing : endsVisibly closing = true) : IsTight (opening ++ " " ++ middle ++ " " ++ closing) :=
  ⟨beginsVisibly_append (beginsVisibly_append (beginsVisibly_append (beginsVisibly_append hopening))),
    endsVisibly_append hclosing⟩

/-- A requirement that goes on after its bounds ends in what it goes on with, if with anything. -/
theorem isTight_bounded_append {opening middle closing more : String} (hopening : beginsVisibly opening = true)
    (hclosing : endsVisibly closing = true) (hmore : more = "" ∨ endsVisibly more = true) :
    IsTight (opening ++ " " ++ middle ++ " " ++ closing ++ more) :=
  have h : IsTight (opening ++ " " ++ middle ++ " " ++ closing) := isTight_bounded hopening hclosing
  ⟨beginsVisibly_append h.begins, endsVisibly_append_of_empty h.ends hmore⟩

/-! ## 3. Constraints on a schema -/

theorem SchemaConstraint.isTight_description (l : Language) (c : SchemaConstraint) :
    IsTight (c.description l) := by
  unfold description
  dsimp only
  cases c.measure with
  | nullableColumns =>
    exact isTight_bounded (beginsVisibly_pick rfl rfl)
      (endsVisibly_pick (endsVisibly_ofList rfl) (endsVisibly_append (endsVisibly_ofList rfl)))
  | _ =>
    exact isTight_bounded (beginsVisibly_pick rfl rfl)
      (endsVisibly_pick (endsVisibly_ofList rfl) (endsVisibly_ofList rfl))

/-! ## 4. Constraints on a query -/

namespace QueryConstraint

/-- A requirement that a clause is there or absent ends in the name of the clause, or in what is counted in it. -/
theorem isTight_clauseText {state : Presence} {clause unit : String} {min : Nat}
    (hclause : endsVisibly clause = true) (hunit : endsVisibly unit = true) :
    IsTight (clauseText l state clause min unit) := by
  unfold clauseText
  constructor
  · iterate 7 refine beginsVisibly_append ?_
    exact beginsVisibly_pick rfl rfl
  · refine endsVisibly_append_of_empty (endsVisibly_append hclause) ?_
    split
    · exact .inr (endsVisibly_append hunit)
    · exact .inl rfl

theorem isTight_description (l : Language) (c : QueryConstraint) : IsTight (c.description l) := by
  have hclause {state : Presence} {clause unit unit' : List Char} {min : Nat}
      (h : (clause.getLast?.any fun c => !isBlank c) = true) (hunit : (unit.getLast?.any fun c => !isBlank c) = true)
      (hunit' : (unit'.getLast?.any fun c => !isBlank c) = true) :
      IsTight (clauseText l state (String.ofList clause) min (l.pick (String.ofList unit) (String.ofList unit'))) :=
    isTight_clauseText (endsVisibly_ofList h) (endsVisibly_pick (endsVisibly_ofList hunit) (endsVisibly_ofList hunit'))
  cases c with
  | joins b kinds =>
    refine isTight_bounded_append (beginsVisibly_pick rfl rfl)
      (endsVisibly_pick (endsVisibly_ofList rfl) (endsVisibly_ofList rfl)) ?_
    cases kinds with
    | nil => exact .inl rfl
    | cons kind kinds =>
      refine .inr (endsVisibly_append (endsVisibly_intercalate (List.cons_ne_nil _ _) ?_))
      exact List.forall_mem_map.2 fun k _ => by cases k <;> exact endsVisibly_ofList rfl
  | repeatedColumnConditions n =>
    exact isTight_bounded (beginsVisibly_pick rfl rfl)
      (endsVisibly_pick (endsVisibly_append (endsVisibly_ofList rfl)) (endsVisibly_append (endsVisibly_ofList rfl)))
  | aggregations b functions =>
    refine isTight_bounded_append (beginsVisibly_pick rfl rfl)
      (endsVisibly_pick (endsVisibly_ofList rfl) (endsVisibly_ofList rfl)) ?_
    split
    · exact .inl rfl
    · exact .inr (endsVisibly_append (endsVisibly_ofList rfl))
  | groupBy state n | having state n | orderBy state n => exact hclause rfl rfl rfl
  | subqueries b nesting =>
    refine isTight_bounded_append (beginsVisibly_pick rfl rfl)
      (endsVisibly_pick (endsVisibly_ofList rfl) (endsVisibly_ofList rfl)) ?_
    cases nesting with
    | any => exact .inl rfl
    | flat | nested => exact .inr (endsVisibly_pick (endsVisibly_ofList rfl) (endsVisibly_ofList rfl))
  | wildcardCharacters required =>
    refine isTight_append ?_ (endsVisibly_ofList rfl)
    exact beginsVisibly_append (beginsVisibly_append (beginsVisibly_pick rfl rfl))
  | setOperations n kinds =>
    refine isTight_append ?_ ?_
    · iterate 5 refine beginsVisibly_append ?_
      exact beginsVisibly_pick rfl rfl
    · split
      · exact endsVisibly_ofList rfl
      · rename_i hkinds
        refine endsVisibly_intercalate (by simpa using hkinds) ?_
        exact List.forall_mem_map.2 fun k _ => by cases k <;> exact endsVisibly_ofList rfl
  | duplicates mode =>
    cases mode with
    | allowed =>
      exact isTight_pick (isTight_append (beginsVisibly_ofList rfl) (endsVisibly_ofList rfl))
        (isTight_append (beginsVisibly_ofList rfl) (endsVisibly_ofList rfl))
    | unique | distinctRequired => exact isTight_pick (isTight_ofList rfl rfl) (isTight_ofList rfl rfl)
  | unionBalance =>
    exact isTight_pick (isTight_append (beginsVisibly_ofList rfl) (endsVisibly_ofList rfl))
      (isTight_append (beginsVisibly_ofList rfl) (endsVisibly_ofList rfl))
  | foreignKeyProjection state =>
    cases state <;> exact isTight_pick (isTight_ofList rfl rfl) (isTight_ofList rfl rfl)
  | tables b | conditions b | distinct state | columnAliases n | selectedColumns b | wildcardLength b | nullChecks state =>
    exact isTight_bounded (beginsVisibly_pick rfl rfl)
      (endsVisibly_pick (endsVisibly_ofList rfl) (endsVisibly_ofList rfl))

end QueryConstraint

end QueryDrill
