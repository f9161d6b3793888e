import QueryDrill.Language
/-!
Reports: the violations that a validation found.
-/

namespace QueryDrill

/-- The violations found, in order. -/
structure Report where
  violations : List Violation
  deriving DecidableEq, Repr, Inhabited

namespace Report

/-- The report on some outcomes. -/
def ofOutcomes (outcomes : List (Except Violation Unit)) : Report :=
  ⟨outcomes.filterMap fun
    | .ok () => none
    | .error v => some v⟩

/-- Whether nothing is violated. -/
def isValid (r : Report) : Bool := r.violations.isEmpty

theorem isValid_ofOutcomes_iff {outcomes : List (Except Violation Unit)} :
    (ofOutcomes outcomes).isValid = true ↔ ∀ o ∈ outcomes, o = .ok () := by
  induction outcomes with
  | nil => simp [ofOutcomes, isValid]
  | cons o os ih =>
    rcases o with v | ⟨⟩
    · simp [ofOutcomes, isValid]
    · simpa [ofOutcomes, isValid] using ih

/-- The report in one line. -/
def summary (r : Report) : String :=
  if r.isValid then "All constraints satisfied."
  else
    toString r.violations.length ++ " violation(s): "
      ++ ", ".intercalate (r.violations.map Violation.constraint)

/-- The line of feedback on a violation. -/
def bullet (l : Language) (v : Violation) : String :=
  "\n- " ++ v.description ++ " (" ++ l.pick "found" "trovato" ++ ": " ++ v.observed ++ ")"

/-- What the author of a draft is told about its violations. -/
def feedback (l : Language) (r : Report) : String :=
  l.pick "The previous answer does not satisfy these requirements:"
      "La risposta precedente non rispetta questi requisiti:"
    ++ String.join (r.violations.map (bullet l)) ++ "\n"
    ++ l.pick "Fix the answer so that all requirements hold."
      "Correggi la risposta in modo che tutti i requisiti siano rispettati."

/-- Each violation in one line. -/
def failures (r : Report) : List String := r.violations.map Violation.message

end Report

end QueryDrill
