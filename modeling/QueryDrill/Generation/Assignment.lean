import QueryDrill.Constraint.Set
import QueryDrill.Generation.DatasetDraft
import QueryDrill.Generation.Exercise
import QueryDrill.Misconception.Registry
/-!
Assignments: one dataset and an exercise over it for each misconception that was picked.
-/

namespace QueryDrill

/-- A misconception and the difficulty at which it is picked. -/
abbrev Pick := String × Difficulty

/-- A dataset and exercises over it. -/
structure Assignment where
  dataset : Dataset
  exercises : List Exercise

namespace Assignment

/-- An assignment as JSON. -/
def toJson (a : Assignment) : Json :=
  .object [("dataset", a.dataset.record.toJson), ("exercises", .array (a.exercises.map Exercise.toJson))]

/-- Generates a dataset that suits all profiles, and an exercise for each. -/
def generateFor (s : Settings) (domain : String) (details : List String) (profiles : List Profile) :
    Run Assignment := do
  let constraints ← MonadExcept.ofExcept (ConstraintSet.ofProfiles profiles)
  let dataset ← Dataset.generate s ⟨domain, details, constraints.schema⟩
  let exercises ← profiles.mapM fun p => Exercise.generate s dataset (.ofProfile p)
  return ⟨dataset, exercises⟩

/-- Generates an assignment for picks from a registry. -/
def generate (r : Registry) (s : Settings) (domain : String) (details : List String)
    (picks : List Pick) : Run Assignment := do
  let profiles ← MonadExcept.ofExcept (picks.mapM fun (id, d) => r.profile id d)
  generateFor s domain details profiles

end Assignment

end QueryDrill
