import QueryDrill.Misconception.Basic
import QueryDrill.Toml.Document
/-!
The registry of misconceptions.

It keeps them in the order in which their names were first registered. A later definition takes the place
of an earlier one of the same name.
-/

namespace QueryDrill

/-! ## 1. Lists of definitions -/

/-- Puts a definition in the place of the one with its name, or at the end. -/
def putMisconception (m : Misconception) : List Misconception → List Misconception
  | [] => [m]
  | n :: ns => if n.id = m.id then m :: ns else n :: putMisconception m ns

theorem mem_ids_putMisconception {m : Misconception} {ms : List Misconception} {id : String} :
    id ∈ (putMisconception m ms).map Misconception.id ↔ id = m.id ∨ id ∈ ms.map Misconception.id := by
  induction ms with
  | nil => simp [putMisconception]
  | cons n ns ih =>
    unfold putMisconception
    split
    · rename_i h; simp [h]
    · simp only [List.map_cons, List.mem_cons, ih]
      exact or_left_comm

theorem nodup_ids_putMisconception {m : Misconception} {ms : List Misconception}
    (h : (ms.map Misconception.id).Nodup) : ((putMisconception m ms).map Misconception.id).Nodup := by
  induction ms with
  | nil => simp [putMisconception]
  | cons n ns ih =>
    obtain ⟨hn, hns⟩ := List.nodup_cons.1 h
    unfold putMisconception
    split
    · rename_i hid
      exact List.nodup_cons.2 ⟨hid ▸ hn, hns⟩
    · rename_i hid
      refine List.nodup_cons.2 ⟨fun hmem => ?_, ih hns⟩
      exact (mem_ids_putMisconception.1 hmem).elim hid hn

/-! ## 2. The registry -/

/-- Misconceptions with different names. -/
structure Registry where
  misconceptions : List Misconception
  ids_nodup : (misconceptions.map Misconception.id).Nodup

namespace Registry

/-- The registry without misconceptions. -/
def empty : Registry := ⟨[], .nil⟩

instance : Inhabited Registry := ⟨empty⟩

/-- The number of misconceptions. -/
def size (r : Registry) : Nat := r.misconceptions.length

/-- The names of the misconceptions, in order. -/
def ids (r : Registry) : List String := r.misconceptions.map Misconception.id

/-- Registers a misconception. -/
def register (r : Registry) (m : Misconception) : Registry :=
  ⟨putMisconception m r.misconceptions, nodup_ids_putMisconception r.ids_nodup⟩

/-- Registers misconceptions one after the other. -/
def registerAll (r : Registry) (ms : List Misconception) : Registry := ms.foldl register r

/-- The misconception with a name. -/
def get? (r : Registry) (id : String) : Option Misconception := r.misconceptions.find? (·.id == id)

/-- What is said of a TOML text that does not read. -/
def tomlFault : String := "TOML parse error"

/-- Registers the misconceptions that a TOML text defines: all, or none if it does not read. -/
def load (r : Registry) (text : String) : Except Failure Registry :=
  match (Toml.parse? text).bind Misconception.listOfJson? with
  | some ms => .ok (r.registerAll ms)
  | none => .error (.registry ("Failed to parse misconception TOML: " ++ tomlFault))

/-- A misconception at a difficulty. -/
def profile (r : Registry) (id : String) (d : Difficulty) : Except Failure Profile :=
  match r.get? id with
  | none => .error (.registry ("Unknown misconception '" ++ id ++ "'"))
  | some m =>
    match m.levels.get? d with
    | none => .error (.registry ("Misconception '" ++ id ++ "' has no " ++ d.name ++ " level"))
    | some level => .ok ⟨m.id, m.title, m.description, d, level⟩

end Registry

end QueryDrill
