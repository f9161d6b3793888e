import Mathlib.Data.List.DropRight
import Mathlib.Data.List.TakeWhile
import QueryDrill.Text.Fence
/-!
Trimming and blank texts.

Trimming drops blanks only, so it changes nothing about whether a text is blank (`isBlankText_trim`), and a
text that is blank leaves nothing (`trimChars_eq_nil_iff`). A text without its fence is trimmed last of all,
so it is empty or not blank (`isBlankText_stripFence`).
-/

namespace QueryDrill.Text

/-- Nothing is dropped that could tell a blank list from another. -/
theorem all_dropWhile (p : Char → Bool) (cs : List Char) : (cs.dropWhile p).all p = cs.all p := by
  induction cs with
  | nil => rfl
  | cons c cs ih =>
    rw [List.dropWhile_cons]
    split
    · rename_i hc
      rw [ih, List.all_cons, hc, Bool.true_and]
    · rfl

theorem all_isBlank_trimChars (cs : List Char) : (trimChars cs).all isBlank = cs.all isBlank := by
  rw [trimChars, trimEndChars, List.all_reverse, all_dropWhile, List.all_reverse, trimStartChars,
    all_dropWhile]

/-- Trimming leaves nothing just of a blank text. -/
theorem trimChars_eq_nil_iff {cs : List Char} : trimChars cs = [] ↔ cs.all isBlank = true := by
  rw [trimChars, trimEndChars, List.reverse_eq_nil_iff, List.dropWhile_eq_nil_iff, trimStartChars,
    ← all_dropWhile isBlank cs, List.all_eq_true]
  simp only [List.mem_reverse]

@[simp] theorem isBlankText_trim (s : String) : isBlankText (trim s) = isBlankText s := by
  simp [isBlankText, trim, all_isBlank_trimChars]

/-- What is trimmed is empty or not blank. -/
theorem all_isBlank_trimChars_of_ne_nil {cs : List Char} (h : trimChars cs ≠ []) :
    (trimChars cs).all isBlank = false := by
  rw [all_isBlank_trimChars]
  exact Bool.eq_false_iff.2 fun hall => h (trimChars_eq_nil_iff.2 hall)

/-- What is dropped at the end can be put back. -/
theorem exists_eq_append (p : Char → Bool) (cs : List Char) :
    ∃ ending, cs = (cs.reverse.dropWhile p).reverse ++ ending ∧ ∀ c ∈ ending, p c = true := by
  refine ⟨(cs.reverse.takeWhile p).reverse, ?_, fun c hc => List.mem_takeWhile_imp (List.mem_reverse.mp hc)⟩
  rw [← List.reverse_append, List.takeWhile_append_dropWhile, List.reverse_reverse]

/-- What trimming drops at both ends is blank. -/
theorem exists_trimChars (cs : List Char) :
    ∃ opening ending, cs = opening ++ (trimChars cs ++ ending) ∧ (∀ c ∈ opening, isBlank c = true) ∧
      ∀ c ∈ ending, isBlank c = true := by
  obtain ⟨ending, hending, hblank⟩ := exists_eq_append isBlank (trimStartChars cs)
  refine ⟨cs.takeWhile isBlank, ending, ?_, fun c hc => List.mem_takeWhile_imp hc, hblank⟩
  calc cs = cs.takeWhile isBlank ++ trimStartChars cs := List.takeWhile_append_dropWhile.symm
    _ = cs.takeWhile isBlank ++ (trimChars cs ++ ending) := congrArg (cs.takeWhile isBlank ++ ·) hending

/-- A text that is trimmed has nothing more to trim. -/
theorem trimChars_trimChars (cs : List Char) : trimChars (trimChars cs) = trimChars cs := by
  have hstart : trimStartChars (trimChars cs) = trimChars cs := by
    -- the first character that stays is the first one that is not blank
    have hself : (trimStartChars cs).dropWhile isBlank = trimStartChars cs :=
      List.dropWhile_idempotent isBlank cs
    obtain ⟨ending, hending, -⟩ := exists_eq_append isBlank (trimStartChars cs)
    have hrest : trimStartChars cs = trimChars cs ++ ending := hending
    rcases htrim : trimChars cs with _ | ⟨c, r⟩
    · rfl
    · rw [hrest, htrim, List.cons_append, List.dropWhile_eq_self_iff] at hself
      exact List.dropWhile_cons_of_neg (hself (Nat.succ_pos _))
  have hend : trimEndChars (trimChars cs) = trimChars cs := List.rdropWhile_idempotent isBlank _
  rw [trimChars, hstart, hend]

theorem trim_trim (s : String) : trim (trim s) = trim s := by
  rw [trim, trim, String.toList_ofList, trimChars_trimChars]

/-- A text without its fence has nothing to trim. -/
theorem trim_stripFence (s : String) : trim (stripFence s) = stripFence s := by
  rw [trim, stripFence, String.toList_ofList]
  unfold stripFenceChars
  dsimp only
  split
  · rw [trimChars_trimChars]
  · rw [trimChars_trimChars]

/-- A text without its fence is empty or not blank. -/
theorem isBlankText_stripFence {s : String} (h : (stripFence s).isEmpty = false) :
    isBlankText (stripFence s) = false := by
  have hne : stripFenceChars s.toList ≠ [] := by
    intro hnil
    simp [stripFence, hnil] at h
  rw [isBlankText, stripFence, String.toList_ofList]
  unfold stripFenceChars at hne ⊢
  dsimp only at hne ⊢
  split at hne
  · exact all_isBlank_trimChars_of_ne_nil hne
  · exact all_isBlank_trimChars_of_ne_nil hne

end QueryDrill.Text
