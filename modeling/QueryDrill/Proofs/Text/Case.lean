import QueryDrill.Text.Case
/-!
Upper and lower case of texts.

* `lower_eq_of_upper_eq`: of texts that are made of ASCII letters and underscores, the upper-case form
  determines the lower-case form.
* `lower_lower`: the lower-case form of a text is its own lower-case form. This is a fact about the tables: no
  run of them leads to a character that a run covers (`isApart_lowerRuns`). Runs are compared as ranges, not
  character by character.
-/

namespace QueryDrill.Text

/-! ## 1. Plain texts -/

/-- Whether a text is made of ASCII letters and underscores. -/
def isPlain (s : String) : Bool := s.toList.all fun c => c.isAlpha || c == '_'

theorem toNat_lt_of_plain {c : Char} (h : (c.isAlpha || c == '_') = true) : c.toNat < 0x80 := by
  delta Char.isAlpha Char.isUpper Char.isLower at h
  simp only [Bool.or_eq_true, Bool.and_eq_true, decide_eq_true_eq, beq_iff_eq] at h
  rcases h with (⟨-, h⟩ | ⟨-, h⟩) | rfl
  · exact Nat.lt_of_le_of_lt (UInt32.le_iff_toNat_le.mp h) (by decide)
  · exact Nat.lt_of_le_of_lt (UInt32.le_iff_toNat_le.mp h) (by decide)
  · decide

/-- What holds of all ASCII characters can be found by running through them. -/
theorem ascii_ind {p : Char → Prop} (h : ∀ n < 0x80, p (Char.ofNat n)) {c : Char}
    (hc : c.toNat < 0x80) : p c :=
  Char.ofNat_toNat c ▸ h c.toNat hc

theorem toList_upper_of_plain {s : String} (h : isPlain s = true) :
    (upper s).toList = s.toList.map Char.toUpper := by
  rw [upper, String.toList_ofList, List.map_eq_flatMap, List.flatMap_def, List.flatMap_def]
  refine congrArg List.flatten (List.map_congr_left fun c hc => ?_)
  rw [upperChar, if_pos (toNat_lt_of_plain (List.all_eq_true.mp h c hc))]

theorem lowerAfter_of_plain {cs : List Char} (h : (cs.all fun c => c.isAlpha || c == '_') = true)
    (before : List Char) : lowerAfter before cs = cs.map Char.toLower := by
  induction cs generalizing before with
  | nil => rfl
  | cons c cs ih =>
    rw [List.all_cons, Bool.and_eq_true] at h
    have hc := toNat_lt_of_plain h.1
    have hsigma : c ≠ 'Σ' := by
      rintro rfl
      exact absurd hc (by decide)
    rw [lowerAfter, if_neg hsigma, lowerChar, if_pos hc, ih h.2, List.map_cons, List.singleton_append]

theorem toList_lower_of_plain {s : String} (h : isPlain s = true) :
    (lower s).toList = s.toList.map Char.toLower := by
  rw [lower, String.toList_ofList, lowerAfter_of_plain h]

/-- The upper-case form of a plain text determines its lower-case form. -/
theorem lower_eq_of_upper_eq {s t : String} (hs : isPlain s = true) (ht : isPlain t = true)
    (h : upper s = upper t) : lower s = lower t := by
  have hlower {s : String} (hs : isPlain s = true) : (lower s).toList = (upper s).toList.map Char.toLower := by
    rw [toList_lower_of_plain hs, toList_upper_of_plain hs, List.map_map]
    refine List.map_congr_left fun c hc => ?_
    exact ascii_ind (p := fun c => c.toLower = c.toUpper.toLower) (by decide)
      (toNat_lt_of_plain (List.all_eq_true.mp hs c hc))
  rw [← String.toList_inj, hlower hs, hlower ht, h]

/-- The upper-case form of a plain text is plain. -/
theorem isPlain_upper {s : String} (h : isPlain s = true) : isPlain (upper s) = true := by
  rw [isPlain, toList_upper_of_plain h, List.all_map, List.all_eq_true]
  intro c hc
  have hplain := List.all_eq_true.mp h c hc
  exact ascii_ind (p := fun c => (c.isAlpha || c == '_') = true →
    (c.toUpper.isAlpha || c.toUpper == '_') = true) (by decide) (toNat_lt_of_plain hplain) hplain

/-! ## 2. Lower case is stable -/

/-- Whether a run covers a code point. -/
def CaseRun.covers (r : CaseRun) (n : Nat) : Bool := r.1 ≤ n && n ≤ r.2.1 && (n - r.1) % r.2.2.1 == 0

theorem runTarget_eq_some {runs : List CaseRun} {n m : Nat} (h : runTarget runs n = some m) :
    ∃ r ∈ runs, r.covers n = true ∧ m = r.2.2.2 + (n - r.1) := by
  obtain ⟨r, hr, hm⟩ := List.exists_of_findSome?_eq_some h
  dsimp only at hm
  split at hm
  · next hcovers => exact ⟨r, hr, hcovers, (Option.some.inj hm).symm⟩
  · cases hm

theorem runTarget_eq_none {runs : List CaseRun} {n : Nat} (h : ∀ r ∈ runs, r.covers n = false) :
    runTarget runs n = none := by
  refine List.findSome?_eq_none_iff.mpr fun r hr => if_neg ?_
  exact (Bool.not_eq_true _).mpr (h r hr)

/-- Whether the targets of a run are before, behind or in the gaps of another run. -/
def CaseRun.isApart (r r' : CaseRun) : Bool :=
  Nat.blt (r.2.2.2 + (r.2.1 - r.1)) r'.1 || Nat.blt r'.2.1 r.2.2.2
    || ((r.2.2.1 == 2 || r.1 == r.2.1) && r'.2.2.1 == 2 && !(r.2.2.2 % 2 == r'.1 % 2))

theorem CaseRun.covers_target {r r' : CaseRun} (h : r.isApart r' = true) {n : Nat}
    (hn : r.covers n = true) : r'.covers (r.2.2.2 + (n - r.1)) = false := by
  obtain ⟨first, last, step, target⟩ := r
  obtain ⟨first', last', step', target'⟩ := r'
  simp only [isApart, covers, Bool.or_eq_true, Bool.and_eq_true, Nat.blt_eq, beq_iff_eq,
    Bool.not_eq_true', beq_eq_false_iff_ne, decide_eq_true_eq, Bool.and_eq_false_iff,
    decide_eq_false_iff_not] at *
  rcases h with (h | h) | ⟨⟨rfl | rfl, rfl⟩, h⟩ <;> omega

/-- All runs, with those of ASCII and of the characters that are listed one by one. -/
def lowerSources : List CaseRun := (65, 90, 1, 97) :: (304, 304, 1, 0) :: lowerRuns

/-- No run leads to what a run covers. -/
theorem isApart_lowerRuns : (lowerRuns.all fun r => lowerSources.all r.isApart) = true := by
  decide +kernel

/-- What no run covers is in lower case. -/
theorem lowerChar_eq_self {c : Char} (h : ∀ r ∈ lowerSources, r.covers c.toNat = false) :
    lowerChar c = [c] := by
  unfold lowerChar
  split
  · next hascii =>
    have hupper := h (65, 90, 1, 97) (.head _)
    refine congrArg ([·]) ?_
    revert hupper
    exact ascii_ind (p := fun c => CaseRun.covers (65, 90, 1, 97) c.toNat = false → c.toLower = c)
      (by decide) hascii
  · next hascii =>
    have hlisted : c.toNat ≠ 304 := by
      intro heq
      have hlisted := h (304, 304, 1, 0) (.tail _ (.head _))
      rw [heq] at hlisted
      exact absurd hlisted (by decide)
    have hlookup : lowerExpansions.lookup c.toNat = none := by
      simp [lowerExpansions, hlisted]
    rw [mapByTable, hlookup, runTarget_eq_none fun r hr => h r (.tail _ (.tail _ hr))]

/-- The character of a code point, or that of zero where there is none. -/
theorem toNat_ofNat (n : Nat) : (Char.ofNat n).toNat = n ∨ Char.ofNat n = Char.ofNat 0 := by
  by_cases h : n.isValidChar
  · exact .inl (congrArg Char.toNat (dif_pos h))
  · exact .inr (dif_neg h)

/-- The lower-case form of a character is in lower case. -/
theorem lowerChar_of_mem {c d : Char} (h : d ∈ lowerChar c) : lowerChar d = [d] := by
  unfold lowerChar at h
  split at h
  · next hascii =>
    obtain rfl := List.mem_singleton.mp h
    exact ascii_ind (p := fun c => lowerChar c.toLower = [c.toLower]) (by decide +kernel) hascii
  · next hascii =>
    unfold mapByTable at h
    split at h
    · next ns hns =>
      have hlisted : ∀ e ∈ lowerExpansions, ∀ n ∈ e.2, lowerChar (Char.ofNat n) = [Char.ofNat n] := by
        decide +kernel
      obtain ⟨n, hn, rfl⟩ := List.mem_map.mp h
      obtain ⟨before, after, hsplit, -⟩ := List.lookup_eq_some_iff.mp hns
      exact hlisted (c.toNat, ns) (by simp [hsplit]) n hn
    · next hnone =>
      split at h
      · next n hn =>
        obtain rfl := List.mem_singleton.mp h
        obtain ⟨r, hr, hcovers, rfl⟩ := runTarget_eq_some hn
        have hapart := List.all_eq_true.mp (List.all_eq_true.mp isApart_lowerRuns r hr)
        rcases toNat_ofNat (r.2.2.2 + (c.toNat - r.1)) with htarget | hzero
        · refine lowerChar_eq_self fun r' hr' => ?_
          rw [htarget]
          exact CaseRun.covers_target (hapart r' hr') hcovers
        · rw [hzero]
          rfl
      · next hn =>
        obtain rfl := List.mem_singleton.mp h
        rw [lowerChar, if_neg hascii, mapByTable, hnone, hn]

theorem ne_sigma {c : Char} (h : lowerChar c = [c]) : c ≠ 'Σ' := by
  rintro rfl
  exact absurd h (by decide)

/-- A text whose characters are in lower case stays. -/
theorem lowerAfter_eq_self {cs : List Char} (h : ∀ c ∈ cs, lowerChar c = [c]) (before : List Char) :
    lowerAfter before cs = cs := by
  induction cs generalizing before with
  | nil => rfl
  | cons c cs ih =>
    have hc := h c List.mem_cons_self
    rw [lowerAfter, if_neg (ne_sigma hc), hc, ih fun d hd => h d (.tail _ hd)]
    rfl

theorem lowerChar_of_mem_lowerAfter {cs before : List Char} {d : Char} (h : d ∈ lowerAfter before cs) :
    lowerChar d = [d] := by
  induction cs generalizing before with
  | nil => cases h
  | cons c cs ih =>
    unfold lowerAfter at h
    split at h
    · rcases List.mem_cons.mp h with rfl | h
      · split <;> rfl
      · exact ih h
    · rcases List.mem_append.mp h with h | h
      · exact lowerChar_of_mem h
      · exact ih h

/-- **Lower case is stable**: the lower-case form of a text is its own lower-case form. -/
@[simp] theorem lower_lower (s : String) : lower (lower s) = lower s := by
  rw [lower, lower, String.toList_ofList, lowerAfter_eq_self fun _ hd => lowerChar_of_mem_lowerAfter hd]

end QueryDrill.Text
