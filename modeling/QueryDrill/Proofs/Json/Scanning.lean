import QueryDrill.Json.Print
import QueryDrill.Json.Read
/-!
Strings and sizes are read as they are printed.

A string is read up to its closing quote, whatever comes after (`stringBody_printed`). A number is read as far as it
goes, so it must not go on with what comes after (`numberBody_printed`).
-/

namespace QueryDrill.JsonReader

open Json

/-! ## 1. Blanks -/

theorem skipBlanks_append {blanks : List Char} (h : ∀ c ∈ blanks, isJsonBlank c = true) (cs : List Char) :
    skipBlanks (blanks ++ cs) = skipBlanks cs :=
  List.dropWhile_append_of_pos h

theorem skipBlanks_cons {c : Char} (h : isJsonBlank c = false) (cs : List Char) :
    skipBlanks (c :: cs) = c :: cs :=
  List.dropWhile_cons_of_neg (by simp [h])

/-! ## 2. Strings -/

theorem hexDigit?_hexText {n : Nat} (h : n < 16) : hexDigit? (hexText n) = some n := by
  have hall : ∀ n < 16, hexDigit? (hexText n) = some n := by decide
  exact hall n h

/-- A control character is read from its code. -/
theorem escape_code {c : Char} (h : c.toNat < 32) (rest : List Char) :
    escape ('u' :: '0' :: '0' :: hexText (c.toNat / 16) :: hexText (c.toNat % 16) :: rest) = .ok (c, rest) := by
  have hdigits : fourHexDigits? '0' '0' (hexText (c.toNat / 16)) (hexText (c.toNat % 16)) = some c.toNat := by
    have hzero : hexDigit? '0' = some 0 := rfl
    rw [fourHexDigits?, hexDigit?_hexText (by omega : c.toNat / 16 < 16), hexDigit?_hexText (by omega), hzero]
    show some (((0 * 16 + 0) * 16 + c.toNat / 16) * 16 + c.toNat % 16) = some c.toNat
    exact congrArg some (by omega)
  have hunit : codeUnit ('0' :: '0' :: hexText (c.toNat / 16) :: hexText (c.toNat % 16) :: rest) =
      .ok (c.toNat, rest) := by
    rw [codeUnit, hdigits]
  have htrailing : isTrailing c.toNat = false := by simp [isTrailing]; omega
  have hleading : isLeading c.toNat = false := by simp [isLeading]; omega
  show codedChar _ = _
  rw [codedChar, hunit]
  simp only [bind, Except.bind, htrailing, hleading]
  show Except.ok (Char.ofNat c.toNat, rest) = _
  rw [Char.ofNat_toNat]

theorem stringChars_escape {cs rest : List Char} {c : Char} (h : escape cs = .ok (c, rest)) (fuel : Nat) :
    stringChars (fuel + 1) ('\\' :: cs) = (stringChars fuel rest).map fun x => (c :: x.1, x.2) := by
  rw [stringChars, if_neg (by decide), if_pos rfl, h]
  show (stringChars fuel rest >>= fun x => pure (c :: x.1, x.2)) = _
  cases stringChars fuel rest <;> rfl

/-- A printed character is read back. -/
theorem stringChars_escapedChar (fuel : Nat) (c : Char) (rest : List Char) :
    stringChars (fuel + 1) (escapedChar c ++ rest) = (stringChars fuel rest).map fun x => (c :: x.1, x.2) := by
  unfold escapedChar
  split
  case h_8 hquote hslash _ _ _ _ _ =>
    split
    · exact stringChars_escape (escape_code ‹_› rest) fuel
    · rename_i hcontrol
      have hplain : isControl c = false := by simpa [isControl] using hcontrol
      rw [List.singleton_append, stringChars, if_neg hquote, if_neg hslash, if_neg (by simp [hplain])]
      cases stringChars fuel rest <;> rfl
  all_goals exact stringChars_escape rfl fuel

theorem stringChars_printed {fuel : Nat} {cs : List Char} (h : cs.length < fuel) (rest : List Char) :
    stringChars fuel (cs.flatMap escapedChar ++ '"' :: rest) = .ok (cs, rest) := by
  induction cs generalizing fuel with
  | nil =>
    obtain ⟨fuel, rfl⟩ := Nat.exists_eq_add_one_of_ne_zero (by omega : fuel ≠ 0)
    rfl
  | cons c cs ih =>
    obtain ⟨fuel, rfl⟩ := Nat.exists_eq_add_one_of_ne_zero (by omega : fuel ≠ 0)
    rw [List.flatMap_cons, List.append_assoc, stringChars_escapedChar, ih (by simpa using h)]
    rfl

/-- Texts that are not empty are together at least as long as they are many. -/
theorem length_le_length_flatMap {α β : Type} {f : α → List β} {as : List α} (h : ∀ a ∈ as, f a ≠ []) :
    as.length ≤ (as.flatMap f).length := by
  induction as with
  | nil => exact Nat.le_refl 0
  | cons a as ih =>
    have hpos := List.length_pos_iff.2 (h a List.mem_cons_self)
    have hrest := ih fun b hb => h b (List.mem_cons_of_mem a hb)
    rw [List.flatMap_cons, List.length_append, List.length_cons]
    omega

theorem escapedChar_ne_nil (c : Char) : escapedChar c ≠ [] := by
  unfold escapedChar
  split
  case h_8 => split <;> exact List.cons_ne_nil _ _
  all_goals exact List.cons_ne_nil _ _

/-- A printed string is read up to its closing quote. -/
theorem stringBody_printed (s : String) (rest : List Char) :
    stringBody (s.toList.flatMap escapedChar ++ '"' :: rest) = .ok (s, rest) := by
  have hlength : s.toList.length < (s.toList.flatMap escapedChar ++ '"' :: rest).length + 1 := by
    have hflat := length_le_length_flatMap fun c (_ : c ∈ s.toList) => escapedChar_ne_nil c
    rw [List.length_append]
    omega
  rw [stringBody, stringChars_printed hlength]
  show Except.ok (String.ofList s.toList, rest) = _
  rw [String.ofList_toList]

/-! ## 3. Sizes -/

/-- A text does not go on with what a number could go on with. -/
def EndsNumber (rest : List Char) : Prop :=
  ∀ c ∈ rest.head?, c.isDigit = false ∧ c ≠ '.' ∧ isExponentMark c = false

theorem startsWithDigit_of_ends {rest : List Char} (h : EndsNumber rest) : startsWithDigit rest = false := by
  cases rest with
  | nil => rfl
  | cons c rest => exact (h c rfl).1

theorem afterDigits_of_ends {rest : List Char} (h : EndsNumber rest) (n : Nat) :
    afterDigits false n rest = .ok (.whole n, rest) := by
  cases rest with
  | nil => rfl
  | cons c rest =>
    obtain ⟨-, hpoint, hmark⟩ := h c rfl
    rw [afterDigits, if_neg hpoint, if_neg (by simp [hmark])]
    rfl

theorem le_ofDigitChars (ds : List Char) (value : Nat) : value ≤ Nat.ofDigitChars 10 ds value := by
  rw [Nat.ofDigitChars_eq_ofDigitChars_zero]
  exact Nat.le_add_right_of_le (Nat.le_mul_of_pos_left value (Nat.pow_pos (by decide)))

/-- Digits are appended as long as the number stays within the limit. -/
theorem appendDigits_printed {limit value : Nat} {ds rest : List Char} (hds : ∀ c ∈ ds, c.isDigit = true)
    (hlimit : Nat.ofDigitChars 10 ds value ≤ limit) (hrest : EndsNumber rest) :
    appendDigits limit value (ds ++ rest) = (Nat.ofDigitChars 10 ds value, ds.length, rest) := by
  induction ds generalizing value with
  | nil =>
    cases rest with
    | nil => rfl
    | cons c rest => simp [appendDigits, (hrest c rfl).1]
  | cons d ds ih =>
    rw [Nat.ofDigitChars_cons, Nat.mul_comm] at hlimit ⊢
    have hstep : value * 10 + digitValue d ≤ limit := Nat.le_trans (le_ofDigitChars ds _) hlimit
    have hrun := ih (fun c hc => hds c (List.mem_cons_of_mem d hc)) hlimit
    rw [List.cons_append, appendDigits, if_pos (by simp [hds d List.mem_cons_self, hstep])]
    have hrun : appendDigits limit (value * 10 + digitValue d) (ds ++ rest) = _ := hrun
    rw [hrun]
    rfl

/-- A positive number is not printed with a leading zero. -/
theorem exists_toDigits {n : Nat} (hn : 0 < n) :
    ∃ d ds, 0 < d ∧ d < 10 ∧ Nat.toDigits 10 n = Nat.digitChar d :: ds := by
  induction n using Nat.strongRecOn with
  | ind n ih =>
    by_cases hlt : n < 10
    · exact ⟨n, [], hn, hlt, Nat.toDigits_of_lt_base hlt⟩
    · obtain ⟨d, ds, hpos, hd, hdigits⟩ := ih (n / 10) (by omega) (by omega)
      refine ⟨d, ds ++ [Nat.digitChar (n % 10)], hpos, hd, ?_⟩
      rw [Nat.toDigits_of_base_le (by decide) (by omega), hdigits, List.cons_append]

/-- A printed size is read back. -/
theorem numberBody_printed {n : Nat} (hn : n ≤ greatestWhole) {rest : List Char} (hrest : EndsNumber rest) :
    numberBody false (Nat.toDigits 10 n ++ rest) = .ok (.whole n, rest) := by
  rcases Nat.eq_zero_or_pos n with rfl | hpos
  · show (if startsWithDigit rest then failNext .badNumber rest else afterDigits false 0 rest) = _
    rw [startsWithDigit_of_ends hrest]
    exact afterDigits_of_ends hrest 0
  · obtain ⟨d, ds, hd, hlt, hdigits⟩ := exists_toDigits hpos
    have hds : ∀ c ∈ ds, c.isDigit = true := fun c hc =>
      Nat.isDigit_of_mem_toDigits (by decide) (by decide) (hdigits ▸ List.mem_cons_of_mem _ hc)
    have hvalue : Nat.ofDigitChars 10 ds (digitValue (Nat.digitChar d)) = n := by
      have htotal := Nat.ofDigitChars_ten_toDigits (n := n)
      rw [hdigits, Nat.ofDigitChars_cons, Nat.mul_zero, Nat.zero_add] at htotal
      exact htotal
    have hrun := appendDigits_printed hds (Nat.le_trans (Nat.le_of_eq hvalue) hn) hrest
    rw [hvalue] at hrun
    have hzero : Nat.digitChar d ≠ '0' := fun h =>
      Nat.pos_iff_ne_zero.1 hd (Nat.digitChar_eq_zero.1 h)
    have hdigit : (Nat.digitChar d).isDigit = true := by
      rw [Nat.isDigit_digitChar]
      exact decide_eq_true hlt
    rw [hdigits, List.cons_append, numberBody, if_neg hzero, if_pos hdigit, hrun]
    show (if startsWithDigit rest then longNumber false n rest else afterDigits false n rest) = _
    rw [startsWithDigit_of_ends hrest]
    exact afterDigits_of_ends hrest n

end QueryDrill.JsonReader
