import Mathlib.Data.List.TakeWhile
import QueryDrill.Sql.Lexer
/-!
What a scanner finds does not change where a separator and other text follow.

A separator (`Separates`) is a semicolon, or a blank that the dialect does not take for a letter. No token goes
on with it, so a token that is complete at the end of a text is complete before a separator too. `Keeps` says so of
a scanner, with a bound on what it leaves. It is proved of each scanner in turn, up to that of a token
(`scanToken_keeps`).

One token does go on with a separator. A lone mark such as `@` at the end of a text is a symbol, but a mark takes
the character after it into a name, whichever it is save a space (`Lexeme.isOpenMark`).
-/

namespace QueryDrill.Sql

open Text

/-! ## 1. Separators -/

/-- A character that ends every token it does not stand inside: a semicolon, or a blank that the dialect does
not take for a letter. -/
def Separates (d : Dialect) (c : Char) : Prop := c = ';' ∨ (isBlank c = true ∧ d.opensName c = false)

/-- The code points of the semicolon and the blanks. -/
def separatorCodes : List Nat :=
  [0x3B, 9, 10, 11, 12, 13, 0x20, 0x85, 0xA0, 0x1680, 0x2000, 0x2001, 0x2002, 0x2003, 0x2004, 0x2005, 0x2006,
    0x2007, 0x2008, 0x2009, 0x200A, 0x2028, 0x2029, 0x202F, 0x205F, 0x3000]

/-- The characters that open, close or carry on something. -/
def marks : List Char :=
  ['\'', '"', '`', '[', ']', '$', '*', '/', '\\', '.', 'x', 'e', 'E', '+', '-', 'L', '_', '@', '#', '?']

theorem toNat_mem_separatorCodes {c : Char} (hc : isBlank c = true) : c.toNat ∈ separatorCodes := by
  simp only [isBlank, Bool.or_eq_true, Bool.and_eq_true, decide_eq_true_eq, beq_iff_eq] at hc
  simp only [separatorCodes, List.mem_cons, List.not_mem_nil, or_false]
  omega

/-- To two of the dialects no blank is a letter. -/
theorem Dialect.opensName_of_isBlank {d : Dialect} (hd : d = .generic ∨ d = .postgres) {c : Char}
    (hc : isBlank c = true) : d.opensName c = false := by
  have hall : ∀ n ∈ separatorCodes,
      generic.opensName (Char.ofNat n) = false ∧ postgres.opensName (Char.ofNat n) = false := by
    decide +kernel
  obtain ⟨hgeneric, hpostgres⟩ := Char.ofNat_toNat c ▸ hall c.toNat (toNat_mem_separatorCodes hc)
  rcases hd with rfl | rfl
  · exact hgeneric
  · exact hpostgres

namespace Separates

variable {d : Dialect} {c : Char}

/-- What holds of the semicolon and all blanks can be found by running through them. -/
theorem ind {p : Char → Prop} (h : ∀ n ∈ separatorCodes, p (Char.ofNat n)) (hc : Separates d c) : p c := by
  refine Char.ofNat_toNat c ▸ h c.toNat ?_
  rcases hc with rfl | ⟨hc, -⟩
  · decide
  · exact toNat_mem_separatorCodes hc

/-- No separator is a number, a letter, a digit or a mark. -/
theorem plain (hc : Separates d c) :
    isNumber c = false ∧ isLetter c = false ∧ c.isDigit = false ∧ isHexDigit c = false ∧ c ∉ marks :=
  hc.ind (p := fun c => isNumber c = false ∧ isLetter c = false ∧ c.isDigit = false ∧ isHexDigit c = false ∧
    c ∉ marks) (by decide +kernel)

theorem isNumber_eq (hc : Separates d c) : isNumber c = false := hc.plain.1

theorem isLetter_eq (hc : Separates d c) : isLetter c = false := hc.plain.2.1

theorem isDigit_eq (hc : Separates d c) : c.isDigit = false := hc.plain.2.2.1

theorem isHexDigit_eq (hc : Separates d c) : isHexDigit c = false := hc.plain.2.2.2.1

theorem not_mem_marks (hc : Separates d c) : c ∉ marks := hc.plain.2.2.2.2

theorem ne {m : Char} (hc : Separates d c) (hm : m ∈ marks) : c ≠ m := fun h => hc.not_mem_marks (h ▸ hm)

theorem opensName_eq (hc : Separates d c) : d.opensName c = false := by
  rcases hc with rfl | ⟨-, hc⟩
  · cases d <;> rfl
  · exact hc

theorem continuesName_eq (hc : Separates d c) : d.continuesName c = false := by
  have hopens := hc.opensName_eq
  cases d with
  | generic | postgres =>
    simp [Dialect.continuesName, hc.isLetter_eq, hc.isDigit_eq, hc.ne (m := '@') (by decide),
      hc.ne (m := '$') (by decide), hc.ne (m := '#') (by decide), hc.ne (m := '_') (by decide)]
  | mysql | sqlite => simp [Dialect.continuesName, hc.isDigit_eq, hopens]

end Separates

/-! ## 2. What a scanner leaves -/

section Keeping

variable {α β : Type} {d : Dialect} {c y : Char} {cs ys r rest : List Char}

theorem takeWhile_append_cons {p : Char → Bool} (h : p y = false) (xs ys : List Char) :
    (xs ++ y :: ys).takeWhile p = xs.takeWhile p := by
  induction xs with
  | nil => simp [h]
  | cons x xs ih =>
    rw [List.cons_append, List.takeWhile_cons, List.takeWhile_cons, ih]

theorem dropWhile_append_cons {p : Char → Bool} (h : p y = false) (xs ys : List Char) :
    (xs ++ y :: ys).dropWhile p = xs.dropWhile p ++ y :: ys := by
  induction xs with
  | nil => simp [h]
  | cons x xs ih =>
    rw [List.cons_append, List.dropWhile_cons, List.dropWhile_cons, ih]
    split <;> rfl

/-- What is scanned from a text of `n` characters leaves no more than these. It is scanned as well where more
characters follow, and they are left. -/
def Keeps (more : List Char) (n : Nat) (before after : Option (α × List Char)) : Prop :=
  ∀ a rest, before = some (a, rest) → rest.length ≤ n ∧ after = some (a, rest ++ more)

namespace Keeps

variable {more : List Char} {n m : Nat} {before after : Option (α × List Char)}

theorem missed : Keeps more n none after := fun _ _ h => nomatch h

theorem found {a : α} {rest : List Char} (h : rest.length ≤ n) :
    Keeps more n (some (a, rest)) (some (a, rest ++ more)) :=
  fun _ _ heq => by cases heq; exact ⟨h, rfl⟩

theorem mono (h : Keeps more n before after) (hn : n ≤ m) : Keeps more m before after :=
  fun a rest ha => ⟨Nat.le_trans (h a rest ha).1 hn, (h a rest ha).2⟩

theorem map (f : α → β) (h : Keeps more n before after) :
    Keeps more n (before.map fun x => (f x.1, x.2)) (after.map fun x => (f x.1, x.2)) := by
  cases before with
  | none => exact missed
  | some x =>
    obtain ⟨hn, hafter⟩ := h x.1 x.2 rfl
    rw [hafter]
    exact found hn

/-- The same where a character has been read before. -/
theorem step (f : α → β) (h : Keeps more n before after) :
    Keeps more (n + 1) (before.map fun x => (f x.1, x.2)) (after.map fun x => (f x.1, x.2)) :=
  (h.map f).mono (Nat.le_succ n)

theorem map_scanned {before after : Scanned α} (f : α → β)
    (h : Keeps more n before.toOption after.toOption) :
    Keeps more n (before.map fun x => (f x.1, x.2)).toOption (after.map fun x => (f x.1, x.2)).toOption := by
  have hmap := h.map f
  cases before <;> cases after <;> exact hmap

end Keeps

/-! ## 3. Strings, quoted names and comments -/

theorem stringBody_plain {quote : Char} {escapes : Bool} (hc : c ≠ quote)
    (hescape : ¬(decide (c = '\\') && escapes) = true) (cs : List Char) :
    stringBody escapes quote (c :: cs) = (stringBody escapes quote cs).map fun (s, r) => (c :: s, r) := by
  rw [stringBody.eq_def]
  simp only [if_neg hc, if_neg hescape]

theorem stringBody_keeps {quote : Char} (hy : Separates d y) (hquote : quote ∈ marks) (escapes : Bool)
    (cs : List Char) :
    Keeps (y :: ys) cs.length (stringBody escapes quote cs) (stringBody escapes quote (cs ++ y :: ys)) := by
  have hne := hy.ne hquote
  fun_induction stringBody escapes quote cs with
  | case1 => exact .missed
  | case2 r ih =>
    rw [List.cons_append, List.cons_append, stringBody, if_pos rfl, if_pos rfl]
    exact (ih.step (quote :: ·)).mono (Nat.le_succ _)
  | case3 c r hc =>
    rw [List.cons_append, List.cons_append, stringBody, if_pos rfl, if_neg hc]
    exact .found (Nat.le_succ _)
  | case4 =>
    rw [List.singleton_append, stringBody, if_pos rfl, if_neg hne]
    exact .found (Nat.zero_le _)
  | case5 => exact .missed
  | case6 c hc hescape n r ih =>
    rw [List.cons_append, List.cons_append, stringBody, if_neg hc, if_pos hescape]
    exact (ih.step (backslashMeaning n :: ·)).mono (Nat.le_succ _)
  | case7 c r hc hescape ih =>
    rw [List.cons_append, stringBody_plain hc hescape]
    exact ih.step (c :: ·)

theorem escapedBody_plain (hquote : c ≠ '\'') (hescape : c ≠ '\\') (cs : List Char) :
    escapedBody (c :: cs) = (escapedBody cs).map fun (s, r) => (c :: s, r) := by
  rw [escapedBody.eq_def]
  split <;> simp_all

theorem escapedBody_closed (hc : c ≠ '\'') (cs : List Char) :
    escapedBody ('\'' :: c :: cs) = some ([], c :: cs) := by
  rw [escapedBody]
  rintro r ⟨⟩
  exact hc rfl

theorem escapedBody_keeps (hy : Separates d y) (cs : List Char) :
    Keeps (y :: ys) cs.length (escapedBody cs) (escapedBody (cs ++ y :: ys)) := by
  fun_induction escapedBody cs with
  | case1 => exact .missed
  | case2 r ih =>
    rw [List.cons_append, List.cons_append, escapedBody]
    exact (ih.step ('\'' :: ·)).mono (Nat.le_succ _)
  | case3 r hr =>
    cases r with
    | nil =>
      rw [List.singleton_append, escapedBody_closed (hy.ne (by decide))]
      exact .found (Nat.zero_le _)
    | cons c r =>
      rw [List.cons_append, List.cons_append, escapedBody_closed fun h => hr r (h ▸ rfl)]
      exact .found (Nat.le_succ _)
  | case4 => exact .missed
  | case5 c r ih =>
    rw [List.cons_append, List.cons_append, escapedBody]
    exact (ih.step (escapeMeaning c :: ·)).mono (Nat.le_succ _)
  | case6 c r _ hc hlast hescape ih =>
    have hback : c ≠ '\\' := by
      cases r with
      | nil => exact fun h => hlast h rfl
      | cons c' r => exact fun h => hescape c' r h rfl
    rw [List.cons_append, escapedBody_plain hc hback]
    exact ih.step (c :: ·)

theorem nameBody_plain {close : Char} (hc : c ≠ close) (cs : List Char) :
    nameBody close (c :: cs) = (nameBody close cs).map fun (s, r) => (c :: s, r) := by
  rw [nameBody.eq_def]
  simp only [if_neg hc]

theorem nameBody_keeps {close : Char} (hy : Separates d y) (hclose : close ∈ marks) (cs : List Char) :
    Keeps (y :: ys) cs.length (nameBody close cs) (nameBody close (cs ++ y :: ys)) := by
  have hne := hy.ne hclose
  fun_induction nameBody close cs with
  | case1 => exact .missed
  | case2 r ih =>
    rw [List.cons_append, List.cons_append, nameBody, if_pos rfl, if_pos rfl]
    exact (ih.step (close :: ·)).mono (Nat.le_succ _)
  | case3 c r hc =>
    rw [List.cons_append, List.cons_append, nameBody, if_pos rfl, if_neg hc]
    exact .found (Nat.le_succ _)
  | case4 =>
    rw [List.singleton_append, nameBody, if_pos rfl, if_neg hne]
    exact .found (Nat.zero_le _)
  | case5 c r hc ih =>
    rw [List.cons_append, nameBody_plain hc]
    exact ih.step (c :: ·)

theorem dollarBody_keeps (more : List Char) (previous : Bool) (cs : List Char) :
    Keeps more cs.length (dollarBody previous cs) (dollarBody previous (cs ++ more)) := by
  fun_induction dollarBody previous cs with
  | case1 => exact .missed
  | case2 r =>
    rw [List.cons_append, dollarBody, if_pos rfl, if_pos rfl]
    exact .found (Nat.le_succ _)
  | case3 c r hc ih =>
    rw [List.cons_append, dollarBody, if_pos rfl, if_neg hc]
    exact ih.step ('$' :: c :: ·)
  | case4 p r hp ih =>
    rw [List.cons_append, dollarBody, if_neg hp, if_pos rfl]
    exact ih.mono (Nat.le_succ _)
  | case5 p c r hp hc ih =>
    rw [List.cons_append, dollarBody, if_neg hp, if_neg hc]
    exact ih.step (c :: ·)

theorem afterTag_keeps (more whole tag cs : List Char) :
    Keeps more cs.length ((afterTag whole tag cs).toOption.map ((), ·))
      ((afterTag whole tag (cs ++ more)).toOption.map ((), ·)) := by
  fun_induction afterTag whole tag cs with
  | case1 r =>
    rw [List.cons_append, afterTag]
    exact .found (Nat.le_succ _)
  | case2 => exact .missed
  | case3 => exact .missed
  | case4 t tag r ih =>
    rw [List.cons_append, afterTag, if_pos rfl]
    exact ih.mono (Nat.le_succ _)
  | case5 => exact .missed

theorem afterComment_keeps (more : List Char) (depth : Nat) (previous : Char) (cs : List Char) :
    Keeps more cs.length ((afterComment depth previous cs).map ((), ·))
      ((afterComment depth previous (cs ++ more)).map ((), ·)) := by
  fun_induction afterComment depth previous cs with
  | case1 => exact .missed
  | case2 depth p c r hopen ih =>
    rw [List.cons_append, afterComment, if_pos hopen]
    exact ih.mono (Nat.le_succ _)
  | case3 depth p c r hopen hclose hdepth =>
    rw [List.cons_append, afterComment, if_neg hopen, if_pos hclose, if_pos hdepth]
    exact .found (Nat.le_succ _)
  | case4 depth p c r hopen hclose hdepth ih =>
    rw [List.cons_append, afterComment, if_neg hopen, if_pos hclose, if_neg hdepth]
    exact ih.mono (Nat.le_succ _)
  | case5 depth p c r hopen hclose ih =>
    rw [List.cons_append, afterComment, if_neg hopen, if_neg hclose]
    exact ih.mono (Nat.le_succ _)

/-! ## 4. Words, numbers and symbols -/

theorem scanWord_keeps (hy : Separates d y) (start cs : List Char) :
    Keeps (y :: ys) cs.length (some (scanWord d start cs)) (some (scanWord d start (cs ++ y :: ys))) := by
  rw [scanWord, scanWord, takeWhile_append_cons hy.continuesName_eq, dropWhile_append_cons hy.continuesName_eq]
  exact .found (List.length_dropWhile_le _ cs)

theorem exponent?_append (hy : Separates d y) (cs : List Char) :
    exponent? (cs ++ y :: ys) = (exponent? cs).map fun x => (x.1, x.2 ++ y :: ys) := by
  have hdigit := hy.isDigit_eq
  have htake (c : Char) (r : List Char) := takeWhile_append_cons hdigit (c :: r) ys
  have hdrop (c : Char) (r : List Char) := dropWhile_append_cons hdigit (c :: r) ys
  simp only [List.cons_append] at htake hdrop
  cases cs with
  | nil => simp [exponent?, hy.ne (m := 'e') (by decide), hy.ne (m := 'E') (by decide)]
  | cons e r =>
    by_cases he : e = 'e' ∨ e = 'E'
    · rcases r with _ | ⟨s, r⟩
      · simp [exponent?, he, hy.ne (m := '+') (by decide), hy.ne (m := '-') (by decide), hdigit]
      · by_cases hs : s = '+' ∨ s = '-'
        · rcases hs with rfl | rfl <;> rcases r with _ | ⟨c, r⟩ <;>
            simp [exponent?, he, hdigit, htake, hdrop, apply_ite]
        · rw [not_or] at hs
          simp [exponent?, he, hs, htake, hdrop, apply_ite]
    · simp [exponent?, he]

theorem length_exponent?_le {cs : List Char} {x : List Char × List Char} (h : exponent? cs = some x) :
    x.2.length ≤ cs.length := by
  unfold exponent? at h
  split at h
  · next e r =>
    split at h
    · split at h
      next sign r' hsign =>
      have hr : r'.length ≤ r.length := by
        split at hsign <;> cases hsign <;> simp
      split at h
      · split at h
        · cases h
          exact Nat.le_trans (List.length_dropWhile_le _ _) (Nat.le_succ_of_le hr)
        · cases h
      · cases h
    · cases h
  · cases h

theorem startsExponent_append (hy : Separates d y) (cs : List Char) :
    startsExponent (cs ++ y :: ys) = startsExponent cs := by
  cases cs with
  | nil => simp [startsExponent, hy.ne (m := 'e') (by decide), hy.ne (m := 'E') (by decide)]
  | cons => rfl

/-- The number that is written so, perhaps with a suffix. -/
def numberToken (digits : List Char) : List Char → Token × List Char
  | 'L' :: r => (.number (String.ofList digits) true, r)
  | r => (.number (String.ofList digits) false, r)

/-- The number, the point or the word that starts with the given digits and goes on in `r`. -/
def numberFrom (d : Dialect) (digits r : List Char) : Token × List Char :=
  if digits = ['.'] then (.symbol ".", r)
  else
    let found := (exponent? r).getD ([], r)
    let word := if d.namesStartWithDigits && !startsExponent r then r.takeWhile d.continuesName else []
    if word.isEmpty then numberToken (digits ++ found.1) found.2
    else (.ofWord (String.ofList (digits ++ word)), r.dropWhile d.continuesName)

section Number

variable {whole : List Char} (hwhole : cs.takeWhile Char.isDigit = whole)
  (hrest : cs.dropWhile Char.isDigit = r)
include hwhole hrest

theorem scanNumber_hex {r' : List Char} (h₀ : whole = ['0']) (hx : r = 'x' :: r') :
    scanNumber d cs = (.prefixed 'X' (String.ofList (r'.takeWhile isHexDigit)), r'.dropWhile isHexDigit) := by
  rw [scanNumber, hwhole, hrest, h₀, hx]
  rfl

theorem scanNumber_point {r' : List Char} (hpoint : r = '.' :: r') :
    scanNumber d cs =
      numberFrom d (whole ++ ['.'] ++ r'.takeWhile Char.isDigit) (r'.dropWhile Char.isDigit) := by
  rw [scanNumber, hwhole, hrest, hpoint]
  split
  · next heq => cases heq
  · rfl

theorem scanNumber_plain (hhex : ∀ r', whole = ['0'] → r ≠ 'x' :: r') (hpoint : ∀ r', r ≠ '.' :: r') :
    scanNumber d cs = numberFrom d (whole ++ r.takeWhile Char.isDigit) (r.dropWhile Char.isDigit) := by
  rw [scanNumber, hwhole, hrest]
  split
  · next r' => exact absurd rfl (hhex r' rfl)
  · split
    next point r' hsplit =>
    split at hsplit
    · exact absurd rfl (hpoint _)
    · cases hsplit
      rw [List.append_nil]
      rfl

end Number

theorem numberToken_keeps (hy : Separates d y) (digits r : List Char) :
    Keeps (y :: ys) r.length (some (numberToken digits r)) (some (numberToken digits (r ++ y :: ys))) := by
  rcases r with _ | ⟨c, r⟩
  · have hplain : numberToken digits (y :: ys) = (.number (String.ofList digits) false, y :: ys) := by
      simp [numberToken, hy.ne (m := 'L') (by decide)]
    rw [List.nil_append, hplain]
    exact .found (Nat.le_refl 0)
  · by_cases hc : c = 'L'
    · subst hc
      exact .found (Nat.le_succ _)
    · simpa [numberToken, hc] using Keeps.found (Nat.le_refl (c :: r).length)

theorem numberFrom_keeps (hy : Separates d y) (digits r : List Char) :
    Keeps (y :: ys) r.length (some (numberFrom d digits r)) (some (numberFrom d digits (r ++ y :: ys))) := by
  have hfound : (exponent? (r ++ y :: ys)).getD ([], r ++ y :: ys) =
      (((exponent? r).getD ([], r)).1, ((exponent? r).getD ([], r)).2 ++ y :: ys) := by
    rw [exponent?_append hy]
    cases exponent? r <;> rfl
  have hlength : ((exponent? r).getD ([], r)).2.length ≤ r.length := by
    cases h : exponent? r with
    | none => exact Nat.le_refl _
    | some x => exact length_exponent?_le h
  unfold numberFrom
  rw [startsExponent_append hy, takeWhile_append_cons hy.continuesName_eq,
    dropWhile_append_cons hy.continuesName_eq, hfound]
  dsimp only
  split
  · exact .found (Nat.le_refl _)
  · split <;> split
    · exact (numberToken_keeps hy _ _).mono hlength
    · exact .found (List.length_dropWhile_le _ r)
    · exact (numberToken_keeps hy _ _).mono hlength
    · exact .found (List.length_dropWhile_le _ r)

theorem scanNumber_keeps (hy : Separates d y) (hc : (c.isDigit || decide (c = '.')) = true) (r : List Char) :
    Keeps (y :: ys) r.length (some (scanNumber d (c :: r))) (some (scanNumber d (c :: (r ++ y :: ys)))) := by
  have hwhole := takeWhile_append_cons hy.isDigit_eq (c :: r) ys
  have hrest := dropWhile_append_cons hy.isDigit_eq (c :: r) ys
  have hlength := List.length_dropWhile_le Char.isDigit (c :: r)
  rw [List.cons_append] at hwhole hrest
  rcases hr : (c :: r).dropWhile Char.isDigit with _ | ⟨c', r'⟩
  · have hx := hy.ne (m := 'x') (by decide)
    have hpoint := hy.ne (m := '.') (by decide)
    rw [hr, List.nil_append] at hrest
    rw [scanNumber_plain hwhole hrest (fun _ _ h => hx (List.cons.inj h).1)
      (fun _ h => hpoint (List.cons.inj h).1),
      scanNumber_plain rfl hr (fun _ _ h => nomatch h) (fun _ h => nomatch h), List.takeWhile_nil, List.dropWhile_nil,
      List.takeWhile_cons_of_neg (a := y) (by simp [hy.isDigit_eq]),
      List.dropWhile_cons_of_neg (a := y) (by simp [hy.isDigit_eq])]
    exact (numberFrom_keeps hy _ []).mono (Nat.zero_le _)
  · rw [hr, List.length_cons, List.length_cons] at hlength
    have hlength := Nat.le_of_succ_le_succ hlength
    rw [hr, List.cons_append] at hrest
    by_cases hpoint : c' = '.'
    · rw [scanNumber_point hwhole hrest (by rw [hpoint]), scanNumber_point rfl hr (by rw [hpoint]),
        takeWhile_append_cons hy.isDigit_eq, dropWhile_append_cons hy.isDigit_eq]
      exact (numberFrom_keeps hy _ _).mono (Nat.le_trans (List.length_dropWhile_le _ r') hlength)
    · -- What follows the digits is no point, so there is a digit in front.
      have hdigit : c.isDigit = true := by
        by_contra h
        rw [List.dropWhile_cons_of_neg h] at hr
        rw [Bool.eq_false_iff.mpr h, Bool.false_or, decide_eq_true_eq] at hc
        exact hpoint ((List.cons.inj hr).1.symm.trans hc)
      have hlength' := List.length_dropWhile_le Char.isDigit r
      rw [← List.dropWhile_cons_of_pos hdigit, hr] at hlength'
      have hpoint (r r' : List Char) : c' :: r ≠ '.' :: r' := fun h => hpoint (List.cons.inj h).1
      by_cases hhex : (c :: r).takeWhile Char.isDigit = ['0'] ∧ c' = 'x'
      · rw [scanNumber_hex hwhole hrest hhex.1 (by rw [hhex.2]), scanNumber_hex rfl hr hhex.1 (by rw [hhex.2]),
          takeWhile_append_cons hy.isHexDigit_eq, dropWhile_append_cons hy.isHexDigit_eq]
        exact .found (Nat.le_trans (List.length_dropWhile_le _ r') hlength)
      · have hhex (s s' : List Char) (h : (c :: r).takeWhile Char.isDigit = ['0']) : c' :: s ≠ 'x' :: s' :=
          fun hc => hhex ⟨h, (List.cons.inj hc).1⟩
        rw [scanNumber_plain hwhole hrest (hhex _) (hpoint _), scanNumber_plain rfl hr (hhex _) (hpoint _),
          ← List.cons_append, takeWhile_append_cons hy.isDigit_eq, dropWhile_append_cons hy.isDigit_eq]
        exact (numberFrom_keeps hy _ _).mono (Nat.le_trans (List.length_dropWhile_le _ _) hlength')

/-! ## 5. Symbols and lexemes -/

theorem dropPrefix?_append {p : List Char} (hp : y ∉ p) (cs : List Char) :
    dropPrefix? p (cs ++ y :: ys) = (dropPrefix? p cs).map (· ++ y :: ys) := by
  fun_induction dropPrefix? p cs with
  | case1 => rfl
  | case2 p ps =>
    have hne : p ≠ y := fun h => hp (h ▸ List.mem_cons_self)
    rw [List.nil_append, dropPrefix?, if_neg hne, Option.map_none]
  | case3 ps c cs ih =>
    rw [List.cons_append, dropPrefix?, if_pos rfl]
    exact ih fun h => hp (.tail _ h)
  | case4 p ps c cs hc => rw [List.cons_append, dropPrefix?, if_neg hc, Option.map_none]

theorem length_of_dropPrefix? {p cs rest : List Char} (h : dropPrefix? p cs = some rest) :
    rest.length + p.length = cs.length := by
  fun_induction dropPrefix? p cs with
  | case1 => cases h; rfl
  | case2 => cases h
  | case3 ps c cs ih =>
    have := ih h
    simp only [List.length_cons]
    omega
  | case4 => cases h

/-- Every symbol has a first character, and no separator after it. -/
theorem symbolTable_plain :
    ∀ e ∈ symbolTable, e.1 ≠ [] ∧ ∀ n ∈ separatorCodes, Char.ofNat n ∉ e.1.tail := by
  decide +kernel

theorem findSome?_eq_map {f g : α → Option β} {h : β → β} {l : List α}
    (hl : ∀ e ∈ l, f e = (g e).map h) : l.findSome? f = (l.findSome? g).map h := by
  induction l with
  | nil => rfl
  | cons e l ih =>
    rw [List.findSome?_cons, List.findSome?_cons, hl e List.mem_cons_self, ih fun e he => hl e (.tail _ he)]
    cases g e <;> rfl

theorem scanSymbol?_append (hy : Separates d y) (c : Char) (r : List Char) :
    scanSymbol? (c :: (r ++ y :: ys)) = (scanSymbol? (c :: r)).map fun x => (x.1, x.2 ++ y :: ys) := by
  have hentry (e : List Char × String) (he : e ∈ symbolTable) :
      dropPrefix? e.1 (c :: (r ++ y :: ys)) = (dropPrefix? e.1 (c :: r)).map (· ++ y :: ys) := by
    obtain ⟨hne, htail⟩ := symbolTable_plain e he
    rcases e with ⟨_ | ⟨p, ps⟩, name⟩
    · exact absurd rfl hne
    · have hy := hy.ind (p := (· ∉ ps)) htail
      by_cases hp : p = c
      · rw [dropPrefix?, if_pos hp, dropPrefix?, if_pos hp, dropPrefix?_append hy]
      · rw [dropPrefix?, if_neg hp, dropPrefix?, if_neg hp, Option.map_none]
  refine findSome?_eq_map fun (spelling, name) he => ?_
  have hspelling := hentry (spelling, name) he
  dsimp only at hspelling ⊢
  rw [hspelling, Option.map_map, Option.map_map]
  rfl

theorem length_scanSymbol?_le {x : Token × List Char} (h : scanSymbol? (c :: r) = some x) :
    x.2.length ≤ r.length := by
  obtain ⟨⟨spelling, name⟩, he, hx⟩ := List.exists_of_findSome?_eq_some h
  obtain ⟨rest, hrest, rfl⟩ := Option.map_eq_some_iff.mp hx
  have hlength := length_of_dropPrefix? hrest
  have hne : 0 < spelling.length := List.length_pos_iff.mpr (symbolTable_plain _ he).1
  rw [List.length_cons] at hlength
  show rest.length ≤ r.length
  omega

theorem scanMarked_keeps (hy : Separates d y) {mark cs : List Char}
    (hcs : cs = [] → mark.all d.opensName = false) :
    Keeps (y :: ys) cs.length (some (scanMarked d mark cs)) (some (scanMarked d mark (cs ++ y :: ys))) := by
  cases cs with
  | nil =>
    rw [List.nil_append, scanMarked, scanMarked, hcs rfl, Bool.and_false, if_neg Bool.false_ne_true]
    exact .found (Nat.le_refl 0)
  | cons c r =>
    rw [List.cons_append, scanMarked, scanMarked]
    split
    · exact (scanWord_keeps hy _ r).mono (Nat.le_succ _)
    · exact .found (Nat.le_refl _)

theorem scanString_keeps (hy : Separates d y) {quote : Char} (hquote : quote ∈ marks) (c : Char)
    (r : List Char) :
    Keeps (y :: ys) r.length (scanString d quote (c :: r)).toOption
      (scanString d quote (c :: (r ++ y :: ys))).toOption := by
  have hbody : Keeps (y :: ys) _ _ _ := stringBody_keeps hy hquote d.backslashEscapes r
  rw [scanString, scanString, List.drop_one, List.drop_one, List.tail_cons, List.tail_cons]
  generalize stringBody d.backslashEscapes quote r = before at *
  generalize stringBody d.backslashEscapes quote (r ++ y :: ys) = after at *
  rcases before with _ | ⟨s, r⟩ <;> rcases after with _ | ⟨s', r'⟩ <;> exact hbody.map String.ofList

theorem scanPrefixed_plain {r : List Char} (hsingle : ∀ r', r ≠ '\'' :: r') (hdouble : ∀ r', r ≠ '"' :: r') :
    scanPrefixed d c r = .ok (scanWord d [c] r) := by
  rw [scanPrefixed]
  · exact fun r' h => hsingle r' h
  · exact fun r' h => hdouble r' h

theorem scanPrefixed_keeps (hy : Separates d y) (c : Char) (r : List Char) :
    Keeps (y :: ys) r.length (scanPrefixed d c r).toOption (scanPrefixed d c (r ++ y :: ys)).toOption := by
  have hword : Keeps (y :: ys) _ _ _ := scanWord_keeps hy [c] r
  rcases r with _ | ⟨q, r⟩
  · have hsingle := hy.ne (m := '\'') (by decide)
    have hdouble := hy.ne (m := '"') (by decide)
    rw [List.nil_append, scanPrefixed_plain (fun _ h => hsingle (List.cons.inj h).1)
      (fun _ h => hdouble (List.cons.inj h).1)]
    exact hword
  · by_cases hsingle : q = '\''
    · subst hsingle
      simp only [List.cons_append, scanPrefixed]
      split
      · have hbody : Keeps (y :: ys) _ _ _ :=
          (escapedBody_keeps hy r).step fun s => Token.escaped (String.ofList s)
        generalize escapedBody r = before at *
        generalize escapedBody (r ++ y :: ys) = after at *
        rcases before with _ | ⟨s, r⟩ <;> rcases after with _ | ⟨s', r'⟩ <;> exact hbody
      · split
        · have hstring : Keeps (y :: ys) _ _ _ := scanString_keeps hy (show '\'' ∈ marks by decide) '\'' r
          exact (hstring.map_scanned _).mono (Nat.le_succ _)
        · exact hword
    · by_cases hdouble : q = '"'
      · subst hdouble
        simp only [List.cons_append, scanPrefixed]
        split
        · have hstring : Keeps (y :: ys) _ _ _ := scanString_keeps hy (show '"' ∈ marks by decide) '"' r
          exact (hstring.map_scanned fun s => if c.toUpper = 'B' then Token.doubleQuotedBytes s
            else .prefixed 'R' s).mono (Nat.le_succ _)
        · exact hword
      · rw [List.cons_append, scanPrefixed_plain (fun _ h => hsingle (List.cons.inj h).1)
          (fun _ h => hdouble (List.cons.inj h).1), scanPrefixed_plain (fun _ h => hsingle (List.cons.inj h).1)
          (fun _ h => hdouble (List.cons.inj h).1)]
        exact hword

theorem taggedBody_keeps (more tag cs : List Char) :
    Keeps more cs.length (taggedBody tag cs).toOption (taggedBody tag (cs ++ more)).toOption := by
  have hlength := List.length_dropWhile_le (· ≠ '$') cs
  unfold taggedBody
  rw [List.dropWhile_append, List.takeWhile_append]
  rcases hrest : cs.dropWhile (· ≠ '$') with _ | ⟨q, r⟩
  · exact .missed
  · have htake : (cs.takeWhile (· ≠ '$')).length ≠ cs.length := by
      have := congrArg List.length (List.takeWhile_append_dropWhile (p := (· ≠ '$')) (l := cs))
      rw [hrest, List.length_append, List.length_cons] at this
      omega
    rw [hrest, List.length_cons] at hlength
    rw [if_neg htake, List.isEmpty_cons, if_neg Bool.false_ne_true, List.cons_append]
    dsimp only
    have hclosed := (afterTag_keeps more tag tag r).map fun _ => cs.takeWhile (· ≠ '$')
    generalize afterTag tag tag r = before at *
    generalize afterTag tag tag (r ++ more) = after at *
    refine Keeps.mono (n := r.length) ?_ (Nat.le_of_succ_le hlength)
    cases before <;> cases after <;> exact hclosed

/-- Whether a character may stand in the tag of a string. -/
def inTag (c : Char) : Bool := isLetter c || isNumber c || c == '_'

theorem Separates.inTag_eq {d : Dialect} {c : Char} (hc : Separates d c) : inTag c = false := by
  simp [inTag, hc.isLetter_eq, hc.isNumber_eq, hc.ne (m := '_') (by decide)]

theorem scanDollar_tagged {r r' : List Char} (hr : ∀ r', r ≠ '$' :: r')
    (hrest : r.dropWhile inTag = '$' :: r') :
    scanDollar (c :: r) = (taggedBody (r.takeWhile inTag) r').map fun x =>
      (.dollarQuoted (if (r.takeWhile inTag).isEmpty then none else some (String.ofList (r.takeWhile inTag)))
        (String.ofList x.1), x.2) := by
  rw [scanDollar]
  split
  · next r' h => exact absurd h (hr r')
  · dsimp only
    split
    · next heq =>
      cases heq.symm.trans hrest
      split
      · next hbody => rw [show taggedBody (r.takeWhile inTag) r' = _ from hbody]; rfl
      · next hbody => rw [show taggedBody (r.takeWhile inTag) r' = _ from hbody]; rfl
    · next hne => exact absurd hrest (hne r')

theorem scanDollar_plain {r : List Char} (hr : ∀ r', r ≠ '$' :: r')
    (hrest : ∀ r', r.dropWhile inTag ≠ '$' :: r') :
    scanDollar (c :: r) =
      .ok (.placeholder (String.ofList ('$' :: r.takeWhile inTag)), r.dropWhile inTag) := by
  rw [scanDollar]
  split
  · next r' h => exact absurd h (hr r')
  · dsimp only
    split
    · next r' heq => exact absurd heq (hrest r')
    · rfl

theorem scanDollar_keeps (hy : Separates d y) (c : Char) (r : List Char) :
    Keeps (y :: ys) r.length (scanDollar (c :: r)).toOption (scanDollar (c :: (r ++ y :: ys))).toOption := by
  have hdollar := hy.ne (m := '$') (by decide)
  by_cases hr : ∃ r', r = '$' :: r'
  · obtain ⟨r, rfl⟩ := hr
    have hbody := (dollarBody_keeps (y :: ys) false r).step
      fun s => Token.dollarQuoted none (String.ofList s)
    simp only [scanDollar, List.drop_one, List.tail_cons, List.cons_append]
    generalize dollarBody false r = before at *
    generalize dollarBody false (r ++ y :: ys) = after at *
    rcases before with _ | ⟨s, r⟩ <;> rcases after with _ | ⟨s', r'⟩ <;> exact hbody
  · have hr (r' : List Char) : r ≠ '$' :: r' := fun h => hr ⟨r', h⟩
    have hafter (r' : List Char) : r ++ y :: ys ≠ '$' :: r' := by
      rcases r with _ | ⟨q, r⟩
      · exact fun h => hdollar (List.cons.inj h).1
      · exact fun h => hr r (by rw [(List.cons.inj h).1])
    have hlength := List.length_dropWhile_le inTag r
    have htake := takeWhile_append_cons hy.inTag_eq r ys
    have hdrop := dropWhile_append_cons hy.inTag_eq r ys
    rcases hrest : r.dropWhile inTag with _ | ⟨q, rest⟩
    · rw [hrest, List.nil_append] at hdrop
      rw [scanDollar_plain hr fun r' h => (nomatch hrest.symm.trans h),
        scanDollar_plain hafter fun r' h => hdollar (List.cons.inj (hdrop.symm.trans h)).1, htake, hdrop, hrest]
      exact .found (Nat.zero_le _)
    · rw [hrest] at hlength
      rw [hrest, List.cons_append] at hdrop
      by_cases hq : q = '$'
      · subst hq
        rw [scanDollar_tagged hr hrest, scanDollar_tagged hafter hdrop, htake]
        exact ((taggedBody_keeps (y :: ys) _ rest).map_scanned fun s =>
          Token.dollarQuoted
            (if (r.takeWhile inTag).isEmpty then none else some (String.ofList (r.takeWhile inTag)))
            (String.ofList s)).mono (Nat.le_of_succ_le hlength)
      · rw [scanDollar_plain hr fun r' h => hq (List.cons.inj (hrest.symm.trans h)).1,
          scanDollar_plain hafter fun r' h => hq (List.cons.inj (hdrop.symm.trans h)).1, htake, hdrop, hrest]
        exact .found hlength

/-- The lexeme that starts with `c` and goes on in `r` where no symbol starts so. -/
def scanRest (d : Dialect) (c : Char) (r : List Char) : Scanned Lexeme :=
  let token : Token × List Char → Lexeme × List Char := fun (t, r) => (.token t, r)
  match c :: r with
  | '@' :: '@' :: r => .ok (token (scanMarked d ['@', '@'] r))
  | '@' :: r => .ok (token (scanMarked d ['@'] r))
  | '#' :: r => .ok (token (scanMarked d ['#'] r))
  | _ =>
    if d.opensName c then .ok (token (scanWord d [c] r))
    else if c = '$' then (scanDollar (c :: r)).map token
    else if isBlank c then .ok (.blank .space, r)
    else .ok (token (.stray c, r))

/-- The lexeme that starts with `c` and goes on in `r` where neither a string, a quoted name nor a number
does. -/
def scanSymbol (d : Dialect) (c : Char) (r : List Char) : Scanned Lexeme :=
  let token : Token × List Char → Lexeme × List Char := fun (t, r) => (.token t, r)
  match c :: r with
  | '/' :: '/' :: r =>
    .ok (token (if d = .generic then (Token.symbol "//", r) else (.symbol "/", '/' :: r)))
  | '?' :: r => .ok (token (.placeholder (String.ofList ('?' :: r.takeWhile isNumber)), r.dropWhile isNumber))
  | _ =>
    match scanSymbol? (c :: r) with
    | some found => .ok (token found)
    | none => scanRest d c r

theorem scanRest_plain (hat : c ≠ '@') (hhash : c ≠ '#') :
    scanRest d c r =
      if d.opensName c then .ok (.token (scanWord d [c] r).1, (scanWord d [c] r).2)
      else if c = '$' then (scanDollar (c :: r)).map fun x => (.token x.1, x.2)
      else if isBlank c then .ok (.blank .space, r)
      else .ok (.token (.stray c), r) := by
  unfold scanRest
  split
  · next h => exact absurd (List.cons.inj h).1 hat
  · next h => exact absurd (List.cons.inj h).1 hat
  · next h => exact absurd (List.cons.inj h).1 hhash
  · rfl

theorem scanSymbol_plain (hslash : ∀ r', c :: r ≠ '/' :: '/' :: r') (hquestion : c ≠ '?') :
    scanSymbol d c r =
      match scanSymbol? (c :: r) with
      | some found => .ok (.token found.1, found.2)
      | none => scanRest d c r := by
  unfold scanSymbol
  split
  · next r' h => exact absurd h (hslash r')
  · next h => exact absurd (List.cons.inj h).1 hquestion
  · rfl

theorem scanToken_eq (d : Dialect) (c : Char) (r : List Char) :
    scanToken d c r =
      if "nNeExX".toList.contains c || (d == .generic && "bBrR".toList.contains c) then
        (scanPrefixed d c r).map fun x => (.token x.1, x.2)
      else if c = '\'' then (scanString d '\'' (c :: r)).map fun x => (.token (.singleQuoted x.1), x.2)
      else if c = '"' && !d.quotesName c && !d.opensName c then
        (scanString d '"' (c :: r)).map fun x => (.token (.doubleQuoted x.1), x.2)
      else if d.quotesName c then
        match nameBody (Token.closing c) r with
        | some x => .ok (.token (.ofQuoted (String.ofList x.1) c), x.2)
        | none => .error (.openName (Token.closing c), r.length + 1)
      else if c.isDigit || c = '.' then .ok (.token (scanNumber d (c :: r)).1, (scanNumber d (c :: r)).2)
      else scanSymbol d c r := by
  unfold scanToken
  dsimp only
  split
  · rfl
  split
  · rfl
  split
  · rfl
  split
  · cases nameBody (Token.closing c) r <;> rfl
  split
  · rfl
  split
  · next heq => cases heq; rfl
  · next heq => cases heq; rfl
  · next hslash hquestion =>
    rw [scanSymbol_plain hslash fun h => hquestion r (h ▸ rfl)]
    cases scanSymbol? (c :: r) with
    | some x => rfl
    | none =>
      dsimp only
      split
      · next heq => cases heq; rfl
      · next r' hr' heq =>
        cases heq
        unfold scanRest
        split
        · next heq => exact absurd (List.cons.inj heq).2 (hr' _)
        · next heq => cases heq; rfl
        · next heq => cases heq
        · next h _ => exact absurd rfl (h _)
      · next heq => cases heq; rfl
      · next hat hhash => rw [scanRest_plain (fun h => hat r (h ▸ rfl)) fun h => hhash r (h ▸ rfl)]

/-! ## 6. Lexemes -/

theorem scanRest_at (hr : ∀ r', r ≠ '@' :: r') :
    scanRest d '@' r = .ok (.token (scanMarked d ['@'] r).1, (scanMarked d ['@'] r).2) := by
  unfold scanRest
  split
  · next heq => exact absurd (List.cons.inj heq).2 (hr _)
  · next heq => cases heq; rfl
  · next heq => cases heq
  · next h _ => exact absurd rfl (h _)

/-- Whether a lexeme is a mark that opens a name, with nothing after it. -/
def Lexeme.isOpenMark (d : Dialect) : Lexeme → Bool
  | .token (.symbol s) => ["@", "@@", "#"].contains s && s.toList.all d.opensName
  | _ => false

theorem scanRest_keeps (hy : Separates d y) (c : Char) (r : List Char)
    (hmark : ∀ l, scanRest d c r = .ok (l, []) → l.isOpenMark d = false) :
    Keeps (y :: ys) r.length (scanRest d c r).toOption (scanRest d c (r ++ y :: ys)).toOption := by
  by_cases hat : c = '@'
  · subst hat
    by_cases hr : ∃ r', r = '@' :: r'
    · obtain ⟨r, rfl⟩ := hr
      have hname : r = [] → ['@', '@'].all d.opensName = false := by
        rintro rfl
        simpa [Lexeme.isOpenMark] using hmark (.token (.symbol "@@")) rfl
      exact ((scanMarked_keeps hy hname).map Lexeme.token).mono (Nat.le_succ _)
    · have hr (r' : List Char) : r ≠ '@' :: r' := fun h => hr ⟨r', h⟩
      have hafter (r' : List Char) : r ++ y :: ys ≠ '@' :: r' := by
        rcases r with _ | ⟨q, r⟩
        · exact fun h => hy.ne (by decide) (List.cons.inj h).1
        · exact fun h => hr r (by rw [(List.cons.inj h).1])
      rw [scanRest_at hr] at hmark ⊢
      rw [scanRest_at hafter]
      have hname : r = [] → ['@'].all d.opensName = false := by
        rintro rfl
        simpa [Lexeme.isOpenMark] using hmark (.token (.symbol "@")) rfl
      exact (scanMarked_keeps hy hname).map Lexeme.token
  · by_cases hhash : c = '#'
    · subst hhash
      have hname : r = [] → ['#'].all d.opensName = false := by
        rintro rfl
        simpa [Lexeme.isOpenMark] using hmark (.token (.symbol "#")) rfl
      exact (scanMarked_keeps hy hname).map Lexeme.token
    · rw [scanRest_plain hat hhash, scanRest_plain hat hhash]
      split
      · exact (scanWord_keeps hy [c] r).map Lexeme.token
      · split
        · exact (scanDollar_keeps hy c r).map_scanned Lexeme.token
        · split <;> exact .found (Nat.le_refl _)

theorem scanSymbol_keeps (hy : Separates d y) (c : Char) (r : List Char)
    (hmark : ∀ l, scanSymbol d c r = .ok (l, []) → l.isOpenMark d = false) :
    Keeps (y :: ys) r.length (scanSymbol d c r).toOption (scanSymbol d c (r ++ y :: ys)).toOption := by
  by_cases hslash : ∃ r', c :: r = '/' :: '/' :: r'
  · obtain ⟨r, heq⟩ := hslash
    cases heq
    simp only [List.cons_append, scanSymbol]
    split
    · exact .found (Nat.le_succ _)
    · exact .found (Nat.le_refl _)
  by_cases hquestion : c = '?'
  · subst hquestion
    simp only [scanSymbol, takeWhile_append_cons hy.isNumber_eq, dropWhile_append_cons hy.isNumber_eq]
    exact .found (List.length_dropWhile_le _ r)
  have hslash (r' : List Char) : c :: r ≠ '/' :: '/' :: r' := fun h => hslash ⟨r', h⟩
  have hafter (r' : List Char) : c :: (r ++ y :: ys) ≠ '/' :: '/' :: r' := by
    rcases r with _ | ⟨q, r⟩
    · exact fun h => hy.ne (by decide) (List.cons.inj (List.cons.inj h).2).1
    · exact fun h => hslash r (by rw [(List.cons.inj h).1, (List.cons.inj (List.cons.inj h).2).1])
  rw [scanSymbol_plain hslash hquestion] at hmark ⊢
  rw [scanSymbol_plain hafter hquestion, scanSymbol?_append hy]
  cases hfound : scanSymbol? (c :: r) with
  | some x => exact .found (length_scanSymbol?_le hfound)
  | none =>
    rw [hfound] at hmark
    exact scanRest_keeps hy c r hmark

theorem closing_mem_marks (hc : d.quotesName c = true) : Token.closing c ∈ marks := by
  have hc : c = '"' ∨ c = '`' ∨ c = '[' := by
    cases d <;> simp only [Dialect.quotesName, Bool.or_eq_true, beq_iff_eq] at hc <;> grind
  rcases hc with rfl | rfl | rfl <;> decide

theorem scanToken_keeps (hy : Separates d y) (c : Char) (r : List Char)
    (hmark : ∀ l, scanToken d c r = .ok (l, []) → l.isOpenMark d = false) :
    Keeps (y :: ys) r.length (scanToken d c r).toOption (scanToken d c (r ++ y :: ys)).toOption := by
  rw [scanToken_eq] at hmark ⊢
  rw [scanToken_eq]
  split
  · exact (scanPrefixed_keeps hy c r).map_scanned Lexeme.token
  split
  · exact (scanString_keeps hy (by decide) c r).map_scanned fun s => Lexeme.token (.singleQuoted s)
  split
  · exact (scanString_keeps hy (by decide) c r).map_scanned fun s => Lexeme.token (.doubleQuoted s)
  split
  · next hquotes =>
    have hbody : Keeps (y :: ys) _ _ _ := (nameBody_keeps hy (closing_mem_marks hquotes) r).map
      fun s => Lexeme.token (.ofQuoted (String.ofList s) c)
    generalize nameBody (Token.closing c) r = before at *
    generalize nameBody (Token.closing c) (r ++ y :: ys) = after at *
    rcases before with _ | ⟨s, r⟩ <;> rcases after with _ | ⟨s', r'⟩ <;> exact hbody
  split
  · next hdigit => exact (scanNumber_keeps hy hdigit r).map Lexeme.token
  · next h1 h2 h3 h4 h5 =>
    rw [if_neg h1, if_neg h2, if_neg h3, if_neg h4, if_neg h5] at hmark
    exact scanSymbol_keeps hy c r hmark

end Keeping

end QueryDrill.Sql
