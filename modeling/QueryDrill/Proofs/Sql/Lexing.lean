import QueryDrill.Proofs.Sql.Scanning
/-!
The tokens of a text that other text follows.

* `tokens?_append`: where a separator follows a text, the tokens of the text come first, and then those of what
  follows, less the line that a comment at the end of the text takes.
* `tokens?_separators`: of separators, the semicolons are the tokens.

Lexemes are read from the front of a text and none looks back, so the first is an induction on the lexemes of the
text, and `scan_keeps` is the step.
-/

namespace QueryDrill.Sql

open Text

section Keeping

variable {α : Type} {d : Dialect} {c y : Char} {cs ys r rest : List Char}

/-! ## 1. Blanks and comments -/

/-- Whether a lexeme is a comment up to the end of its line, with the end of the line still to come. -/
def Lexeme.isOpenLine : Lexeme → Bool
  | .blank (.comment s) => s.toList.take 2 == ['-', '-'] && !s.toList.contains '\n'
  | _ => false

theorem afterLine_append (hn : '\n' ∈ cs) (more : List Char) :
    afterLine (cs ++ more) = afterLine cs ++ more := by
  induction cs with
  | nil => cases hn
  | cons c cs ih =>
    by_cases hc : c = '\n'
    · simp [afterLine, hc]
    · have hn : '\n' ∈ cs := (List.mem_cons.mp hn).resolve_left fun h => hc h.symm
      simpa [afterLine, hc] using ih hn

theorem afterLine_append_of_not_mem (hn : '\n' ∉ cs) (more : List Char) :
    afterLine (cs ++ more) = afterLine more := by
  induction cs with
  | nil => rfl
  | cons c cs ih =>
    rw [List.mem_cons, not_or] at hn
    simpa [afterLine, Ne.symm hn.1] using ih hn.2

theorem afterLine_of_not_mem (hn : '\n' ∉ cs) : afterLine cs = [] := by
  simpa [afterLine] using afterLine_append_of_not_mem hn []

theorem length_afterLine_le (cs : List Char) : (afterLine cs).length ≤ cs.length := by
  rw [afterLine, List.length_drop]
  exact Nat.le_trans (Nat.sub_le _ _) (List.length_dropWhile_le _ cs)

theorem scan_return (hr : ∀ r', r ≠ '\n' :: r') : scan d '\r' r = .ok (.blank .newline, r) := by
  unfold scan
  split
  · next heq => cases heq
  · next heq => cases heq
  · next heq => cases heq
  · next heq => exact absurd (List.cons.inj heq).2 (hr _)
  · next heq => cases heq; rfl
  · next heq => cases heq
  · next heq => cases heq
  · next h _ _ => exact absurd rfl (h _)

theorem scan_plain (hblank : c ∉ [' ', '\t', '\n', '\r']) (hline : ∀ r', c :: r ≠ '-' :: '-' :: r')
    (hcomment : ∀ r', c :: r ≠ '/' :: '*' :: r') : scan d c r = scanToken d c r := by
  unfold scan
  split
  · next h => exact absurd (List.cons.inj h).1 fun h => hblank (by rw [h]; decide)
  · next h => exact absurd (List.cons.inj h).1 fun h => hblank (by rw [h]; decide)
  · next h => exact absurd (List.cons.inj h).1 fun h => hblank (by rw [h]; decide)
  · next h => exact absurd (List.cons.inj h).1 fun h => hblank (by rw [h]; decide)
  · next h => exact absurd (List.cons.inj h).1 fun h => hblank (by rw [h]; decide)
  · next h => exact absurd h (hline _)
  · next h => exact absurd h (hcomment _)
  · rfl

/-- A lexeme as far as the grammar sees it, and what follows it. -/
def seen (x : Lexeme × List Char) : Option Token × List Char := (x.1.token?, x.2)

theorem scan_keeps (hy : Separates d y) (c : Char) (r : List Char)
    (hmark : ∀ l, scan d c r = .ok (l, []) → l.isOpenMark d = false)
    (hline : ∀ l, scan d c r = .ok (l, []) → l.isOpenLine = false)
    (hreturn : y = '\n' → c = '\r' → r ≠ []) :
    Keeps (y :: ys) r.length ((scan d c r).toOption.map seen)
      ((scan d c (r ++ y :: ys)).toOption.map seen) := by
  by_cases hblank : c ∈ [' ', '\t', '\n', '\r']
  · simp only [List.mem_cons, List.not_mem_nil, or_false] at hblank
    rcases hblank with rfl | rfl | rfl | rfl
    · exact .found (Nat.le_refl _)
    · exact .found (Nat.le_refl _)
    · exact .found (Nat.le_refl _)
    · by_cases hr : ∃ r', r = '\n' :: r'
      · obtain ⟨r, rfl⟩ := hr
        exact .found (Nat.le_succ _)
      · have hr (r' : List Char) : r ≠ '\n' :: r' := fun h => hr ⟨r', h⟩
        have hafter (r' : List Char) : r ++ y :: ys ≠ '\n' :: r' := by
          rcases r with _ | ⟨q, r⟩
          · exact fun h => hreturn (List.cons.inj h).1 rfl rfl
          · exact fun h => hr r (by rw [(List.cons.inj h).1])
        rw [scan_return hr, scan_return hafter]
        exact .found (Nat.le_refl _)
  by_cases hdashes : ∃ r', c :: r = '-' :: '-' :: r'
  · obtain ⟨r, heq⟩ := hdashes
    cases heq
    have hn : '\n' ∈ r := by
      by_contra hn
      have hrest := afterLine_of_not_mem hn
      have hopen := hline (.blank (commentOf ('-' :: '-' :: r) [])) (by rw [← hrest]; rfl)
      simp [commentOf, Lexeme.isOpenLine, hn] at hopen
    simp only [List.cons_append, scan, afterLine_append hn]
    exact .found (Nat.le_trans (length_afterLine_le r) (Nat.le_succ _))
  by_cases hcomment : ∃ r', c :: r = '/' :: '*' :: r'
  · obtain ⟨r, heq⟩ := hcomment
    cases heq
    have hclosed := (afterComment_keeps (y :: ys) 1 ' ' r).map fun _ => (none : Option Token)
    simp only [List.cons_append, scan]
    generalize afterComment 1 ' ' r = before at *
    generalize afterComment 1 ' ' (r ++ y :: ys) = after at *
    refine Keeps.mono (n := r.length) ?_ (Nat.le_succ _)
    cases before <;> cases after <;> exact hclosed
  have hdashes (r' : List Char) : c :: r ≠ '-' :: '-' :: r' := fun h => hdashes ⟨r', h⟩
  have hcomment (r' : List Char) : c :: r ≠ '/' :: '*' :: r' := fun h => hcomment ⟨r', h⟩
  rw [scan_plain hblank hdashes hcomment] at hmark ⊢
  rw [scan_plain hblank]
  · exact (scanToken_keeps hy c r hmark).map Lexeme.token?
  · rcases r with _ | ⟨q, r⟩
    · exact fun r' h => hy.ne (by decide) (List.cons.inj (List.cons.inj h).2).1
    · exact fun r' h => hdashes r (by rw [(List.cons.inj h).1, (List.cons.inj (List.cons.inj h).2).1])
  · rcases r with _ | ⟨q, r⟩
    · exact fun r' h => hy.ne (by decide) (List.cons.inj (List.cons.inj h).2).1
    · exact fun r' h => hcomment r (by rw [(List.cons.inj h).1, (List.cons.inj (List.cons.inj h).2).1])

theorem length_scan_le {x : Lexeme × List Char} (h : scan d c r = .ok x) : x.2.length ≤ r.length := by
  by_cases hrest : x.2 = []
  · rw [hrest]
    exact Nat.zero_le _
  · have hlast (l : Lexeme) : scan d c r ≠ .ok (l, []) := fun hl =>
      hrest (by rw [Except.ok.inj (h.symm.trans hl)])
    have hkeeps : Keeps [';'] _ _ _ := scan_keeps (d := d) (.inl rfl) c r (fun l hl => absurd hl (hlast l))
      (fun l hl => absurd hl (hlast l)) (fun h => nomatch h)
    exact (hkeeps x.1.token? x.2 (by rw [h]; rfl)).1

/-! ## 2. Whole texts -/

/-- The lexemes of a text. -/
def lexemes? (d : Dialect) (cs : List Char) : Option (List Lexeme) :=
  (lex d cs).toOption.map (·.map Prod.fst)

/-- The tokens of a text. -/
def tokens? (d : Dialect) (cs : List Char) : Option (List Token) :=
  (lexemes? d cs).map (·.filterMap Lexeme.token?)

@[simp] theorem lexemes?_nil : lexemes? d [] = some [] := by
  simp [lexemes?, lex, Except.toOption]

@[simp] theorem tokens?_nil : tokens? d [] = some [] := by
  rw [tokens?, lexemes?_nil]
  rfl

theorem lexemes?_cons (d : Dialect) (c : Char) (r : List Char) :
    lexemes? d (c :: r) = (scan d c r).toOption.bind fun x => (lexemes? d x.2).map (x.1 :: ·) := by
  rw [lexemes?, lex]
  split
  · next heq => rw [heq]; rfl
  · next l rest heq =>
    rw [if_pos (Nat.lt_succ_of_le (length_scan_le heq)), heq]
    show _ = (lexemes? d rest).map (l :: ·)
    rw [lexemes?]
    cases lex d rest <;> rfl

theorem tokens?_cons (d : Dialect) (c : Char) (r : List Char) :
    tokens? d (c :: r) =
      ((scan d c r).toOption.map seen).bind fun x => (tokens? d x.2).map (x.1.toList ++ ·) := by
  rw [tokens?, lexemes?_cons]
  cases scan d c r with
  | error => rfl
  | ok x =>
    obtain ⟨l, rest⟩ := x
    show ((lexemes? d rest).map (l :: ·)).map _ = (tokens? d rest).map (l.token?.toList ++ ·)
    rw [tokens?, Option.map_map, Option.map_map]
    refine congrArg (Option.map · (lexemes? d rest)) (funext fun ls => ?_)
    show (l :: ls).filterMap Lexeme.token? = l.token?.toList ++ ls.filterMap Lexeme.token?
    cases h : l.token? <;> simp [h]


theorem scan_semicolon (d : Dialect) (r : List Char) : scan d ';' r = .ok (.token (.symbol ";"), r) := by
  cases d <;> rfl

theorem isOpenLine_of_map {x : Scanned α} {f : α → Token} {l : Lexeme}
    (h : (x.map fun x => (Lexeme.token (f x.1), x.2)) = .ok (l, rest)) : l.isOpenLine = false := by
  cases x with
  | error => cases h
  | ok x => cases h; rfl

theorem scanRest_isOpenLine {l : Lexeme} (h : scanRest d c r = .ok (l, rest)) : l.isOpenLine = false := by
  unfold scanRest at h
  split at h
  · cases h; rfl
  · cases h; rfl
  · cases h; rfl
  split at h
  · cases h; rfl
  split at h
  · exact isOpenLine_of_map (f := id) h
  split at h <;> cases h <;> rfl

theorem scanToken_isOpenLine {l : Lexeme} (h : scanToken d c r = .ok (l, rest)) : l.isOpenLine = false := by
  rw [scanToken_eq] at h
  split at h
  · exact isOpenLine_of_map (f := id) h
  split at h
  · exact isOpenLine_of_map h
  split at h
  · exact isOpenLine_of_map h
  split at h
  · split at h <;> cases h; rfl
  split at h
  · cases h; rfl
  unfold scanSymbol at h
  split at h
  · cases h; rfl
  · cases h; rfl
  split at h
  · cases h; rfl
  · exact scanRest_isOpenLine h

theorem mem_take_afterLine (hn : '\n' ∈ cs) : '\n' ∈ cs.take (cs.length - (afterLine cs).length) := by
  induction cs with
  | nil => cases hn
  | cons c cs ih =>
    by_cases hc : c = '\n'
    · simp [afterLine, hc]
    · have hn : '\n' ∈ cs := (List.mem_cons.mp hn).resolve_left fun h => hc h.symm
      have hrest : afterLine (c :: cs) = afterLine cs := by simp [afterLine, hc]
      have hlength := length_afterLine_le cs
      rw [hrest, List.length_cons, Nat.succ_sub hlength, List.take_succ_cons]
      exact .tail _ (ih hn)

/-- What is read as a comment whose line does not end is one. -/
theorem eq_of_isOpenLine {l : Lexeme} (h : scan d c r = .ok (l, rest)) (hl : l.isOpenLine = true) :
    ∃ r', c = '-' ∧ r = '-' :: r' ∧ '\n' ∉ r' := by
  have hne : l.isOpenLine ≠ false := fun h => Bool.false_ne_true (h.symm.trans hl)
  by_cases hblank : c ∈ [' ', '\t', '\n', '\r']
  · simp only [List.mem_cons, List.not_mem_nil, or_false] at hblank
    rcases hblank with rfl | rfl | rfl | rfl
    · cases h; cases hl
    · cases h; cases hl
    · cases h; cases hl
    · by_cases hr : ∃ r', r = '\n' :: r'
      · obtain ⟨r, rfl⟩ := hr
        cases h; cases hl
      · rw [scan_return fun r' h => hr ⟨r', h⟩] at h
        cases h; cases hl
  by_cases hdashes : ∃ r', c :: r = '-' :: '-' :: r'
  · obtain ⟨r, heq⟩ := hdashes
    cases heq
    refine ⟨r, rfl, rfl, fun hn => ?_⟩
    simp only [scan] at h
    cases h
    have hlength := length_afterLine_le r
    have hmem := mem_take_afterLine hn
    simp [commentOf, Lexeme.isOpenLine, Nat.succ_sub (Nat.le_succ_of_le hlength), Nat.succ_sub hlength,
      hmem] at hl
  by_cases hcomment : ∃ r', c :: r = '/' :: '*' :: r'
  · obtain ⟨r, heq⟩ := hcomment
    cases heq
    simp only [scan] at h
    split at h
    · cases h
      simp only [commentOf, Lexeme.isOpenLine, String.toList_ofList, Bool.and_eq_true, beq_iff_eq] at hl
      generalize ('/' :: '*' :: r).length - rest.length = n at hl
      rcases n with _ | _ | n <;> simp at hl
    · cases h
  rw [scan_plain hblank (fun r' h => hdashes ⟨r', h⟩) fun r' h => hcomment ⟨r', h⟩] at h
  exact absurd (scanToken_isOpenLine h) hne


theorem lexemes?_eq_cons {l : Lexeme} {ls : List Lexeme} (h : lexemes? d cs = some (l :: ls)) :
    ∃ c r rest, cs = c :: r ∧ scan d c r = .ok (l, rest) ∧ lexemes? d rest = some ls := by
  rcases cs with _ | ⟨c, r⟩
  · rw [lexemes?_nil] at h
    cases h
  · rw [lexemes?_cons] at h
    obtain ⟨⟨l', rest⟩, hscan, h⟩ := Option.bind_eq_some_iff.mp h
    obtain ⟨ls', hrest, heq⟩ := Option.map_eq_some_iff.mp h
    cases heq
    refine ⟨c, r, rest, rfl, ?_, hrest⟩
    cases h : scan d c r with
    | error => rw [h] at hscan; cases hscan
    | ok x => rw [h] at hscan; cases hscan; rfl

theorem eq_nil_of_lexemes? (h : lexemes? d cs = some []) : cs = [] := by
  rcases cs with _ | ⟨c, r⟩
  · rfl
  · rw [lexemes?_cons] at h
    obtain ⟨x, -, h⟩ := Option.bind_eq_some_iff.mp h
    obtain ⟨ls, -, h⟩ := Option.map_eq_some_iff.mp h
    cases h

/-- Whether a text ends in a comment that the next line end closes, given its lexemes. -/
def endsInLine (ls : List Lexeme) : Bool := ls.getLast?.any Lexeme.isOpenLine

/-- Whether a text ends in a mark that opens a name, given its lexemes. -/
def endsInMark (d : Dialect) (ls : List Lexeme) : Bool := ls.getLast?.any (Lexeme.isOpenMark d)

theorem tokens?_open_line (hr : '\n' ∉ r) (more : List Char) :
    tokens? d ('-' :: '-' :: r ++ more) = tokens? d (afterLine more) := by
  simp only [List.cons_append, tokens?_cons, scan, afterLine_append_of_not_mem hr]
  exact Option.map_id'

theorem tokens?_return (d : Dialect) (r : List Char) : tokens? d ('\r' :: r) = tokens? d r := by
  by_cases hr : ∃ r', r = '\n' :: r'
  · obtain ⟨r, rfl⟩ := hr
    rw [tokens?_cons, tokens?_cons]
    rfl
  · rw [tokens?_cons, scan_return fun r' h => hr ⟨r', h⟩]
    exact Option.map_id'

/-- The tokens of a text come first where a separator follows it, and those of what follows come then, less the
line that a comment at the end of the text takes. -/
theorem tokens?_append (hy : Separates d y) {ls : List Lexeme} (h : lexemes? d cs = some ls)
    (hmark : endsInMark d ls = false) :
    tokens? d (cs ++ y :: ys) =
      (tokens? d (if endsInLine ls then afterLine (y :: ys) else y :: ys)).map
        (ls.filterMap Lexeme.token? ++ ·) := by
  induction ls generalizing cs with
  | nil =>
    rw [eq_nil_of_lexemes? h]
    exact Option.map_id'.symm
  | cons l ls ih =>
    obtain ⟨c, r, rest, rfl, hscan, hrest⟩ := lexemes?_eq_cons h
    have htoken (more : Option (List Token)) :
        (more.map (ls.filterMap Lexeme.token? ++ ·)).map (l.token?.toList ++ ·) =
          more.map ((l :: ls).filterMap Lexeme.token? ++ ·) := by
      rw [Option.map_map]
      refine congrArg (Option.map · more) (funext fun ts => ?_)
      cases hl : l.token? <;> simp [hl]
    rcases ls with _ | ⟨l', ls⟩
    · -- The last lexeme: a comment may go on, and the end of a line may have a second character.
      obtain rfl := eq_nil_of_lexemes? hrest
      have hlast : [l].filterMap Lexeme.token? = l.token?.toList := by cases hl : l.token? <;> simp [hl]
      rw [hlast, endsInLine, List.getLast?_singleton, Option.any_some]
      by_cases hline : l.isOpenLine = true
      · obtain ⟨r, rfl, rfl, hr⟩ := eq_of_isOpenLine hscan hline
        have hnone : l.token? = none := by
          cases l with
          | token => cases hline
          | blank => rfl
        rw [if_pos hline, tokens?_open_line hr, hnone]
        exact Option.map_id'.symm
      rw [if_neg hline]
      by_cases hreturn : c = '\r' ∧ r = []
      · obtain ⟨rfl, rfl⟩ := hreturn
        cases hscan
        rw [List.singleton_append, tokens?_return]
        exact Option.map_id'.symm
      have hline' (l' : Lexeme) (hl : scan d c r = .ok (l', [])) : l'.isOpenLine = false := by
        cases hscan.symm.trans hl
        exact Bool.eq_false_iff.mpr hline
      have hmark' (l' : Lexeme) (hl : scan d c r = .ok (l', [])) : l'.isOpenMark d = false := by
        cases hscan.symm.trans hl
        exact hmark
      have hkeeps : Keeps (y :: ys) _ _ _ :=
        scan_keeps hy c r hmark' hline' fun _ hc hr => hreturn ⟨hc, hr⟩
      rw [List.cons_append, tokens?_cons, (hkeeps l.token? [] (by rw [hscan]; rfl)).2]
      rfl
    · have hne (l : Lexeme) : scan d c r ≠ .ok (l, []) := fun hl => by
        rw [(Prod.mk.inj (Except.ok.inj (hscan.symm.trans hl))).2, lexemes?_nil] at hrest
        cases hrest
      have hkeeps : Keeps (y :: ys) _ _ _ := scan_keeps hy c r (fun l hl => absurd hl (hne l))
        (fun l hl => absurd hl (hne l)) fun _ hc hr => hne (.blank .newline) (by rw [hc, hr]; rfl)
      rw [List.cons_append, tokens?_cons, (hkeeps l.token? rest (by rw [hscan]; rfl)).2,
        Option.bind_some, ih hrest hmark, htoken]
      rfl

/-! ## 3. Separators -/

theorem scanSymbol?_eq_none (hy : Separates d y) (hsemicolon : y ≠ ';') (r : List Char) :
    scanSymbol? (y :: r) = none := by
  have hfirst := hy.ind (p := fun c => c = ';' ∨ ∀ e ∈ symbolTable, e.1.head? ≠ some c) (by decide +kernel)
  refine List.findSome?_eq_none_iff.mpr fun (spelling, name) he => ?_
  rcases spelling with _ | ⟨p, ps⟩
  · exact absurd rfl (symbolTable_plain _ he).1
  · have hp : p ≠ y := fun h => (hfirst.resolve_left hsemicolon) _ he (h ▸ rfl)
    show (dropPrefix? (p :: ps) (y :: r)).map _ = none
    rw [dropPrefix?, if_neg hp, Option.map_none]

theorem scanToken_blank (hy : Separates d y) (hsemicolon : y ≠ ';') (r : List Char) :
    scanToken d y r = .ok (.blank .space, r) := by
  have hletters := hy.ind (p := fun c => "nNeExX".toList.contains c = false ∧ "bBrR".toList.contains c = false)
    (by decide)
  have hquotes : d.quotesName y = false := by
    cases d <;> simp [Dialect.quotesName, hy.ne (m := '"') (by decide), hy.ne (m := '`') (by decide),
      hy.ne (m := '[') (by decide)]
  have hslash (r' : List Char) : y :: r ≠ '/' :: '/' :: r' := fun h => hy.ne (by decide) (List.cons.inj h).1
  rw [scanToken_eq, hletters.1, hletters.2, hquotes, hy.isDigit_eq, scanSymbol_plain hslash (hy.ne (by decide)),
    scanSymbol?_eq_none hy hsemicolon, scanRest_plain (hy.ne (by decide)) (hy.ne (by decide)), hy.opensName_eq]
  have hblank := (hy.resolve_left hsemicolon).1
  simp [hy.ne (m := '\'') (by decide), hy.ne (m := '"') (by decide), hy.ne (m := '.') (by decide),
    hy.ne (m := '$') (by decide), hblank]

theorem tokens?_blank (hy : Separates d y) (hsemicolon : y ≠ ';') (r : List Char) :
    tokens? d (y :: r) = tokens? d r := by
  by_cases hblank : y ∈ [' ', '\t', '\n', '\r']
  · simp only [List.mem_cons, List.not_mem_nil, or_false] at hblank
    rcases hblank with rfl | rfl | rfl | rfl
    · exact (tokens?_cons ..).trans Option.map_id'
    · exact (tokens?_cons ..).trans Option.map_id'
    · exact (tokens?_cons ..).trans Option.map_id'
    · exact tokens?_return d r
  · rw [tokens?_cons, scan_plain hblank (fun _ h => hy.ne (by decide) (List.cons.inj h).1)
      (fun _ h => hy.ne (by decide) (List.cons.inj h).1), scanToken_blank hy hsemicolon]
    exact Option.map_id'

theorem tokens?_semicolon (d : Dialect) (r : List Char) :
    tokens? d (';' :: r) = (tokens? d r).map (.symbol ";" :: ·) := by
  rw [tokens?_cons, scan_semicolon]
  rfl

/-- The tokens of separators are the semicolons among them. -/
theorem tokens?_separators (hcs : ∀ c ∈ cs, Separates d c) (more : List Char) :
    tokens? d (cs ++ more) = (tokens? d more).map (List.replicate (cs.count ';') (.symbol ";") ++ ·) := by
  induction cs with
  | nil => exact Option.map_id'.symm
  | cons c cs ih =>
    have ih := ih fun c hc => hcs c (.tail _ hc)
    rw [List.cons_append]
    by_cases hc : c = ';'
    · subst hc
      rw [tokens?_semicolon, ih, Option.map_map, List.count_cons_self, List.replicate_succ]
      rfl
    · rw [tokens?_blank (hcs c List.mem_cons_self) hc, ih, List.count_cons_of_ne hc]

theorem afterLine_sublist (cs : List Char) : (afterLine cs).Sublist cs :=
  (List.drop_sublist ..).trans (List.dropWhile_sublist _)

/-- A text between blanks and separators has its own tokens, and semicolons. -/
theorem tokens?_between {opening ending : List Char} (hopening : ∀ c ∈ opening, Separates d c)
    (hsemicolon : ';' ∉ opening) (hending : ∀ c ∈ ending, Separates d c) {ls : List Lexeme}
    (hls : lexemes? d cs = some ls) (hmark : endsInMark d ls = false) :
    ∃ n ≤ ending.count ';', tokens? d (opening ++ (cs ++ ending)) =
      some (ls.filterMap Lexeme.token? ++ List.replicate n (.symbol ";")) := by
  have hopen : tokens? d (opening ++ (cs ++ ending)) = tokens? d (cs ++ ending) := by
    rw [tokens?_separators hopening, List.count_eq_zero_of_not_mem hsemicolon]
    exact Option.map_id'
  rw [hopen]
  rcases ending with _ | ⟨y, ys⟩
  · refine ⟨0, Nat.zero_le _, ?_⟩
    rw [List.append_nil, tokens?, hls, List.replicate_zero, List.append_nil]
    rfl
  · have hrest : (if endsInLine ls then afterLine (y :: ys) else y :: ys).Sublist (y :: ys) := by
      split
      · exact afterLine_sublist _
      · exact .refl _
    have htokens := tokens?_separators (fun c hc => hending c (hrest.subset hc)) []
    rw [List.append_nil, tokens?_nil, Option.map_some, List.append_nil] at htokens
    refine ⟨_, hrest.count_le ';', ?_⟩
    rw [tokens?_append (hending y List.mem_cons_self) hls hmark, htokens, Option.map_some]

end Keeping

end QueryDrill.Sql
