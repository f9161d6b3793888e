import Mathlib.Data.List.Forall2
import QueryDrill.Proofs.Json.Scanning
/-!
What is printed is read back, up to the order of fields.

A reader of any value gives the fields of an object in the order of their names (`Json.sorted`), and reads whole
numbers of at most 64 bits as such, up to a limit of depth (`Json.Readable`). Such values are read back from their
texts, on one line and over several lines (`Json.parse_compact`, `Json.parse_pretty`). `JsonReader.Reads` says of a
piece of text that it is read wherever it stands; it holds of arrays and objects if it holds of their members
(`reads_array`, `reads_object`).
-/

namespace QueryDrill

/-! ## 1. What is read -/

namespace Json

mutual

/-- A value with the fields of all objects in the order of their names. -/
def sorted : Json → Json
  | null => null
  | bool b => bool b
  | number n => number n
  | string s => string s
  | array items => array (sortedItems items)
  | object fields => object (Keyed.ofList (sortedFields fields)).entries

/-- The items of an array with their fields in order. -/
def sortedItems : List Json → List Json
  | [] => []
  | v :: vs => v.sorted :: sortedItems vs

/-- The fields of an object with the fields of their values in order. -/
def sortedFields : List (String × Json) → List (String × Json)
  | [] => []
  | (name, v) :: fields => (name, v.sorted) :: sortedFields fields

end

theorem sortedItems_eq_map (items : List Json) : sortedItems items = items.map sorted := by
  induction items with
  | nil => rfl
  | cons v vs ih => rw [sortedItems, ih, List.map_cons]

theorem sortedFields_eq_map (fields : List (String × Json)) :
    sortedFields fields = fields.map fun f => (f.1, f.2.sorted) := by
  induction fields with
  | nil => rfl
  | cons f fs ih => rw [sortedFields, ih, List.map_cons]

/-- A value of limited depth whose numbers are sizes. -/
inductive Readable : Nat → Json → Prop
  | null {depth : Nat} : Readable depth null
  | bool {depth : Nat} (b : Bool) : Readable depth (bool b)
  | nat {depth n : Nat} (h : n ≤ JsonReader.greatestWhole) : Readable depth (nat n)
  | string {depth : Nat} (s : String) : Readable depth (string s)
  | array {depth : Nat} {items : List Json} (h : ∀ v ∈ items, Readable depth v) :
    Readable (depth + 1) (array items)
  | object {depth : Nat} {fields : List (String × Json)} (h : ∀ f ∈ fields, Readable depth f.2) :
    Readable (depth + 1) (object fields)

end Json

namespace JsonReader

open Json

/-! ## 2. Pieces of text -/

variable {α : Type}

/-- A piece of text is read as `a`, behind any blanks and before anything that a number does not go on with. -/
structure Reads (p : JsonReader α) (text : List Char) (a : α) : Prop where
  opens : ∃ c rest, text = c :: rest ∧ isJsonBlank c = false ∧ c ≠ ']'
  reads : ∀ blanks rest, (∀ c ∈ blanks, isJsonBlank c = true) → EndsNumber rest →
    p (blanks ++ (text ++ rest)) = .ok (a, rest)

theorem endsNumber_cons {c : Char} (h : c.isDigit = false ∧ c ≠ '.' ∧ isExponentMark c = false) (cs : List Char) :
    EndsNumber (c :: cs) := by
  rintro _ ⟨⟩
  exact h

theorem endsNumber_blanks {blanks cs : List Char} (hblanks : ∀ c ∈ blanks, isJsonBlank c = true)
    (hcs : EndsNumber cs) : EndsNumber (blanks ++ cs) := by
  cases blanks with
  | nil => exact hcs
  | cons c blanks =>
    refine endsNumber_cons ?_ _
    have hc : (c = ' ' ∨ c = '\n') ∨ c = '\t' ∨ c = '\r' := by
      simpa [isJsonBlank, or_assoc] using hblanks c List.mem_cons_self
    rcases hc with (rfl | rfl) | rfl | rfl <;> decide

/-- Texts with commas before them, and blanks between. -/
def commaTexts (gap : List Char) (texts : List (List Char)) : List Char :=
  texts.flatMap fun t => ',' :: (gap ++ t)

theorem commaTexts_cons (gap t : List Char) (ts : List (List Char)) :
    commaTexts gap (t :: ts) = ',' :: (gap ++ (t ++ commaTexts gap ts)) := by
  simp [commaTexts]

/-- What stands between brackets: members with commas between them, each behind a gap. -/
def memberTexts (gap closing : List Char) : List (List Char) → List Char
  | [] => []
  | t :: ts => gap ++ (t ++ (commaTexts gap ts ++ closing))

theorem intercalate_eq (gap t : List Char) (ts : List (List Char)) :
    (',' :: gap).intercalate (t :: ts) = t ++ commaTexts gap ts := by
  induction ts generalizing t with
  | nil => simp [commaTexts]
  | cons t' ts ih =>
    rw [List.intercalate_cons_cons, ih]
    simp [commaTexts]

/-! ## 3. Arrays -/

section Items

variable {item : JsonReader α} {fuel : Nat} {cs r rest rest' : List Char} {a : α} {as : List α}

theorem items_closing (h : skipBlanks cs = ']' :: rest) (isFirst : Bool) :
    items item (fuel + 1) isFirst cs = .ok ([], rest) := by
  rw [items, h]
  rfl

theorem items_first {c : Char} (h : skipBlanks cs = c :: r) (hc : c ≠ ']')
    (hitem : item (c :: r) = .ok (a, rest)) (hmore : items item fuel false rest = .ok (as, rest')) :
    items item (fuel + 1) true cs = .ok (a :: as, rest') := by
  rw [items, h]
  simp only [if_neg hc, if_pos, hitem, bind, Except.bind, hmore]
  rfl

theorem items_comma {c : Char} (h : skipBlanks cs = ',' :: r) (hr : skipBlanks r = c :: rest) (hc : c ≠ ']')
    (hitem : item (c :: rest) = .ok (a, rest')) {rest'' : List Char}
    (hmore : items item fuel false rest' = .ok (as, rest'')) :
    items item (fuel + 1) false cs = .ok (a :: as, rest'') := by
  rw [items, h]
  simp only [hr, if_neg hc, if_pos, hitem, bind, Except.bind, hmore]
  rfl

end Items

section Fields

variable {value : String → JsonReader α} {fuel : Nat} {seen : List String} {cs r r' r'' rest rest' : List Char}
  {name : String} {a : α} {fs : List (String × α)}

theorem fields_closing (h : skipBlanks cs = '\x7d' :: rest) :
    fields (fun _ _ => none) value (fuel + 1) seen cs = .ok ([], rest) := by
  rw [fields, h]
  rfl

theorem fields_first (h : skipBlanks cs = '"' :: r) (hname : stringBody r = .ok (name, r'))
    (hcolon : colon r' = .ok r'') (hvalue : value name r'' = .ok (a, rest))
    (hmore : fields (fun _ _ => none) value fuel [name] rest = .ok (fs, rest')) :
    fields (fun _ _ => none) value (fuel + 1) [] cs = .ok ((name, a) :: fs, rest') := by
  rw [fields, h]
  simp only [List.isEmpty_nil, if_pos, hname, hcolon, hvalue, hmore, bind, Except.bind]
  rfl

theorem fields_comma {c : List Char} (hseen : seen ≠ []) (h : skipBlanks cs = ',' :: c)
    (hc : skipBlanks c = '"' :: r) (hname : stringBody r = .ok (name, r')) (hcolon : colon r' = .ok r'')
    (hvalue : value name r'' = .ok (a, rest))
    (hmore : fields (fun _ _ => none) value fuel (name :: seen) rest = .ok (fs, rest')) :
    fields (fun _ _ => none) value (fuel + 1) seen cs = .ok ((name, a) :: fs, rest') := by
  have hempty : seen.isEmpty = false := by simpa using hseen
  rw [fields, h]
  simp only [hempty, hc, if_pos, hname, hcolon, hvalue, hmore, bind, Except.bind]
  rfl

end Fields

theorem length_le_commaTexts (gap : List Char) (ts : List (List Char)) :
    ts.length ≤ (commaTexts gap ts).length :=
  length_le_length_flatMap fun _ _ => List.cons_ne_nil _ _

/-- The text of a field: its name, a colon, and its value behind a gap. -/
def fieldText (between : List Char) (name : String) (text : List Char) : List Char :=
  '"' :: (name.toList.flatMap escapedChar ++ '"' :: ':' :: (between ++ text))

theorem fieldText_append (between : List Char) (name : String) (text more : List Char) :
    fieldText between name text ++ more =
      '"' :: (name.toList.flatMap escapedChar ++ '"' :: ':' :: (between ++ (text ++ more))) := by
  simp [fieldText]

theorem colon_cons (cs : List Char) : colon (':' :: cs) = .ok cs := by
  rw [colon, skipBlanks_cons (by decide)]
  rfl

/-- A piece of text is read as a field. -/
def ReadsField (p : JsonReader α) (between : List Char) (t : List Char) (f : String × α) : Prop :=
  ∃ text, t = fieldText between f.1 text ∧ Reads p text f.2

section Members

variable {gap closing : List Char} (hgap : ∀ c ∈ gap, isJsonBlank c = true)
  (hclosing : ∀ c ∈ closing, isJsonBlank c = true)

include hclosing

/-- What comes after a member. -/
theorem endsNumber_commaTexts (gap : List Char) (ts : List (List Char)) (bracket : Char)
    (hbracket : bracket.isDigit = false ∧ bracket ≠ '.' ∧ isExponentMark bracket = false) (rest : List Char) :
    EndsNumber (commaTexts gap ts ++ (closing ++ bracket :: rest)) := by
  cases ts with
  | nil =>
    show EndsNumber (closing ++ bracket :: rest)
    exact endsNumber_blanks hclosing (endsNumber_cons hbracket rest)
  | cons t ts =>
    rw [commaTexts_cons]
    exact endsNumber_cons (by decide) _

include hgap

theorem items_commaTexts {item : JsonReader α} {ts : List (List Char)} {as : List α}
    (h : List.Forall₂ (Reads item) ts as) {fuel : Nat} (hfuel : ts.length < fuel) (rest : List Char) :
    items item fuel false (commaTexts gap ts ++ (closing ++ ']' :: rest)) = .ok (as, rest) := by
  induction h generalizing fuel with
  | nil =>
    obtain ⟨fuel, rfl⟩ := Nat.exists_eq_add_one_of_ne_zero (by omega : fuel ≠ 0)
    have hskip : skipBlanks (closing ++ ']' :: rest) = ']' :: rest := by
      rw [skipBlanks_append hclosing, skipBlanks_cons (by decide)]
    show items item (fuel + 1) false (closing ++ ']' :: rest) = _
    rw [items, hskip]
    rfl
  | @cons t a ts as ht _ ih =>
    obtain ⟨fuel, rfl⟩ := Nat.exists_eq_add_one_of_ne_zero (by omega : fuel ≠ 0)
    have hrest := ih (by simpa using hfuel)
    have hmore := endsNumber_commaTexts hclosing gap ts ']' (by decide) rest
    have hitem := ht.reads [] _ (by simp) hmore
    obtain ⟨d, r, rfl, hd, hne⟩ := ht.opens
    have hgapped : skipBlanks (gap ++ (d :: r ++ (commaTexts gap ts ++ (closing ++ ']' :: rest)))) =
        d :: (r ++ (commaTexts gap ts ++ (closing ++ ']' :: rest))) := by
      rw [skipBlanks_append hgap, List.cons_append, skipBlanks_cons hd]
    rw [commaTexts_cons, List.cons_append, List.append_assoc, List.append_assoc]
    exact items_comma (skipBlanks_cons (by decide) _) hgapped hne hitem hrest

theorem arrayOf_memberTexts {item : JsonReader α} {ts : List (List Char)} {as : List α}
    (h : List.Forall₂ (Reads item) ts as) (rest : List Char) :
    arrayOf item (memberTexts gap closing ts ++ ']' :: rest) = .ok (as, rest) := by
  cases h with
  | nil => exact items_closing (skipBlanks_cons (by decide) _) true
  | @cons t a ts as ht hts =>
    have hmore := endsNumber_commaTexts hclosing gap ts ']' (by decide) rest
    have hitem := ht.reads [] _ (by simp) hmore
    obtain ⟨d, r, rfl, hd, hne⟩ := ht.opens
    have htext : memberTexts gap closing ((d :: r) :: ts) ++ ']' :: rest =
        gap ++ (d :: (r ++ (commaTexts gap ts ++ (closing ++ ']' :: rest)))) := by
      simp [memberTexts]
    have hskip : skipBlanks (memberTexts gap closing ((d :: r) :: ts) ++ ']' :: rest) =
        d :: (r ++ (commaTexts gap ts ++ (closing ++ ']' :: rest))) := by
      rw [htext, skipBlanks_append hgap, skipBlanks_cons hd]
    refine items_first hskip hne hitem (items_commaTexts hgap hclosing hts ?_ rest)
    have hlength := length_le_commaTexts gap ts
    rw [htext]
    simp only [List.length_append, List.length_cons]
    omega

/-! ## 4. Objects -/

variable {between : List Char} (hbetween : ∀ c ∈ between, isJsonBlank c = true)

include hbetween

theorem fields_commaTexts {p : JsonReader α} {ts : List (List Char)} {fs : List (String × α)}
    (h : List.Forall₂ (ReadsField p between) ts fs) {fuel : Nat} (hfuel : ts.length < fuel) {seen : List String}
    (hseen : seen ≠ []) (rest : List Char) :
    fields (fun _ _ => none) (fun _ => p) fuel seen (commaTexts gap ts ++ (closing ++ '\x7d' :: rest)) =
      .ok (fs, rest) := by
  induction h generalizing fuel seen with
  | nil =>
    obtain ⟨fuel, rfl⟩ := Nat.exists_eq_add_one_of_ne_zero (by omega : fuel ≠ 0)
    exact fields_closing ((skipBlanks_append hclosing _).trans (skipBlanks_cons (by decide) _))
  | @cons t f ts fs ht _ ih =>
    obtain ⟨fuel, rfl⟩ := Nat.exists_eq_add_one_of_ne_zero (by omega : fuel ≠ 0)
    have hrest := ih (by simpa using hfuel) (List.cons_ne_nil f.1 seen)
    have hmore := endsNumber_commaTexts hclosing gap ts '\x7d' (by decide) rest
    obtain ⟨text, rfl, hvalue⟩ := ht
    rw [commaTexts_cons, List.cons_append, List.append_assoc, List.append_assoc, fieldText_append]
    refine fields_comma hseen (skipBlanks_cons (by decide) _) ?_ (stringBody_printed f.1 _) (colon_cons _)
      (hvalue.reads between _ hbetween hmore) hrest
    rw [skipBlanks_append hgap, skipBlanks_cons (by decide)]

theorem objectOf_memberTexts {p : JsonReader α} {ts : List (List Char)} {fs : List (String × α)}
    (h : List.Forall₂ (ReadsField p between) ts fs) (rest : List Char) :
    objectOf (fun _ _ => none) (fun _ => p) (memberTexts gap closing ts ++ '\x7d' :: rest) = .ok (fs, rest) := by
  cases h with
  | nil => exact fields_closing (skipBlanks_cons (by decide) _)
  | @cons t f ts fs ht hts =>
    have hmore := endsNumber_commaTexts hclosing gap ts '\x7d' (by decide) rest
    obtain ⟨text, rfl, hvalue⟩ := ht
    have htext : memberTexts gap closing (fieldText between f.1 text :: ts) ++ '\x7d' :: rest =
        gap ++ (fieldText between f.1 text ++ (commaTexts gap ts ++ (closing ++ '\x7d' :: rest))) := by
      simp [memberTexts]
    refine fields_first ?_ (stringBody_printed f.1 _) (colon_cons _) (hvalue.reads between _ hbetween hmore)
      (fields_commaTexts hgap hclosing hbetween hts ?_ (List.cons_ne_nil f.1 []) rest)
    · rw [htext, fieldText_append, skipBlanks_append hgap, skipBlanks_cons (by decide)]
    · have hlength := length_le_commaTexts gap ts
      rw [htext]
      simp only [fieldText, List.length_append, List.length_cons]
      omega

end Members

/-! ## 5. Values -/

theorem valueWith_blanks {blanks : List Char} (h : ∀ c ∈ blanks, isJsonBlank c = true)
    (nested : Option (JsonReader Json)) (cs : List Char) :
    valueWith nested (blanks ++ cs) = valueWith nested cs := by
  rw [valueWith, valueWith, skipBlanks_append h]

/-- It is enough to read a value at the start of a text. -/
theorem Reads.of_valueWith {nested : Option (JsonReader Json)} {c : Char} {text : List Char} {v : Json}
    (hblank : isJsonBlank c = false) (hbracket : c ≠ ']')
    (h : ∀ rest, EndsNumber rest → valueWith nested (c :: (text ++ rest)) = .ok (v, rest)) :
    Reads (valueWith nested) (c :: text) v where
  opens := ⟨c, text, rfl, hblank, hbracket⟩
  reads blanks rest hblanks hrest := by
    rw [valueWith_blanks hblanks, List.cons_append]
    exact h rest hrest

theorem reads_null (nested : Option (JsonReader Json)) : Reads (valueWith nested) "null".toList .null :=
  .of_valueWith (by decide) (by decide) fun _ _ => rfl

theorem reads_bool (nested : Option (JsonReader Json)) (b : Bool) :
    Reads (valueWith nested) (if b then "true" else "false").toList (.bool b) := by
  cases b
  · exact .of_valueWith (by decide) (by decide) fun _ _ => rfl
  · exact .of_valueWith (by decide) (by decide) fun _ _ => rfl

theorem toList_quoted (s : String) : (quoted s).toList = '"' :: (s.toList.flatMap escapedChar ++ ['"']) := by
  simp [quoted]

theorem reads_string (nested : Option (JsonReader Json)) (s : String) :
    Reads (valueWith nested) (quoted s).toList (.string s) := by
  rw [toList_quoted]
  refine .of_valueWith (by decide) (by decide) fun rest _ => ?_
  have hbody := stringBody_printed s rest
  show (stringBody (s.toList.flatMap escapedChar ++ ['"'] ++ rest) >>= fun x => pure (Json.string x.1, x.2)) = _
  rw [List.append_assoc, List.singleton_append, hbody]
  rfl

theorem reads_nat (nested : Option (JsonReader Json)) {n : Nat} (hn : n ≤ greatestWhole) :
    Reads (valueWith nested) (numberText (.whole n)).toList (.nat n) := by
  have htext : (numberText (.whole n)).toList = Nat.toDigits 10 n := by
    show (toString n).toList = _
    rw [Nat.toString_eq_ofList_toDigits, String.toList_ofList]
  obtain ⟨c, ds, hdigits⟩ := List.exists_cons_of_ne_nil (Nat.toDigits_ne_nil (n := n) (b := 10))
  have hdigit : c.isDigit = true :=
    Nat.isDigit_of_mem_toDigits (by decide) (by decide) (hdigits ▸ List.mem_cons_self)
  have hne {d : Char} (hd : d.isDigit = false) : c ≠ d := fun h => by simp [h, hd] at hdigit
  have hblank : isJsonBlank c = false := by
    simp [isJsonBlank, hne (d := ' ') (by decide), hne (d := '\n') (by decide), hne (d := '\t') (by decide),
      hne (d := '\r') (by decide)]
  rw [htext, hdigits]
  refine .of_valueWith hblank (hne (by decide)) fun rest hrest => ?_
  have hbody := numberBody_printed hn hrest
  rw [hdigits, List.cons_append] at hbody
  rw [valueWith, skipBlanks_cons hblank]
  simp only [if_neg (hne (d := 'n') (by decide)), if_neg (hne (d := 't') (by decide)),
    if_neg (hne (d := 'f') (by decide)), if_neg (hne (d := '-') (by decide)), if_pos hdigit, hbody, bind,
    Except.bind]
  rfl

section Nested

variable {p : JsonReader Json} {gap closing between : List Char} (hgap : ∀ c ∈ gap, isJsonBlank c = true)
  (hclosing : ∀ c ∈ closing, isJsonBlank c = true) (hbetween : ∀ c ∈ between, isJsonBlank c = true)

include hgap hclosing

/-- An array is read if its items are, however they are printed. -/
theorem reads_array (print : Json → List Char) {items : List Json}
    (h : ∀ v ∈ items, Reads p (print v) v.sorted) :
    Reads (valueWith (some p)) ('[' :: (memberTexts gap closing (items.map print) ++ [']']))
      (Json.array items).sorted := by
  have hitems : List.Forall₂ (Reads p) (items.map print) (items.map sorted) :=
    List.forall₂_map_left_iff.2 (List.forall₂_map_right_iff.2 (List.forall₂_same.2 h))
  refine .of_valueWith (by decide) (by decide) fun rest _ => ?_
  show (arrayOf p (memberTexts gap closing (items.map print) ++ [']'] ++ rest) >>= fun x =>
    pure (Json.array x.1, x.2)) = _
  rw [List.append_assoc, List.singleton_append, arrayOf_memberTexts hgap hclosing hitems, sorted,
    sortedItems_eq_map]
  rfl

include hbetween

/-- An object is read if the values of its fields are, however they are printed. -/
theorem reads_object (print : Json → List Char) {fs : List (String × Json)}
    (h : ∀ f ∈ fs, Reads p (print f.2) f.2.sorted) :
    Reads (valueWith (some p))
      ('\x7b' :: (memberTexts gap closing (fs.map fun f => fieldText between f.1 (print f.2)) ++ ['\x7d']))
      (Json.object fs).sorted := by
  have hfields : List.Forall₂ (ReadsField p between) (fs.map fun f => fieldText between f.1 (print f.2))
      (fs.map fun f => (f.1, f.2.sorted)) := by
    refine List.forall₂_map_left_iff.2 (List.forall₂_map_right_iff.2 (List.forall₂_same.2 fun f hf => ?_))
    exact ⟨print f.2, rfl, h f hf⟩
  refine .of_valueWith (by decide) (by decide) fun rest _ => ?_
  show (objectOf (fun _ _ => none) (fun _ => p)
    (memberTexts gap closing (fs.map fun f => fieldText between f.1 (print f.2)) ++ ['\x7d'] ++ rest) >>= fun x =>
    pure (Json.object (Keyed.ofList x.1).entries, x.2)) = _
  rw [List.append_assoc, List.singleton_append, objectOf_memberTexts hgap hclosing hbetween hfields, sorted,
    sortedFields_eq_map]
  rfl

end Nested

/-! ## 6. Texts -/

theorem memberTexts_cons (gap closing t : List Char) (ts : List (List Char)) :
    memberTexts gap closing (t :: ts) = gap ++ ((',' :: gap).intercalate (t :: ts) ++ closing) := by
  rw [memberTexts, intercalate_eq, List.append_assoc]

theorem toList_inline (opening closing : String) (texts : List String) :
    (opening ++ ",".intercalate texts ++ closing).toList =
      opening.toList ++ (memberTexts [] [] (texts.map String.toList) ++ closing.toList) := by
  cases texts with
  | nil => simp [memberTexts]
  | cons t ts => simp [memberTexts_cons]

theorem toList_block (opening closing : String) (level : Nat) (texts : List String) :
    (block opening closing level texts).toList =
      opening.toList ++ (memberTexts (lineBreak (level + 1)).toList (lineBreak level).toList
        (texts.map String.toList) ++ closing.toList) := by
  cases texts with
  | nil => simp [block, memberTexts]
  | cons t ts => simp [block, memberTexts_cons]

theorem isJsonBlank_lineBreak (level : Nat) : ∀ c ∈ (lineBreak level).toList, isJsonBlank c = true := by
  intro c hc
  have hc : c = '\n' ∨ c = ' ' := by
    simp [lineBreak] at hc
    exact hc.imp_right And.right
  rcases hc with rfl | rfl <;> rfl

theorem toList_compactItems (items : List Json) :
    (compactItems items).map String.toList = items.map fun v => v.compact.toList := by
  induction items with
  | nil => rfl
  | cons v vs ih => rw [compactItems, List.map_cons, List.map_cons, ih]

theorem toList_compactFields (fields : List (String × Json)) :
    (compactFields fields).map String.toList = fields.map fun f => fieldText [] f.1 f.2.compact.toList := by
  induction fields with
  | nil => rfl
  | cons f fs ih =>
    rw [compactFields, List.map_cons, List.map_cons, ih]
    simp [fieldText, toList_quoted]

theorem toList_prettyItems (level : Nat) (items : List Json) :
    (prettyItems level items).map String.toList = items.map fun v => (v.prettyAt level).toList := by
  induction items with
  | nil => rfl
  | cons v vs ih => rw [prettyItems, List.map_cons, List.map_cons, ih]

theorem toList_prettyFields (level : Nat) (fields : List (String × Json)) :
    (prettyFields level fields).map String.toList =
      fields.map fun f => fieldText [' '] f.1 (f.2.prettyAt level).toList := by
  induction fields with
  | nil => rfl
  | cons f fs ih =>
    rw [prettyFields, List.map_cons, List.map_cons, ih]
    simp [fieldText, toList_quoted]

/-- What is not nested is read at any depth. -/
theorem Reads.value {text : List Char} {v : Json} (h : ∀ nested, Reads (valueWith nested) text v) (depth : Nat) :
    Reads (value depth) text v := by
  cases depth
  · exact h none
  · exact h _

/-- A value is read from its text on one line. -/
theorem reads_compact {depth : Nat} {v : Json} (h : Readable depth v) :
    Reads (value depth) v.compact.toList v.sorted := by
  induction h with
  | @null depth => exact .value reads_null depth
  | @bool depth b => exact .value (fun nested => reads_bool nested b) depth
  | @nat depth n hn => exact .value (fun nested => reads_nat nested hn) depth
  | @string depth s => exact .value (fun nested => reads_string nested s) depth
  | @array depth items _ ih =>
    rw [compact, toList_inline, toList_compactItems]
    exact reads_array (List.forall_mem_nil _) (List.forall_mem_nil _) (fun v => v.compact.toList) ih
  | @object depth fields _ ih =>
    rw [compact, toList_inline, toList_compactFields]
    exact reads_object (List.forall_mem_nil _) (List.forall_mem_nil _) (List.forall_mem_nil _)
      (fun v => v.compact.toList) ih

/-- A value is read from its text over several lines, at any level of indentation. -/
theorem reads_prettyAt {depth : Nat} {v : Json} (h : Readable depth v) (level : Nat) :
    Reads (value depth) (v.prettyAt level).toList v.sorted := by
  induction h generalizing level with
  | @null depth => exact .value reads_null depth
  | @bool depth b => exact .value (fun nested => reads_bool nested b) depth
  | @nat depth n hn => exact .value (fun nested => reads_nat nested hn) depth
  | @string depth s => exact .value (fun nested => reads_string nested s) depth
  | @array depth items _ ih =>
    rw [prettyAt, toList_block, toList_prettyItems]
    exact reads_array (isJsonBlank_lineBreak _) (isJsonBlank_lineBreak _)
      (fun v => (v.prettyAt (level + 1)).toList) fun v hv => ih v hv (level + 1)
  | @object depth fields _ ih =>
    rw [prettyAt, toList_block, toList_prettyFields]
    have hspace : ∀ c ∈ [' '], isJsonBlank c = true := List.forall_mem_singleton.2 rfl
    exact reads_object (isJsonBlank_lineBreak _) (isJsonBlank_lineBreak _) hspace
      (fun v => (v.prettyAt (level + 1)).toList) fun f hf => ih f hf (level + 1)

theorem parse_of_reads {text : String} {v : Json} (h : Reads (value depthLimit) text.toList v) :
    Json.parse text = .ok v := by
  have hread := h.reads [] [] (List.forall_mem_nil _) nofun
  rw [List.nil_append, List.append_nil] at hread
  rw [Json.parse, readAll, hread]
  rfl

end JsonReader

namespace Json

/-- **A value is read back from its text on one line.** -/
theorem parse_compact {v : Json} (h : Readable JsonReader.depthLimit v) : parse v.compact = .ok v.sorted :=
  JsonReader.parse_of_reads (JsonReader.reads_compact h)

/-- **A value is read back from its text over several lines.** -/
theorem parse_pretty {v : Json} (h : Readable JsonReader.depthLimit v) : parse v.pretty = .ok v.sorted :=
  JsonReader.parse_of_reads (JsonReader.reads_prettyAt h 0)

end Json

end QueryDrill
