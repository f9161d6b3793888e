import Mathlib.Data.List.Infix
import Mathlib.Data.List.Pairwise
import QueryDrill.Constraint.Query
import QueryDrill.Constraint.Schema
import QueryDrill.Proofs.Text.Case
/-!
What a requirement says determines what is checked.

Requirements are texts with numbers and lists of names in them. Without its digits (`undigited`), a requirement
begins in one of finitely many ways, and these can be compared by running through them; what is left are
requirements that begin alike, and there numbers and names can be read back.

* `Bounds.phrase_append_inj`: bounds can be read back from their words, whatever comes after them.
* `SchemaConstraint.description_injective`: constraints on a schema with one text are equal.
* `QueryConstraint.name_eq_of_description_eq`: constraints on a query with one text have one name.
* `QueryConstraint.check_eq_of_description_eq`: and they pass on the same queries. They need not be equal: an
  absent clause has no least size, the case of function names does not count, and to name no set operation is to
  name them all.
-/

namespace QueryDrill

open Sql Text

/-! ## 1. Texts -/

/-- What stands before the first occurrence of a character can be read back. -/
theorem append_cons_inj {α : Type} {a : α} {xs ys rest rest' : List α} (hx : a ∉ xs) (hy : a ∉ ys)
    (h : xs ++ a :: rest = ys ++ a :: rest') : xs = ys ∧ rest = rest' := by
  induction xs generalizing ys with
  | nil =>
    cases ys with
    | nil => exact ⟨rfl, (List.cons.inj h).2⟩
    | cons y ys => exact absurd ((List.cons.inj h).1 ▸ List.mem_cons_self) hy
  | cons x xs ih =>
    cases ys with
    | nil => exact absurd ((List.cons.inj h).1 ▸ List.mem_cons_self) hx
    | cons y ys =>
      obtain ⟨rfl, htail⟩ := List.cons.inj h
      obtain ⟨rfl, hrest⟩ := ih (fun h => hx (.tail _ h)) (fun h => hy (.tail _ h)) htail
      exact ⟨rfl, hrest⟩

/-- Lists that are joined can be read back if no item has the first character of the separator. One list must
not be empty: it is joined to the same as the list of an empty item. -/
theorem intercalate_inj {α : Type} {a : α} {sep : List α} {xs ys : List (List α)} (hxs : xs ≠ [])
    (hys : ys ≠ []) (hx : ∀ x ∈ xs, a ∉ x) (hy : ∀ y ∈ ys, a ∉ y)
    (h : (a :: sep).intercalate xs = (a :: sep).intercalate ys) : xs = ys := by
  induction xs generalizing ys with
  | nil => exact absurd rfl hxs
  | cons x xs ih =>
    have hx₀ := hx x List.mem_cons_self
    cases ys with
    | nil => exact absurd rfl hys
    | cons y ys =>
      have hy₀ := hy y List.mem_cons_self
      cases xs with
      | nil =>
        cases ys with
        | nil => simpa using h
        | cons z ys =>
          rw [List.intercalate_singleton, List.intercalate_cons_cons] at h
          exact absurd (h ▸ hx₀) (by simp)
      | cons w xs =>
        cases ys with
        | nil =>
          rw [List.intercalate_singleton, List.intercalate_cons_cons] at h
          exact absurd (h ▸ hy₀) (by simp)
        | cons z ys =>
          rw [List.intercalate_cons_cons, List.intercalate_cons_cons, List.append_assoc,
            List.append_assoc] at h
          obtain ⟨rfl, hrest⟩ := append_cons_inj hx₀ hy₀ h
          rw [ih (List.cons_ne_nil _ _) (List.cons_ne_nil _ _) (fun x h => hx x (.tail _ h))
            (fun y h => hy y (.tail _ h)) (List.append_cancel_left hrest)]

/-- The same for texts. -/
theorem joined_inj {a : Char} {sep : String} {rest : List Char} (hsep : sep.toList = a :: rest)
    {xs ys : List String} (hxs : xs ≠ []) (hys : ys ≠ []) (hx : ∀ x ∈ xs, a ∉ x.toList)
    (hy : ∀ y ∈ ys, a ∉ y.toList) (h : sep.intercalate xs = sep.intercalate ys) : xs = ys := by
  have hlists := congrArg String.toList h
  rw [String.toList_intercalate, String.toList_intercalate, hsep] at hlists
  have hmap := intercalate_inj (by simpa using hxs) (by simpa using hys) (by simpa using hx)
    (by simpa using hy) hlists
  exact (List.map_injective_iff.mpr fun _ _ => String.toList_inj.mp) hmap

/-- A text without its digits. -/
def undigited (s : String) : List Char := s.toList.filter fun c => !c.isDigit

@[simp] theorem undigited_append (s t : String) : undigited (s ++ t) = undigited s ++ undigited t := by
  simp [undigited]

/-- Literals are read this way, and not by decoding them. -/
theorem undigited_ofList (cs : List Char) :
    undigited (String.ofList cs) = cs.filter fun c => !c.isDigit := by
  rw [undigited, String.toList_ofList]

theorem toList_toString (n : Nat) : (toString n).toList = Nat.toDigits 10 n := by
  rw [Nat.toString_eq_ofList_toDigits, String.toList_ofList]

theorem isDigit_of_mem_toString {n : Nat} {c : Char} (h : c ∈ (toString n).toList) : c.isDigit = true :=
  Nat.isDigit_of_mem_toDigits (by decide) (by decide) (toList_toString n ▸ h)

@[simp] theorem undigited_repr (n : Nat) : undigited n.repr = [] := by
  rw [← Nat.toString_eq_repr, undigited, List.filter_eq_nil_iff]
  intro c hc
  simp [isDigit_of_mem_toString hc]

/-- A number can be read back from what follows a blank. -/
theorem toString_append_inj {n m : Nat} {s t : String}
    (h : toString n ++ (" " ++ s) = toString m ++ (" " ++ t)) : n = m ∧ s = t := by
  have hblank (n : Nat) : ' ' ∉ (toString n).toList := fun h => by
    simpa using isDigit_of_mem_toString h
  rw [← String.toList_inj] at h
  simp only [String.toList_append] at h
  obtain ⟨hdigits, hs⟩ := append_cons_inj (hblank n) (hblank m) h
  rw [toList_toString, toList_toString] at hdigits
  have hn := congrArg (Nat.ofDigitChars 10 · 0) hdigits
  simp only [Nat.ofDigitChars_ten_toDigits] at hn
  exact ⟨hn, String.toList_inj.mp hs⟩

/-! ## 2. Bounds -/

namespace Bounds

/-- Small bounds that are worded in the same way. -/
inductive HasForm : Bounds → Bounds → Prop where
  | anyNumber : HasForm ⟨0, none⟩ ⟨0, none⟩
  | atLeast (n : Nat) : HasForm ⟨n + 1, none⟩ ⟨1, none⟩
  | atMost (m : Nat) : HasForm ⟨0, some m⟩ ⟨0, some 0⟩
  | exactly (n : Nat) : HasForm ⟨n + 1, some (n + 1)⟩ ⟨1, some 1⟩
  | between {n m : Nat} (h : n + 1 ≠ m) : HasForm ⟨n + 1, some m⟩ ⟨1, some 2⟩

/-- All forms. -/
def forms : List Bounds := [⟨0, none⟩, ⟨1, none⟩, ⟨0, some 0⟩, ⟨1, some 1⟩, ⟨1, some 2⟩]

theorem exists_form (b : Bounds) : ∃ f ∈ forms, HasForm b f := by
  obtain ⟨_ | n, _ | m⟩ := b
  · exact ⟨_, by decide, .anyNumber⟩
  · exact ⟨_, by decide, .atMost m⟩
  · exact ⟨_, by decide, .atLeast n⟩
  · by_cases h : n + 1 = m
    · subst h
      exact ⟨_, by decide, .exactly n⟩
    · exact ⟨_, by decide, .between h⟩

/-- Bounds and their form differ in numbers alone. -/
theorem HasForm.undigited_phrase {b f : Bounds} (h : HasForm b f) (l : Language) :
    undigited (b.phrase l) = undigited (f.phrase l) := by
  cases h with
  | anyNumber => rfl
  | atLeast | atMost | exactly => simp [phrase]
  | between h => simp [phrase, h]

/-- No form begins with the words of another one. -/
theorem eq_of_form_begins (l : Language) : ∀ f ∈ forms, ∀ f' ∈ forms,
    undigited (f.phrase l ++ " ") <+: undigited (f'.phrase l ++ " ") → f = f' := by
  cases l <;> decide +kernel

/-- Bounds can be read back from their words, whatever comes after them. -/
theorem phrase_append_inj {l : Language} {b b' : Bounds} {s t : String}
    (h : b.phrase l ++ (" " ++ s) = b'.phrase l ++ (" " ++ t)) : b = b' ∧ s = t := by
  obtain ⟨f, hf, hb⟩ := exists_form b
  obtain ⟨f', hf', hb'⟩ := exists_form b'
  have hform : f = f' := by
    have hprefix : undigited (f.phrase l ++ " ") <+: undigited (b.phrase l ++ (" " ++ s)) := by
      simp [hb.undigited_phrase l]
    have hprefix' : undigited (f'.phrase l ++ " ") <+: undigited (b.phrase l ++ (" " ++ s)) := by
      rw [h]
      simp [hb'.undigited_phrase l]
    rcases List.prefix_or_prefix_of_prefix hprefix hprefix' with h | h
    · exact eq_of_form_begins l _ hf _ hf' h
    · exact (eq_of_form_begins l _ hf' _ hf h).symm
  subst hform
  cases hb with
  | anyNumber =>
    cases hb'
    exact ⟨rfl, by simpa using h⟩
  | atLeast n =>
    cases hb' with
    | atLeast n' =>
      simp only [phrase, String.append_assoc, String.append_right_inj] at h
      obtain ⟨hn, hs⟩ := toString_append_inj h
      exact ⟨by rw [hn], hs⟩
  | atMost m =>
    cases hb' with
    | atMost m' =>
      simp only [phrase, String.append_assoc, String.append_right_inj] at h
      obtain ⟨hm, hs⟩ := toString_append_inj h
      exact ⟨by rw [hm], hs⟩
  | exactly n =>
    cases hb' with
    | exactly n' =>
      simp only [phrase, if_pos, String.append_assoc, String.append_right_inj] at h
      obtain ⟨hn, hs⟩ := toString_append_inj h
      exact ⟨by rw [hn], hs⟩
  | between hne =>
    cases hb' with
    | between hne' =>
      simp only [phrase, if_neg hne, if_neg hne', String.append_assoc, String.append_right_inj] at h
      obtain ⟨hn, h⟩ := toString_append_inj h
      simp only [String.append_right_inj] at h
      obtain ⟨hm, hs⟩ := toString_append_inj h
      exact ⟨by rw [hn, hm], hs⟩

theorem phrase_injective (l : Language) : Function.Injective (phrase l) := fun b b' h =>
  (phrase_append_inj (s := "") (t := "") (by rw [h])).1

theorem atLeast_inj {n m : Nat} : atLeast n = atLeast m ↔ n = m := by simp [atLeast]

end Bounds

/-! ## 3. Constraints on a schema -/

namespace SchemaConstraint

/-- Constraints on one measure differ in numbers if their bounds do. -/
theorem undigited_description {l : Language} {c c' : SchemaConstraint} (hm : c.measure = c'.measure)
    (hb : undigited (c.bounds.phrase l) = undigited (c'.bounds.phrase l)) :
    undigited (c.description l) = undigited (c'.description l) := by
  obtain ⟨m, b, _⟩ := c
  obtain ⟨m', b', _⟩ := c'
  obtain rfl : m = m' := hm
  cases m <;> simp [description, hb]

/-- All texts without their digits, with their measures. -/
def wordings (l : Language) : List (SchemaMeasure × List Char) :=
  SchemaMeasure.all.flatMap fun m => Bounds.forms.map fun f => (m, undigited ((of m f).description l))

theorem wordings_pairwise (l : Language) :
    (wordings l).Pairwise fun e e' => e.2 = e'.2 → e.1 = e'.1 := by
  cases l <;> simp only [wordings, SchemaMeasure.all, Bounds.forms, of, SchemaMeasure.hasMax,
    description, Language.pick, Bounds.phrase, Bounds.atLeast, undigited_append, List.flatMap_cons,
    List.flatMap_nil, List.map_cons, List.map_nil, List.cons_append, List.nil_append, reduceDIte,
    Bool.false_eq_true, reduceIte, Nat.reduceEqDiff, Nat.toString_eq_repr, undigited_repr, List.append_nil]
  all_goals repeat rw [undigited_ofList]
  all_goals decide +kernel

/-- The text of a constraint tells its measure. -/
theorem measure_eq_of_description_eq {l : Language} {c c' : SchemaConstraint}
    (h : c.description l = c'.description l) : c.measure = c'.measure := by
  have hmem (c : SchemaConstraint) : (c.measure, undigited (c.description l)) ∈ wordings l := by
    obtain ⟨f, hf, hform⟩ := c.bounds.exists_form
    have hmeasure : c.measure ∈ SchemaMeasure.all := by cases c.measure <;> decide
    refine List.mem_flatMap.mpr ⟨c.measure, hmeasure, List.mem_map.mpr ⟨f, hf, ?_⟩⟩
    have hof : (of c.measure f).measure = c.measure := by unfold of; split <;> rfl
    have hbounds : (of c.measure f).bounds = f := by
      unfold of
      split
      · rfl
      · next hmax =>
        have hnone := c.max_eq_none (by simpa using hmax)
        generalize c.bounds = b at hform hnone
        cases hform <;> first | rfl | cases hnone
    rw [undigited_description hof (by rw [hbounds, hform.undigited_phrase l])]
  have : Std.Symm fun e e' : SchemaMeasure × List Char => e.2 = e'.2 → e.1 = e'.1 :=
    ⟨fun _ _ hfst hsnd => (hfst hsnd.symm).symm⟩
  exact (wordings_pairwise l).forall_of_forall (fun _ _ _ => rfl) (hmem c) (hmem c') (congrArg undigited h)

/-- Constraints with one text are equal. -/
theorem description_injective (l : Language) : Function.Injective (description l) := by
  intro c c' h
  have hm := measure_eq_of_description_eq h
  obtain ⟨m, b, hb⟩ := c
  obtain ⟨m', b', hb'⟩ := c'
  obtain rfl : m = m' := hm
  suffices heq : b = b' by subst heq; rfl
  refine Bounds.phrase_injective l ?_
  cases m <;> simpa [description] using h

end SchemaConstraint

/-! ## 4. Names of constraints on a query -/

namespace QueryConstraint

variable {l : Language}

/-- How requirements begin that their first words tell from those of other names. -/
def openings (l : Language) : List (String × String) :=
  [("joins", l.pick "The main query must contain" "La query principale deve contenere"),
    ("conditions",
      l.pick "The WHERE clause of the main query must contain"
        "La clausola WHERE della query principale deve contenere"),
    ("repeated_column_conditions", l.pick "In the WHERE clause," "Nella clausola WHERE,"),
    ("subqueries", l.pick "The query must contain" "La query deve contenere"),
    ("column_aliases", l.pick "Rename" "Rinomina"),
    ("wildcard_length", l.pick "Use LIKE patterns, each with" "Usa pattern LIKE, ognuno con"),
    ("wildcard_characters",
      l.pick "A LIKE pattern must contain the characters" "Un pattern LIKE deve contenere i caratteri"),
    ("union_balance", unionBalance.description l),
    ("duplicates", (duplicates .allowed).description l),
    ("duplicates", (duplicates .unique).description l),
    ("duplicates", (duplicates .distinctRequired).description l),
    ("foreign_key_projection", (foreignKeyProjection .present).description l),
    ("foreign_key_projection", (foreignKeyProjection .absent).description l)]

/-- How requirements begin that say whether something is there. -/
def stateOpenings (l : Language) (state : Presence) : List (String × String) :=
  [("group_by", clauseText l state "GROUP BY" 0 ""),
    ("having", clauseText l state "HAVING" 0 ""),
    ("order_by", clauseText l state "ORDER BY" 0 ""),
    ("distinct", (distinct state).description l),
    ("null_checks", (nullChecks state).description l)]

/-- How requirements begin that only the words after their bounds tell from others. -/
def countOpenings (l : Language) (f : Bounds) : List (String × String) :=
  [("tables", (tables f).description l),
    ("aggregations", (aggregations f []).description l),
    ("selected_columns", (selectedColumns f).description l),
    ("set_operations",
      l.pick "The query must use" "La query deve usare" ++ " " ++ f.phrase l ++ " "
        ++ l.pick "set operations of type" "operazioni insiemistiche di tipo")]

/-- How requirements begin, each with the name of its constraint, without digits. -/
def allOpenings (l : Language) : List (String × List Char) :=
  (openings l ++ [.present, .absent].flatMap (stateOpenings l)
    ++ Bounds.forms.flatMap (countOpenings l)).map fun e => (e.1, undigited e.2)

/-- Requirements that begin alike have one name. -/
theorem allOpenings_pairwise (l : Language) : (allOpenings l).Pairwise fun e e' =>
    e.2 <+: e'.2 ∨ e'.2 <+: e.2 → e.1 = e'.1 := by
  cases l <;> simp only [allOpenings, openings, stateOpenings, countOpenings, Bounds.forms, description,
    clauseText, Presence.verb, Language.pick, Bounds.phrase, undigited_append, List.flatMap_cons,
    List.flatMap_nil, List.map_cons, List.map_nil, List.cons_append, List.nil_append,
    Bool.false_eq_true, reduceIte, Nat.reduceEqDiff, Nat.toString_eq_repr, undigited_repr, List.append_nil,
    gt_iff_lt, Nat.lt_irrefl, decide_false, Bool.and_false, List.isEmpty_nil]
  all_goals repeat rw [undigited_ofList]
  all_goals decide +kernel

theorem mem_of_openings {e : String × String} (n : Nat) (h : (openings l)[n]? = some e) :
    (e.1, undigited e.2) ∈ allOpenings l :=
  List.mem_map_of_mem (List.mem_append_left _ (List.mem_append_left _ (List.mem_of_getElem? h)))

theorem mem_of_stateOpenings {e : String × String} (state : Presence) (n : Nat)
    (h : (stateOpenings l state)[n]? = some e) : (e.1, undigited e.2) ∈ allOpenings l :=
  List.mem_map_of_mem (List.mem_append_left _ (List.mem_append_right _
    (List.mem_flatMap.mpr ⟨state, by cases state <;> decide, List.mem_of_getElem? h⟩)))

theorem mem_of_countOpenings {e : String × String} {f : Bounds} (hf : f ∈ Bounds.forms) (n : Nat)
    (h : (countOpenings l f)[n]? = some e) : (e.1, undigited e.2) ∈ allOpenings l :=
  List.mem_map_of_mem (List.mem_append_right _ (List.mem_flatMap.mpr ⟨f, hf, List.mem_of_getElem? h⟩))

/-- Every requirement begins in one of the ways that are listed for its name. -/
theorem exists_opening (l : Language) (c : QueryConstraint) :
    ∃ opening, (c.name, opening) ∈ allOpenings l ∧ opening <+: undigited (c.description l) := by
  cases c with
  | tables b =>
    obtain ⟨f, hf, hform⟩ := b.exists_form
    exact ⟨_, mem_of_countOpenings hf 0 rfl, by simp [description, hform.undigited_phrase l]⟩
  | joins => exact ⟨_, mem_of_openings 0 rfl, by simp [description]⟩
  | conditions => exact ⟨_, mem_of_openings 1 rfl, by simp [description]⟩
  | repeatedColumnConditions => exact ⟨_, mem_of_openings 2 rfl, by simp [description]⟩
  | aggregations b =>
    obtain ⟨f, hf, hform⟩ := b.exists_form
    exact ⟨_, mem_of_countOpenings hf 1 rfl, by simp [description, hform.undigited_phrase l]⟩
  | groupBy state => exact ⟨_, mem_of_stateOpenings state 0 rfl, by simp [description, clauseText]⟩
  | having state => exact ⟨_, mem_of_stateOpenings state 1 rfl, by simp [description, clauseText]⟩
  | orderBy state => exact ⟨_, mem_of_stateOpenings state 2 rfl, by simp [description, clauseText]⟩
  | distinct state => exact ⟨_, mem_of_stateOpenings state 3 rfl, List.prefix_rfl⟩
  | subqueries => exact ⟨_, mem_of_openings 3 rfl, by simp [description]⟩
  | duplicates mode =>
    cases mode with
    | allowed => exact ⟨_, mem_of_openings 8 rfl, List.prefix_rfl⟩
    | unique => exact ⟨_, mem_of_openings 9 rfl, List.prefix_rfl⟩
    | distinctRequired => exact ⟨_, mem_of_openings 10 rfl, List.prefix_rfl⟩
  | columnAliases => exact ⟨_, mem_of_openings 4 rfl, by simp [description]⟩
  | selectedColumns b =>
    obtain ⟨f, hf, hform⟩ := b.exists_form
    exact ⟨_, mem_of_countOpenings hf 2 rfl, by simp [description, hform.undigited_phrase l]⟩
  | wildcardLength => exact ⟨_, mem_of_openings 5 rfl, by simp [description]⟩
  | wildcardCharacters => exact ⟨_, mem_of_openings 6 rfl, by simp [description]⟩
  | unionBalance => exact ⟨_, mem_of_openings 7 rfl, List.prefix_rfl⟩
  | setOperations min =>
    obtain ⟨f, hf, hform⟩ := (Bounds.atLeast min).exists_form
    exact ⟨_, mem_of_countOpenings hf 3 rfl, by simp [description, hform.undigited_phrase l]⟩
  | foreignKeyProjection state =>
    cases state with
    | present => exact ⟨_, mem_of_openings 11 rfl, List.prefix_rfl⟩
    | absent => exact ⟨_, mem_of_openings 12 rfl, List.prefix_rfl⟩
  | nullChecks state => exact ⟨_, mem_of_stateOpenings state 4 rfl, List.prefix_rfl⟩

/-- The text of a constraint tells its name. -/
theorem name_eq_of_description_eq {c c' : QueryConstraint} (h : c.description l = c'.description l) :
    c.name = c'.name := by
  obtain ⟨opening, hmem, hprefix⟩ := exists_opening l c
  obtain ⟨opening', hmem', hprefix'⟩ := exists_opening l c'
  have : Std.Symm fun e e' : String × List Char => e.2 <+: e'.2 ∨ e'.2 <+: e.2 → e.1 = e'.1 :=
    ⟨fun _ _ hnames hprefix => (hnames hprefix.symm).symm⟩
  exact (allOpenings_pairwise l).forall_of_forall (fun _ _ _ => rfl) hmem hmem'
    (List.prefix_or_prefix_of_prefix hprefix (h ▸ hprefix'))

/-! ## 5. What is read back -/

theorem bounded_inj {opening s t : String} {b b' : Bounds}
    (h : opening ++ " " ++ b.phrase l ++ " " ++ s = opening ++ " " ++ b'.phrase l ++ " " ++ t) :
    b = b' ∧ s = t := by
  simp only [String.append_assoc, String.append_right_inj] at h
  exact Bounds.phrase_append_inj h

theorem bounded_tail_inj {opening closing s t : String} {b b' : Bounds}
    (h : opening ++ " " ++ b.phrase l ++ " " ++ closing ++ s =
      opening ++ " " ++ b'.phrase l ++ " " ++ closing ++ t) : b = b' ∧ s = t := by
  simp only [String.append_assoc, String.append_right_inj] at h
  obtain ⟨hb, hs⟩ := Bounds.phrase_append_inj h
  exact ⟨hb, (String.append_right_inj closing).mp hs⟩

/-- The state of a clause can be read back, and its least size if it has to be there. -/
theorem clauseText_inj {state state' : Presence} {clause unit : String} {min min' : Nat}
    (h : clauseText l state clause min unit = clauseText l state' clause min' unit) :
    state = state' ∧ (state = .present → min = min') := by
  cases state with
  | absent =>
    refine ⟨?_, nofun⟩
    cases state' with
    | absent => rfl
    | present => cases l <;> simp [clauseText, Presence.verb, Language.pick, ← String.toList_inj] at h
  | present =>
    cases state' with
    | absent => cases l <;> simp [clauseText, Presence.verb, Language.pick, ← String.toList_inj] at h
    | present =>
      refine ⟨rfl, fun _ => ?_⟩
      rw [clauseText, clauseText, String.append_right_inj] at h
      cases min with
      | zero =>
        cases min' with
        | zero => rfl
        | succ m => simp [String.append_assoc] at h
      | succ n =>
        cases min' with
        | zero => simp [String.append_assoc] at h
        | succ m =>
          simp only [Nat.zero_lt_succ, gt_iff_lt, decide_true, Bool.and_true, if_pos] at h
          exact Bounds.atLeast_inj.mp (bounded_inj h).1

/-- The state is the only thing that is said in two ways. -/
theorem verb_inj {state state' : Presence} {opening closing : String}
    (h : opening ++ " " ++ state.verb l ++ " " ++ closing =
      opening ++ " " ++ state'.verb l ++ " " ++ closing) : state = state' := by
  simp only [String.append_left_inj, String.append_right_inj] at h
  cases state <;> cases state' <;> cases l <;> first | rfl | exact absurd h (by decide)

/-- A list can be read back from a text that names its items, and says nothing for none. -/
theorem listed_inj {α : Type} {a : Char} {sep : String} {rest : List Char} (hsep : sep.toList = a :: rest)
    (around : String → String) (haround : Function.Injective around) (hempty : ∀ s, around s ≠ "")
    {f : α → String} {xs ys : List α} (hx : ∀ x ∈ xs, a ∉ (f x).toList) (hy : ∀ y ∈ ys, a ∉ (f y).toList)
    (h : (if xs.isEmpty then "" else around (sep.intercalate (xs.map f))) =
      if ys.isEmpty then "" else around (sep.intercalate (ys.map f))) : xs.map f = ys.map f := by
  cases xs with
  | nil =>
    cases ys with
    | nil => rfl
    | cons y ys => exact absurd h.symm (hempty _)
  | cons x xs =>
    cases ys with
    | nil => exact absurd h (hempty _)
    | cons y ys =>
      exact joined_inj hsep (List.cons_ne_nil _ _) (List.cons_ne_nil _ _) (List.forall_mem_map.mpr hx)
        (List.forall_mem_map.mpr hy) (haround h)

theorem joins_inj {b b' : Bounds} {kinds kinds' : List JoinKind}
    (h : (joins b kinds).description l = (joins b' kinds').description l) : b = b' ∧ kinds = kinds' := by
  obtain ⟨hb, hkinds⟩ := bounded_tail_inj h
  have hcomma (kinds : List JoinKind) : ∀ k ∈ kinds, ',' ∉ k.title.toList := fun k _ => by
    cases k <;> decide
  have htitle : Function.Injective JoinKind.title := fun a b hab => by
    cases a <;> cases b <;> first | rfl | exact absurd hab (by decide)
  have htitles := listed_inj rfl (fun s => " " ++ l.pick "using only" "usando solo" ++ " " ++ s)
    (fun _ _ => (String.append_right_inj _).mp) (fun s => by simp [String.append_assoc])
    (hcomma _) (hcomma _) hkinds
  exact ⟨hb, List.map_injective_iff.mpr htitle htitles⟩

theorem subqueries_inj {b b' : Bounds} {nesting nesting' : Nesting}
    (h : (subqueries b nesting).description l = (subqueries b' nesting').description l) :
    b = b' ∧ nesting = nesting' := by
  obtain ⟨hb, hnesting⟩ := bounded_tail_inj h
  refine ⟨hb, ?_⟩
  cases nesting <;> cases nesting' <;> cases l <;> first | rfl | exact absurd hnesting (by decide)

theorem duplicates_inj {mode mode' : DuplicateMode}
    (h : (duplicates mode).description l = (duplicates mode').description l) : mode = mode' := by
  cases mode <;> cases mode' <;> cases l <;> first | rfl | exact absurd h (by decide)

theorem foreignKeyProjection_inj {state state' : Presence}
    (h : (foreignKeyProjection state).description l = (foreignKeyProjection state').description l) :
    state = state' := by
  cases state <;> cases state' <;> cases l <;> first | rfl | exact absurd h (by decide)

/-- Plain names of functions that are shown alike differ in case alone. -/
theorem map_lower_eq_of_map_upper_eq {functions functions' : List String}
    (hplain : ∀ name ∈ functions, isPlain name = true)
    (hplain' : ∀ name ∈ functions', isPlain name = true)
    (h : functions.map upper = functions'.map upper) : functions.map lower = functions'.map lower := by
  induction functions generalizing functions' with
  | nil =>
    cases functions' with
    | nil => rfl
    | cons => cases h
  | cons f fs ih =>
    cases functions' with
    | nil => cases h
    | cons f' fs' =>
      obtain ⟨hf, hfs⟩ := List.cons.inj h
      rw [List.map_cons, List.map_cons,
        lower_eq_of_upper_eq (hplain f List.mem_cons_self) (hplain' f' List.mem_cons_self) hf,
        ih (fun n hn => hplain n (.tail _ hn)) (fun n hn => hplain' n (.tail _ hn)) hfs]

/-- The names of functions that a constraint counts. -/
def functionNames : QueryConstraint → List String
  | aggregations _ functions => functions
  | _ => []

/-- Names of functions are made of ASCII letters and underscores. -/
def HasPlainNames (c : QueryConstraint) : Prop := ∀ name ∈ c.functionNames, isPlain name = true

instance (c : QueryConstraint) : Decidable c.HasPlainNames :=
  inferInstanceAs (Decidable (∀ name ∈ c.functionNames, isPlain name = true))

theorem comma_not_mem_upper {name : String} (h : isPlain name = true) : ',' ∉ (upper name).toList :=
  fun hmem => absurd (List.all_eq_true.mp (isPlain_upper h) ',' hmem) (by decide)

/-- The names of functions can be read back, except for their case. -/
theorem aggregations_inj {b b' : Bounds} {functions functions' : List String}
    (hplain : ∀ f ∈ functions, isPlain f = true) (hplain' : ∀ f ∈ functions', isPlain f = true)
    (h : (aggregations b functions).description l = (aggregations b' functions').description l) :
    b = b' ∧ functions.map lower = functions'.map lower := by
  obtain ⟨hb, hfunctions⟩ := bounded_tail_inj h
  have hupper := listed_inj rfl (fun s => " (" ++ s ++ ")")
    (fun _ _ h => (String.append_right_inj _).mp ((String.append_left_inj _).mp h))
    (fun s => by simp [String.append_assoc]) (fun f hf => comma_not_mem_upper (hplain f hf))
    (fun f hf => comma_not_mem_upper (hplain' f hf)) hfunctions
  exact ⟨hb, map_lower_eq_of_map_upper_eq hplain hplain' hupper⟩

/-- The set operations that a constraint counts: to name none is to name them all. -/
def countedOperators (kinds : List SetOperator) : List SetOperator :=
  if kinds.isEmpty then [.union, .intersect, .except] else kinds

theorem contains_countedOperators (kinds : List SetOperator) (op : SetOperator) :
    (countedOperators kinds).contains op = (kinds.isEmpty || kinds.contains op) := by
  cases kinds with
  | nil => cases op <;> rfl
  | cons => rfl

/-- The set operations that are counted can be read back. -/
theorem setOperations_inj {n n' : Nat} {kinds kinds' : List SetOperator}
    (h : (setOperations n kinds).description l = (setOperations n' kinds').description l) :
    n = n' ∧ countedOperators kinds = countedOperators kinds' := by
  have hwords (kinds : List SetOperator) :
      (if kinds.isEmpty then "UNION/INTERSECT/EXCEPT" else "/".intercalate (kinds.map SetOperator.sql)) =
        "/".intercalate ((countedOperators kinds).map SetOperator.sql) := by
    cases kinds <;> rfl
  simp only [description, hwords, String.append_assoc, String.append_right_inj] at h
  obtain ⟨hmin, hkinds⟩ := Bounds.phrase_append_inj h
  simp only [String.append_right_inj] at hkinds
  have hslash (kinds : List SetOperator) : ∀ x ∈ kinds.map SetOperator.sql, '/' ∉ x.toList := by
    intro x hx
    obtain ⟨op, -, rfl⟩ := List.mem_map.mp hx
    cases op <;> decide
  have hne (kinds : List SetOperator) : (countedOperators kinds).map SetOperator.sql ≠ [] := by
    cases kinds <;> simp [countedOperators]
  have hsql : Function.Injective SetOperator.sql := fun a b hab => by
    cases a <;> cases b <;> first | rfl | exact absurd hab (by decide)
  have hsqls := joined_inj rfl (hne _) (hne _) (hslash _) (hslash _) hkinds
  exact ⟨Bounds.atLeast_inj.mp hmin, List.map_injective_iff.mpr hsql hsqls⟩

/-! ## 6. Checks -/

/-- How large an absent clause would have to be makes no difference. -/
theorem checkClause_congr {state state' : Presence} {min min' : Nat}
    (h : state = state' ∧ (state = .present → min = min')) (clause : String) (sizes : List Nat)
    (unit : String) :
    checkClause clause state sizes min unit = checkClause clause state' sizes min' unit := by
  obtain ⟨rfl, hmin⟩ := h
  cases state with
  | present => rw [hmin rfl]
  | absent => rfl

/-- Set operations are counted alike if the same are named. -/
theorem checkSetOperations_congr {o : Outline} {min : Nat} {kinds kinds' : List SetOperator}
    (h : countedOperators kinds = countedOperators kinds') :
    checkSetOperations o min kinds = checkSetOperations o min kinds' := by
  simp only [checkSetOperations, ← contains_countedOperators, h]

/-- Functions are counted alike if their names differ in case alone. -/
theorem checkAggregations_congr {o : Outline} {b : Bounds} {functions functions' : List String}
    (h : functions.map lower = functions'.map lower) :
    checkAggregations o b functions = checkAggregations o b functions' := by
  rw [checkAggregations, checkAggregations, h]

/-- Constraints with one text check alike. -/
theorem check_eq_of_description_eq {c c' : QueryConstraint} (hplain : c.HasPlainNames)
    (hplain' : c'.HasPlainNames) (h : c.description l = c'.description l) (o : Outline) (catalog : Catalog) :
    c.check o catalog = c'.check o catalog := by
  have hname := name_eq_of_description_eq h
  cases c with
  | tables b =>
    cases c' with
    | tables b' => rw [(bounded_inj h).1]
    | _ => simp [name] at hname
  | joins b kinds =>
    cases c' with
    | joins b' kinds' => rw [(joins_inj h).1, (joins_inj h).2]
    | _ => simp [name] at hname
  | conditions b =>
    cases c' with
    | conditions b' => rw [(bounded_inj h).1]
    | _ => simp [name] at hname
  | repeatedColumnConditions n =>
    cases c' with
    | repeatedColumnConditions n' => rw [Bounds.atLeast_inj.mp (bounded_inj h).1]
    | _ => simp [name] at hname
  | aggregations b functions =>
    cases c' with
    | aggregations b' functions' =>
      obtain ⟨rfl, hlower⟩ := aggregations_inj hplain hplain' h
      exact checkAggregations_congr hlower
    | _ => simp [name] at hname
  | groupBy state n =>
    cases c' with
    | groupBy state' n' => exact checkClause_congr (clauseText_inj h) _ _ _
    | _ => simp [name] at hname
  | having state n =>
    cases c' with
    | having state' n' => exact checkClause_congr (clauseText_inj h) _ _ _
    | _ => simp [name] at hname
  | orderBy state n =>
    cases c' with
    | orderBy state' n' => exact checkClause_congr (clauseText_inj h) _ _ _
    | _ => simp [name] at hname
  | distinct state =>
    cases c' with
    | distinct state' => rw [verb_inj h]
    | _ => simp [name] at hname
  | subqueries b nesting =>
    cases c' with
    | subqueries b' nesting' => rw [(subqueries_inj h).1, (subqueries_inj h).2]
    | _ => simp [name] at hname
  | duplicates mode =>
    cases c' with
    | duplicates mode' => rw [duplicates_inj h]
    | _ => simp [name] at hname
  | columnAliases n =>
    cases c' with
    | columnAliases n' => rw [Bounds.atLeast_inj.mp (bounded_inj h).1]
    | _ => simp [name] at hname
  | selectedColumns b =>
    cases c' with
    | selectedColumns b' => rw [(bounded_inj h).1]
    | _ => simp [name] at hname
  | wildcardLength b =>
    cases c' with
    | wildcardLength b' => rw [(bounded_inj h).1]
    | _ => simp [name] at hname
  | wildcardCharacters required =>
    cases c' with
    | wildcardCharacters required' =>
      rw [(String.append_right_inj _).mp ((String.append_left_inj _).mp h)]
    | _ => simp [name] at hname
  | unionBalance =>
    cases c' with
    | unionBalance => rfl
    | _ => simp [name] at hname
  | setOperations n kinds =>
    cases c' with
    | setOperations n' kinds' =>
      obtain ⟨rfl, hkinds⟩ := setOperations_inj h
      exact checkSetOperations_congr hkinds
    | _ => simp [name] at hname
  | foreignKeyProjection state =>
    cases c' with
    | foreignKeyProjection state' => rw [foreignKeyProjection_inj h]
    | _ => simp [name] at hname
  | nullChecks state =>
    cases c' with
    | nullChecks state' => rw [verb_inj h]
    | _ => simp [name] at hname

end QueryConstraint

/-- **The requirement text determines the check.** In each language, constraints on a schema with one text are
equal, and constraints on a query with one text pass on the same queries over the same catalogs. -/
theorem description_determines_check (l : Language) :
    (∀ c c' : SchemaConstraint, c.description l = c'.description l → c = c') ∧
      ∀ c c' : QueryConstraint, c.HasPlainNames → c'.HasPlainNames →
        c.description l = c'.description l → ∀ (o : Outline) (catalog : Catalog) (l' : Language),
          c.validate o catalog l' = .ok () ↔ c'.validate o catalog l' = .ok () := by
  refine ⟨fun c c' h => SchemaConstraint.description_injective l h, ?_⟩
  intro c c' hplain hplain' h o catalog l'
  rw [QueryConstraint.validate_eq_ok_iff, QueryConstraint.validate_eq_ok_iff,
    QueryConstraint.check_eq_of_description_eq hplain hplain' h]

/-- Constraints with one text: an upper bound that its measure cannot have is left out, the case of a name is not
shown, and to name no set operation reads as naming them all. -/
theorem description_determines_check_alike :
    (SchemaConstraint.of .rowsPerTable ⟨3, some 5⟩ = .of .rowsPerTable ⟨3, none⟩) ∧
      (∀ (o : Outline) (catalog : Catalog) (l' : Language),
        (QueryConstraint.aggregations ⟨1, none⟩ ["Count"]).validate o catalog l' = .ok () ↔
          (QueryConstraint.aggregations ⟨1, none⟩ ["COUNT"]).validate o catalog l' = .ok ()) ∧
      ∀ (o : Outline) (catalog : Catalog) (l' : Language),
        (QueryConstraint.setOperations 2 []).validate o catalog l' = .ok () ↔
          (QueryConstraint.setOperations 2 [.union, .intersect, .except]).validate o catalog l' = .ok () :=
  ⟨(description_determines_check .italian).1 _ _ (by decide +kernel),
    (description_determines_check .english).2 _ _ (by decide +kernel) (by decide +kernel) (by decide +kernel),
    (description_determines_check .italian).2 _ _ (by decide +kernel) (by decide +kernel) (by decide +kernel)⟩

end QueryDrill
