import Mathlib.Data.List.Nodup
import QueryDrill.Toml.Document
/-!
Every key of a TOML text stands once.

A TOML text may give the parts of a table in several places, but no key twice. So the tables that are read from it, at
all levels, have each key once (`Json.Distinct`), and what is found under a key is all that the text says of it
(`distinct_parse?`). Tables are built up by changes at the end of a path, and each such change keeps that
(`Table.keeps_changeAt`); values are read before they are put into tables (`yields_value`).
-/

namespace QueryDrill

/-- A value in which no object has a key twice. -/
inductive Json.Distinct : Json → Prop
  | null : Distinct .null
  | bool (b : Bool) : Distinct (.bool b)
  | number (n : JsonNumber) : Distinct (.number n)
  | string (s : String) : Distinct (.string s)
  | array {items : List Json} (h : ∀ v ∈ items, Distinct v) : Distinct (.array items)
  | object {fields : List (String × Json)} (hkeys : (fields.map Prod.fst).Nodup)
    (hvalues : ∀ e ∈ fields, Distinct e.2) : Distinct (.object fields)

namespace Toml

open Json (Distinct)

/-! ## 1. Tables -/

theorem entriesJson_eq_map (es : List (String × Node)) : entriesJson es = es.map fun e => (e.1, e.2.toJson) := by
  induction es with
  | nil => rfl
  | cons e es ih => rw [entriesJson, ih, List.map_cons]

theorem tablesJson_eq_map (ts : List Table) : tablesJson ts = ts.map Table.toJson := by
  induction ts with
  | nil => rfl
  | cons t ts ih => rw [tablesJson, ih, List.map_cons]

/-- Tables of an array are distinct each. -/
theorem distinct_tables_iff {ts : List Table} :
    (Node.tables ts).toJson.Distinct ↔ ∀ t ∈ ts, t.toJson.Distinct := by
  rw [Node.toJson, tablesJson_eq_map]
  constructor
  · rintro ⟨⟩
    rename_i h
    intro t ht
    exact h _ (List.mem_reverse.2 (List.mem_map_of_mem ht))
  · intro h
    refine .array fun v hv => ?_
    obtain ⟨t, ht, rfl⟩ := List.mem_map.1 (List.mem_reverse.1 hv)
    exact h t ht

namespace Table

variable {t : Table} {key : String} {n : Node} {dotted : Bool} {change : Table → Option Table}
  {path : List String} {vs : List (List String × String × Json)}

theorem distinct_iff :
    t.toJson.Distinct ↔ (t.entries.map Prod.fst).Nodup ∧ ∀ e ∈ t.entries, e.2.toJson.Distinct := by
  obtain ⟨implicit, dotted, es⟩ := t
  rw [toJson, entriesJson_eq_map, entries]
  have hkeys : (es.map fun e => (e.1, e.2.toJson)).map Prod.fst = es.map Prod.fst := by
    rw [List.map_map]
    rfl
  constructor
  · rintro ⟨⟩
    rename_i hnodup hvalues
    exact ⟨hkeys ▸ hnodup, fun e he => hvalues _ (List.mem_map_of_mem he)⟩
  · rintro ⟨hnodup, hvalues⟩
    refine .object (hkeys ▸ hnodup) fun e he => ?_
    obtain ⟨e', he', rfl⟩ := List.mem_map.1 he
    exact hvalues e' he'

theorem distinct_of_entries_nil (h : t.entries = []) : t.toJson.Distinct := by
  rw [distinct_iff, h]
  exact ⟨List.nodup_nil, nofun⟩

theorem distinct_defined (h : t.toJson.Distinct) : t.defined.toJson.Distinct := by
  cases t
  exact h

theorem distinct_of_get? (ht : t.toJson.Distinct) (h : t.get? key = some n) : n.toJson.Distinct := by
  obtain ⟨before, after, hentries, -⟩ := List.lookup_eq_some_iff.1 h
  exact (distinct_iff.1 ht).2 (key, n) (hentries ▸ List.mem_append_right _ List.mem_cons_self)

/-- A node takes the place of the one with its key, or comes last. -/
theorem distinct_put (ht : t.toJson.Distinct) (hn : n.toJson.Distinct) : (t.put key n).toJson.Distinct := by
  obtain ⟨implicit, dotted, es⟩ := t
  obtain ⟨hnodup, hnodes⟩ := distinct_iff.1 ht
  rw [distinct_iff, put, entries]
  split
  · have hkeys : (es.map fun e => if e.1 == key then (key, n) else e).map Prod.fst = es.map Prod.fst := by
      rw [List.map_map]
      refine List.map_congr_left fun e _ => ?_
      by_cases he : e.1 = key
      · simp [he]
      · simp [he]
    refine ⟨hkeys ▸ hnodup, fun e he => ?_⟩
    obtain ⟨e', he', rfl⟩ := List.mem_map.1 he
    split
    · exact hn
    · exact hnodes e' he'
  · rename_i hfresh
    refine ⟨?_, fun e he => ?_⟩
    · rw [List.map_append, List.map_singleton, ← List.concat_eq_append]
      refine List.Nodup.concat (fun hmem => hfresh ?_) hnodup
      obtain ⟨e, he, hkey⟩ := List.mem_map.1 hmem
      exact List.any_eq_true.2 ⟨e, he, beq_iff_eq.2 hkey⟩
    · rcases List.mem_append.1 he with he | he
      · exact hnodes e he
      · exact List.mem_singleton.1 he ▸ hn

/-- A change of tables that leaves no key twice. -/
def Keeps (change : Table → Option Table) : Prop :=
  ∀ t u, t.toJson.Distinct → change t = some u → u.toJson.Distinct

/-- What is done at the end of a path is all that a change does. -/
theorem keeps_changeAt (h : Keeps change) : Keeps (changeAt dotted change path) := by
  induction path with
  | nil => exact h
  | cons key path ih =>
    intro t u ht hu
    rw [changeAt] at hu
    split at hu
    · obtain ⟨inner, hinner, hu⟩ := Option.bind_eq_some_iff.1 hu
      obtain rfl := Option.some.inj hu
      exact distinct_put ht (ih _ _ (distinct_of_entries_nil rfl) hinner)
    · rename_i inner hget
      split at hu
      · cases hu
      · obtain ⟨inner', hinner, hu⟩ := Option.bind_eq_some_iff.1 hu
        obtain rfl := Option.some.inj hu
        exact distinct_put ht (ih _ _ (distinct_of_get? ht hget) hinner)
    · rename_i inner inners hget
      obtain ⟨inner', hinner, hu⟩ := Option.bind_eq_some_iff.1 hu
      obtain rfl := Option.some.inj hu
      obtain ⟨hfirst, hothers⟩ := List.forall_mem_cons.1 (distinct_tables_iff.1 (distinct_of_get? ht hget))
      exact distinct_put ht (distinct_tables_iff.2 (List.forall_mem_cons.2 ⟨ih _ _ hfirst hinner, hothers⟩))
    · cases hu

theorem keeps_addValue {v : Json} (hv : v.Distinct) : Keeps (addValue path key v) := by
  refine keeps_changeAt fun t u ht hu => ?_
  split at hu
  · cases hu
  · split at hu
    · cases hu
    · cases hu
      exact distinct_put ht hv

/-- Changes one after the other. -/
theorem keeps_foldlM {α : Type} {step : Table → α → Option Table} {as : List α} (h : ∀ a ∈ as, Keeps (step · a)) :
    Keeps (as.foldlM step ·) := by
  induction as with
  | nil =>
    rintro t u ht ⟨⟩
    exact ht
  | cons a as ih =>
    intro t u ht hu
    obtain ⟨ha, has⟩ := List.forall_mem_cons.1 h
    obtain ⟨s, hs, hu⟩ := Option.bind_eq_some_iff.1 hu
    exact ih has s u (ha t s ht hs) hu

theorem keeps_addValues (h : ∀ e ∈ vs, e.2.2.Distinct) : Keeps (addValues · vs) :=
  keeps_foldlM fun e he => keeps_addValue (h e he)

theorem keeps_addTable (h : ∀ e ∈ vs, e.2.2.Distinct) : Keeps (addTable path key vs) := by
  refine keeps_changeAt fun t u ht hu => ?_
  split at hu
  · obtain ⟨inner, hinner, hu⟩ := Option.bind_eq_some_iff.1 hu
    obtain rfl := Option.some.inj hu
    exact distinct_put ht (keeps_addValues h _ _ (distinct_of_entries_nil rfl) hinner)
  · rename_i inner hget
    split at hu
    · obtain ⟨inner', hinner, hu⟩ := Option.bind_eq_some_iff.1 hu
      obtain rfl := Option.some.inj hu
      exact distinct_put ht (keeps_addValues h _ _ (distinct_defined (distinct_of_get? ht hget)) hinner)
    · cases hu
  · cases hu

theorem keeps_addArrayTable (h : ∀ e ∈ vs, e.2.2.Distinct) : Keeps (addArrayTable path key vs) := by
  refine keeps_changeAt fun t u ht hu => ?_
  split at hu
  · obtain ⟨inner, hinner, hu⟩ := Option.bind_eq_some_iff.1 hu
    obtain rfl := Option.some.inj hu
    have hdistinct := keeps_addValues h _ _ (distinct_of_entries_nil rfl) hinner
    exact distinct_put ht (distinct_tables_iff.2 (List.forall_mem_singleton.2 hdistinct))
  · rename_i inners hget
    obtain ⟨inner, hinner, hu⟩ := Option.bind_eq_some_iff.1 hu
    obtain rfl := Option.some.inj hu
    have hdistinct := keeps_addValues h _ _ (distinct_of_entries_nil rfl) hinner
    have hinners := distinct_tables_iff.1 (distinct_of_get? ht hget)
    exact distinct_put ht (distinct_tables_iff.2 (List.forall_mem_cons.2 ⟨hdistinct, hinners⟩))
  · cases hu

end Table

/-! ## 2. Values -/

/-- All that a reader gives is of some kind. -/
def Yields {α : Type} (P : α → Prop) (r : Reader α) : Prop := ∀ cs a rest, r cs = some (a, rest) → P a

/-- The values of entries are distinct. -/
def DistinctEntry (e : List String × String × Json) : Prop := e.2.2.Distinct

theorem distinct_integer? {n : Int} {v : Json} (h : integer? n = some v) : v.Distinct := by
  unfold integer? at h
  split at h
  · cases h
    exact .number _
  · cases h

theorem distinct_float? {negative : Bool} {digits : List Char} {exponent : Int} {v : Json}
    (h : float? negative digits exponent = some v) : v.Distinct := by
  unfold float? at h
  split at h
  · cases h
  · cases h
    exact .number _

theorem distinct_timeValue : timeValue.Distinct := by
  refine .object (List.nodup_singleton _) fun e he => ?_
  obtain rfl := List.mem_singleton.1 he
  exact .null

theorem yields_basedInteger (base : Nat) (isDigit : Char → Bool) : Yields Distinct (basedInteger base isDigit) := by
  intro cs v rest h
  obtain ⟨digits, -, h⟩ := Option.bind_eq_some_iff.1 h
  obtain ⟨n, hn, h⟩ := Option.bind_eq_some_iff.1 h
  cases h
  exact distinct_integer? hn

theorem yields_unsigned (negative : Bool) : Yields Distinct (unsigned negative) := by
  intro cs v rest h
  unfold unsigned at h
  split at h
  · cases h
    exact .number _
  · cases h
    exact .number _
  · obtain ⟨digits, -, h⟩ := Option.bind_eq_some_iff.1 h
    dsimp only at h
    split at h
    · obtain ⟨places, -, h⟩ := Option.bind_eq_some_iff.1 h
      obtain ⟨exponent, -, h⟩ := Option.bind_eq_some_iff.1 h
      obtain ⟨x, hx, h⟩ := Option.bind_eq_some_iff.1 h
      cases h
      exact distinct_float? hx
    · obtain ⟨exponent, -, h⟩ := Option.bind_eq_some_iff.1 h
      obtain ⟨x, hx, h⟩ := Option.bind_eq_some_iff.1 h
      cases h
      exact distinct_float? hx
    · obtain ⟨exponent, -, h⟩ := Option.bind_eq_some_iff.1 h
      obtain ⟨x, hx, h⟩ := Option.bind_eq_some_iff.1 h
      cases h
      exact distinct_float? hx
    · obtain ⟨n, hn, h⟩ := Option.bind_eq_some_iff.1 h
      cases h
      exact distinct_integer? hn

theorem yields_number : Yields Distinct number := by
  intro cs v rest h
  unfold number at h
  split at h
  · exact yields_unsigned _ _ _ _ h
  · exact yields_unsigned _ _ _ _ h
  · exact yields_basedInteger _ _ _ _ _ h
  · exact yields_basedInteger _ _ _ _ _ h
  · exact yields_basedInteger _ _ _ _ _ h
  · exact yields_unsigned _ _ _ _ h

theorem yields_date : Yields Distinct date := by
  intro cs v rest h
  obtain ⟨rest', -, h⟩ := Option.bind_eq_some_iff.1 h
  split at h
  · split at h
    · obtain ⟨time, -, h⟩ := Option.bind_eq_some_iff.1 h
      obtain ⟨offset, -, h⟩ := Option.bind_eq_some_iff.1 h
      cases h
      exact distinct_timeValue
    · cases h
      exact distinct_timeValue
  · cases h
    exact distinct_timeValue

theorem yields_numberOrTime : Yields Distinct numberOrTime := by
  intro cs v rest h
  unfold numberOrTime at h
  split at h
  · exact yields_date _ _ _ h
  · split at h
    · obtain ⟨rest', -, h⟩ := Option.map_eq_some_iff.1 h
      cases h
      exact distinct_timeValue
    · exact yields_number _ _ _ h

section Nested

variable {item : Reader Json} (hitem : Yields Distinct item)

include hitem

theorem yields_arrayItems (fuel : Nat) : Yields (fun vs => ∀ v ∈ vs, v.Distinct) (arrayItems item fuel) := by
  induction fuel with
  | zero => nofun
  | succ fuel ih =>
    intro cs vs rest h
    rw [arrayItems] at h
    split at h
    · cases h
      exact nofun
    · obtain ⟨⟨v, next⟩, hv, h⟩ := Option.bind_eq_some_iff.1 h
      dsimp only at h
      split at h
      · obtain ⟨⟨others, next'⟩, hothers, h⟩ := Option.bind_eq_some_iff.1 h
        cases h
        exact List.forall_mem_cons.2 ⟨hitem _ _ _ hv, ih _ _ _ hothers⟩
      · cases h
        exact List.forall_mem_singleton.2 (hitem _ _ _ hv)
      · cases h

theorem yields_keyValue : Yields DistinctEntry (keyValue item) := by
  intro cs e rest h
  obtain ⟨⟨parts, next⟩, -, h⟩ := Option.bind_eq_some_iff.1 h
  obtain ⟨⟨path, last⟩, -, h⟩ := Option.bind_eq_some_iff.1 h
  obtain ⟨next', -, h⟩ := Option.bind_eq_some_iff.1 h
  obtain ⟨⟨v, next''⟩, hv, h⟩ := Option.bind_eq_some_iff.1 h
  cases h
  exact hitem _ _ _ hv

theorem yields_inlineEntries (fuel : Nat) : Yields (fun es => ∀ e ∈ es, DistinctEntry e) (inlineEntries item fuel) := by
  induction fuel with
  | zero => nofun
  | succ fuel ih =>
    intro cs es rest h
    rw [inlineEntries] at h
    obtain ⟨⟨e, next⟩, he, h⟩ := Option.bind_eq_some_iff.1 h
    dsimp only at h
    split at h
    · obtain ⟨⟨others, next'⟩, hothers, h⟩ := Option.bind_eq_some_iff.1 h
      cases h
      exact List.forall_mem_cons.2 ⟨yields_keyValue hitem _ _ _ he, ih _ _ _ hothers⟩
    · cases h
      exact List.forall_mem_singleton.2 (yields_keyValue hitem _ _ _ he)
    · cases h

theorem yields_inlineTable : Yields Distinct (inlineTable item) := by
  intro cs v rest h
  unfold inlineTable at h
  split at h
  · cases h
    exact .object List.nodup_nil nofun
  · obtain ⟨⟨es, next⟩, hes, h⟩ := Option.bind_eq_some_iff.1 h
    obtain ⟨t, ht, h⟩ := Option.bind_eq_some_iff.1 h
    cases h
    exact Table.keeps_addValues (yields_inlineEntries hitem _ _ _ _ hes) _ _ (Table.distinct_of_entries_nil rfl) ht

end Nested

theorem yields_valueWith {nested : Option (Reader Json)} (hnested : ∀ r ∈ nested, Yields Distinct r) :
    Yields Distinct (valueWith nested) := by
  intro cs v rest h
  unfold valueWith at h
  split at h
  · obtain ⟨s, -, h⟩ := Option.map_eq_some_iff.1 h
    cases h
    exact .string _
  · obtain ⟨s, -, h⟩ := Option.map_eq_some_iff.1 h
    cases h
    exact .string _
  · obtain ⟨item, hitem, h⟩ := Option.bind_eq_some_iff.1 h
    obtain ⟨⟨vs, next⟩, hvs, h⟩ := Option.bind_eq_some_iff.1 h
    cases h
    exact .array (yields_arrayItems (hnested item hitem) _ _ _ _ hvs)
  · obtain ⟨item, hitem, h⟩ := Option.bind_eq_some_iff.1 h
    exact yields_inlineTable (hnested item hitem) _ _ _ h
  · cases h
    exact .bool _
  · cases h
    exact .bool _
  · exact yields_numberOrTime _ _ _ h

theorem yields_value (depth : Nat) : Yields Distinct (value depth) := by
  induction depth with
  | zero => exact yields_valueWith nofun
  | succ depth ih =>
    refine yields_valueWith fun r hr => ?_
    cases hr
    exact ih

/-! ## 3. Documents -/

theorem yields_body (fuel : Nat) : Yields (fun es => ∀ e ∈ es, DistinctEntry e) (body fuel) := by
  induction fuel with
  | zero => nofun
  | succ fuel ih =>
    intro cs es rest h
    rw [body] at h
    split at h
    · cases h
      exact nofun
    · cases h
      exact nofun
    · obtain ⟨⟨e, next⟩, he, h⟩ := Option.bind_eq_some_iff.1 h
      obtain ⟨next', -, h⟩ := Option.bind_eq_some_iff.1 h
      obtain ⟨⟨others, next''⟩, hothers, h⟩ := Option.bind_eq_some_iff.1 h
      cases h
      exact List.forall_mem_cons.2 ⟨yields_keyValue (yields_value _) _ _ _ he, ih _ _ _ hothers⟩

theorem distinct_sections {fuel : Nat} {cs : List Char} {parts : List Section} (h : sections fuel cs = some parts) :
    ∀ s ∈ parts, ∀ e ∈ s.values, DistinctEntry e := by
  induction fuel generalizing cs parts with
  | zero => cases h
  | succ fuel ih =>
    cases cs with
    | nil =>
      cases h
      exact nofun
    | cons c cs =>
      obtain ⟨⟨⟨isArray, names⟩, next⟩, -, h⟩ := Option.bind_eq_some_iff.1 h
      obtain ⟨⟨path, key⟩, -, h⟩ := Option.bind_eq_some_iff.1 h
      obtain ⟨⟨values, next'⟩, hvalues, h⟩ := Option.bind_eq_some_iff.1 h
      obtain ⟨others, hothers, h⟩ := Option.bind_eq_some_iff.1 h
      cases h
      exact List.forall_mem_cons.2 ⟨yields_body _ _ _ _ hvalues, ih hothers⟩

theorem keeps_addSection {s : Section} (h : ∀ e ∈ s.values, DistinctEntry e) : Table.Keeps (addSection · s) := by
  intro t u ht hu
  dsimp only [addSection] at hu
  split at hu
  · exact Table.keeps_addArrayTable h t u ht hu
  · exact Table.keeps_addTable h t u ht hu

/-- No table of a text that reads has a key twice. -/
theorem distinct_parse? {text : String} {v : Json} (h : parse? text = some v) : v.Distinct := by
  obtain ⟨⟨values, rest⟩, hvalues, h⟩ := Option.bind_eq_some_iff.1 h
  obtain ⟨parts, hparts, h⟩ := Option.bind_eq_some_iff.1 h
  obtain ⟨top, htop, h⟩ := Option.bind_eq_some_iff.1 h
  obtain ⟨whole, hwhole, h⟩ := Option.bind_eq_some_iff.1 h
  cases h
  have hdistinct : top.toJson.Distinct :=
    Table.keeps_addValues (yields_body _ _ _ _ hvalues) _ _ (Table.distinct_of_entries_nil rfl) htop
  exact Table.keeps_foldlM (fun s hs => keeps_addSection (distinct_sections hparts s hs)) top whole hdistinct hwhole

end Toml

end QueryDrill
