/-!
Maps with text keys, and sets of texts.

A map keeps its entries in the order of their keys, each key once; a set is a list in that same form,
which `sortedSet` makes. Texts are ordered by their code points.
-/

namespace QueryDrill

/-! ## 1. Maps -/

/-- The entries of a map after `value` is put under `key`. -/
def putEntry {β : Type} (key : String) (value : β) : List (String × β) → List (String × β)
  | [] => [(key, value)]
  | (k, v) :: rest =>
    if key < k then (key, value) :: (k, v) :: rest
    else if key = k then (key, value) :: rest
    else (k, v) :: putEntry key value rest

theorem eq_or_mem_of_mem_putEntry {β : Type} {key : String} {value : β} {e : String × β}
    {es : List (String × β)} (h : e ∈ putEntry key value es) : e = (key, value) ∨ e ∈ es := by
  induction es with
  | nil => exact .inl (List.mem_singleton.1 h)
  | cons e' es ih =>
    unfold putEntry at h
    split at h
    · exact List.mem_cons.1 h
    · split at h
      · exact (List.mem_cons.1 h).imp_right (List.mem_cons_of_mem _)
      · rcases List.mem_cons.1 h with h | h
        · exact .inr (h ▸ List.mem_cons_self)
        · exact (ih h).imp_right (List.mem_cons_of_mem _)

/-- Putting a value under a key adds the key and takes none away. -/
theorem mem_keys_putEntry {β : Type} {key k : String} {value : β} {es : List (String × β)} :
    k ∈ (putEntry key value es).map Prod.fst ↔ k = key ∨ k ∈ es.map Prod.fst := by
  induction es with
  | nil => simp [putEntry]
  | cons e es ih =>
    obtain ⟨k', v⟩ := e
    unfold putEntry
    split
    · simp
    · split
      · rename_i heq
        simp [heq]
      · rw [List.map_cons, List.mem_cons, ih, List.map_cons, List.mem_cons]
        exact or_left_comm

/-- The keys of entries rise. -/
def KeysRise {β : Type} (es : List (String × β)) : Prop := es.Pairwise fun a b => a.1 < b.1

theorem keysRise_putEntry {β : Type} {key : String} {value : β} {es : List (String × β)}
    (h : KeysRise es) : KeysRise (putEntry key value es) := by
  induction es with
  | nil => simp [putEntry, KeysRise]
  | cons e es ih =>
    obtain ⟨k, v⟩ := e
    obtain ⟨hk, hes⟩ := List.pairwise_cons.1 h
    unfold putEntry
    split
    · rename_i hlt
      refine List.pairwise_cons.2 ⟨fun e he => ?_, h⟩
      rcases List.mem_cons.1 he with rfl | he
      · exact hlt
      · exact String.lt_trans hlt (hk e he)
    · rename_i hnlt
      split
      · rename_i heq
        exact List.pairwise_cons.2 ⟨fun e he => heq ▸ hk e he, hes⟩
      · rename_i hne
        refine List.pairwise_cons.2 ⟨fun e he => ?_, ih hes⟩
        rcases eq_or_mem_of_mem_putEntry he with rfl | he
        · rcases Std.lt_trichotomy key k with h' | h' | h'
          · exact absurd h' hnlt
          · exact absurd h' hne
          · exact h'
        · exact hk e he

section Lookup

variable {β : Type} {k : String} {es : List (String × β)}

theorem lookup_cons_eq_ite (e : String × β) (es : List (String × β)) :
    (e :: es).lookup k = if k = e.1 then some e.2 else es.lookup k := by
  rw [List.lookup_cons]
  by_cases hk : k = e.1
  · simp [hk]
  · simp [hk, beq_eq_false_iff_ne.2 hk]

theorem lookup_putEntry (key : String) (value : β) (es : List (String × β)) :
    (putEntry key value es).lookup k = if k = key then some value else es.lookup k := by
  induction es with
  | nil => exact lookup_cons_eq_ite (key, value) []
  | cons e es ih =>
    obtain ⟨k', v⟩ := e
    unfold putEntry
    split
    · rw [lookup_cons_eq_ite]
    · split
      · rename_i hkey
        simp only [lookup_cons_eq_ite, ← hkey]
        split <;> rfl
      · rename_i hne
        rw [lookup_cons_eq_ite, ih, lookup_cons_eq_ite]
        by_cases hk : k = k'
        · have hkey : k ≠ key := fun h => hne (h.symm.trans hk)
          rw [if_pos hk, if_neg hkey, if_pos hk]
        · rw [if_neg hk, if_neg hk]

theorem lookup_eq_none_of_notMem_keys (h : k ∉ es.map Prod.fst) : es.lookup k = none := by
  rw [List.lookup_eq_none_iff]
  intro e he
  have hne : k ≠ e.1 := fun hk => h (hk ▸ List.mem_map_of_mem he)
  simpa using hne

theorem lookup_of_mem (hes : (es.map Prod.fst).Nodup) {v : β} (h : (k, v) ∈ es) : es.lookup k = some v := by
  induction es with
  | nil => cases h
  | cons e es ih =>
    obtain ⟨hfresh, hes⟩ := List.nodup_cons.1 hes
    rw [lookup_cons_eq_ite]
    rcases List.mem_cons.1 h with rfl | h
    · exact if_pos rfl
    · have hne : k ≠ e.1 := fun hk => hfresh (hk ▸ List.mem_map_of_mem h)
      rw [if_neg hne, ih hes h]

/-- Where all keys differ, an entry is told by its key. -/
theorem mem_of_key_mem {all : List (String × β)} (hall : (all.map Prod.fst).Nodup) (hes : es ⊆ all)
    {e : String × β} (he : e ∈ all) (hkey : e.1 ∈ es.map Prod.fst) : e ∈ es := by
  obtain ⟨e', he', hname⟩ := List.mem_map.1 hkey
  have hsame := lookup_of_mem hall (hes he')
  rw [hname, lookup_of_mem hall he, Option.some.injEq] at hsame
  exact Prod.ext hname hsame.symm ▸ he'

theorem lookup_map {γ : Type} (f : β → γ) (es : List (String × β)) :
    (es.map fun e => (e.1, f e.2)).lookup k = (es.lookup k).map f := by
  induction es with
  | nil => rfl
  | cons e es ih =>
    rw [List.map_cons, lookup_cons_eq_ite, lookup_cons_eq_ite, ih]
    split <;> rfl

end Lookup

/-- A map from texts, its entries in the order of their keys. -/
structure Keyed (β : Type) where
  entries : List (String × β)
  keysRise : KeysRise entries

namespace Keyed

variable {β γ : Type}

/-- The map without entries. -/
def empty : Keyed β := ⟨[], .nil⟩

instance : Inhabited (Keyed β) := ⟨empty⟩

instance : EmptyCollection (Keyed β) := ⟨empty⟩

/-- The value under a key. -/
def get? (m : Keyed β) (key : String) : Option β := m.entries.lookup key

@[simp] theorem get?_empty (key : String) : (empty : Keyed β).get? key = none := rfl

/-- Whether a key has a value. -/
def contains (m : Keyed β) (key : String) : Bool := (m.get? key).isSome

/-- Puts a value under a key, in place of the one that is there. -/
def insert (m : Keyed β) (key : String) (value : β) : Keyed β :=
  ⟨putEntry key value m.entries, keysRise_putEntry m.keysRise⟩

/-- Changes the value under a key. -/
def update (m : Keyed β) (key : String) (f : Option β → β) : Keyed β :=
  m.insert key (f (m.get? key))

/-- The keys, in order. -/
def keys (m : Keyed β) : List String := m.entries.map Prod.fst

/-- The values, in the order of their keys. -/
def values (m : Keyed β) : List β := m.entries.map Prod.snd

/-- How many keys have a value. -/
def size (m : Keyed β) : Nat := m.entries.length

/-- Whether no key has a value. -/
def isEmpty (m : Keyed β) : Bool := m.entries.isEmpty

/-- The map with the given entries; of two with the same key the later one counts. -/
def ofList (es : List (String × β)) : Keyed β := es.foldl (fun m e => m.insert e.1 e.2) empty

theorem mem_keys_insert {m : Keyed β} {key k : String} {value : β} :
    k ∈ (m.insert key value).keys ↔ k = key ∨ k ∈ m.keys := mem_keys_putEntry

theorem mem_keys_foldl_insert {es : List (String × β)} {m : Keyed β} {k : String} :
    k ∈ (es.foldl (fun m e => m.insert e.1 e.2) m).keys ↔ k ∈ es.map Prod.fst ∨ k ∈ m.keys := by
  induction es generalizing m with
  | nil => simp
  | cons e es ih =>
    rw [List.foldl_cons, ih, mem_keys_insert, List.map_cons, List.mem_cons, or_left_comm, or_assoc]

theorem mem_keys_ofList {es : List (String × β)} {k : String} :
    k ∈ (ofList es).keys ↔ k ∈ es.map Prod.fst := by
  rw [ofList, mem_keys_foldl_insert]
  simp [empty, keys]

theorem lookup_foldl_insert {es : List (String × β)} (hes : (es.map Prod.fst).Nodup) (m : Keyed β)
    {k : String} :
    (es.foldl (fun m e => m.insert e.1 e.2) m).entries.lookup k = (es.lookup k).or (m.entries.lookup k) := by
  induction es generalizing m with
  | nil => rfl
  | cons e es ih =>
    obtain ⟨hfresh, hes⟩ := List.nodup_cons.1 hes
    rw [List.foldl_cons, ih hes, insert, lookup_putEntry, lookup_cons_eq_ite]
    by_cases hk : k = e.1
    · rw [if_pos hk, if_pos hk, lookup_eq_none_of_notMem_keys (hk ▸ hfresh)]
      rfl
    · rw [if_neg hk, if_neg hk]

/-- With different keys nothing is lost. -/
theorem lookup_ofList {es : List (String × β)} (hes : (es.map Prod.fst).Nodup) {k : String} :
    (ofList es).entries.lookup k = es.lookup k := by
  rw [ofList, lookup_foldl_insert hes]
  exact Option.or_none

theorem nodup_keys (m : Keyed β) : m.keys.Nodup := by
  refine List.pairwise_map.2 (m.keysRise.imp fun hlt heq => ?_)
  exact String.lt_irrefl _ (heq ▸ hlt)

/-- An entry is found by its key. -/
theorem mem_entries_iff {m : Keyed β} {key : String} {value : β} :
    (key, value) ∈ m.entries ↔ m.get? key = some value := by
  constructor
  · exact lookup_of_mem m.nodup_keys
  · intro h
    obtain ⟨es₁, es₂, hentries, -⟩ := List.lookup_eq_some_iff.1 h
    rw [hentries]
    exact List.mem_append_right _ List.mem_cons_self

/-- A map is told by what it has under each key. -/
theorem ext_get? {m m' : Keyed β} (h : ∀ key, m.get? key = m'.get? key) : m = m' := by
  have hmem : ∀ e, e ∈ m.entries ↔ e ∈ m'.entries := by
    rintro ⟨key, value⟩
    rw [mem_entries_iff, mem_entries_iff, h]
  have hnodup (n : Keyed β) : n.entries.Nodup := by
    refine List.Pairwise.imp (fun hlt heq => ?_) n.keysRise
    exact String.lt_irrefl _ (heq ▸ hlt)
  have hperm := (List.perm_ext_iff_of_nodup (hnodup m) (hnodup m')).2 hmem
  have hentries : m.entries = m'.entries := by
    refine hperm.eq_of_pairwise (fun a b _ _ hlt hgt => ?_) m.keysRise m'.keysRise
    exact absurd (String.lt_trans hlt hgt) (String.lt_irrefl a.1)
  cases m
  cases m'
  exact (Keyed.mk.injEq ..).mpr hentries

theorem get?_insert (m : Keyed β) (key : String) (value : β) (k : String) :
    (m.insert key value).get? k = if k = key then some value else m.get? k :=
  lookup_putEntry _ _ _

/-- Under different keys it does not matter which value is put first. -/
theorem insert_comm (m : Keyed β) {key key' : String} (hne : key ≠ key') (value value' : β) :
    (m.insert key value).insert key' value' = (m.insert key' value').insert key value := by
  refine ext_get? fun k => ?_
  simp only [get?_insert]
  by_cases hk : k = key
  · rw [if_neg (hk ▸ hne), if_pos hk, if_pos hk]
  · rw [if_neg hk, if_neg hk]

/-- Adds to the count of a key. -/
def add (m : Keyed Nat) (key : String) (n : Nat) : Keyed Nat := m.update key fun c => c.getD 0 + n

theorem get?_add (m : Keyed Nat) (key : String) (n : Nat) (k : String) :
    (m.add key n).get? k = if k = key then some ((m.get? key).getD 0 + n) else m.get? k :=
  lookup_putEntry _ _ _

/-- It does not matter what is added first. -/
theorem add_comm (m : Keyed Nat) (key key' : String) (n n' : Nat) :
    (m.add key n).add key' n' = (m.add key' n').add key n := by
  by_cases hkey : key = key'
  · subst hkey
    refine ext_get? fun k => ?_
    simp only [get?_add, if_pos, Option.getD_some, Nat.add_right_comm]
    split <;> rfl
  · have hkey' : ¬key' = key := fun h => hkey h.symm
    simp only [add, update]
    rw [get?_insert, if_neg hkey', insert_comm m hkey, get?_insert, if_neg hkey]

theorem get?_foldl_add (m : Keyed Nat) (keys : List String) (k : String) :
    (keys.foldl (fun m k => m.add k 1) m).get? k =
      if k ∈ keys then some ((m.get? k).getD 0 + keys.count k) else m.get? k := by
  induction keys generalizing m with
  | nil => rfl
  | cons key keys ih =>
    rw [List.foldl_cons, ih, get?_add]
    by_cases hkey : k = key
    · subst hkey
      by_cases hmem : k ∈ keys
      · simp [hmem, Nat.add_assoc, Nat.add_comm 1]
      · simp [hmem, List.count_eq_zero_of_not_mem hmem]
    · have hne : key ≠ k := fun h => hkey h.symm
      simp [hkey, hne]

/-- Counted from nothing, keys have the numbers of times that they occur. -/
theorem get?_counted (keys : List String) (k : String) :
    (keys.foldl (fun m k => m.add k 1) empty).get? k = if k ∈ keys then some (keys.count k) else none := by
  rw [get?_foldl_add]
  simp [empty, get?]

end Keyed

/-! ## 2. Sets -/

/-- The set of some texts: each once, in order. -/
def sortedSet (names : List String) : List String :=
  (Keyed.ofList (names.map fun n => (n, ()))).keys

@[simp] theorem mem_sortedSet {names : List String} {n : String} : n ∈ sortedSet names ↔ n ∈ names := by
  rw [sortedSet, Keyed.mem_keys_ofList]
  simp

theorem nodup_sortedSet (names : List String) : (sortedSet names).Nodup := Keyed.nodup_keys _

end QueryDrill
