import QueryDrill.Constraint.Json
import QueryDrill.Proofs.Json.Reading
/-!
What is decoded from a value that was printed and read.

The order of the fields of an object may change on the way (`Json.sorted`), so a decoder is shown to give the same
for every change that leaves all else (`Json.Rearranges`). Then it reads the value itself and both of its texts
alike (`Json.ReadBack`).
-/

namespace QueryDrill

namespace Json

/-! ## 1. The order of fields -/

/-- A change of values that leaves all but the order of fields. -/
structure Rearranges (r : Json → Json) : Prop where
  null : r null = null
  number (n : JsonNumber) : r (number n) = number n
  string (s : String) : r (string s) = string s
  array (items : List Json) : r (array items) = array (items.map r)
  object (fields : List (String × Json)) (h : (fields.map Prod.fst).Nodup) :
    ∃ fields', r (object fields) = object fields' ∧ ∀ name, fields'.lookup name = (fields.lookup name).map r

theorem rearranges_id : Rearranges id where
  null := rfl
  number _ := rfl
  string _ := rfl
  array items := by simp
  object fields _ := ⟨fields, rfl, fun name => by simp⟩

theorem rearranges_sorted : Rearranges sorted where
  null := rfl
  number _ := rfl
  string _ := rfl
  array items := by rw [sorted, sortedItems_eq_map]
  object fields h := by
    have hkeys : (sortedFields fields).map Prod.fst = fields.map Prod.fst := by
      rw [sortedFields_eq_map, List.map_map]
      rfl
    refine ⟨_, sorted.eq_def _, fun name => ?_⟩
    rw [Keyed.lookup_ofList (hkeys ▸ h), sortedFields_eq_map, lookup_map]

/-- However they are rearranged, all fields are still there. -/
theorem Rearranges.exists_lookup {r : Json → Json} (hr : Rearranges r) {fields : List (String × Json)}
    (h : (fields.map Prod.fst).Nodup) :
    ∃ fields', r (.object fields) = .object fields' ∧ ∀ f ∈ fields, fields'.lookup f.1 = some (r f.2) := by
  obtain ⟨fields', heq, hlookup⟩ := hr.object fields h
  refine ⟨fields', heq, fun f hf => ?_⟩
  rw [hlookup, lookup_of_mem h hf, Option.map_some]

variable {α : Type}

/-- A decoder gives `a` for a value, for its text on one line and for its text over several lines. -/
structure ReadBack (decode : Json → Option α) (v : Json) (a : α) : Prop where
  value : decode v = some a
  compact : ∃ w, parse v.compact = .ok w ∧ decode w = some a
  pretty : ∃ w, parse v.pretty = .ok w ∧ decode w = some a

/-- A decoder that does not mind the order of fields reads the texts of a value like the value. -/
theorem ReadBack.of_rearranges {decode : Json → Option α} {v : Json} {a : α}
    (hv : Readable JsonReader.depthLimit v) (h : ∀ r, Rearranges r → decode (r v) = some a) :
    ReadBack decode v a where
  value := h id rearranges_id
  compact := ⟨v.sorted, parse_compact hv, h sorted rearranges_sorted⟩
  pretty := ⟨v.sorted, parse_pretty hv, h sorted rearranges_sorted⟩

/-! ## 2. Decoders -/

theorem size?_nat {n : Nat} (h : n < UInt64.size) : size? (nat n) = some n := by
  have hle : n ≤ greatestSize := Nat.le_sub_one_of_lt h
  simp only [nat, size?, Int.toNat_natCast, ite_eq_left_iff, reduceCtorEq]
  omega

/-- A list is decoded if its items are. -/
theorem list?_map {decode : Json → Option α} {encode : α → Json} {l : List α}
    (h : ∀ a ∈ l, decode (encode a) = some a) : list? decode (array (l.map encode)) = some l := by
  rw [list?]
  induction l with
  | nil => rfl
  | cons a l ih =>
    rw [List.map_cons, List.mapM_cons, h a List.mem_cons_self, ih fun b hb => h b (List.mem_cons_of_mem a hb)]
    rfl

/-- A value that may be missing is decoded if it is not taken for null. -/
theorem option?_ofOption {decode : Json → Option α} {encode : α → Json} {o : Option α}
    (h : ∀ a ∈ o, encode a ≠ null ∧ decode (encode a) = some a) :
    option? decode (ofOption encode o) = some o := by
  cases o with
  | none => rfl
  | some a =>
    obtain ⟨hne, hdecode⟩ := h a rfl
    rw [ofOption, option?.eq_2 _ _ hne, hdecode]
    rfl

section Rearranged

variable {r : Json → Json} (hr : Rearranges r) {decode : Json → Option α} {encode : α → Json}

include hr

theorem string?_rearranged (s : String) : string? (r (string s)) = some s := by
  rw [hr.string]
  rfl

theorem list?_rearranged {l : List α} (h : ∀ a ∈ l, decode (r (encode a)) = some a) :
    list? decode (r (array (l.map encode))) = some l := by
  rw [hr.array, List.map_map]
  exact list?_map h

theorem option?_rearranged {o : Option α} (h : ∀ a ∈ o, r (encode a) ≠ null ∧ decode (r (encode a)) = some a) :
    option? decode (r (ofOption encode o)) = some o := by
  have hencode : r (ofOption encode o) = ofOption (r ∘ encode) o := by
    cases o with
    | none => exact hr.null
    | some a => rfl
  rw [hencode]
  exact option?_ofOption h

end Rearranged

theorem find?_name {name : α → String} {all : List α} (hall : (all.map name).Nodup) {a : α} (ha : a ∈ all) :
    (all.find? fun b => name b == name a) = some a := by
  induction all with
  | nil => cases ha
  | cons b all ih =>
    obtain ⟨hfresh, hall⟩ := List.nodup_cons.1 hall
    rcases List.mem_cons.1 ha with rfl | ha
    · simp
    · have hne : name b ≠ name a := fun h => hfresh (h ▸ List.mem_map_of_mem ha)
      rw [List.find?_cons_of_neg (by simpa using hne), ih hall ha]

/-- A value is told by its own name. -/
theorem ofWord?_name {name : α → String} {all : List α} (hall : (all.map name).Nodup) {a : α} (ha : a ∈ all) :
    ofWord? all name (.string (name a)) = some a :=
  find?_name hall ha

end Json

namespace JsonRecord

variable {α : Type} {fs : List (String × Json)} {name : String} {v : Json} {decode : Json → Option α} {a : α}

theorem withDefault_of_lookup (h : fs.lookup name = some v) (hv : decode v = some a) (position : Nat)
    (default : α) : (named fs).withDefault position name default decode = some a := by
  rw [withDefault, field?, h]
  exact hv

theorem required_of_lookup (h : fs.lookup name = some v) (hv : decode v = some a) (position : Nat) :
    (named fs).required position name decode = some a := by
  rw [required, field?, h]
  exact hv

end JsonRecord

end QueryDrill
