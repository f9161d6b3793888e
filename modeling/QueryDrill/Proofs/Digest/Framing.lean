import Mathlib.Data.Nat.Digits.Lemmas
import QueryDrill.Digest.Content
/-!
A frame tells the list that it frames.

A frame gives each length in eight bytes before what it is the length of, so a reader who knows no more than the
bytes knows at each point how much is to come, whatever the bytes of the texts look like. In the proofs this is what
cuts two equal frames at the same place: their first eight bytes agree, so the lengths agree
(`lengthBytes_inj`), and with them the next text and all that follows it (`framePart_append_inj`).

* `frame_append_inj`: equal frames are frames of equal lists, and no frame is the beginning of another.
* `frame_tells_parts`: so lists with one digest are equal, or their frames are a collision of SHA-256.

Eight bytes hold lengths below 2 ^ 64 only (`Framable`).
-/

namespace QueryDrill

/-! ## 1. Lengths -/

namespace Sha256

@[simp] theorem length_littleEndian (count n : Nat) : (littleEndian count n).length = count := by
  induction count generalizing n with
  | zero => rfl
  | succ count ih => rw [littleEndian, List.length_cons, ih]

/-- Read as digits, the low bytes of a number are the number without its high bytes. -/
theorem ofDigits_littleEndian (count n : Nat) :
    Nat.ofDigits 256 ((littleEndian count n).map UInt8.toNat) = n % 256 ^ count := by
  induction count generalizing n with
  | zero => exact (Nat.mod_one n).symm
  | succ count ih =>
    have hbyte : (UInt8.ofNat n).toNat = n % 256 := UInt8.toNat_ofNat'
    rw [littleEndian, List.map_cons, Nat.ofDigits_cons, ih, hbyte, pow_succ', Nat.mod_mul]

/-- A number of so many bytes can be read back. -/
theorem littleEndian_inj {count n m : Nat} (hn : n < 256 ^ count) (hm : m < 256 ^ count)
    (h : littleEndian count n = littleEndian count m) : n = m := by
  have hdigits : Nat.ofDigits 256 ((littleEndian count n).map UInt8.toNat) =
      Nat.ofDigits 256 ((littleEndian count m).map UInt8.toNat) := by
    rw [h]
  rwa [ofDigits_littleEndian, ofDigits_littleEndian, Nat.mod_eq_of_lt hn, Nat.mod_eq_of_lt hm] at hdigits

/-- Different messages with one digest. -/
def Collision (message message' : List UInt8) : Prop :=
  message ≠ message' ∧ digest message = digest message'

end Sha256

namespace ContentHash

theorem lengthBytes_inj {n m : Nat} (hn : n < 2 ^ 64) (hm : m < 2 ^ 64)
    (h : lengthBytes n = lengthBytes m) : n = m :=
  Sha256.littleEndian_inj hn hm h

/-- What follows a length can be told from it. -/
theorem lengthBytes_append_inj {n m : Nat} {rest rest' : List UInt8} (hn : n < 2 ^ 64) (hm : m < 2 ^ 64)
    (h : lengthBytes n ++ rest = lengthBytes m ++ rest') : n = m ∧ rest = rest' := by
  have hsize (k : Nat) : (lengthBytes k).length = 8 := Sha256.length_littleEndian 8 k
  obtain ⟨hbytes, hrest⟩ := List.append_inj h ((hsize n).trans (hsize m).symm)
  exact ⟨lengthBytes_inj hn hm hbytes, hrest⟩

/-! ## 2. Texts -/

theorem toByteArray_utf8 (text : String) : (utf8 text).toByteArray = text.toByteArray := String.utf8Encode_toList

theorem length_utf8 (text : String) : (utf8 text).length = text.utf8ByteSize := by
  rw [← List.size_toByteArray, toByteArray_utf8, String.size_toByteArray]

/-- Texts with the same bytes are the same. -/
theorem utf8_injective : Function.Injective utf8 := by
  intro s t h
  rw [← String.toByteArray_inj, ← toByteArray_utf8, h, toByteArray_utf8]

/-- A text can be told from what follows it. -/
theorem framePart_append_inj {s t : String} {rest rest' : List UInt8} (hs : s.utf8ByteSize < 2 ^ 64)
    (ht : t.utf8ByteSize < 2 ^ 64) (h : framePart s ++ rest = framePart t ++ rest') : s = t ∧ rest = rest' := by
  rw [framePart, framePart, List.append_assoc, List.append_assoc] at h
  rw [← length_utf8] at hs ht
  obtain ⟨hlength, h⟩ := lengthBytes_append_inj hs ht h
  obtain ⟨htext, hrest⟩ := List.append_inj h hlength
  exact ⟨utf8_injective htext, hrest⟩

/-! ## 3. Lists -/

/-- A list of which eight bytes hold the number of texts and the length of each text. -/
structure Framable (parts : List String) : Prop where
  count : parts.length < 2 ^ 64
  sizes : ∀ part ∈ parts, part.utf8ByteSize < 2 ^ 64

/-- As many texts can be told from each other and from what follows them. -/
theorem flatMap_framePart_append_inj {parts parts' : List String} {rest rest' : List UInt8}
    (hlength : parts.length = parts'.length) (hsizes : ∀ part ∈ parts, part.utf8ByteSize < 2 ^ 64)
    (hsizes' : ∀ part ∈ parts', part.utf8ByteSize < 2 ^ 64)
    (h : parts.flatMap framePart ++ rest = parts'.flatMap framePart ++ rest') : parts = parts' ∧ rest = rest' := by
  -- both lists at once: equal lengths leave no case where one of them ends first
  induction parts generalizing parts' with
  | nil =>
    obtain rfl := List.length_eq_zero_iff.1 hlength.symm
    exact ⟨rfl, h⟩
  | cons part parts ih =>
    cases parts' with
    | nil => cases hlength
    | cons part' parts' =>
      obtain ⟨hpart, hparts⟩ := List.forall_mem_cons.1 hsizes
      obtain ⟨hpart', hparts'⟩ := List.forall_mem_cons.1 hsizes'
      rw [List.flatMap_cons, List.flatMap_cons, List.append_assoc, List.append_assoc] at h
      obtain ⟨rfl, hmore⟩ := framePart_append_inj hpart hpart' h
      obtain ⟨rfl, hrest⟩ := ih (Nat.succ.inj hlength) hparts hparts' hmore
      exact ⟨rfl, hrest⟩

/-- A list can be told from what follows its frame. -/
theorem frame_append_inj {parts parts' : List String} {rest rest' : List UInt8} (hp : Framable parts)
    (hp' : Framable parts') (h : frame parts ++ rest = frame parts' ++ rest') : parts = parts' ∧ rest = rest' := by
  rw [frame, frame, List.append_assoc, List.append_assoc] at h
  obtain ⟨hlength, h⟩ := lengthBytes_append_inj hp.count hp'.count h
  exact flatMap_framePart_append_inj hlength hp.sizes hp'.sizes h

theorem frame_inj {parts parts' : List String} (hp : Framable parts) (hp' : Framable parts') :
    frame parts = frame parts' ↔ parts = parts' := by
  refine ⟨fun h => ?_, congrArg frame⟩
  have hrest : frame parts ++ [] = frame parts' ++ [] := by rw [h]
  exact (frame_append_inj hp hp' hrest).1

/-- **A frame tells the list that it frames.** Two lists of texts are framed alike just if they are equal, so they
have one digest just if they are equal or their frames are a collision of SHA-256. -/
theorem frame_tells_parts {parts parts' : List String} (hp : Framable parts) (hp' : Framable parts') :
    (frame parts = frame parts' ↔ parts = parts') ∧
      (ofParts parts = ofParts parts' ↔
        parts = parts' ∨ Sha256.Collision (frame parts) (frame parts')) := by
  refine ⟨frame_inj hp hp', ⟨fun h => ?_, ?_⟩⟩
  · have hdigest : Sha256.digest (frame parts) = Sha256.digest (frame parts') := congrArg bytes h
    by_cases hframe : frame parts = frame parts'
    · exact .inl ((frame_inj hp hp').1 hframe)
    · exact .inr ⟨hframe, hdigest⟩
  · rintro (rfl | ⟨-, hdigest⟩)
    · rfl
    · exact congrArg ContentHash.mk hdigest

/-- Two texts, and one text that looks like them with the length of the second between: the bytes are the same but
for the lengths in front. -/
theorem frame_tells_parts_lookalike :
    Framable ["a", "b"] ∧ Framable ["a\x01\x00\x00\x00\x00\x00\x00\x00b"] ∧
      utf8 "a" ++ framePart "b" = utf8 "a\x01\x00\x00\x00\x00\x00\x00\x00b" ∧
      frame ["a", "b"] ≠ frame ["a\x01\x00\x00\x00\x00\x00\x00\x00b"] ∧
      (ofParts ["a", "b"] = ofParts ["a\x01\x00\x00\x00\x00\x00\x00\x00b"] →
        Sha256.Collision (frame ["a", "b"]) (frame ["a\x01\x00\x00\x00\x00\x00\x00\x00b"])) := by
  have htwo : Framable ["a", "b"] := ⟨by decide, by decide⟩
  have hone : Framable ["a\x01\x00\x00\x00\x00\x00\x00\x00b"] := ⟨by decide, by decide⟩
  have hne : ["a", "b"] ≠ ["a\x01\x00\x00\x00\x00\x00\x00\x00b"] := by decide
  obtain ⟨hframe, hdigest⟩ := frame_tells_parts htwo hone
  exact ⟨htwo, hone, by decide, fun h => hne (hframe.1 h), fun h => (hdigest.1 h).resolve_left hne⟩

end ContentHash

end QueryDrill
