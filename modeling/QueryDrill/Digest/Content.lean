import QueryDrill.Digest.Sha256
/-!
Digests of texts, by which one can tell whether a text has changed.

A list of texts is framed before it is digested: its length and the length of each text are written in
front, so that different lists are different messages.
-/

namespace QueryDrill

/-- The digest of a content. -/
structure ContentHash where
  bytes : List UInt8
  deriving DecidableEq, Repr, Inhabited

namespace ContentHash

/-- The bytes of a text. -/
def utf8 (text : String) : List UInt8 := text.toList.flatMap String.utf8EncodeChar

/-- A length in eight bytes. -/
def lengthBytes (n : Nat) : List UInt8 := Sha256.littleEndian 8 n

/-- A text after its length. -/
def framePart (text : String) : List UInt8 := lengthBytes (utf8 text).length ++ utf8 text

/-- Texts after their number, each after its length. -/
def frame (parts : List String) : List UInt8 := lengthBytes parts.length ++ parts.flatMap framePart

/-- The digest of one text. -/
def ofText (text : String) : ContentHash := ⟨Sha256.digest (utf8 text)⟩

/-- The digest of a list of texts. -/
def ofParts (parts : List String) : ContentHash := ⟨Sha256.digest (frame parts)⟩

/-- The two hexadecimal digits of a byte. -/
def hexByte (b : UInt8) : List Char := [Nat.digitChar (b.toNat / 16), Nat.digitChar (b.toNat % 16)]

/-- The hexadecimal digits of a digest. -/
def hex (h : ContentHash) : String := String.ofList (h.bytes.flatMap hexByte)

/-- The first sixteen hexadecimal digits. -/
def short (h : ContentHash) : String := String.ofList (h.hex.toList.take 16)

/-- The digest as it is shown among other values. -/
def shown (h : ContentHash) : String := "ContentHash(" ++ h.short ++ ")"

end ContentHash

end QueryDrill
