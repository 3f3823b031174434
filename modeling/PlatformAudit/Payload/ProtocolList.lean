import PlatformAudit.Word.LittleEndian

/-!
# Lists of protocols

Protocol identifiers are packed four to a word, the first one in the least significant byte.
-/

namespace PlatformAudit.ProtocolList

/-- Packs identifiers; the last word is filled up with zeros. -/
def pack (identifiers : List UInt8) : List UInt32 :=
  LittleEndian.paddedWords identifiers

/-- The first `count` identifiers of packed words, or as many as there are. -/
def unpack (words : List UInt32) (count : Nat) : List UInt8 :=
  (LittleEndian.bytesOfWords words).take count

end PlatformAudit.ProtocolList
