/-!
# Words as bytes

A 32-bit word is stored as four bytes, least significant first.
-/

namespace PlatformAudit.LittleEndian

/-- The word made of four bytes, least significant first. -/
def word (byte₀ byte₁ byte₂ byte₃ : UInt8) : UInt32 :=
  UInt32.ofNat
    (byte₀.toNat + 0x100 * byte₁.toNat + 0x10000 * byte₂.toNat + 0x1000000 * byte₃.toNat)

def bytes (value : UInt32) : List UInt8 :=
  [ UInt8.ofNat value.toNat
  , UInt8.ofNat (value.toNat / 0x100)
  , UInt8.ofNat (value.toNat / 0x10000)
  , UInt8.ofNat (value.toNat / 0x1000000) ]

def bytesOfWords (values : List UInt32) : List UInt8 :=
  values.flatMap bytes

/-- The words of a list of bytes.  Bytes after the last whole word are left out. -/
def words : List UInt8 → List UInt32
  | byte₀ :: byte₁ :: byte₂ :: byte₃ :: rest => word byte₀ byte₁ byte₂ byte₃ :: words rest
  | _ => []

/-- The words of a list of bytes, the last one filled up with zero bytes. -/
def paddedWords : List UInt8 → List UInt32
  | [] => []
  | [byte₀] => [word byte₀ 0 0 0]
  | [byte₀, byte₁] => [word byte₀ byte₁ 0 0]
  | [byte₀, byte₁, byte₂] => [word byte₀ byte₁ byte₂ 0]
  | byte₀ :: byte₁ :: byte₂ :: byte₃ :: rest =>
      word byte₀ byte₁ byte₂ byte₃ :: paddedWords rest

/-- The word whose first byte is at `offset`, if all four bytes are there. -/
def wordAt? (buffer : List UInt8) (offset : Nat) : Option UInt32 :=
  match buffer.drop offset with
  | byte₀ :: byte₁ :: byte₂ :: byte₃ :: _ => some (word byte₀ byte₁ byte₂ byte₃)
  | _ => none

end PlatformAudit.LittleEndian
