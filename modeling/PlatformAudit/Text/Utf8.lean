/-!
# UTF-8

Text is encoded character by character.  Decoding accepts any bytes: each longest run of bytes
that could begin a character but does not complete one becomes a single replacement character.
-/

namespace PlatformAudit.Utf8

def replacement : Char :=
  Char.ofNat 0xFFFD

def encode (text : String) : List UInt8 :=
  text.toList.flatMap String.utf8EncodeChar

/-- A character that has begun: the bits read so far, the number of bytes still missing, and the
bounds that the next of them must keep. -/
structure Begun where
  bits : Nat
  missing : Nat
  low : UInt8
  high : UInt8
deriving DecidableEq, Repr

/-- Reads the first byte of a character.  The bounds of the second byte rule out overlong forms,
surrogates and numbers above the last code point. -/
def begin (byte : UInt8) : List Char × Option Begun :=
  if byte < 0x80 then ([Char.ofNat byte.toNat], none)
  else if byte < 0xC2 then ([replacement], none)
  else if byte < 0xE0 then ([], some ⟨byte.toNat - 0xC0, 1, 0x80, 0xBF⟩)
  else if byte = 0xE0 then ([], some ⟨0, 2, 0xA0, 0xBF⟩)
  else if byte = 0xED then ([], some ⟨0xD, 2, 0x80, 0x9F⟩)
  else if byte < 0xF0 then ([], some ⟨byte.toNat - 0xE0, 2, 0x80, 0xBF⟩)
  else if byte = 0xF0 then ([], some ⟨0, 3, 0x90, 0xBF⟩)
  else if byte < 0xF4 then ([], some ⟨byte.toNat - 0xF0, 3, 0x80, 0xBF⟩)
  else if byte = 0xF4 then ([], some ⟨4, 3, 0x80, 0x8F⟩)
  else ([replacement], none)

/-- Reads one more byte.  A byte out of bounds ends the character that has begun and starts the
next one. -/
def advance (begun : Option Begun) (byte : UInt8) : List Char × Option Begun :=
  match begun with
  | none => begin byte
  | some state =>
      if state.low ≤ byte ∧ byte ≤ state.high then
        let bits := 0x40 * state.bits + (byte.toNat - 0x80)
        if state.missing ≤ 1 then ([Char.ofNat bits], none)
        else ([], some ⟨bits, state.missing - 1, 0x80, 0xBF⟩)
      else
        let next := begin byte
        (replacement :: next.1, next.2)

def decodeFrom (begun : Option Begun) : List UInt8 → List Char
  | [] => if begun.isSome then [replacement] else []
  | byte :: rest =>
      let step := advance begun byte
      step.1 ++ decodeFrom step.2 rest

def decode (bytes : List UInt8) : String :=
  String.ofList (decodeFrom none bytes)

end PlatformAudit.Utf8
