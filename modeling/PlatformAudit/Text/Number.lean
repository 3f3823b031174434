/-!
# Numbers as text

Identifiers and words are printed in lower-case hexadecimal with a leading `0x`.  Protocol and
message identifiers are padded to two digits; every other word uses as few digits as it needs.
-/

namespace PlatformAudit.Text

/-- The hexadecimal digits of a number, most significant first, with no leading zero. -/
def hexDigits (value : Nat) : List Char :=
  Nat.toDigits 16 value

def hex (value : Nat) : String :=
  "0x" ++ String.ofList (hexDigits value)

def hexByte (value : UInt8) : String :=
  let digits := hexDigits value.toNat
  "0x" ++ String.ofList (List.replicate (2 - digits.length) '0' ++ digits)

def decimal (value : Nat) : String :=
  String.ofList (Nat.toDigits 10 value)

def signed (value : Int) : String :=
  match value with
  | .ofNat magnitude => decimal magnitude
  | .negSucc rest => "-" ++ decimal (rest + 1)

end PlatformAudit.Text
