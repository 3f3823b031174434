import PlatformAudit.Word.LittleEndian
import PlatformAudit.Text.Utf8

/-!
# Text of fixed width

Names travel in a fixed number of words: UTF-8 bytes, cut off at the end of the last word or filled
up with zero bytes.  A reader stops at the first zero byte.
-/

namespace PlatformAudit.FixedText

/-- Bytes cut off or filled up with zeros to the given length. -/
def fit (length : Nat) (bytes : List UInt8) : List UInt8 :=
  bytes.take length ++ List.replicate (length - bytes.length) 0

def encode (text : String) (width : Nat) : List UInt32 :=
  LittleEndian.words (fit (4 * width) (Utf8.encode text))

def decode (words : List UInt32) : String :=
  Utf8.decode ((LittleEndian.bytesOfWords words).takeWhile (· ≠ 0))

end PlatformAudit.FixedText
