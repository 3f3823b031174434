import PlatformAudit.Files.Fault

/-!
# Channels

An open file that bytes are read from and written to at an offset.  Besides files with contents
there are devices, which keep nothing, and streams, which know no offsets.
-/

namespace PlatformAudit

/-- What an open file does with bytes. -/
inductive Channel where
  | file (bytes : List UInt8)
  /-- Always empty; what is written is lost. -/
  | null
  /-- Reads as zeros; what is written is lost. -/
  | zero
  /-- Reads as zeros and takes nothing. -/
  | full
  | stream
deriving DecidableEq, Repr

namespace Channel

/-- Contents with some bytes written over them.  A gap before the offset is filled with zeros, and
bytes behind what is written stay. -/
def splice (contents : List UInt8) (offset : Nat) (bytes : List UInt8) : List UInt8 :=
  contents.take offset ++ List.replicate (offset - contents.length) 0
    ++ bytes ++ contents.drop (offset + bytes.length)

/-- The first bytes, as many as there are up to the given number. -/
def readUpTo (count : Nat) : Channel → List UInt8
  | .file bytes => bytes.take count
  | .null | .stream => []
  | .zero | .full => List.replicate count 0

def writeAt (offset : Nat) (bytes : List UInt8) : Channel → Except Fault Channel
  | .file contents => .ok (.file (splice contents offset bytes))
  | .null => .ok .null
  | .zero => .ok .zero
  | .full => .error .noSpace
  | .stream => .error .noSeeking

end Channel

end PlatformAudit
