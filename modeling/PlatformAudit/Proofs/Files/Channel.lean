import PlatformAudit.Files.Channel

/-!
# What was written is read

Bytes that are written to the start of a file are there when it is read, whatever it held before,
and what lies behind them stays.
-/

namespace PlatformAudit.Channel

theorem splice_start (contents bytes : List UInt8) :
    splice contents 0 bytes = bytes ++ contents.drop bytes.length := by
  simp [splice]

theorem readUpTo_splice_start (contents bytes : List UInt8) :
    readUpTo bytes.length (.file (splice contents 0 bytes)) = bytes := by
  rw [readUpTo, splice_start, List.take_left]

end PlatformAudit.Channel
