import PlatformAudit.Text.Json
import PlatformAudit.Word.Addition

/-!
# Counters

A counter is a word that grows.  It does not start over: one that would have to grow past the
largest word has run over and stays so.  The program stops there, so nobody sees such a counter.
-/

namespace PlatformAudit

/-- A number of things that were counted, or nothing if the counter has run over. -/
structure Counter where
  word? : Option UInt32
deriving DecidableEq, Repr

namespace Counter

def ofNat (count : Nat) : Counter where
  word? := if count < UInt32.size then some (UInt32.ofNat count) else none

instance : Zero Counter where
  zero := ofNat 0

instance : One Counter where
  one := ofNat 1

instance : Add Counter where
  add first second :=
    { word? :=
        first.word?.bind fun ahead => second.word?.bind fun behind => Word.add? ahead behind }

def text (counter : Counter) : String :=
  match counter.word? with
  | some word => Text.decimal word.toNat
  | none => "overflow"

def document (counter : Counter) : Json :=
  match counter.word? with
  | some word => .number word.toNat
  | none => .string counter.text

end Counter

end PlatformAudit
