import PlatformAudit.Payload.Field
import PlatformAudit.Report.Records

/-!
# Descriptors of return words

A `Descriptor` says which field of an answer to look at, how to show it and what to expect of it.
A check passes or fails; a descriptor that only shows its field informs.
-/

namespace PlatformAudit

/-- How the value of a field is read and shown. -/
inductive ValueKind where
  | hex
  | decimal
  | text
  | bits
  /-- Bits that have to be zero. -/
  | reserved
deriving DecidableEq, Repr

/-- What is expected of a field. -/
inductive Expected where
  | value (value : UInt32)
  | text (value : String)
  | anything
deriving DecidableEq, Repr

/-- What is done with the value of a field. -/
inductive CheckMode where
  | check
  | display
deriving DecidableEq, Repr

/-- A field of an answer and what is expected of it. -/
structure Descriptor where
  field : Field
  kind : ValueKind
  expected : Expected
  mode : CheckMode
deriving DecidableEq, Repr

namespace Descriptor

/-- Shows a field.  The kind follows from the shape of the field. -/
def display (field : Field) : Descriptor where
  field := field
  kind := if 1 < field.words then .text else if field.bits.isSome then .bits else .hex
  expected := .anything
  mode := .display

def check (field : Field) (value : UInt32) : Descriptor :=
  { display field with expected := .value value, mode := .check }

def checkText (field : Field) (value : String) : Descriptor where
  field := field
  kind := .text
  expected := .text value
  mode := .check

def reserved (field : Field) : Descriptor where
  field := field
  kind := .reserved
  expected := .value 0
  mode := .check

/-- Checks a value if one is known, and shows the field otherwise. -/
def checkIf (field : Field) : Option UInt32 → Descriptor
  | some value => check field value
  | none => display field

/-- Checks a text if one is known, and shows the field otherwise. -/
def checkTextIf (field : Field) : Option String → Descriptor
  | some value => checkText field value
  | none => display field

def decimal (descriptor : Descriptor) : Descriptor :=
  { descriptor with kind := .decimal }

def quoted (value : String) : String :=
  "\"" ++ value ++ "\""

def number (kind : ValueKind) (value : UInt32) : String :=
  match kind with
  | .decimal => Text.decimal value.toNat
  | _ => Text.hex value.toNat

def missing (returns : List UInt32) : Verdict × String :=
  (.failed, "not returned (payload has " ++ Text.decimal returns.length ++ " words)")

def evaluateText (descriptor : Descriptor) (observed : String) : Verdict × String :=
  match descriptor.mode, descriptor.expected with
  | .display, _ | .check, .anything => (.info, quoted observed)
  | .check, .text expected =>
      if expected = observed then (.passed, quoted observed)
      else (.failed, "expected " ++ quoted expected ++ ", got " ++ quoted observed)
  | .check, .value _ => (.error, "numeric expectation on a string field")

def evaluateReserved (range : BitRange) (word : UInt32) : Verdict × String :=
  match range.strayBits? word with
  | none => (.passed, range.text ++ " clear")
  | some bits => (.failed, "reserved bits " ++ range.text ++ " set: " ++ Text.hex bits.toNat)

def evaluateNumber (descriptor : Descriptor) (observed : UInt32) : Verdict × String :=
  match descriptor.mode, descriptor.expected with
  | .display, _ | .check, .anything => (.info, number descriptor.kind observed)
  | .check, .value expected =>
      if expected = observed then (.passed, number descriptor.kind observed)
      else
        (.failed, "expected " ++ number descriptor.kind expected ++ ", got " ++
          number descriptor.kind observed)
  | .check, .text _ => (.error, "string expectation on a numeric field")

def evaluate (descriptor : Descriptor) (returns : List UInt32) : Verdict × String :=
  match descriptor.kind with
  | .text =>
      match descriptor.field.readText? returns with
      | none => missing returns
      | some observed => descriptor.evaluateText observed
  | kind =>
      match returns[descriptor.field.offset]? with
      | none => missing returns
      | some word =>
          if kind = .reserved then evaluateReserved descriptor.field.effectiveRange word
          else descriptor.evaluateNumber (descriptor.field.effectiveRange.read word)

def toCheck (descriptor : Descriptor) (returns : List UInt32) : Check :=
  let (outcome, detail) := descriptor.evaluate returns
  { name := descriptor.field.name, outcome, detail }

end Descriptor

/-- Descriptors for all fields of a layout.  Fields named as reserved have to be zero; all others
are shown. -/
def Layout.descriptors (layout : Layout) : List Descriptor :=
  layout.fields.map fun field =>
    if field.name = "reserved" then .reserved field else .display field

end PlatformAudit
