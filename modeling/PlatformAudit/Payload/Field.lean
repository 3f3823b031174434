import PlatformAudit.Word.BitRange
import PlatformAudit.Payload.FixedText

/-!
# Fields of a payload

A `Field` names words of a payload: one whole word, a bit range of one word, or a text over several
words.  A `Layout` is the list of the fields of one message.
-/

namespace PlatformAudit

/-- The largest number of words that one message carries behind its header. -/
def maxPayloadWords : Nat := 25

/-- The largest number of return words of a response: its payload less the status. -/
def maxReturnWords : Nat := 24

/-- A named part of a payload. -/
structure Field where
  name : String
  /-- Position of the first word. -/
  offset : Nat
  /-- The bits that count; without a range the whole word does. -/
  bits : Option BitRange := none
  /-- The number of words, one unless the field is a text. -/
  words : Nat := 1
deriving DecidableEq, Repr

namespace Field

def word (name : String) (offset : Nat) : Field where
  name := name
  offset := offset

def range (name : String) (offset : Nat) (bits : BitRange) : Field where
  name := name
  offset := offset
  bits := some bits

def text (name : String) (offset words : Nat) : Field where
  name := name
  offset := offset
  words := words

def effectiveRange (field : Field) : BitRange :=
  field.bits.getD .word

/-- The value of the field, unless the payload ends before it. -/
def read? (field : Field) (returns : List UInt32) : Option UInt32 :=
  returns[field.offset]?.map field.effectiveRange.read

/-- The text of the field, unless the payload ends before or inside it. -/
def readText? (field : Field) (returns : List UInt32) : Option String :=
  if field.offset + field.words ≤ returns.length then
    some (FixedText.decode ((returns.drop field.offset).take field.words))
  else none

/-- Whether the field has a word and all its words lie inside the largest payload. -/
def FitsPayload (field : Field) : Prop :=
  1 ≤ field.words ∧ field.offset + field.words ≤ maxReturnWords

instance (field : Field) : Decidable field.FitsPayload :=
  inferInstanceAs (Decidable (_ ∧ _))

end Field

/-- The fields of a message, in order. -/
structure Layout where
  name : String
  fields : List Field
deriving DecidableEq, Repr

namespace Layout

def field? (layout : Layout) (name : String) : Option Field :=
  layout.fields.find? (·.name = name)

def span (layout : Layout) : Nat :=
  (layout.fields.map fun field => field.offset + field.words).foldl max 0

end Layout

end PlatformAudit
