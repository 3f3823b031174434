import PlatformAudit.Text.Number

/-!
# Bit ranges of a 32-bit word

A `BitRange` names the bits `msb` down to `lsb` of a word.  It is read and written as a number
that starts at bit 0.  Ranges that come from data are checked once, by `BitRange.ofBounds`;
every range is valid from then on.
-/

namespace PlatformAudit

/-- An inclusive range of bits within a 32-bit word. -/
structure BitRange where
  msb : Nat
  lsb : Nat
  valid : decide (lsb ≤ msb ∧ msb ≤ 31) = true := by exact Eq.refl true
deriving DecidableEq, Repr

namespace BitRange

theorem lsb_le_msb (range : BitRange) : range.lsb ≤ range.msb :=
  (of_decide_eq_true range.valid).1

theorem msb_le (range : BitRange) : range.msb ≤ 31 :=
  (of_decide_eq_true range.valid).2

def word : BitRange where
  msb := 31
  lsb := 0

def width (range : BitRange) : Nat :=
  range.msb - range.lsb + 1

/-- The largest value that fits into so many bits.  A whole word has no bit above it from which
one could be taken away. -/
def ones (width : Nat) : UInt32 :=
  if 32 ≤ width then 0xFFFFFFFF else (1 <<< UInt32.ofNat width) - 1

def maxValue (range : BitRange) : UInt32 :=
  ones range.width

def mask (range : BitRange) : UInt32 :=
  range.maxValue <<< UInt32.ofNat range.lsb

def read (range : BitRange) (word : UInt32) : UInt32 :=
  (word >>> UInt32.ofNat range.lsb) &&& range.maxValue

/-- Writes the low bits of `value` into the range and leaves all other bits of `word` alone. -/
def overwrite (range : BitRange) (word value : UInt32) : UInt32 :=
  (word &&& ~~~range.mask) ||| ((value &&& range.maxValue) <<< UInt32.ofNat range.lsb)

/-- Whether every bit of the range is zero in `word`. -/
def isClear (range : BitRange) (word : UInt32) : Bool :=
  word &&& range.mask == 0

/-- The bits set in a range that should be clear, or nothing if it is clear. -/
def strayBits? (range : BitRange) (word : UInt32) : Option UInt32 :=
  let bits := range.read word
  if bits = 0 then none else some bits

def text (range : BitRange) : String :=
  if range.msb = range.lsb then
    "[" ++ Text.decimal range.msb ++ "]"
  else
    "[" ++ Text.decimal range.msb ++ ":" ++ Text.decimal range.lsb ++ "]"

/-- Why a range or a write into one is refused. -/
inductive Error where
  | invalidBounds (msb lsb : Nat)
  | valueTooWide (range : BitRange) (value : UInt32)
deriving DecidableEq, Repr

def Error.message : Error → String
  | .invalidBounds msb lsb =>
      "invalid bit range [" ++ Text.decimal msb ++ ":" ++ Text.decimal lsb ++ "]"
  | .valueTooWide range value =>
      "value " ++ Text.hex value.toNat ++ " does not fit in bit field " ++ range.text

/-- The range with the given bounds, if they are in order and inside the word. -/
def ofBounds (msb lsb : Nat) : Except Error BitRange :=
  if valid : lsb ≤ msb ∧ msb ≤ 31 then
    .ok { msb, lsb, valid := decide_eq_true valid }
  else
    .error (.invalidBounds msb lsb)

/-- Writes `value` into the range, provided that it fits. -/
def write (range : BitRange) (word value : UInt32) : Except Error UInt32 :=
  if range.maxValue < value then
    .error (.valueTooWide range value)
  else
    .ok ((word &&& ~~~range.mask) ||| (value <<< UInt32.ofNat range.lsb))

/-- What is wrong with a range that is written down as a constant. -/
inductive Misdeclared where
  | outsideWord
  | reversed
deriving DecidableEq, Repr

def Misdeclared.message : Misdeclared → String
  | .outsideWord => "bit range exceeds 31"
  | .reversed => "msb must be >= lsb"

/-- A range written down as a constant.  A bound outside the word is reported before reversed
bounds. -/
def declare (msb lsb : Nat) : Except Misdeclared BitRange :=
  if inside : msb ≤ 31 then
    if ordered : lsb ≤ msb then
      .ok { msb, lsb, valid := decide_eq_true ⟨ordered, inside⟩ }
    else
      .error .reversed
  else
    .error .outsideWord

end BitRange

end PlatformAudit
