/-!
# Numerals

Unsigned numbers as they are typed: an optional plus sign and at least one digit.  Leading zeros do
not matter.  Numbers beyond a limit are refused.
-/

namespace PlatformAudit.Text

/-- The value of a digit.  Letters of either case count from ten on. -/
def digitValue? (char : Char) : Option Nat :=
  if '0' ≤ char ∧ char ≤ '9' then some (char.toNat - '0'.toNat)
  else if 'a' ≤ char ∧ char ≤ 'z' then some (char.toNat - 'a'.toNat + 10)
  else if 'A' ≤ char ∧ char ≤ 'Z' then some (char.toNat - 'A'.toNat + 10)
  else none

/-- The value of digits behind a number that was read before them. -/
def digitsValue? (base : Nat) : Nat → List Char → Option Nat
  | value, [] => some value
  | value, char :: rest =>
      match digitValue? char with
      | none => none
      | some digit => if digit < base then digitsValue? base (value * base + digit) rest else none

/-- The digits of a numeral, without the sign that may stand in front. -/
def withoutPlus : List Char → List Char
  | '+' :: rest => rest
  | chars => chars

/-- The value of a numeral in a base, if it is not greater than the limit. -/
def unsigned? (base limit : Nat) (chars : List Char) : Option Nat :=
  match withoutPlus chars with
  | [] => none
  | digits => (digitsValue? base 0 digits).filter (· ≤ limit)

end PlatformAudit.Text
