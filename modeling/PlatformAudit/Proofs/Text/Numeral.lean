import PlatformAudit.Text.Numeral

/-!
# Numerals and their values

A numeral of a base is a digit, or a numeral with a digit behind it; a letter counts as a digit in
either case.  Reading goes through a numeral from the front, with the value of what stands in front
of the next digit at hand, and it finds a value exactly if there is a numeral to be read.  What is
printed for a number is a numeral of this number, with or without zeros in front.
-/

namespace PlatformAudit.Text

/-- A character that is written for a digit of a base. -/
def IsDigit (base digit : Nat) (char : Char) : Prop :=
  digit < base ∧ (char = digit.digitChar ∨ char = digit.digitChar.toUpper)

/-- The numerals of a base, each with its value. -/
inductive Numeral (base : Nat) : List Char → Nat → Prop where
  | single {char : Char} {digit : Nat} : IsDigit base digit char → Numeral base [char] digit
  | next {chars : List Char} {value : Nat} {char : Char} {digit : Nat} :
      Numeral base chars value → IsDigit base digit char →
      Numeral base (chars ++ [char]) (value * base + digit)

/-- Numerals that may have a plus sign in front. -/
inductive SignedNumeral (base : Nat) : List Char → Nat → Prop where
  | plain {chars : List Char} {value : Nat} :
      Numeral base chars value → SignedNumeral base chars value
  | plus {chars : List Char} {value : Nat} :
      Numeral base chars value → SignedNumeral base ('+' :: chars) value

variable {base start digit value limit : Nat} {char : Char} {chars rest : List Char}

/-! ### Digits -/

private theorem digitValue?_digitChar :
    ∀ digit < 16, digitValue? digit.digitChar = some digit ∧
      digitValue? digit.digitChar.toUpper = some digit := by
  decide

private theorem digitChar_of_digitValue? :
    ∀ code < 128, ∀ digit < 16, digitValue? (Char.ofNat code) = some digit →
      Char.ofNat code = digit.digitChar ∨ Char.ofNat code = digit.digitChar.toUpper := by
  decide +kernel

private theorem toNat_lt_of_digitValue? (found : digitValue? char = some digit) :
    char.toNat < 128 := by
  have below {last : Char} (within : char ≤ last) : char.toNat ≤ last.toNat :=
    UInt32.le_iff_toNat_le.mp within
  unfold digitValue? at found
  split at found
  case isTrue decimal => exact Nat.lt_of_le_of_lt (below decimal.2) (by decide)
  case isFalse =>
    split at found
    case isTrue small => exact Nat.lt_of_le_of_lt (below small.2) (by decide)
    case isFalse =>
      split at found
      case isTrue capital => exact Nat.lt_of_le_of_lt (below capital.2) (by decide)
      case isFalse => cases found

/-- The digits of the usual bases are the characters with a value below the base. -/
theorem isDigit_iff (usual : base ≤ 16) :
    IsDigit base digit char ↔ digitValue? char = some digit ∧ digit < base := by
  constructor
  · rintro ⟨below, rfl | rfl⟩
    · exact ⟨(digitValue?_digitChar digit (by omega)).1, below⟩
    · exact ⟨(digitValue?_digitChar digit (by omega)).2, below⟩
  · rintro ⟨found, below⟩
    refine ⟨below, ?_⟩
    -- Only ASCII characters have a value, and of these each one has been tried.
    have code : Char.ofNat char.toNat = char := Char.ofNat_toNat char
    have ascii := toNat_lt_of_digitValue? found
    rw [← code] at found ⊢
    exact digitChar_of_digitValue? char.toNat ascii digit (by omega) found

theorem not_isDigit_mark (usual : base ≤ 16) (mark : char = '+' ∨ char = 'x' ∨ char = 'X') :
    ¬IsDigit base digit char := by
  rw [isDigit_iff usual]
  rintro ⟨found, below⟩
  rcases mark with rfl | rfl | rfl
  · cases found
  -- As a letter, the mark has a value, but not one that is below the base.
  all_goals
    obtain rfl : 33 = digit := Option.some.inj found
    omega

theorem Numeral.isDigit (numeral : Numeral base chars value) :
    ∀ char ∈ chars, ∃ digit, IsDigit base digit char := by
  induction numeral with
  | single isDigit => exact List.forall_mem_singleton.mpr ⟨_, isDigit⟩
  | next front isDigit induction =>
      exact List.forall_mem_append.mpr ⟨induction, List.forall_mem_singleton.mpr ⟨_, isDigit⟩⟩

theorem SignedNumeral.isDigit_or_plus (numeral : SignedNumeral base chars value) :
    ∀ char ∈ chars, char = '+' ∨ ∃ digit, IsDigit base digit char := by
  rcases numeral with numeral | numeral
  · exact fun char member => .inr (numeral.isDigit char member)
  · exact List.forall_mem_cons.mpr
      ⟨.inl rfl, fun char member => .inr (numeral.isDigit char member)⟩

/-! ### Reading digits -/

theorem digitsValue?_cons_eq_some_iff (usual : base ≤ 16) :
    digitsValue? base start (char :: rest) = some value ↔
      ∃ digit, IsDigit base digit char ∧
        digitsValue? base (start * base + digit) rest = some value := by
  simp only [isDigit_iff usual, digitsValue?]
  cases digitValue? char with
  | none => simp
  | some found =>
      simp only [Option.some.injEq]
      constructor
      · intro read
        by_cases below : found < base
        · rw [if_pos below] at read
          exact ⟨found, ⟨rfl, below⟩, read⟩
        · rw [if_neg below] at read
          cases read
      · rintro ⟨digit, ⟨rfl, below⟩, read⟩
        rwa [if_pos below]

theorem digitsValue?_append (front behind : List Char) :
    digitsValue? base start (front ++ behind) =
      (digitsValue? base start front).bind (digitsValue? base · behind) := by
  induction front generalizing start with
  | nil => rfl
  | cons char front induction =>
      rw [List.cons_append, digitsValue?, digitsValue?]
      cases digitValue? char with
      | none => rfl
      | some digit =>
          by_cases below : digit < base
          · simp only [if_pos below, induction]
          · simp only [if_neg below, Option.bind_none]

theorem Numeral.extend (usual : base ≤ 16) {front : List Char} (numeral : Numeral base front start)
    (read : digitsValue? base start chars = some value) : Numeral base (front ++ chars) value := by
  -- The value at hand is always the one of the digits that have been read.
  induction chars generalizing front start with
  | nil =>
      obtain rfl := Option.some.inj read
      rwa [List.append_nil]
  | cons char chars induction =>
      obtain ⟨digit, isDigit, readOn⟩ := (digitsValue?_cons_eq_some_iff usual).mp read
      rw [List.append_cons]
      exact induction (numeral.next isDigit) readOn

theorem Numeral.read (usual : base ≤ 16) (numeral : Numeral base chars value) :
    digitsValue? base 0 chars = some value := by
  induction numeral with
  | single isDigit =>
      refine (digitsValue?_cons_eq_some_iff usual).mpr ⟨_, isDigit, ?_⟩
      rw [Nat.zero_mul, Nat.zero_add, digitsValue?]
  | next front isDigit induction =>
      rw [digitsValue?_append, induction]
      exact (digitsValue?_cons_eq_some_iff usual).mpr ⟨_, isDigit, rfl⟩

theorem Numeral.ne_nil (numeral : Numeral base chars value) : chars ≠ [] := by
  cases numeral with
  | single => exact List.cons_ne_nil _ _
  | next => exact List.append_ne_nil_of_right_ne_nil _ (List.cons_ne_nil _ _)

/-- Digits have a value exactly if they are a numeral. -/
theorem digitsValue?_eq_some_iff (usual : base ≤ 16) (notEmpty : chars ≠ []) :
    digitsValue? base 0 chars = some value ↔ Numeral base chars value := by
  refine ⟨?_, Numeral.read usual⟩
  intro read
  cases chars with
  | nil => exact absurd rfl notEmpty
  | cons char chars =>
      obtain ⟨digit, isDigit, readOn⟩ := (digitsValue?_cons_eq_some_iff usual).mp read
      rw [Nat.zero_mul, Nat.zero_add] at readOn
      exact (Numeral.single isDigit).extend usual readOn

/-! ### Signs and limits -/

theorem Numeral.not_plus (usual : base ≤ 16) : ¬Numeral base ('+' :: chars) value := by
  intro numeral
  obtain ⟨digit, isDigit⟩ := numeral.isDigit '+' List.mem_cons_self
  exact not_isDigit_mark usual (.inl rfl) isDigit

theorem signedNumeral_iff (usual : base ≤ 16) :
    SignedNumeral base chars value ↔ Numeral base (withoutPlus chars) value := by
  unfold withoutPlus
  split
  · constructor
    · rintro (numeral | numeral)
      · exact absurd numeral (Numeral.not_plus usual)
      · exact numeral
    · exact .plus
  · rename_i noPlus
    constructor
    · rintro (numeral | numeral)
      · exact numeral
      · exact absurd rfl (noPlus _)
    · exact .plain

/-- What is read within a limit are the signed numerals of the numbers up to the limit. -/
theorem unsigned?_eq_some_iff (usual : base ≤ 16) :
    unsigned? base limit chars = some value ↔ SignedNumeral base chars value ∧ value ≤ limit := by
  rw [signedNumeral_iff usual, unsigned?]
  split
  case h_1 empty =>
    rw [empty]
    exact ⟨nofun, fun both => absurd rfl both.1.ne_nil⟩
  case h_2 digits notEmpty =>
    rw [Option.filter_eq_some_iff, digitsValue?_eq_some_iff usual notEmpty, decide_eq_true_iff]

theorem unsigned?_eq_none_iff (usual : base ≤ 16) :
    unsigned? base limit chars = none ↔
      ∀ value, SignedNumeral base chars value → limit < value := by
  simp only [Option.eq_none_iff_forall_ne_some, ne_eq, unsigned?_eq_some_iff usual, not_and,
    Nat.not_le]

/-! ### Printed numbers -/

/-- What is printed for a number is a numeral of the number. -/
theorem numeral_toDigits (several : 1 < base) (value : Nat) :
    Numeral base (Nat.toDigits base value) value := by
  induction value using Nat.base_induction base several with
  | single digit below =>
      rw [Nat.toDigits_of_lt_base below]
      exact .single ⟨below, .inl rfl⟩
  | digit front digit below positive induction =>
      rw [← Nat.toDigits_append_toDigits several positive below, Nat.toDigits_of_lt_base below,
        Nat.mul_comm]
      exact .next induction ⟨below, .inl rfl⟩

theorem IsDigit.zero (positive : 0 < base) : IsDigit base 0 '0' :=
  ⟨positive, .inl rfl⟩

private theorem Numeral.withZero (numeral : Numeral base chars value) :
    Numeral base ('0' :: chars) value := by
  induction numeral with
  | single isDigit =>
      have zero := Numeral.single (IsDigit.zero (Nat.zero_lt_of_lt isDigit.1))
      simpa using zero.next isDigit
  | next front isDigit induction => exact induction.next isDigit

/-- Zeros in front of a numeral make no difference. -/
theorem Numeral.withZeros (numeral : Numeral base chars value) (count : Nat) :
    Numeral base (List.replicate count '0' ++ chars) value := by
  induction count with
  | zero => exact numeral
  | succ count induction => exact induction.withZero

end PlatformAudit.Text
