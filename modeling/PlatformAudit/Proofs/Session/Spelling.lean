import PlatformAudit.Session.Settings
import PlatformAudit.Proofs.Text.Numeral

/-!
# How protocol identifiers are spelled

An identifier is spelled by a decimal numeral, or by a hexadecimal one behind `0x` or `0X`; a plus
sign may stand in front of the digits.  An identifier is read exactly from its spellings, and a text
that is no spelling of a number up to 255 is handed back.
-/

namespace PlatformAudit

open Text

/-- The spellings of a protocol identifier. -/
inductive SpellsIdentifier : List Char → Nat → Prop where
  | decimal {chars : List Char} {value : Nat} :
      SignedNumeral 10 chars value → SpellsIdentifier chars value
  | hexadecimal {mark : Char} {chars : List Char} {value : Nat} :
      mark = 'x' ∨ mark = 'X' → SignedNumeral 16 chars value →
      SpellsIdentifier ('0' :: mark :: chars) value

namespace SpellsIdentifier

variable {chars : List Char} {mark : Char} {value : Nat}

theorem not_marked {base : Nat} (usual : base ≤ 16) (isMark : mark = 'x' ∨ mark = 'X') :
    ¬SignedNumeral base ('0' :: mark :: chars) value := by
  intro numeral
  have member : mark ∈ '0' :: mark :: chars := List.mem_cons_of_mem _ List.mem_cons_self
  rcases numeral.isDigit_or_plus mark member with plus | ⟨digit, isDigit⟩
  · rcases isMark with rfl | rfl <;> cases plus
  · exact not_isDigit_mark usual (.inr isMark) isDigit

theorem marked_iff (isMark : mark = 'x' ∨ mark = 'X') :
    SpellsIdentifier ('0' :: mark :: chars) value ↔ SignedNumeral 16 chars value := by
  constructor
  · rintro (numeral | ⟨-, numeral⟩)
    · exact absurd numeral (not_marked (by decide) isMark)
    · exact numeral
  · exact .hexadecimal isMark

theorem unmarked_iff
    (unmarked : ∀ mark rest, chars = '0' :: mark :: rest → ¬(mark = 'x' ∨ mark = 'X')) :
    SpellsIdentifier chars value ↔ SignedNumeral 10 chars value := by
  constructor
  · rintro (numeral | ⟨isMark, -⟩)
    · exact numeral
    · exact absurd isMark (unmarked _ _ rfl)
  · exact .decimal

/-- The characters that spellings are made of. -/
def alphabet : List Char :=
  "+xX0123456789abcdefABCDEF".toList

private theorem digit_mem_alphabet :
    ∀ digit < 16, digit.digitChar ∈ alphabet ∧ digit.digitChar.toUpper ∈ alphabet := by
  decide

private theorem signed_mem_alphabet {base : Nat} (usual : base ≤ 16)
    (numeral : SignedNumeral base chars value) : ∀ char ∈ chars, char ∈ alphabet := by
  intro char member
  rcases numeral.isDigit_or_plus char member with rfl | ⟨digit, below, rfl | rfl⟩
  · decide
  · exact (digit_mem_alphabet digit (by omega)).1
  · exact (digit_mem_alphabet digit (by omega)).2

theorem mem_alphabet (spells : SpellsIdentifier chars value) : ∀ char ∈ chars, char ∈ alphabet := by
  rcases spells with numeral | ⟨isMark, numeral⟩
  · exact signed_mem_alphabet (by decide) numeral
  · refine List.forall_mem_cons.mpr ⟨by decide, List.forall_mem_cons.mpr ⟨?_, ?_⟩⟩
    · rcases isMark with rfl | rfl <;> decide
    · exact signed_mem_alphabet (by decide) numeral

end SpellsIdentifier

/-- Whatever a text begins with, it is read as one numeral. -/
theorem exists_readProtocolId_eq (text : String) :
    ∃ base digits, base ≤ 16 ∧
      (∀ value, SpellsIdentifier text.toList value ↔ SignedNumeral base digits value) ∧
      readProtocolId text =
        match unsigned? base 255 digits with
        | some id => .ok (UInt8.ofNat id)
        | none => .error (.badProtocolId text) := by
  unfold readProtocolId
  generalize text.toList = chars
  split
  · exact ⟨16, _, by decide, fun value => SpellsIdentifier.marked_iff (.inl rfl), rfl⟩
  · exact ⟨16, _, by decide, fun value => SpellsIdentifier.marked_iff (.inr rfl), rfl⟩
  · -- No mark stands behind a zero in front, so that there is no hexadecimal spelling.
    rename_i notSmall notCapital
    refine ⟨10, _, by decide, fun value => SpellsIdentifier.unmarked_iff ?_, rfl⟩
    rintro mark rest rfl (rfl | rfl)
    · exact notSmall rest rfl
    · exact notCapital rest rfl

theorem readProtocolId_eq_ok_iff {text : String} {id : UInt8} :
    readProtocolId text = .ok id ↔ SpellsIdentifier text.toList id.toNat := by
  obtain ⟨base, digits, usual, spells, read⟩ := exists_readProtocolId_eq text
  rw [spells, read]
  have within : id.toNat ≤ 255 := Nat.le_of_lt_succ id.toNat_lt
  constructor
  · intro accepted
    split at accepted
    case h_1 value found =>
      obtain ⟨numeral, small⟩ := (unsigned?_eq_some_iff usual).mp found
      have same : id.toNat = value := by
        rw [← Except.ok.inj accepted, UInt8.toNat_ofNat_of_lt' (Nat.lt_succ_of_le small)]
      rwa [same]
    case h_2 => cases accepted
  · intro numeral
    rw [(unsigned?_eq_some_iff usual).mpr ⟨numeral, within⟩]
    exact congrArg Except.ok UInt8.ofNat_toNat

/-- A text is refused if all the numbers that it spells are too large. -/
theorem readProtocolId_eq_error_iff {text : String} {cause : SettingsError} :
    readProtocolId text = .error cause ↔
      cause = .badProtocolId text ∧ ∀ value, SpellsIdentifier text.toList value → 255 < value := by
  obtain ⟨base, digits, usual, spells, read⟩ := exists_readProtocolId_eq text
  simp only [spells]
  rw [read, ← unsigned?_eq_none_iff usual]
  split
  case h_1 value found =>
    rw [found]
    exact ⟨nofun, fun both => nomatch both.2⟩
  case h_2 missing =>
    rw [missing, Except.error.injEq, and_iff_left rfl, eq_comm]

theorem readProtocolId_hexByte (id : UInt8) : readProtocolId (hexByte id) = .ok id := by
  have numeral : Numeral 16 (hexDigits id.toNat) id.toNat := numeral_toDigits (by decide) _
  have chars : (hexByte id).toList = '0' :: 'x' ::
      (List.replicate (2 - (hexDigits id.toNat).length) '0' ++ hexDigits id.toNat) := by
    simp [hexByte]
  rw [readProtocolId_eq_ok_iff, chars]
  exact .hexadecimal (.inl rfl) (.plain (numeral.withZeros _))

theorem readProtocolId_decimal (id : UInt8) : readProtocolId (decimal id.toNat) = .ok id := by
  rw [readProtocolId_eq_ok_iff, decimal, String.toList_ofList]
  exact .decimal (.plain (numeral_toDigits (by decide) id.toNat))

/-- Nothing is read from a text with a character that no spelling has. -/
theorem readProtocolId_of_strange {text : String} {char : Char} (there : char ∈ text.toList)
    (strange : char ∉ SpellsIdentifier.alphabet) :
    readProtocolId text = .error (.badProtocolId text) :=
  readProtocolId_eq_error_iff.mpr
    ⟨rfl, fun _ spells => absurd (spells.mem_alphabet char there) strange⟩

theorem readProtocolId_of_bare {text : String}
    (bare : text ∈ ["", "+", "0x", "0X", "0x+", "0X+"]) :
    readProtocolId text = .error (.badProtocolId text) := by
  simp only [List.mem_cons, List.not_mem_nil, or_false] at bare
  rcases bare with rfl | rfl | rfl | rfl | rfl | rfl <;> rfl

/-- Behind a mark there may not be another. -/
theorem readProtocolId_of_marked_twice {first second : String} (isFirst : first ∈ ["0x", "0X"])
    (isSecond : second ∈ ["0x", "0X"]) (rest : String) :
    readProtocolId (first ++ second ++ rest) =
      .error (.badProtocolId (first ++ second ++ rest)) := by
  have marked {front : String} (isFront : front ∈ ["0x", "0X"]) :
      ∃ mark, (mark = 'x' ∨ mark = 'X') ∧ front.toList = ['0', mark] := by
    simp only [List.mem_cons, List.not_mem_nil, or_false] at isFront
    rcases isFront with rfl | rfl
    · exact ⟨'x', .inl rfl, rfl⟩
    · exact ⟨'X', .inr rfl, rfl⟩
  obtain ⟨mark, isMark, firstChars⟩ := marked isFirst
  obtain ⟨again, isAgain, secondChars⟩ := marked isSecond
  rw [readProtocolId_eq_error_iff, String.toList_append, String.toList_append, firstChars,
    secondChars]
  refine ⟨rfl, fun value spells => ?_⟩
  have numeral := (SpellsIdentifier.marked_iff isMark).mp spells
  exact absurd numeral (SpellsIdentifier.not_marked (by decide) isAgain)

/-- A text is read as an identifier exactly if it spells the identifier, and every other text is
handed back, among them those without digits, with a minus sign or a blank, and with two marks.
What is printed for an identifier spells it. -/
theorem readProtocolId_follows_spelling :
    (∀ text id, readProtocolId text = .ok id ↔ SpellsIdentifier text.toList id.toNat) ∧
    (∀ text cause, readProtocolId text = .error cause ↔ cause = .badProtocolId text ∧
      ∀ value, SpellsIdentifier text.toList value → 255 < value) ∧
    (∀ text ∈ ["", "+", "0x", "0X", "0x+", "0X+"],
      readProtocolId text = .error (.badProtocolId text)) ∧
    (∀ text char, char ∈ text.toList → char ∉ "+xX0123456789abcdefABCDEF".toList →
      readProtocolId text = .error (.badProtocolId text)) ∧
    (∀ first ∈ ["0x", "0X"], ∀ second ∈ ["0x", "0X"], ∀ rest,
      readProtocolId (first ++ second ++ rest) =
        .error (.badProtocolId (first ++ second ++ rest))) ∧
    (∀ id, readProtocolId (hexByte id) = .ok id ∧ readProtocolId (decimal id.toNat) = .ok id) := by
  refine ⟨fun text id => readProtocolId_eq_ok_iff, fun text cause => readProtocolId_eq_error_iff,
    fun text => readProtocolId_of_bare, fun text char => readProtocolId_of_strange, ?_, ?_⟩
  · intro first isFirst second isSecond
    exact readProtocolId_of_marked_twice isFirst isSecond
  · exact fun id => ⟨readProtocolId_hexByte id, readProtocolId_decimal id⟩

/-- Zeros and a sign behind a mark are read; a minus sign, want of digits, a second mark and too
large a number are refused. -/
theorem readProtocolId_follows_spelling_signs :
    SpellsIdentifier "0X+00fF".toList 255 ∧
      (∀ value, SpellsIdentifier "256".toList value → 255 < value) ∧
      '-' ∈ "-17".toList ∧ readProtocolId "-17" = .error (.badProtocolId "-17") ∧
      readProtocolId "0x+" = .error (.badProtocolId "0x+") ∧
      readProtocolId ("0x" ++ "0X" ++ "11") = .error (.badProtocolId ("0x" ++ "0X" ++ "11")) := by
  obtain ⟨accepts, refuses, bare, strange, twice, -⟩ := readProtocolId_follows_spelling
  have minus : '-' ∈ "-17".toList := by decide
  exact ⟨(accepts "0X+00fF" 255).mp rfl, ((refuses "256" _).mp rfl).2, minus,
    strange "-17" '-' minus (by decide), bare "0x+" (by decide),
    twice "0x" (by decide) "0X" (by decide) "11"⟩

end PlatformAudit
