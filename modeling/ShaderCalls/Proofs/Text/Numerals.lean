import ShaderCalls.Text.Digits

/-!
# Numerals of 32 bits

A text is a number of 32 bits exactly when it is one or more decimal digits, behind a plus sign or
none, whose value is below `2 ^ 32`.  Leading zeros do not matter.
-/

namespace ShaderCalls.Text

/-- One or more decimal digits that stand for a value, behind a plus sign or none. -/
def IsNumeral (text : List Char) (value : Nat) : Prop :=
  ∃ sign digits, text = sign ++ digits ∧ (sign = [] ∨ sign = ['+']) ∧ digits ≠ [] ∧
    (∀ digit ∈ digits, digit.isDigit) ∧ Nat.ofDigitChars 10 digits 0 = value

/-- The number of 32 bits that has a value. -/
def wordOf? (value : Nat) : Option UInt32 :=
  if value < valuesOf 32 then some value.toUInt32 else none

theorem wordOf?_eq_some_iff {value : Nat} {word : UInt32} :
    wordOf? value = some word ↔ value = word.toNat := by
  have hvalues : valuesOf 32 = 4294967296 := rfl
  rw [wordOf?, hvalues, Option.ite_none_right_eq_some, Option.some.injEq]
  constructor
  · rintro ⟨hsmall, rfl⟩
    rw [Nat.toUInt32_eq, UInt32.toNat_ofNat_of_lt' hsmall]
  · rintro rfl
    exact ⟨word.toNat_lt, UInt32.ofNat_toNat⟩

theorem decimal?_eq_some_iff {digits : List Char} {value : Nat} :
    decimal? digits = some value ↔
      digits ≠ [] ∧ (∀ digit ∈ digits, digit.isDigit) ∧ Nat.ofDigitChars 10 digits 0 = value := by
  rw [decimal?, Option.ite_none_right_eq_some, Option.some.injEq, Bool.and_eq_true,
    List.all_eq_true, Bool.not_eq_true', List.isEmpty_eq_false_iff, and_assoc]
  rfl

/-! ## The sign -/

theorem word32?_signed (digits : List Char) :
    word32? ('+' :: digits) = (decimal? digits).bind wordOf? :=
  rfl

theorem word32?_unsigned {digits : List Char} (hunsigned : '+' ∉ digits.head?) :
    word32? digits = (decimal? digits).bind wordOf? := by
  unfold word32?
  split
  · exact absurd rfl hunsigned
  · rfl

theorem bind_wordOf?_eq_some_iff {digits : List Char} {word : UInt32} :
    (decimal? digits).bind wordOf? = some word ↔ digits ≠ [] ∧
      (∀ digit ∈ digits, digit.isDigit) ∧ Nat.ofDigitChars 10 digits 0 = word.toNat := by
  simp only [Option.bind_eq_some_iff, wordOf?_eq_some_iff, exists_eq_right, decimal?_eq_some_iff]

/-- No digit is a sign. -/
theorem head?_of_forall_isDigit {digits : List Char} (hdigits : ∀ digit ∈ digits, digit.isDigit) :
    '+' ∉ digits.head? := by
  intro hsign
  exact absurd (hdigits '+' (List.mem_of_head? hsign)) (by decide)

theorem word32?_eq_some_iff {text : List Char} {word : UInt32} :
    word32? text = some word ↔ IsNumeral text word.toNat := by
  constructor
  · intro hword
    by_cases hsigned : '+' ∈ text.head?
    · obtain ⟨digits, rfl⟩ := List.head?_eq_some_iff.mp hsigned
      rw [word32?_signed, bind_wordOf?_eq_some_iff] at hword
      exact ⟨['+'], digits, rfl, Or.inr rfl, hword⟩
    · rw [word32?_unsigned hsigned, bind_wordOf?_eq_some_iff] at hword
      exact ⟨[], text, rfl, Or.inl rfl, hword⟩
  · rintro ⟨_, digits, rfl, rfl | rfl, hnonempty, hdigits, hvalue⟩
    · rw [List.nil_append, word32?_unsigned (head?_of_forall_isDigit hdigits)]
      exact bind_wordOf?_eq_some_iff.mpr ⟨hnonempty, hdigits, hvalue⟩
    · rw [List.singleton_append, word32?_signed]
      exact bind_wordOf?_eq_some_iff.mpr ⟨hnonempty, hdigits, hvalue⟩

end ShaderCalls.Text
