import ShaderCalls.Proofs.Text.Blanks
import ShaderCalls.Source.Lexer

/-!
# Integer literals

An integer is written in one of four bases, with underscores between its digits and the name of an
unsigned type behind them.  Whatever its spelling is, it is one token of its text.
-/

namespace ShaderCalls.Source

open ShaderCalls.Text

/-- The bases in which an integer is written. -/
inductive IntegerBase where
  | binary
  | octal
  | decimal
  | hexadecimal
  deriving DecidableEq

namespace IntegerBase

/-- What stands in front of the digits. -/
def mark : IntegerBase → List Char
  | .binary => ['0', 'b']
  | .octal => ['0', 'o']
  | .decimal => []
  | .hexadecimal => ['0', 'x']

def radix : IntegerBase → Nat
  | .binary => 2
  | .octal => 8
  | .decimal => 10
  | .hexadecimal => 16

end IntegerBase

/-- The types that an unsigned integer may name. -/
def unsignedTypes : List String :=
  ["u8", "u16", "u32", "u64", "u128", "usize"]

/-- An unsigned integer as it is written. -/
structure IntegerLiteral where
  base : IntegerBase
  /-- The digits, and the underscores among them. -/
  digits : List Char
  /-- The type, or nothing. -/
  suffix : String
  inBase : ∀ char ∈ digits, char = '_' ∨ ∃ digit ∈ hexValue? char, digit < base.radix
  hasDigit : ∃ char ∈ digits, char ≠ '_'
  /-- An underscore would begin a name. -/
  begins : base = .decimal → '_' ∉ digits.head?
  isUnsigned : suffix = "" ∨ suffix ∈ unsignedTypes

namespace IntegerLiteral

def chars (literal : IntegerLiteral) : List Char :=
  literal.base.mark ++ literal.digits ++ literal.suffix.toList

def spelling (literal : IntegerLiteral) : String :=
  String.ofList literal.chars

/-- The number that the digits stand for. -/
def value (literal : IntegerLiteral) : Nat :=
  (literal.digits.filterMap hexValue?).foldl
    (fun value digit => literal.base.radix * value + digit) 0

/-- The literal is nothing but decimal digits. -/
def IsPlain (literal : IntegerLiteral) : Prop :=
  literal.base = .decimal ∧ '_' ∉ literal.digits ∧ literal.suffix = ""

instance (literal : IntegerLiteral) : Decidable literal.IsPlain :=
  inferInstanceAs (Decidable (_ ∧ _ ∧ _))

variable (literal : IntegerLiteral) {rest : List Char}

/-! ## Characters -/

/-- A character between two others is also between the first and one behind the second. -/
theorem inRange_of_le {low high char : Char} (last : Char) (hlast : high.val ≤ last.val)
    (hrange : (decide (low ≤ char) && decide (char ≤ high)) = true) :
    low.val ≤ char.val ∧ char.val ≤ last.val := by
  rw [Bool.and_eq_true, decide_eq_true_eq, decide_eq_true_eq] at hrange
  exact ⟨hrange.1, UInt32.le_trans hrange.2 hlast⟩

theorem isAlphanum_of_hexValue? {char : Char} {digit : Nat} (hdigit : digit ∈ hexValue? char) :
    char.isAlphanum := by
  show ((char.isUpper || char.isLower) || char.isDigit) = true
  unfold hexValue? at hdigit
  split at hdigit
  · next hrange =>
      have hdigit : char.isDigit := hrange
      rw [hdigit, Bool.or_true]
  split at hdigit
  · next hrange =>
      obtain ⟨hlow, hhigh⟩ := inRange_of_le 'z' (by decide) hrange
      have hlower : char.isLower :=
        Bool.and_eq_true_iff.mpr ⟨decide_eq_true hlow, decide_eq_true hhigh⟩
      rw [hlower, Bool.or_true, Bool.true_or]
  split at hdigit
  · next hrange =>
      have hupper : char.isUpper := decide_eq_true (inRange_of_le 'Z' (by decide) hrange)
      rw [hupper, Bool.true_or, Bool.true_or]
  · contradiction

theorem hexValue?_of_isDecimal {char : Char} (hdecimal : Literal.isDecimal char) :
    hexValue? char = some (char.toNat - '0'.toNat) := by
  rw [Literal.isDecimal] at hdecimal
  rw [hexValue?, if_pos hdecimal]

/-- The digits below ten are those of decimal numbers. -/
theorem isDecimal_of_hexValue? {char : Char} {digit : Nat} (hdigit : digit ∈ hexValue? char)
    (hsmall : digit < 10) : Literal.isDecimal char := by
  unfold hexValue? at hdigit
  split at hdigit
  · assumption
  split at hdigit
  · obtain rfl := Option.some.inj hdigit
    omega
  split at hdigit
  · obtain rfl := Option.some.inj hdigit
    omega
  · contradiction

theorem continuesIdentifier_of_hexValue? {char : Char} {digit : Nat}
    (hdigit : digit ∈ hexValue? char) : continuesIdentifier char := by
  rw [continuesIdentifier, isAlphanum_of_hexValue? hdigit]
  rfl

theorem continuesIdentifier_of_isDecimalOrGap {char : Char}
    (hchar : Literal.isDecimalOrGap char) : continuesIdentifier char := by
  rw [Literal.isDecimalOrGap, Bool.or_eq_true, beq_iff_eq] at hchar
  obtain hdecimal | rfl := hchar
  · exact continuesIdentifier_of_hexValue? (hexValue?_of_isDecimal hdecimal)
  · rfl

/-- A literal is written with the characters of identifiers. -/
theorem continuesIdentifier_of_mem {char : Char} (hchar : char ∈ literal.chars) :
    continuesIdentifier char := by
  rw [chars, List.mem_append, List.mem_append] at hchar
  obtain (hmark | hdigit) | hsuffix := hchar
  · have hall : literal.base.mark.all continuesIdentifier := by
      cases literal.base <;> rfl
    exact List.all_eq_true.mp hall char hmark
  · obtain rfl | ⟨_, hvalue, -⟩ := literal.inBase char hdigit
    · rfl
    · exact continuesIdentifier_of_hexValue? hvalue
  · have hall : ∀ suffix ∈ "" :: unsignedTypes, suffix.toList.all continuesIdentifier := by
      decide +kernel
    exact List.all_eq_true.mp (hall _ (List.mem_cons.mpr literal.isUnsigned)) char hsuffix

theorem exists_first : ∃ first more, literal.chars = first :: more ∧ Literal.isDecimal first := by
  obtain ⟨base, digits, suffix, inBase, ⟨char, hchar, hnoGap⟩, begins, -⟩ := literal
  cases base with
  | binary | octal | hexadecimal => exact ⟨'0', _, rfl, rfl⟩
  | decimal =>
      obtain ⟨first, more, rfl⟩ := List.exists_cons_of_ne_nil (List.ne_nil_of_mem hchar)
      refine ⟨first, _, rfl, ?_⟩
      obtain rfl | ⟨digit, hdigit, hsmall⟩ := inBase first List.mem_cons_self
      · exact absurd rfl (begins rfl)
      · exact isDecimal_of_hexValue? hdigit hsmall

/-! ## Scanning -/

/-- Neither a digit, a name nor a point goes on with the character. -/
structure EndsLiteral (char : Char) : Prop where
  starts : ¬ startsIdentifier char
  continues : ¬ continuesIdentifier char
  point : char ≠ '.'

theorem EndsLiteral.ne {char other : Char} (hends : EndsLiteral char)
    (hother : continuesIdentifier other) : char ≠ other := by
  rintro rfl
  exact hends.continues hother

theorem EndsLiteral.hexValue?_eq_none {char : Char} (hends : EndsLiteral char) :
    hexValue? char = none := by
  cases hdigit : hexValue? char with
  | none => rfl
  | some digit => exact absurd (continuesIdentifier_of_hexValue? hdigit) hends.continues

theorem run_append {accept : Char → Bool} {taken rest : List Char}
    (htaken : ∀ char ∈ taken, accept char) (hrest : ∀ char ∈ rest.head?, ¬ accept char) :
    Literal.run accept (taken ++ rest) = ⟨taken, rest⟩ := by
  rw [Literal.run, List.takeWhile_append_of_pos htaken, List.dropWhile_append_of_pos htaken]
  cases rest with
  | nil => simp
  | cons char rest =>
      have hchar := hrest char rfl
      simp [hchar]

theorem scan?_of_isDecimal {first : Char} (hfirst : Literal.isDecimal first) (more : List Char) :
    Literal.scan? (first :: more) =
      (Literal.float? (first :: more) <|> Literal.integer? (first :: more)) := by
  have hother : ∀ other, ¬ Literal.isDecimal other → (other == first) = false := by
    rintro other hother
    rw [beq_eq_false_iff_ne]
    rintro rfl
    exact hother hfirst
  have hdouble := hother '"' (by decide)
  have hsingle := hother '\'' (by decide)
  have hr := hother 'r' (by decide)
  have hb := hother 'b' (by decide)
  have hc := hother 'c' (by decide)
  simp [Literal.scan?, Literal.TextKind.quoted?, Literal.TextKind.raw?, Literal.TextKind.single?,
    List.isPrefixOf, hdouble, hr, hb, hc, hsingle]

/-- The digits of a literal are read up to a character that is none. -/
theorem digits?_append {base : Nat} {rest : List Char}
    (hrest : ∀ char ∈ rest.head?, char ≠ '_' ∧ hexValue? char = none) :
    ∀ (digits : List Char) (seen : Bool),
      (∀ char ∈ digits, char = '_' ∨ ∃ digit ∈ hexValue? char, digit < base) →
      (seen ∨ ∃ char ∈ digits, char ≠ '_') → (base = 10 → seen ∨ '_' ∉ digits.head?) →
      Literal.digits? base seen (digits ++ rest) = some ⟨digits, rest⟩ := by
  intro digits
  induction digits with
  | nil =>
      intro seen _ hseen _
      obtain rfl : seen = true := by simpa using hseen
      cases rest with
      | nil => rfl
      | cons char rest =>
          obtain ⟨hgap, hdigit⟩ := hrest char rfl
          simp [Literal.digits?, hgap, hdigit]
  | cons char digits ih =>
      intro seen hbase hseen hbegins
      have hmore := fun char hchar => hbase char (List.mem_cons_of_mem _ hchar)
      rw [List.cons_append, Literal.digits?]
      obtain rfl | ⟨digit, hdigit, hsmall⟩ := hbase char List.mem_cons_self
      · have hopen : ¬ (!seen && decide (base = 10)) := by
          intro hblocked
          obtain ⟨hunseen, hten⟩ := Bool.and_eq_true_iff.mp hblocked
          simp_all
        rw [if_pos (beq_self_eq_true _), if_neg hopen,
          ih seen hmore (by simpa using hseen) (by simp_all)]
        rfl
      · have hgap : char ≠ '_' := by
          rintro rfl
          contradiction
        rw [if_neg (by simpa using hgap), Option.mem_def.mp hdigit]
        simp only [if_pos hsmall]
        rw [ih true hmore (Or.inl rfl) fun _ => Or.inl rfl]
        rfl

/-- A letter that is part of no decimal number. -/
structure IsLetter (letter : Char) : Prop where
  noDigit : ¬ Literal.isDecimalOrGap letter
  continues : continuesIdentifier letter
  noSuffix : letter ≠ 'u'

/-- The base is told by what stands in front of the digits. -/
theorem integer?_mark {base : IntegerBase} {text : List Char}
    (hplain : base = .decimal → ∀ letter, IsLetter letter → ¬ ['0', letter] <+: text) :
    Literal.integer? (base.mark ++ text) = (Literal.digits? base.radix false text).bind
      fun split => (split.after base.mark).withSuffix.ifWordEnds := by
  cases base with
  | binary => exact Option.bind_map ..
  | octal => exact Option.bind_map ..
  | hexadecimal => exact Option.bind_map ..
  | decimal =>
      unfold Literal.integer?
      split
      · next hmarked =>
          exact absurd ⟨_, hmarked.symm⟩ (hplain rfl 'x' ⟨by decide, by decide, by decide⟩)
      · next hmarked =>
          exact absurd ⟨_, hmarked.symm⟩ (hplain rfl 'o' ⟨by decide, by decide, by decide⟩)
      · next hmarked =>
          exact absurd ⟨_, hmarked.symm⟩ (hplain rfl 'b' ⟨by decide, by decide, by decide⟩)
      · rfl

variable (hrest : ∀ char ∈ rest.head?, EndsLiteral char)

include hrest

/-- What follows the digits of a literal. -/
theorem head?_suffix_append :
    ∀ char ∈ (literal.suffix.toList ++ rest).head?, char = 'u' ∨ EndsLiteral char := by
  intro char hchar
  obtain hempty | hsuffix := literal.isUnsigned
  · rw [hempty] at hchar
    exact Or.inr (hrest char hchar)
  · have hall : ∀ suffix ∈ unsignedTypes, suffix.toList.head? = some 'u' := by
      decide +kernel
    rw [List.head?_append, hall _ hsuffix] at hchar
    exact Or.inl (Option.some.inj hchar).symm

theorem suffix_append :
    Literal.suffix (literal.suffix.toList ++ rest) = ⟨literal.suffix.toList, rest⟩ := by
  obtain hempty | hsuffix := literal.isUnsigned
  · rw [hempty]
    cases rest with
    | nil => rfl
    | cons char rest => simp [Literal.suffix, Literal.identifier?, (hrest char rfl).starts]
  · have hall : ∀ suffix ∈ unsignedTypes, suffix.toList.head? = some 'u' ∧
        suffix.toList.tail.all continuesIdentifier := by
      decide +kernel
    obtain ⟨hhead, htail⟩ := hall _ hsuffix
    obtain ⟨more, hmore⟩ := List.head?_eq_some_iff.mp hhead
    rw [hmore, List.tail_cons] at htail
    rw [hmore, List.cons_append, Literal.suffix, Literal.identifier?, if_pos (by decide),
      run_append (List.all_eq_true.mp htail) fun char hchar => (hrest char hchar).continues]
    rfl

theorem withSuffix_append (taken : List Char) :
    Literal.Split.withSuffix ⟨taken, literal.suffix.toList ++ rest⟩ =
      ⟨taken ++ literal.suffix.toList, rest⟩ := by
  rw [Literal.Split.withSuffix, literal.suffix_append hrest]
  rfl

/-- What follows decimal digits is no part of a number. -/
theorem run_digits_append (hdecimal : literal.base = .decimal) :
    Literal.run Literal.isDecimalOrGap (literal.digits ++ (literal.suffix.toList ++ rest)) =
      ⟨literal.digits, literal.suffix.toList ++ rest⟩ := by
  apply run_append
  · intro char hchar
    rw [Literal.isDecimalOrGap, Bool.or_eq_true, beq_iff_eq]
    obtain rfl | ⟨digit, hdigit, hsmall⟩ := literal.inBase char hchar
    · exact Or.inr rfl
    · rw [hdecimal] at hsmall
      exact Or.inl (isDecimal_of_hexValue? hdigit hsmall)
  · intro char hchar hgoes
    obtain rfl | hends := literal.head?_suffix_append hrest char hchar
    · contradiction
    · exact hends.continues (continuesIdentifier_of_isDecimalOrGap hgoes)

theorem not_prefix_of_decimal (hdecimal : literal.base = .decimal) {letter : Char}
    (hletter : IsLetter letter) :
    ¬ ['0', letter] <+: literal.digits ++ (literal.suffix.toList ++ rest) := by
  rintro ⟨more, hmore⟩
  have hzero : ∀ char ∈ ['0'], Literal.isDecimalOrGap char := List.forall_mem_singleton.mpr rfl
  have hrun := literal.run_digits_append hrest hdecimal
  rw [← hmore, List.cons_append, ← List.singleton_append, run_append hzero] at hrun
  · obtain ⟨-, hbehind⟩ := (Literal.Split.mk.injEq ..).mp hrun
    obtain rfl | hends := literal.head?_suffix_append hrest letter (hbehind ▸ rfl)
    · exact hletter.noSuffix rfl
    · exact hends.ne hletter.continues rfl
  · intro char hchar
    obtain rfl := Option.some.inj hchar
    exact hletter.noDigit

theorem integer?_chars :
    Literal.integer? (literal.chars ++ rest) = some ⟨literal.chars, rest⟩ := by
  have hdigits : Literal.digits? literal.base.radix false
      (literal.digits ++ (literal.suffix.toList ++ rest)) =
        some ⟨literal.digits, literal.suffix.toList ++ rest⟩ := by
    apply digits?_append _ _ _ literal.inBase (Or.inr literal.hasDigit)
    · intro hten
      refine Or.inr (literal.begins ?_)
      revert hten
      cases literal.base <;> decide
    · intro char hchar
      obtain rfl | hends := literal.head?_suffix_append hrest char hchar
      · decide
      · exact ⟨hends.ne (by decide), hends.hexValue?_eq_none⟩
  have hends : ¬ rest.head?.any continuesIdentifier := by
    cases rest with
    | nil => decide
    | cons char rest => exact (hrest char rfl).continues
  rw [chars, List.append_assoc, List.append_assoc,
    integer?_mark (fun hdecimal _ => literal.not_prefix_of_decimal hrest hdecimal), hdigits,
    Option.bind_some, Literal.Split.after, literal.withSuffix_append hrest,
    Literal.Split.ifWordEnds, if_neg hends]

theorem float?_chars : Literal.float? (literal.chars ++ rest) = none := by
  have hdigits : Literal.floatDigits? (literal.chars ++ rest) = none := by
    rw [chars, List.append_assoc, List.append_assoc]
    cases hbase : literal.base with
    | binary => rfl
    | octal => rfl
    | hexadecimal => rfl
    | decimal =>
        rw [IntegerBase.mark, List.nil_append, Literal.floatDigits?,
          literal.run_digits_append hrest hbase]
        split
        · cases hbehind : literal.suffix.toList ++ rest with
          | nil => rfl
          | cons char more =>
              have hchar : char ≠ '.' ∧ char ≠ 'e' ∧ char ≠ 'E' := by
                obtain rfl | hends := literal.head?_suffix_append hrest char (hbehind ▸ rfl)
                · decide
                · exact ⟨hends.point, hends.ne (by decide), hends.ne (by decide)⟩
              simp [hchar]
        · rfl
  rw [Literal.float?, hdigits]
  rfl

theorem scan?_chars :
    Literal.scan? (literal.chars ++ rest) = some ⟨literal.chars, rest⟩ := by
  obtain ⟨first, more, hfirst, hdecimal⟩ := literal.exists_first
  rw [hfirst, List.cons_append, scan?_of_isDecimal hdecimal, ← List.cons_append, ← hfirst,
    literal.float?_chars hrest, literal.integer?_chars hrest]
  rfl

omit hrest

/-- The literal is one token of a text, up to where it ends. -/
def IsToken : Prop :=
  ∀ (line : Nat) (rest : List Char), (∀ char ∈ rest.head?, EndsLiteral char) →
    Lexer.leaf? line (literal.chars ++ rest) =
      some (.literal literal.spelling, ⟨literal.chars, rest⟩)

theorem isToken : literal.IsToken := by
  intro line rest hrest
  rw [Lexer.leaf?, literal.scan?_chars hrest]
  rfl

end IntegerLiteral

end ShaderCalls.Source
