import Mathlib.Data.List.Infix
import ShaderCalls.Text.Separator

/-!
# Separators

A text that is split at a separator is put together again by it.  The parts around the last
separator are those of which the second one holds no separator, and where the separator is two
colons, no third one stands in front of it.
-/

namespace ShaderCalls.Text

/-! ## Characters -/

theorem splitAll_ne_nil (separator : Char) (text : List Char) : splitAll separator text ≠ [] := by
  fun_cases splitAll separator text <;> simp

/-- The parts on both sides of a separator. -/
theorem splitAll_append (separator : Char) (before after : List Char) :
    splitAll separator (before ++ separator :: after) =
      splitAll separator before ++ splitAll separator after := by
  induction before with
  | nil => simp [splitAll]
  | cons char rest ih =>
      rw [List.cons_append, splitAll, splitAll, ih]
      split
      · rfl
      · obtain ⟨first, more, hfirst⟩ := List.exists_cons_of_ne_nil (splitAll_ne_nil separator rest)
        rw [hfirst]
        rfl

theorem splitAll_of_notMem {separator : Char} {text : List Char} (hplain : separator ∉ text) :
    splitAll separator text = [text] := by
  induction text with
  | nil => rfl
  | cons char rest ih =>
      obtain ⟨hchar, hrest⟩ := not_or.mp (mt List.mem_cons.mpr hplain)
      rw [splitAll, if_neg (Ne.symm hchar), ih hrest]

theorem splitLast_of_notMem {separator : Char} {text : List Char} (hplain : separator ∉ text) :
    splitLast separator text = none := by
  induction text with
  | nil => rfl
  | cons char rest ih =>
      obtain ⟨hchar, hrest⟩ := not_or.mp (mt List.mem_cons.mpr hplain)
      simp [splitLast, ih hrest, Ne.symm hchar]

/-- The last separator is the one behind which there is no other. -/
theorem splitLast_append {separator : Char} (before : List Char) {after : List Char}
    (hafter : separator ∉ after) :
    splitLast separator (before ++ separator :: after) = some (before, after) := by
  induction before with
  | nil => simp [splitLast, splitLast_of_notMem hafter]
  | cons char rest ih => simp [splitLast, ih]

/-! ## Two colons -/

theorem append_of_splitLastColons {text before after : List Char}
    (hsplit : splitLastColons text = some (before, after)) :
    before ++ ':' :: ':' :: after = text := by
  fun_induction splitLastColons text generalizing before after with
  | case1 => contradiction
  | case2 char rest front back hrest ih =>
      cases hsplit
      rw [List.cons_append, ih hrest]
  | case3 =>
      cases hsplit
      rfl
  | case4 => contradiction

theorem colons_infix_of_splitLastColons {text before after : List Char}
    (hsplit : splitLastColons text = some (before, after)) : [':', ':'] <:+: text :=
  ⟨before, after, by rw [← append_of_splitLastColons hsplit]; simp⟩

/-- A text is split where it holds two colons in a row. -/
theorem splitLastColons_eq_none_iff {text : List Char} :
    splitLastColons text = none ↔ ¬ [':', ':'] <:+: text := by
  constructor
  · intro hnone hinfix
    fun_induction splitLastColons text with
    | case1 => simp at hinfix
    | case2 => contradiction
    | case3 => contradiction
    | case4 char rest hrest hcolons ih =>
        rcases List.infix_cons_iff.mp hinfix with ⟨after, hfront⟩ | hinner
        · obtain ⟨rfl, rfl⟩ := List.cons.inj hfront
          exact hcolons after rfl rfl
        · exact ih hrest hinner
  · intro hplain
    cases hsplit : splitLastColons text with
    | none => rfl
    | some parts => exact absurd (colons_infix_of_splitLastColons hsplit) hplain

/-- The last two colons are those behind which there are no two colons, even with the second of them
in front. -/
theorem splitLastColons_eq_some_iff {text before after : List Char} :
    splitLastColons text = some (before, after) ↔
      before ++ ':' :: ':' :: after = text ∧ ¬ [':', ':'] <:+: ':' :: after := by
  constructor
  · intro hsplit
    refine ⟨append_of_splitLastColons hsplit, ?_⟩
    fun_induction splitLastColons text generalizing before after with
    | case1 => contradiction
    | case2 char rest front back hrest ih =>
        cases hsplit
        exact ih hrest
    | case3 back hrest =>
        cases hsplit
        exact splitLastColons_eq_none_iff.mp hrest
    | case4 => contradiction
  · rintro ⟨rfl, hafter⟩
    induction before with
    | nil => rw [List.nil_append, splitLastColons, splitLastColons_eq_none_iff.mpr hafter]
    | cons char rest ih => simp only [List.cons_append, splitLastColons, ih]

/-- The last colons are those behind which there is no colon. -/
theorem splitLastColons_append (before : List Char) {after : List Char} (hafter : ':' ∉ after) :
    splitLastColons (before ++ ':' :: ':' :: after) = some (before, after) := by
  refine splitLastColons_eq_some_iff.mpr ⟨rfl, fun hinfix => ?_⟩
  have hcolons := hinfix.sublist.count_le ':'
  simp [List.count_eq_zero_of_not_mem hafter] at hcolons

end ShaderCalls.Text
