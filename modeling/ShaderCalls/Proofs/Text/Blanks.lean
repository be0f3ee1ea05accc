import ShaderCalls.Text.Character

/-!
# Blanks

A text is trimmed by taking off the blanks at both ends, and what remains neither begins nor ends
with one.  No blank is part of an identifier.
-/

namespace ShaderCalls.Text

/-! ## Blanks and identifiers -/

/-- The numbers of the blanks. -/
def blankCodes : List Nat :=
  [0x09, 0x0a, 0x0b, 0x0c, 0x0d, 0x20, 0x85, 0xa0, 0x1680, 0x2000, 0x2001, 0x2002, 0x2003, 0x2004,
    0x2005, 0x2006, 0x2007, 0x2008, 0x2009, 0x200a, 0x2028, 0x2029, 0x202f, 0x205f, 0x3000]

theorem toNat_mem_blankCodes {char : Char} (hblank : isBlank char) : char.toNat ∈ blankCodes := by
  simp only [isBlank, Bool.or_eq_true, Bool.and_eq_true, decide_eq_true_eq, beq_iff_eq] at hblank
  simp only [blankCodes, List.mem_cons, List.not_mem_nil, or_false]
  omega

/-- No blank is part of an identifier. -/
theorem not_identifier_of_isBlank {char : Char} (hblank : isBlank char) :
    ¬ startsIdentifier char ∧ ¬ continuesIdentifier char ∧ char ∉ ['r', '#'] := by
  have hall : ∀ code ∈ blankCodes, ¬ startsIdentifier (Char.ofNat code) ∧
      ¬ continuesIdentifier (Char.ofNat code) ∧ Char.ofNat code ∉ ['r', '#'] := by
    decide +kernel
  rw [← Char.ofNat_toNat char]
  exact hall _ (toNat_mem_blankCodes hblank)

/-! ## Trimmed texts -/

theorem dropWhile_isBlank_eq_self {text : List Char}
    (hfront : ∀ char ∈ text.head?, ¬ isBlank char) : text.dropWhile isBlank = text := by
  cases text with
  | nil => rfl
  | cons first more =>
      rw [List.dropWhile_cons_of_neg]
      exact hfront first rfl

/-- Some text is another one without the blanks around it. -/
structure Trims (text core : List Char) : Prop where
  around : ∃ before after, text = before ++ (core ++ after) ∧ (∀ char ∈ before, isBlank char) ∧
    ∀ char ∈ after, isBlank char
  front : ∀ char ∈ core.head?, ¬ isBlank char
  back : ∀ char ∈ core.getLast?, ¬ isBlank char

theorem Trims.refl {text : List Char} (hfront : ∀ char ∈ text.head?, ¬ isBlank char)
    (hback : ∀ char ∈ text.getLast?, ¬ isBlank char) : Trims text text :=
  ⟨⟨[], [], by simp, List.forall_mem_nil _, List.forall_mem_nil _⟩, hfront, hback⟩

/-- What is left of a text does not depend on how the blanks are taken off. -/
theorem Trims.trim_eq {text core : String} (htrims : Trims text.toList core.toList) :
    trim text = core := by
  obtain ⟨⟨before, after, htext, hbefore, hafter⟩, hfront, hback⟩ := htrims
  have hreversed : core.toList.reverse.dropWhile isBlank = core.toList.reverse :=
    dropWhile_isBlank_eq_self (by rwa [List.head?_reverse])
  rw [← String.toList_inj, trim, String.toList_ofList, htext,
    List.dropWhile_append_of_pos hbefore]
  cases hcore : core.toList with
  | nil =>
      rw [List.nil_append, ← List.append_nil after, List.dropWhile_append_of_pos hafter]
      rfl
  | cons first more =>
      rw [hcore] at hfront hreversed
      have hfirst : (first :: more ++ after).dropWhile isBlank = first :: more ++ after :=
        dropWhile_isBlank_eq_self hfront
      rw [hfirst, List.reverse_append, List.dropWhile_append_of_pos (by simpa using hafter),
        hreversed, List.reverse_reverse]

theorem Trims.unique {text core other : List Char} (hcore : Trims text core)
    (hother : Trims text other) : core = other := by
  have htrim : ∀ core, Trims text core → trim (String.ofList text) = String.ofList core :=
    fun core htrims => Trims.trim_eq (by simpa using htrims)
  exact String.ofList_injective ((htrim core hcore).symm.trans (htrim other hother))

theorem not_isBlank_of_head?_dropWhile (text : List Char) :
    ∀ char ∈ (text.dropWhile isBlank).head?, ¬ isBlank char := by
  intro char hchar
  have hfirst := List.head?_dropWhile_not isBlank text
  rw [Option.mem_def.mp hchar] at hfirst
  simpa using hfirst

theorem trims_trim (text : String) : Trims text.toList (trim text).toList := by
  have hcore : (trim text).toList.reverse =
      (text.toList.dropWhile isBlank).reverse.dropWhile isBlank := by
    rw [trim, String.toList_ofList, List.reverse_reverse]
  have hdropped : text.toList.dropWhile isBlank = (trim text).toList ++
      ((text.toList.dropWhile isBlank).reverse.takeWhile isBlank).reverse := by
    rw [← List.reverse_inj, List.reverse_append, List.reverse_reverse, hcore,
      List.takeWhile_append_dropWhile]
  constructor
  · refine ⟨text.toList.takeWhile isBlank,
      ((text.toList.dropWhile isBlank).reverse.takeWhile isBlank).reverse, ?_,
      List.all_eq_true.mp List.all_takeWhile, ?_⟩
    · rw [← hdropped, List.takeWhile_append_dropWhile]
    · intro char hchar
      exact List.all_eq_true.mp List.all_takeWhile char (List.mem_reverse.mp hchar)
  · intro char hchar
    apply not_isBlank_of_head?_dropWhile text.toList
    rw [hdropped, List.head?_append, Option.mem_def.mp hchar]
    rfl
  · rw [← List.head?_reverse, hcore]
    exact not_isBlank_of_head?_dropWhile _

theorem trim_eq_iff {text core : String} : trim text = core ↔ Trims text.toList core.toList :=
  ⟨fun hcore => hcore ▸ trims_trim text, Trims.trim_eq⟩

/-- A text that neither begins nor ends with a blank is not trimmed. -/
theorem trim_eq_self {text : String} (hfront : ∀ char ∈ text.toList.head?, ¬ isBlank char)
    (hback : ∀ char ∈ text.toList.getLast?, ¬ isBlank char) : trim text = text :=
  (Trims.refl hfront hback).trim_eq

end ShaderCalls.Text
