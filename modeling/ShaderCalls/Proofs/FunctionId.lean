import Mathlib.Data.Set.Operations
import ShaderCalls.FunctionId
import ShaderCalls.Proofs.Text.Blanks
import ShaderCalls.Proofs.Text.Separators

/-!
# Texts of identities

The text of an identity is its owner and its name with two colons between them.  A text is split at
the last two colons, so what it is read as has the trimmed text, and no other two colons come later:
neither in the name nor with the first colon of a name that begins with one.  An identity is read
back from its own text if its name is of that kind and there are no blanks to trim.
-/

namespace ShaderCalls.FunctionId

open Text (isBlank trim)

variable {id left right : FunctionId} {text : String}

theorem toList_text (id : FunctionId) :
    id.text.toList = id.owner.toList ++ ':' :: ':' :: id.name.toList := by
  simp [FunctionId.text]

/-- The name is what stands behind the last colon. -/
theorem takeWhile_reverse_text {id : FunctionId} (hname : ':' ∉ id.name.toList) :
    id.text.toList.reverse.takeWhile (· ≠ ':') = id.name.toList.reverse := by
  have hplain : ∀ char ∈ id.name.toList.reverse, decide (char ≠ ':') := by
    intro char hchar
    apply decide_eq_true
    rintro rfl
    exact hname (List.mem_reverse.mp hchar)
  rw [toList_text, List.reverse_append, List.reverse_cons, List.reverse_cons, List.append_assoc,
    List.append_assoc, List.takeWhile_append_of_pos hplain]
  simp

/-- Identities whose names hold no colon differ in their texts. -/
theorem eq_of_text_eq (hleft : ':' ∉ left.name.toList) (hright : ':' ∉ right.name.toList)
    (htext : left.text = right.text) : left = right := by
  have hname : left.name = right.name := by
    have hreversed : left.name.toList.reverse = right.name.toList.reverse := by
      rw [← takeWhile_reverse_text hleft, htext, takeWhile_reverse_text hright]
    exact String.toList_inj.mp (List.reverse_injective hreversed)
  have howner : left.owner = right.owner := by
    have hchars := congrArg String.toList htext
    rw [toList_text, toList_text, hname] at hchars
    exact String.toList_inj.mp (List.append_cancel_right hchars)
  cases left
  cases right
  cases hname
  cases howner
  rfl

/-! ## Reading -/

/-- An owner and a name with the last two colons of a text between them. -/
structure IsSplit (id : FunctionId) : Prop where
  owner_ne : id.owner ≠ ""
  name_ne : id.name ≠ ""
  no_colons : ¬ [':', ':'] <:+: id.name.toList
  no_third : id.name.toList.head? ≠ some ':'

theorem colons_infix_cons_iff {text : List Char} :
    [':', ':'] <:+: ':' :: text ↔ [':', ':'] <:+: text ∨ text.head? = some ':' := by
  have hfront : [':', ':'] <+: ':' :: text ↔ text.head? = some ':' := by
    cases text <;> simp [eq_comm]
  rw [List.infix_cons_iff, hfront, or_comm]

theorem parse?_eq_some_iff :
    parse? text = some id ↔
      Text.splitLastColons (trim text).toList = some (id.owner.toList, id.name.toList) ∧
        id.owner ≠ "" ∧ id.name ≠ "" := by
  rw [parse?]
  constructor
  · intro hparse
    obtain ⟨⟨owner, name⟩, hsplit, hparse⟩ := Option.bind_eq_some_iff.mp hparse
    obtain ⟨hnonempty, ⟨⟩⟩ := Option.ite_none_left_eq_some.mp hparse
    rw [hsplit]
    simpa using hnonempty
  · rintro ⟨hsplit, howner, hname⟩
    rw [hsplit]
    simp [howner, hname]

/-- A text is read as the identity that has the trimmed text and is split by its last colons. -/
theorem parse?_iff_isSplit : parse? text = some id ↔ trim text = id.text ∧ id.IsSplit := by
  rw [parse?_eq_some_iff, Text.splitLastColons_eq_some_iff, ← toList_text, String.toList_inj,
    colons_infix_cons_iff, not_or]
  constructor
  · rintro ⟨⟨htext, hcolons, hthird⟩, howner, hname⟩
    exact ⟨htext.symm, howner, hname, hcolons, hthird⟩
  · rintro ⟨htext, howner, hname, hcolons, hthird⟩
    exact ⟨⟨htext.symm, hcolons, hthird⟩, howner, hname⟩

/-! ## Reading back -/

/-- An identity that its last colons split and that neither begins nor ends with a blank. -/
structure ReadsBack (id : FunctionId) : Prop extends IsSplit id where
  front : ∀ char ∈ id.owner.toList.head?, ¬ isBlank char
  back : ∀ char ∈ id.name.toList.getLast?, ¬ isBlank char

/-- The blanks around the text of an identity are those in front of its owner and behind its
name. -/
theorem trims_text_iff (hid : id.IsSplit) :
    trim id.text = id.text ↔
      (∀ char ∈ id.owner.toList.head?, ¬ isBlank char) ∧
        ∀ char ∈ id.name.toList.getLast?, ¬ isBlank char := by
  have hhead : id.text.toList.head? = id.owner.toList.head? := by
    rw [toList_text, List.head?_append_of_ne_nil _ (mt String.toList_eq_nil_iff.mp hid.owner_ne)]
  have hlast : id.text.toList.getLast? = id.name.toList.getLast? := by
    rw [FunctionId.text, String.toList_append,
      List.getLast?_append_of_ne_nil _ (mt String.toList_eq_nil_iff.mp hid.name_ne)]
  rw [← hhead, ← hlast]
  constructor
  · intro hsame
    obtain ⟨_, hfront, hback⟩ := Text.trim_eq_iff.mp hsame
    exact ⟨hfront, hback⟩
  · rintro ⟨hfront, hback⟩
    exact Text.trim_eq_self hfront hback

theorem parse?_text_iff_readsBack : parse? id.text = some id ↔ id.ReadsBack := by
  rw [parse?_iff_isSplit]
  constructor
  · rintro ⟨htrim, hsplit⟩
    obtain ⟨hfront, hback⟩ := (trims_text_iff hsplit).mp htrim
    exact ⟨hsplit, hfront, hback⟩
  · rintro ⟨hsplit, hfront, hback⟩
    exact ⟨(trims_text_iff hsplit).mpr ⟨hfront, hback⟩, hsplit⟩

/-- What a text is read as, which identities are read back from their texts, and which identities
differ in their texts. -/
theorem parse?_text_roundTrip :
    (∀ text id, parse? text = some id ↔
      trim text = id.owner ++ "::" ++ id.name ∧ id.IsSplit) ∧
    (∀ text, ∀ id ∈ parse? text, id.text = trim text) ∧
    (∀ id, parse? id.text = some id ↔ id.ReadsBack) ∧
    Set.InjOn FunctionId.text {id | ':' ∉ id.name.toList} := by
  refine ⟨fun text id => parse?_iff_isSplit, ?_, fun id => parse?_text_iff_readsBack, ?_⟩
  · intro text id hparse
    obtain ⟨htrim, _⟩ := parse?_iff_isSplit.mp hparse
    exact htrim.symm
  · intro left hleft right hright htext
    exact eq_of_text_eq hleft hright htext

/-- Three colons in a row are split in front of the last two. -/
theorem threeColons_roundTrip :
    parse? " a:::b " = some ⟨"a:", "b"⟩ ∧ (⟨"a:", "b"⟩ : FunctionId).text = trim " a:::b " ∧
      parse? (⟨"a:", "b"⟩ : FunctionId).text = some ⟨"a:", "b"⟩ ∧
      ':' ∉ "b".toList ∧ (⟨"a:", "b"⟩ : FunctionId).text ≠ (⟨"a", "b"⟩ : FunctionId).text := by
  obtain ⟨hparse, htext, hback, hinj⟩ := parse?_text_roundTrip
  have hsplit : (⟨"a:", "b"⟩ : FunctionId).IsSplit :=
    ⟨by decide, by decide, by decide, by decide⟩
  have hread : parse? " a:::b " = some ⟨"a:", "b"⟩ :=
    (hparse _ _).mpr ⟨by decide +kernel, hsplit⟩
  have hname : ':' ∉ "b".toList := by decide
  have hfront : ∀ char ∈ "a:".toList.head?, ¬ isBlank char := by
    rintro _ ⟨⟩
    decide
  have hend : ∀ char ∈ "b".toList.getLast?, ¬ isBlank char := by
    rintro _ ⟨⟩
    decide
  refine ⟨hread, htext _ _ hread, (hback _).mpr ⟨hsplit, hfront, hend⟩, hname, ?_⟩
  intro hsame
  exact absurd (hinj hname hname hsame) (by decide)

end ShaderCalls.FunctionId
