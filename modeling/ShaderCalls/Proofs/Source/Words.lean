import Mathlib.Data.List.TakeWhile
import ShaderCalls.Source.Lexer

/-!
# Words

The words among the tokens of a text are identifiers: nothing else becomes a word when a text is
read.  What a parser leaves of some tokens has only words of these tokens.
-/

namespace ShaderCalls.Source

/-- A character that an identifier may start with and more that it may go on with, behind the mark
of a raw identifier or not. -/
def IsIdentifier (text : String) : Prop :=
  ∃ mark first more, text.toList = mark ++ first :: more ∧ (mark = [] ∨ mark = ['r', '#']) ∧
    Text.startsIdentifier first ∧ ∀ char ∈ more, Text.continuesIdentifier char

namespace IsIdentifier

variable {text : String}

/-- What no identifier starts or goes on with is not in one, unless it is in the mark. -/
theorem notMem (htext : IsIdentifier text) {char : Char} (hstarts : ¬ Text.startsIdentifier char)
    (hcontinues : ¬ Text.continuesIdentifier char) (hmark : char ∉ ['r', '#']) :
    char ∉ text.toList := by
  obtain ⟨mark, first, more, hchars, hraw, hfirst, hmore⟩ := htext
  rw [hchars, List.mem_append, List.mem_cons]
  rintro (hchar | rfl | hchar)
  · rcases hraw with rfl | rfl
    · contradiction
    · exact hmark hchar
  · exact hstarts hfirst
  · exact hcontinues (hmore char hchar)

theorem ne_nil (htext : IsIdentifier text) : text.toList ≠ [] := by
  obtain ⟨mark, first, more, hchars, _⟩ := htext
  rw [hchars]
  exact List.append_ne_nil_of_right_ne_nil mark (List.cons_ne_nil first more)

end IsIdentifier

namespace Token

mutual

/-- The words in a token tree, in the order of the source. -/
def words : Token → List String
  | .word text _ => [text]
  | .group _ content => wordsAmong content
  | _ => []

/-- The words in a list of token trees. -/
def wordsAmong : List Token → List String
  | [] => []
  | token :: rest => token.words ++ wordsAmong rest

end

theorem wordsAmong_eq_flatMap (tokens : List Token) : wordsAmong tokens = tokens.flatMap words := by
  induction tokens with
  | nil => rfl
  | cons token rest ih => rw [wordsAmong, ih, List.flatMap_cons]

/-- Every word among some tokens satisfies a property. -/
def AllWords (good : String → Prop) (tokens : List Token) : Prop :=
  ∀ word ∈ wordsAmong tokens, good word

namespace AllWords

variable {good : String → Prop} {tokens rest : List Token} {token : Token}

theorem nil : AllWords good [] :=
  List.forall_mem_nil _

theorem cons_iff : AllWords good (token :: rest) ↔
    (∀ word ∈ token.words, good word) ∧ AllWords good rest := by
  simp only [AllWords, wordsAmong, List.forall_mem_append]

theorem group_iff {delimiter : Delimiter} {content : List Token} :
    AllWords good (.group delimiter content :: rest) ↔
      AllWords good content ∧ AllWords good rest :=
  cons_iff

theorem append_iff : AllWords good (tokens ++ rest) ↔
    AllWords good tokens ∧ AllWords good rest := by
  simp only [AllWords, wordsAmong_eq_flatMap, List.flatMap_append, List.forall_mem_append]

theorem reverse (hwords : AllWords good tokens) : AllWords good tokens.reverse := by
  intro word hword
  apply hwords word
  rw [wordsAmong_eq_flatMap, List.mem_flatMap] at hword ⊢
  obtain ⟨token, htoken, hword⟩ := hword
  exact ⟨token, List.mem_reverse.mp htoken, hword⟩

theorem suffix (hwords : AllWords good tokens) (hsuffix : rest <:+ tokens) :
    AllWords good rest := by
  obtain ⟨taken, rfl⟩ := hsuffix
  exact (append_iff.mp hwords).2

end AllWords

end Token

/-! ## Reading a text -/

namespace Literal

theorem exists_of_identifier? {text : List Char} {split : Split}
    (hread : identifier? text = some split) : ∃ first more, split.taken = first :: more ∧
      Text.startsIdentifier first ∧ ∀ char ∈ more, Text.continuesIdentifier char := by
  cases text with
  | nil => contradiction
  | cons first rest =>
      obtain ⟨hstarts, ⟨⟩⟩ := Option.ite_none_right_eq_some.mp hread
      refine ⟨first, rest.takeWhile Text.continuesIdentifier, rfl, hstarts, fun char hchar => ?_⟩
      exact List.mem_takeWhile_imp hchar

end Literal

namespace Lexer

theorem isIdentifier_of_identifier? {text : List Char} {split : Literal.Split}
    (hread : identifier? text = some split) : IsIdentifier (String.ofList split.taken) := by
  unfold identifier? at hread
  split at hread
  · obtain ⟨name, hname, hraw⟩ := Option.bind_eq_some_iff.mp hread
    obtain ⟨_, ⟨⟩⟩ := Option.ite_none_left_eq_some.mp hraw
    obtain ⟨first, more, htaken, hfirst, hmore⟩ := Literal.exists_of_identifier? hname
    refine ⟨['r', '#'], first, more, ?_, Or.inr rfl, hfirst, hmore⟩
    rw [String.toList_ofList, Literal.Split.after, htaken]
  · obtain ⟨first, more, htaken, hfirst, hmore⟩ := Literal.exists_of_identifier? hread
    exact ⟨[], first, more, by rw [String.toList_ofList, htaken]; rfl, Or.inl rfl, hfirst, hmore⟩

theorem isIdentifier_doc : IsIdentifier "doc" :=
  ⟨[], 'd', ['o', 'c'], rfl, Or.inl rfl, by decide, List.all_eq_true.mp (by decide)⟩

theorem allWords_documentation (inner : Bool) (comment : List Char) (line : Nat) :
    Token.AllWords IsIdentifier (documentation inner comment line) := by
  intro word hword
  have hdoc : word = "doc" := by
    cases inner <;> simpa [documentation, Token.wordsAmong, Token.words] using hword
  rw [hdoc]
  exact isIdentifier_doc

theorem words_mark? {text rest : List Char} {token : Token}
    (hmark : mark? text = some (token, rest)) : token.words = [] := by
  unfold mark? at hmark
  split at hmark
  · obtain ⟨name, _, hname⟩ := Option.bind_eq_some_iff.mp hmark
    split at hname
    · contradiction
    · obtain ⟨_, ⟨⟩⟩ := Option.ite_none_right_eq_some.mp hname
      rfl
    · cases hname
      rfl
  · obtain ⟨_, ⟨⟩⟩ := Option.ite_none_right_eq_some.mp hmark
    rfl
  · contradiction

theorem words_leaf? {line : Nat} {text : List Char} {token : Token} {split : Literal.Split}
    (hleaf : leaf? line text = some (token, split)) : ∀ word ∈ token.words, IsIdentifier word := by
  unfold leaf? at hleaf
  split at hleaf
  · cases hleaf
    exact List.forall_mem_nil _
  · split at hleaf
    · next hmark =>
        cases hleaf
        rw [words_mark? hmark]
        exact List.forall_mem_nil _
    · obtain ⟨_, hword⟩ := Option.ite_none_left_eq_some.mp hleaf
      obtain ⟨split, hread, ⟨⟩⟩ := Option.map_eq_some_iff.mp hword
      exact List.forall_mem_singleton.mpr (isIdentifier_of_identifier? hread)

theorem allWords_documentationItem {inner : Bool} {atLine lines : Nat} {split : Literal.Split}
    {tokens : List Token} {rest : List Char}
    (hitem : documentationItem inner atLine split = .tokens tokens lines rest) :
    Token.AllWords IsIdentifier tokens := by
  unfold documentationItem at hitem
  split at hitem
  · cases hitem
    exact allWords_documentation inner split.taken atLine
  · contradiction

theorem exists_of_blockItem {split : Option Literal.Split} {use : Literal.Split → Item}
    {tokens : List Token} {lines : Nat} {rest : List Char}
    (hitem : blockItem split use = .tokens tokens lines rest) :
    ∃ comment, use comment = .tokens tokens lines rest := by
  cases split with
  | none => contradiction
  | some comment => exact ⟨comment, hitem⟩

/-- What stands at the head of a text has identifiers for words. -/
theorem allWords_head {atLine lines : Nat} {text rest : List Char} {tokens : List Token}
    (hhead : head atLine text = .tokens tokens lines rest) :
    Token.AllWords IsIdentifier tokens := by
  unfold head at hhead
  split at hhead
  · contradiction
  · contradiction
  · exact allWords_documentationItem hhead
  · exact allWords_documentationItem hhead
  · contradiction
  · contradiction
  · obtain ⟨_, hitem⟩ := exists_of_blockItem hhead
    contradiction
  · obtain ⟨_, hitem⟩ := exists_of_blockItem hhead
    exact allWords_documentationItem hitem
  · obtain ⟨_, hitem⟩ := exists_of_blockItem hhead
    exact allWords_documentationItem hitem
  · obtain ⟨_, hitem⟩ := exists_of_blockItem hhead
    contradiction
  · split at hhead
    · contradiction
    · split at hhead
      · contradiction
      · contradiction
      · split at hhead
        · next hleaf =>
            cases hhead
            exact Token.AllWords.cons_iff.mpr ⟨words_leaf? hleaf, .nil⟩
        · contradiction

/-- A step of the reader adds identifiers to the words of the innermost group, or closes that group
around words it already has. -/
theorem allWords_read {fuel atLine : Nat} {opened : List (Delimiter × List Token)}
    {tokens result : List Token} {text : List Char}
    (hopened : ∀ group ∈ opened, Token.AllWords IsIdentifier group.2)
    (htokens : Token.AllWords IsIdentifier tokens)
    (hread : read fuel atLine opened tokens text = some result) :
    Token.AllWords IsIdentifier result := by
  induction fuel generalizing atLine opened tokens text with
  | zero => contradiction
  | succ fuel ih =>
      rw [read] at hread
      split at hread
      · obtain ⟨_, ⟨⟩⟩ := Option.ite_none_right_eq_some.mp hread
        exact htokens.reverse
      · exact ih hopened htokens hread
      · next more lines rest hhead =>
          have hmore := (allWords_head hhead).reverse
          exact ih hopened (Token.AllWords.append_iff.mpr ⟨hmore, htokens⟩) hread
      · next delimiter rest _ =>
          refine ih ?_ .nil hread
          exact List.forall_mem_cons.mpr ⟨htokens, hopened⟩
      · next delimiter rest _ =>
          cases opened with
          | nil => contradiction
          | cons group opened =>
              obtain ⟨hbefore, hopened⟩ := List.forall_mem_cons.mp hopened
              obtain ⟨_, hread⟩ := Option.ite_none_right_eq_some.mp hread
              exact ih hopened (Token.AllWords.group_iff.mpr ⟨htokens.reverse, hbefore⟩) hread
      · contradiction

end Lexer

theorem Token.allWords_ofText? {text : List Char} {tokens : List Token}
    (htext : ofText? text = some tokens) : AllWords IsIdentifier tokens :=
  Lexer.allWords_read (List.forall_mem_nil _) .nil htext

end ShaderCalls.Source
