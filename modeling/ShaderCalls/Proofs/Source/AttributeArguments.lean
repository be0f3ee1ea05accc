import ShaderCalls.Proofs.Text.Blanks
import ShaderCalls.Proofs.Text.Separators
import ShaderCalls.Source.File

/-!
# Literals as arguments

An attribute whose content begins with literals has their spellings as its first arguments.  This
does not depend on what follows them: if the content is no list of expressions, its text is split
at the commas, and the parts before the last of those are the spellings again.
-/

namespace ShaderCalls.Source

open ShaderCalls.Source.Parser

/-- Tokens that begin with literals, a comma behind each of them; the last literal needs none if
nothing follows. -/
inductive BeginsWithLiterals : List String → List Token → Prop
  | last (text : String) : BeginsWithLiterals [text] [.literal text]
  | followed (text : String) (joined : Bool) (rest : List Token) :
      BeginsWithLiterals [text] (.literal text :: .mark ',' joined :: rest)
  | cons (text : String) (joined : Bool) {texts : List String} {rest : List Token} :
      BeginsWithLiterals texts rest →
      BeginsWithLiterals (text :: texts) (.literal text :: .mark ',' joined :: rest)

/-- A text that is not empty, holds no comma and has no blanks around it. -/
structure IsWhole (text : String) : Prop where
  nonempty : text ≠ ""
  unseparated : ',' ∉ text.toList
  front : ∀ char ∈ text.toList.head?, ¬ Text.isBlank char
  back : ∀ char ∈ text.toList.getLast?, ¬ Text.isBlank char

namespace Grammar

/-! ## The literals as expressions -/

/-- A literal as an expression. -/
def literalOperand (text : String) : Operand :=
  plainOperand (.ofTokens [.literal text])

theorem render_literalOperand (text : String) :
    Token.render (literalOperand text).tokens = text := by
  show String.join [text] = text
  rw [String.join_cons]
  exact String.append_empty

/-- A parser of expressions that takes a literal alone where an argument ends, or refuses it. -/
def TakesLiterals (parser : Parser Operand) : Prop :=
  ∀ text rest, (∀ token ∈ rest.head?, ∃ joined, token = .mark ',' joined) →
    parser (.literal text :: rest) = none ∨
      parser (.literal text :: rest) = some (literalOperand text, rest)

theorem takesLiterals_nested (budget : Nat) : TakesLiterals (nested budget).expression := by
  intro text rest hrest
  match budget with
  -- An expression is an operand inside it, so a smaller budget ends before the literal.
  | 0 => exact Or.inl rfl
  | 1 => exact Or.inl rfl
  | budget + 2 =>
      right
      cases rest with
      | nil => rfl
      | cons token rest =>
          obtain ⟨joined, rfl⟩ := hrest token rfl
          rfl

/-! ## A list of expressions -/

/-- One round of the reading of a list with commas: `parts` are those read before, last first. -/
def commaStep (parser : Parser Operand) (parts : List (Operand × List Token)) :
    Parser (List (Operand × List Token) ⊕ List (Operand × List Token)) := do
  if ← peek List.isEmpty then pure (.inr parts.reverse)
  else
    let part ← parser
    if ← peek List.isEmpty then pure (.inr ((part, []) :: parts).reverse)
    else pure (.inl ((part, ← operator ",") :: parts))

variable {parser : Parser Operand}

theorem commaList_eq (parser : Parser Operand) (tokens : List Token) :
    commaList parser tokens = iterate (commaStep parser) (tokens.length + 2) [] tokens :=
  rfl

theorem commaStep_cons (parts : List (Operand × List Token)) (token : Token)
    (tokens : List Token) :
    commaStep parser parts (token :: tokens) = (parser (token :: tokens)).bind
      fun (part, rest) =>
        if rest.isEmpty then some (.inr ((part, []) :: parts).reverse, rest)
        else (operator "," rest).map fun (comma, rest) =>
          (.inl ((part, comma) :: parts), rest) := by
  unfold commaStep
  show ((parser (token :: tokens)).bind _) = _
  congr 1
  funext ⟨part, rest⟩
  cases rest with
  | nil => rfl
  | cons next rest => exact (Option.map_eq_bind ..).symm

theorem iterate_succ {α β : Type} (step : α → Parser (α ⊕ β)) (fuel : Nat) (state : α)
    (tokens : List Token) :
    iterate step (fuel + 1) state tokens = (step state tokens).bind fun
      | (.inl state, rest) => iterate step fuel state rest
      | (.inr result, rest) => some (result, rest) := by
  show (step state tokens).bind _ = _
  congr 1
  funext ⟨next, rest⟩
  cases next <;> rfl

/-- What is read before a round stays in front. -/
theorem prefix_of_iterate : ∀ (fuel : Nat) (parts : List (Operand × List Token))
    (tokens : List Token) (read : List (Operand × List Token)) (rest : List Token),
    iterate (commaStep parser) fuel parts tokens = some (read, rest) → parts.reverse <+: read := by
  intro fuel
  induction fuel with
  | zero =>
      intro parts tokens read rest hrun
      contradiction
  | succ fuel ih =>
      intro parts tokens read rest hrun
      rw [iterate_succ] at hrun
      cases tokens with
      | nil =>
          cases hrun
          exact List.prefix_rfl
      | cons token tokens =>
          rw [commaStep_cons, Option.bind_assoc] at hrun
          obtain ⟨⟨part, behind⟩, -, hrun⟩ := Option.bind_eq_some_iff.mp hrun
          have hfront : ∀ separator, parts.reverse <+: ((part, separator) :: parts).reverse :=
            fun separator => List.reverse_cons ▸ List.prefix_append ..
          dsimp only at hrun
          split at hrun
          · cases hrun
            exact hfront []
          · rw [Option.bind_map] at hrun
            obtain ⟨⟨comma, behind⟩, -, hrun⟩ := Option.bind_eq_some_iff.mp hrun
            exact (hfront comma).trans (ih _ _ _ _ hrun)

/-- A literal and the comma behind it take a round. -/
theorem iterate_of_literal (hparser : TakesLiterals parser) {text : String} {joined : Bool}
    {behind : List Token} {fuel : Nat} {parts read : List (Operand × List Token)}
    {rest : List Token}
    (hrun : iterate (commaStep parser) fuel parts (.literal text :: .mark ',' joined :: behind) =
      some (read, rest)) :
    ∃ fuel, iterate (commaStep parser) fuel ((literalOperand text, [.mark ',' false]) :: parts)
      behind = some (read, rest) := by
  cases fuel with
  | zero => contradiction
  | succ fuel =>
      rw [iterate_succ, commaStep_cons] at hrun
      obtain hnone | hsome := hparser text (.mark ',' joined :: behind) (by simp)
      · rw [hnone] at hrun
        contradiction
      · rw [hsome] at hrun
        exact ⟨fuel, hrun⟩

/-- Literals at the front are the first that are read. -/
theorem literals_of_iterate (hparser : TakesLiterals parser) {texts : List String}
    {tokens : List Token} (hbegins : BeginsWithLiterals texts tokens)
    {read : List (Operand × List Token)} {rest : List Token} :
    ∀ (fuel : Nat) (parts : List (Operand × List Token)),
      iterate (commaStep parser) fuel parts tokens = some (read, rest) →
        ∃ literals, literals.map (fun part => Token.render part.1.tokens) = texts ∧
          parts.reverse ++ literals <+: read := by
  induction hbegins with
  | last text =>
      intro fuel parts hrun
      cases fuel with
      | zero => contradiction
      | succ fuel =>
          rw [iterate_succ, commaStep_cons] at hrun
          obtain hnone | hsome := hparser text [] (by simp)
          · rw [hnone] at hrun
            contradiction
          · rw [hsome] at hrun
            cases hrun
            refine ⟨[(literalOperand text, [])], ?_, ?_⟩
            · rw [List.map_singleton, render_literalOperand]
            · rw [List.reverse_cons]
  | followed text joined behind =>
      intro fuel parts hrun
      obtain ⟨fuel, hrun⟩ := iterate_of_literal hparser hrun
      refine ⟨[(literalOperand text, [.mark ',' false])], ?_, ?_⟩
      · rw [List.map_singleton, render_literalOperand]
      · rw [← List.reverse_cons]
        exact prefix_of_iterate _ _ _ _ _ hrun
  | cons text joined hrest ih =>
      intro fuel parts hrun
      obtain ⟨fuel, hrun⟩ := iterate_of_literal hparser hrun
      obtain ⟨literals, hliterals, hfront⟩ := ih fuel _ hrun
      refine ⟨(literalOperand text, [.mark ',' false]) :: literals, ?_, ?_⟩
      · rw [List.map_cons, render_literalOperand, hliterals]
      · rwa [List.reverse_cons, List.append_assoc] at hfront

/-! ## Text between commas -/

/-- The parts between the commas of a text, without blanks around them and without empty parts. -/
def betweenCommas (text : List Char) : List String :=
  ((Text.splitAll ',' text).map fun part => Text.trim (String.ofList part)).filter (· != "")

theorem betweenCommas_append (before after : List Char) :
    betweenCommas (before ++ ',' :: after) = betweenCommas before ++ betweenCommas after := by
  rw [betweenCommas, Text.splitAll_append, List.map_append, List.filter_append]
  rfl

/-- A whole text with blanks around it is one part. -/
theorem betweenCommas_around {text : String} (hwhole : IsWhole text) {before after : List Char}
    (hbefore : ∀ char ∈ before, Text.isBlank char) (hafter : ∀ char ∈ after, Text.isBlank char) :
    betweenCommas (before ++ (text.toList ++ after)) = [text] := by
  have hblank : ¬ Text.isBlank ',' := by decide
  have hcomma : ',' ∉ before ++ (text.toList ++ after) := by
    simp only [List.mem_append, not_or]
    exact ⟨fun hmem => hblank (hbefore _ hmem), hwhole.unseparated,
      fun hmem => hblank (hafter _ hmem)⟩
  have htrim : Text.trim (String.ofList (before ++ (text.toList ++ after))) = text := by
    apply Text.Trims.trim_eq
    rw [String.toList_ofList]
    exact ⟨⟨before, after, rfl, hbefore, hafter⟩, hwhole.front, hwhole.back⟩
  rw [betweenCommas, Text.splitAll_of_notMem hcomma, List.map_singleton, htrim]
  simp [hwhole.nonempty]

/-- How a literal is printed before its comma and what follows. -/
theorem toList_render_literal (text : String) (joined : Bool) (rest : List Token) :
    ∃ gap, (∀ char ∈ gap, Text.isBlank char) ∧
      (Token.render (.literal text :: .mark ',' joined :: rest)).toList =
        (text.toList ++ [' ']) ++ ',' :: (gap ++ (Token.render rest).toList) := by
  cases rest with
  | nil => exact ⟨[], by simp, by simp [Token.render, Token.piecesList, Token.pieces, Token.joins]⟩
  | cons next more =>
      refine ⟨if joined then [] else [' '], ?_, ?_⟩
      · cases joined
        · exact List.forall_mem_singleton.mpr rfl
        · exact List.forall_mem_nil _
      · cases joined <;> simp [Token.render, Token.piecesList, Token.pieces, Token.joins]

/-- Literals at the front are the first parts between the commas. -/
theorem literals_between_commas {texts : List String} {tokens : List Token}
    (hbegins : BeginsWithLiterals texts tokens) (hwhole : ∀ text ∈ texts, IsWhole text) :
    ∀ gap : List Char, (∀ char ∈ gap, Text.isBlank char) →
      texts <+: betweenCommas (gap ++ (Token.render tokens).toList) := by
  have hspace : ∀ char ∈ [' '], Text.isBlank char := List.forall_mem_singleton.mpr rfl
  induction hbegins with
  | last text =>
      intro gap hgap
      have htext := betweenCommas_around (hwhole text List.mem_cons_self) hgap
        (List.forall_mem_nil _)
      rw [List.append_nil] at htext
      have hrender : Token.render [.literal text] = text := render_literalOperand text
      rw [hrender, htext]
  | followed text joined rest =>
      intro gap hgap
      obtain ⟨_, -, hrender⟩ := toList_render_literal text joined rest
      rw [hrender, ← List.append_assoc, betweenCommas_append,
        betweenCommas_around (hwhole text List.mem_cons_self) hgap hspace]
      exact List.prefix_append ..
  | cons text joined hrest ih =>
      intro gap hgap
      obtain ⟨next, hnext, hrender⟩ := toList_render_literal text joined _
      rw [hrender, ← List.append_assoc, betweenCommas_append,
        betweenCommas_around (hwhole text List.mem_cons_self) hgap hspace]
      exact (List.prefix_append_right_inj [text]).mpr
        (ih (fun text htext => hwhole text (List.mem_cons_of_mem _ htext)) next hnext)

/-! ## Attributes -/

/-- Literals at the front are the first arguments. -/
theorem literals_prefix_attributeArguments {texts : List String} {content : List Token}
    (hbegins : BeginsWithLiterals texts content) (hwhole : ∀ text ∈ texts, IsWhole text)
    (budget : Nat) : texts <+: attributeArguments (nested budget) content := by
  unfold attributeArguments
  split
  · next read hread =>
      rw [commaList_eq] at hread
      obtain ⟨literals, rfl, hfront⟩ :=
        literals_of_iterate (takesLiterals_nested budget) hbegins _ _ hread
      exact hfront.map _
  -- The content as a whole is no list of expressions, but its text is cut at the same commas.
  · exact literals_between_commas hbegins hwhole [] (List.forall_mem_nil _)

theorem not_unsafe_of_wordPath {tokens rest : List Token} {path : PathOperand}
    (hpath : wordPath tokens = some (path, rest)) : Ahead.isWord "unsafe" tokens = false := by
  cases hword : Ahead.isWord "unsafe" tokens with
  | false => rfl
  | true =>
      cases tokens with
      | nil => contradiction
      | cons token tokens =>
          cases token with
          | word text line =>
              obtain rfl : text = "unsafe" := by simpa [Ahead.isWord] using hword
              have hnone : wordPath (.word "unsafe" line :: tokens) = none := by rfl
              rw [hnone] at hpath
              contradiction
          | mark | literal | group => contradiction

/-- An attribute with a group behind its path has what is in the group as its arguments. -/
theorem attributeContent_group {phrases : Phrases} {tokens content rest : List Token}
    {path : PathOperand} {delimiter : Delimiter}
    (hpath : wordPath tokens = some (path, .group delimiter content :: rest)) :
    attributeContent phrases tokens =
      some (⟨⟨path.tokens ++ [.group delimiter content], []⟩,
        ⟨(path.names.getLast?).getD "", attributeArguments phrases content⟩⟩, rest) := by
  have hnot := not_unsafe_of_wordPath hpath
  simp [attributeContent, bind, andThen, peek, looking, hnot, hpath, here, rawGroup, taking, pure]

/-- The grammar reads an attribute from a path and a group of tokens. -/
def ReadsAttribute (content : List Token) (marker : Attribute) : Prop :=
  ∃ budget tokens path delimiter operand rest,
    wordPath tokens = some (path, .group delimiter content :: rest) ∧
      attributeContent (nested budget) tokens = some (operand, rest) ∧ operand.value = marker

/-- Literals at the front are the first arguments of an attribute. -/
theorem ReadsAttribute.literals_prefix {content : List Token} {marker : Attribute}
    (hreads : ReadsAttribute content marker) {texts : List String}
    (hbegins : BeginsWithLiterals texts content) (hwhole : ∀ text ∈ texts, IsWhole text) :
    texts <+: marker.arguments := by
  obtain ⟨budget, tokens, path, delimiter, operand, rest, hpath, hcontent, rfl⟩ := hreads
  rw [attributeContent_group hpath] at hcontent
  cases hcontent
  exact literals_prefix_attributeArguments hbegins hwhole budget

end Grammar

end ShaderCalls.Source
