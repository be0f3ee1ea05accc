import Mathlib.Algebra.GroupWithZero.Nat
import Mathlib.Data.List.Basic
import ShaderCalls.Dot.Reader

/-!
# Quoted texts in the DOT language

The reader takes a quoted text character by character.  All in all it takes what `unquote` does: the
text up to the first quote that is not escaped.  A text stands for itself between quotes if it holds
neither quotes nor backslashes, and only then.
-/

namespace ShaderCalls.Dot

variable {reading next : Reading} {found : List Token} {text rest : List Char}

/-! ## Tokens of joined texts -/

theorem run_append (reading : Reading) (text rest : List Char) :
    run reading (text ++ rest) = (run reading text).bind fun ended =>
      (run ended.2 rest).map fun others => (ended.1 ++ others.1, others.2) := by
  induction text generalizing reading with
  | nil => simp [run]
  | cons char more ih =>
      rw [List.cons_append, run, run]
      cases reading.step char with
      | none => rfl
      | some stepped =>
          simp only [Option.bind_eq_bind, Option.bind_some, ih]
          cases run stepped.2 more with
          | none => rfl
          | some ended =>
              simp only [Option.bind_some]
              cases run ended.2 rest <;> simp

/-- The tokens of a text are followed by those of the text behind it. -/
theorem tokens?_append (hrun : run reading text = some (found, next)) (rest : List Char) :
    tokens? reading (text ++ rest) = (tokens? next rest).map (found ++ ·) := by
  rw [tokens?, tokens?, run_append, hrun]
  simp only [Option.bind_some]
  cases run next rest with
  | none => rfl
  | some ended =>
      obtain ⟨others, last⟩ := ended
      cases last <;> rfl

/-! ## Quoted texts -/

/-- What a text behind an opening quote stands for, and what is behind its closing quote. -/
def unquote : List Char → Option (List Char × List Char)
  | [] => none
  | '"' :: rest => some ([], rest)
  | ['\\'] => none
  | '\\' :: char :: rest => (unquote rest).map fun taken => (unescape char :: taken.1, taken.2)
  | char :: rest => (unquote rest).map fun taken => (char :: taken.1, taken.2)

theorem ne_backslash {char : Char} (hend : char = '\\' → rest = [] → False)
    (hmore : ∀ second behind, char = '\\' → rest = second :: behind → False) : char ≠ '\\' := by
  rintro rfl
  cases rest with
  | nil => exact hend rfl rfl
  | cons second behind => exact hmore second behind rfl rfl

/-- The reader takes a quoted text as one token. -/
theorem tokens?_quoted (text rest : List Char) :
    tokens? (.quoted text) rest = (unquote rest).bind fun taken =>
      (tokens? .between taken.2).map (.quoted (text ++ taken.1) :: ·) := by
  fun_induction unquote rest generalizing text with
  | case1 => rfl
  | case2 rest =>
      have hrun : run (.quoted text) ['"'] = some ([.quoted text], .between) := rfl
      rw [← List.singleton_append, tokens?_append hrun, Option.bind_some, List.append_nil]
      rfl
  | case3 => rfl
  | case4 char rest ih =>
      have hrun : run (.quoted text) ['\\', char] =
          some ([], .quoted (text ++ [unescape char])) := rfl
      have hsplit : '\\' :: char :: rest = ['\\', char] ++ rest := rfl
      rw [hsplit, tokens?_append hrun, ih]
      cases unquote rest <;> simp [Function.comp_def]
  | case5 char rest hquote hend hmore ih =>
      have hbackslash : char ≠ '\\' := ne_backslash hend hmore
      have hrun : run (.quoted text) [char] = some ([], .quoted (text ++ [char])) := by
        simp [run, Reading.step, show char ≠ '"' from hquote, hbackslash]
      rw [← List.singleton_append, tokens?_append hrun, ih]
      cases unquote rest <;> simp [Function.comp_def]

/-! ## Texts without quotes and backslashes -/

/-- A text that stands for itself between quotes. -/
def Plain (text : List Char) : Prop :=
  ∀ char ∈ text, char ≠ '"' ∧ char ≠ '\\'

instance : Decidable (Plain text) :=
  decidable_of_iff (text.all fun char => char != '"' && char != '\\') (by simp [Plain])

theorem plain_cons_iff {char : Char} :
    Plain (char :: text) ↔ (char ≠ '"' ∧ char ≠ '\\') ∧ Plain text :=
  List.forall_mem_cons

theorem plain_append_iff : Plain (text ++ rest) ↔ Plain text ∧ Plain rest :=
  List.forall_mem_append

theorem unquote_cons {char : Char} (hquote : char ≠ '"') (hbackslash : char ≠ '\\')
    (rest : List Char) :
    unquote (char :: rest) = (unquote rest).map fun taken => (char :: taken.1, taken.2) := by
  rw [unquote]
  · exact hquote
  · exact fun hchar _ => hbackslash hchar
  · exact fun _ _ hchar _ => hbackslash hchar

theorem unquote_plain (hplain : Plain text) (rest : List Char) :
    unquote (text ++ rest) = (unquote rest).map fun taken => (text ++ taken.1, taken.2) := by
  induction text with
  | nil => simp
  | cons char more ih =>
      obtain ⟨⟨hquote, hbackslash⟩, hmore⟩ := plain_cons_iff.mp hplain
      rw [List.cons_append, unquote_cons hquote hbackslash, ih hmore]
      cases unquote rest <;> rfl

/-! ## Texts with quotes or backslashes -/

/-- The number of characters that a text takes between quotes, at least. -/
def quotedLength (text : List Char) : Nat :=
  (text.map fun char => if char = '"' ∨ char = '\\' then 2 else 1).sum

theorem quotedLength_cons (char : Char) (text : List Char) : quotedLength (char :: text) =
    (if char = '"' ∨ char = '\\' then 2 else 1) + quotedLength text := by
  rw [quotedLength, List.map_cons, List.sum_cons]
  rfl

theorem quotedLength_append (text more : List Char) :
    quotedLength (text ++ more) = quotedLength text + quotedLength more := by
  rw [quotedLength, List.map_append, List.sum_append]
  rfl

theorem length_le_quotedLength (text : List Char) : text.length ≤ quotedLength text := by
  induction text with
  | nil => exact Nat.zero_le _
  | cons char more ih =>
      rw [quotedLength_cons, List.length_cons]
      split <;> omega

variable {value behind tail more : List Char}

/-- A quoted text ends within a text and the quote behind it, or that quote is escaped. -/
theorem quotedLength_le_or_suffix (hplain : Plain tail)
    (hunquote : unquote (text ++ '"' :: (tail ++ '"' :: more)) = some (value, behind)) :
    quotedLength value ≤ text.length ∨ text.getLast? = some '\\' ∧ '"' :: tail <:+ value := by
  induction text using unquote.induct generalizing value behind with
  | case1 =>
      cases hunquote
      exact Or.inl (Nat.le_refl 0)
  | case2 rest =>
      cases hunquote
      exact Or.inl (Nat.zero_le _)
  | case3 =>
      have htaken : unquote (tail ++ '"' :: more) = some (tail, more) := by
        rw [unquote_plain hplain, unquote]
        simp
      rw [List.singleton_append, unquote, htaken] at hunquote
      cases hunquote
      exact Or.inr ⟨rfl, List.suffix_refl _⟩
  | case4 char rest ih =>
      rw [List.cons_append, List.cons_append, unquote] at hunquote
      obtain ⟨taken, htaken, hvalue⟩ := Option.map_eq_some_iff.mp hunquote
      cases hvalue
      rcases ih htaken with hlength | ⟨hlast, hsuffix⟩
      · left
        rw [quotedLength_cons, List.length_cons, List.length_cons]
        split <;> omega
      · right
        refine ⟨?_, hsuffix.trans (List.suffix_cons _ _)⟩
        rw [List.getLast?_cons, List.getLast?_cons, hlast]
        rfl
  | case5 char rest hquote hend hmore ih =>
      have hbackslash : char ≠ '\\' := ne_backslash hend hmore
      rw [List.cons_append, unquote_cons hquote hbackslash] at hunquote
      obtain ⟨taken, htaken, hvalue⟩ := Option.map_eq_some_iff.mp hunquote
      cases hvalue
      rcases ih htaken with hlength | ⟨hlast, hsuffix⟩
      · left
        rw [quotedLength_cons, List.length_cons, if_neg (not_or.mpr ⟨hquote, hbackslash⟩)]
        omega
      · right
        refine ⟨?_, hsuffix.trans (List.suffix_cons _ _)⟩
        rw [List.getLast?_cons, hlast]
        rfl

/-- A text between quotes does not stand for one that takes more characters, even if it goes on
behind the next quote. -/
theorem unquote_ne_of_long (hplain : Plain tail) (htail : tail ≠ [])
    (hlong : text.length < quotedLength value)
    (hlast : text.getLast? = some '\\' → value.getLast? = some '\\') :
    unquote (text ++ '"' :: (tail ++ '"' :: more)) ≠ some (value, behind) := by
  intro hunquote
  rcases quotedLength_le_or_suffix hplain hunquote with hlength | ⟨hbackslash, shown, rfl⟩
  · omega
  · have hend := hlast hbackslash
    rw [List.getLast?_append_of_ne_nil _ (List.cons_ne_nil _ _),
      List.getLast?_cons_of_ne_nil htail] at hend
    exact (hplain '\\' (List.mem_of_getLast? hend)).2 rfl

theorem of_unquote_cons {char first : Char} (hquote : char ≠ '"') (hbackslash : char ≠ '\\')
    (hunquote : unquote (char :: rest) = some (first :: value, behind)) :
    char = first ∧ unquote rest = some (value, behind) := by
  rw [unquote_cons hquote hbackslash] at hunquote
  obtain ⟨⟨shown, left⟩, htaken, hvalue⟩ := Option.map_eq_some_iff.mp hunquote
  cases hvalue
  exact ⟨rfl, htaken⟩

theorem of_unquote_escape {char first : Char}
    (hunquote : unquote ('\\' :: char :: rest) = some (first :: value, behind)) :
    unescape char = first ∧ unquote rest = some (value, behind) := by
  obtain ⟨⟨shown, left⟩, htaken, hvalue⟩ := Option.map_eq_some_iff.mp hunquote
  cases hvalue
  exact ⟨rfl, htaken⟩

theorem eq_backslash_of_unescape {char : Char} (hchar : unescape char = '\\') : char = '\\' := by
  unfold unescape at hchar
  split at hchar
  · contradiction
  · exact hchar

/-- A text that stands for one with the same beginning is plain up to where they differ. -/
theorem plain_of_unquote_append {first written shown : List Char} (hplain : Plain tail)
    (htail : tail ≠ []) (hlength : written.length ≤ quotedLength shown + 1)
    (hlast : ∀ text, (text ++ written).getLast? = some '\\' →
      (text ++ shown).getLast? = some '\\')
    (hescape : unquote ('\\' :: (written ++ '"' :: (tail ++ '"' :: more))) ≠
      some ('\\' :: shown, behind))
    (hunquote : unquote ((first ++ written) ++ '"' :: (tail ++ '"' :: more)) =
      some (first ++ shown, behind)) :
    Plain first ∧ unquote (written ++ '"' :: (tail ++ '"' :: more)) = some (shown, behind) := by
  induction first with
  | nil => exact ⟨List.forall_mem_nil _, hunquote⟩
  | cons char rest ih =>
      by_cases hquote : char = '"'
      · subst hquote
        cases hunquote
      by_cases hbackslash : char = '\\'
      · subst hbackslash
        exfalso
        cases rest with
        | nil => exact hescape hunquote
        | cons next rest =>
            -- Two backslashes stand for one, and what is left is too short for the rest.
            obtain ⟨hnext, htaken⟩ := of_unquote_escape hunquote
            cases eq_backslash_of_unescape hnext
            have hlong : (rest ++ written).length < quotedLength ('\\' :: (rest ++ shown)) := by
              have hrest := length_le_quotedLength rest
              rw [quotedLength_cons, quotedLength_append, if_pos (Or.inr rfl), List.length_append]
              omega
            have hend : (rest ++ written).getLast? = some '\\' →
                ('\\' :: (rest ++ shown)).getLast? = some '\\' := by
              intro hwritten
              rw [List.getLast?_cons, hlast rest hwritten]
              rfl
            exact unquote_ne_of_long hplain htail hlong hend htaken
      · obtain ⟨_, htaken⟩ := of_unquote_cons hquote hbackslash hunquote
        obtain ⟨hrest, hwritten⟩ := ih htaken
        exact ⟨plain_cons_iff.mpr ⟨⟨hquote, hbackslash⟩, hrest⟩, hwritten⟩

/-- A text stands for itself between quotes only if it is plain. -/
theorem plain_of_unquote (hplain : Plain tail) (htail : tail ≠ [])
    (hunquote : unquote (text ++ '"' :: (tail ++ '"' :: more)) = some (text, behind)) :
    Plain text := by
  have hescape : unquote ('\\' :: ([] ++ '"' :: (tail ++ '"' :: more))) ≠ some (['\\'], behind) :=
    fun hunquote => absurd (of_unquote_escape hunquote).1 (by decide)
  apply (plain_of_unquote_append hplain htail (Nat.zero_le _) (fun _ hlast => hlast) hescape _).1
  rw [List.append_nil, hunquote]

/-- Two texts with an escaped end of a line between them stand for themselves only if both are
plain. -/
theorem plain_of_unquote_lines {first second : List Char} (hplain : Plain tail) (htail : tail ≠ [])
    (hunquote : unquote ((first ++ '\\' :: 'n' :: second) ++ '"' :: (tail ++ '"' :: more)) =
      some (first ++ '\n' :: second, behind)) : Plain first ∧ Plain second := by
  have hlength : ('\\' :: 'n' :: second).length ≤ quotedLength ('\n' :: second) + 1 := by
    have hsecond := length_le_quotedLength ('\n' :: second)
    simp only [List.length_cons] at hsecond ⊢
    omega
  have hlast : ∀ text : List Char, (text ++ '\\' :: 'n' :: second).getLast? = some '\\' →
      (text ++ '\n' :: second).getLast? = some '\\' := by
    cases second <;> simp [List.getLast?_append, List.getLast?_cons]
  -- A backslash before the end of the line would escape the one of the end of the line.
  have hescape : unquote ('\\' :: (('\\' :: 'n' :: second) ++ '"' :: (tail ++ '"' :: more))) ≠
      some ('\\' :: '\n' :: second, behind) := by
    intro hunquote
    obtain ⟨_, htaken⟩ := of_unquote_escape hunquote
    exact absurd (of_unquote_cons (by decide) (by decide) htaken).1 (by decide)
  obtain ⟨hfirst, hwritten⟩ :=
    plain_of_unquote_append hplain htail hlength hlast hescape hunquote
  exact ⟨hfirst, plain_of_unquote hplain htail (of_unquote_escape hwritten).2⟩

/-! ## Statements -/

/-- Tokens that neither end a statement nor the graph belong to the current statement. -/
theorem statements?_taken {segment : List Token}
    (hsegment : ∀ token ∈ segment, token ≠ .mark ';' ∧ token ≠ .mark '\x7d')
    (current others : List Token) :
    statements? current (segment ++ others) = statements? (current ++ segment) others := by
  induction segment generalizing current with
  | nil => rw [List.nil_append, List.append_nil]
  | cons token segment ih =>
      obtain ⟨⟨hsemicolon, hbrace⟩, hrest⟩ := List.forall_mem_cons.mp hsegment
      rw [List.cons_append, statements?, ih hrest, List.append_assoc, List.singleton_append]
      · exact fun heq _ => hbrace heq
      · exact hsemicolon

/-- The tokens before a semicolon are a statement. -/
theorem statements?_append {segment : List Token} {statement : Statement}
    (hsegment : ∀ token ∈ segment, token ≠ .mark ';' ∧ token ≠ .mark '\x7d')
    (hstatement : statement? segment = some statement) (others : List Token) :
    statements? [] (segment ++ .mark ';' :: others) =
      (statements? [] others).map (statement :: ·) := by
  rw [statements?_taken hsegment, List.nil_append, statements?, hstatement]
  cases statements? [] others <;> rfl

/-- The first statement of some tokens begins with those that have been taken for it. -/
theorem exists_statement?_of_statements? {current tokens : List Token} {first : Statement}
    {others : List Statement} (hstatements : statements? current tokens = some (first :: others)) :
    ∃ more, statement? (current ++ more) = some first := by
  fun_induction statements? current tokens with
  | case1 => contradiction
  | case2 => simp at hstatements
  | case3 => contradiction
  | case4 current rest ih =>
      obtain ⟨statement, hstatement, hrest⟩ := Option.bind_eq_some_iff.mp hstatements
      obtain ⟨_, _, hfirst⟩ := Option.bind_eq_some_iff.mp hrest
      cases hfirst
      exact ⟨[], by rw [List.append_nil, hstatement]⟩
  | case5 current token rest _ _ ih =>
      obtain ⟨more, hmore⟩ := ih hstatements
      rw [List.append_assoc] at hmore
      exact ⟨token :: more, hmore⟩

theorem head?_of_attributes? {name value : List Char} {others : List Token}
    {attributes : List (String × String)}
    (hread : attributes? (.word name :: .mark '=' :: .quoted value :: others) = some attributes) :
    attributes.head? = some (String.ofList name, String.ofList value) := by
  unfold attributes? at hread
  split at hread
  · next heq => cases heq
  · next heq =>
      cases heq
      cases hread
      rfl
  · next heq =>
      cases heq
      simp only [Token.name?, Option.bind_eq_bind, Option.bind_some,
        Option.bind_eq_some_iff] at hread
      obtain ⟨_, _, hattributes⟩ := hread
      cases hattributes
      rfl
  · contradiction

end ShaderCalls.Dot
