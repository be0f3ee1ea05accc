import Mathlib.Algebra.Ring.Parity
import Mathlib.Data.List.DropRight
import Mathlib.Tactic.MkIffOfInductiveProp
import ShaderCalls.Proofs.Dot.Reader

/-!
# Texts that stay between their quotes

Of a run of backslashes each second one is escaped by the one before it.  So a character is escaped
if the run in front of it is odd, and a text ends neither early nor late between quotes if each
quote in it is escaped and the quote behind it is not.  A reader takes these texts as a whole and no
others, whatever comes behind them.
-/

namespace ShaderCalls.Dot

variable {char first : Char} {text rest value behind : List Char}

/-! ## Runs of backslashes -/

/-- The number of backslashes in a row at the end of a text. -/
def lastRun (text : List Char) : Nat :=
  (text.rtakeWhile (· = '\\')).length

theorem lastRun_nil : lastRun [] = 0 :=
  rfl

theorem lastRun_concat (text : List Char) (last : Char) :
    lastRun (text ++ [last]) = if last = '\\' then lastRun text + 1 else 0 := by
  rw [lastRun, List.rtakeWhile_concat]
  split <;> simp_all [lastRun]

/-- No run goes on in front of a character that is not a backslash. -/
theorem lastRun_cons (hfirst : first ≠ '\\') (text : List Char) :
    lastRun (first :: text) = lastRun text := by
  induction text using List.reverseRecOn with
  | nil => rw [← List.nil_append [first], lastRun_concat, if_neg hfirst, lastRun_nil]
  | append_singleton text last ih =>
      rw [← List.cons_append, lastRun_concat, lastRun_concat, ih]

/-- An escaped character in front of a text does not change which characters are escaped. -/
theorem odd_lastRun_pair (char : Char) (text : List Char) :
    Odd (lastRun ('\\' :: char :: text)) ↔ Odd (lastRun text) := by
  -- From the right, where the run is: all that can differ is whether it reaches the pair.
  induction text using List.reverseRecOn with
  | nil =>
      by_cases hchar : char = '\\'
      · subst hchar
        decide
      · have hrun : lastRun ['\\', char] = 0 := by
          rw [← List.singleton_append, lastRun_concat, if_neg hchar]
        rw [hrun, lastRun_nil]
  | append_singleton text last ih =>
      rw [← List.cons_append, ← List.cons_append, lastRun_concat, lastRun_concat]
      split
      · rw [Nat.odd_add_one, Nat.odd_add_one, ih]
      · rfl

/-! ## Closed texts -/

/-- A text in which each quote is escaped and which does not escape the quote behind it. -/
@[mk_iff]
structure Closed (text : List Char) : Prop where
  quote_escaped : ∀ before after, text = before ++ '"' :: after → Odd (lastRun before)
  end_free : ¬ Odd (lastRun text)

theorem closed_nil : Closed [] := by
  constructor
  · intro before after htext
    simp at htext
  · decide

/-- What holds in front of each quote of a text, by the first character of the text. -/
theorem forall_before_quote_cons_iff {property : List Char → Prop} :
    (∀ before after, first :: text = before ++ '"' :: after → property before) ↔
      (first = '"' → property []) ∧
        ∀ before after, text = before ++ '"' :: after → property (first :: before) := by
  constructor
  · intro hall
    constructor
    · rintro rfl
      exact hall [] text rfl
    · rintro before after rfl
      exact hall (first :: before) after rfl
  · rintro ⟨hfirst, hrest⟩ before after htext
    rcases List.cons_eq_append_iff.mp htext with ⟨rfl, hquote⟩ | ⟨more, rfl, hmore⟩
    · exact hfirst (List.cons.inj hquote).1.symm
    · exact hrest more after hmore

theorem not_closed_quote (text : List Char) : ¬ Closed ('"' :: text) := by
  intro hclosed
  exact absurd (hclosed.quote_escaped [] text rfl) (by decide)

theorem not_closed_backslash : ¬ Closed ['\\'] :=
  fun hclosed => hclosed.end_free (by decide)

theorem closed_pair_iff : Closed ('\\' :: char :: text) ↔ Closed text := by
  have hescaped : Odd (lastRun ['\\']) := by decide
  rw [closed_iff, closed_iff, forall_before_quote_cons_iff, forall_before_quote_cons_iff]
  simp [odd_lastRun_pair, hescaped]

theorem closed_cons_iff (hquote : first ≠ '"') (hbackslash : first ≠ '\\') :
    Closed (first :: text) ↔ Closed text := by
  rw [closed_iff, closed_iff, forall_before_quote_cons_iff]
  simp [lastRun_cons hbackslash, hquote]

/-! ## Reading closed texts -/

/-- What a text stands for between quotes, in one pass. -/
def unescapeAll : List Char → List Char
  | [] => []
  | '\\' :: char :: rest => unescape char :: unescapeAll rest
  | char :: rest => char :: unescapeAll rest

theorem unescapeAll_cons (hfirst : first ≠ '\\') (text : List Char) :
    unescapeAll (first :: text) = first :: unescapeAll text := by
  rw [unescapeAll]
  exact fun _ _ hchar _ => hfirst hchar

/-- A text is taken character by character: what is behind its closing quote stays. -/
theorem map_taken_eq_some_iff {taken? : Option (List Char × List Char)} :
    taken?.map (fun taken => (char :: taken.1, taken.2)) = some (value, behind) ↔
      ∃ more, taken? = some (more, behind) ∧ char :: more = value := by
  constructor
  · intro htaken
    obtain ⟨⟨more, left⟩, hmore, hvalue⟩ := Option.map_eq_some_iff.mp htaken
    cases hvalue
    exact ⟨more, hmore, rfl⟩
  · rintro ⟨more, rfl, rfl⟩
    rfl

/-- What is behind the closing quote of a text is shorter than the text. -/
theorem length_of_unquote (hunquote : unquote text = some (value, behind)) :
    behind.length < text.length := by
  fun_induction unquote text generalizing value with
  | case1 => contradiction
  | case2 rest =>
      cases hunquote
      exact Nat.lt_succ_self _
  | case3 => contradiction
  | case4 char rest ih =>
      obtain ⟨_, hmore, _⟩ := map_taken_eq_some_iff.mp hunquote
      exact Nat.lt_succ_of_lt (Nat.lt_succ_of_lt (ih hmore))
  | case5 char rest _ _ _ ih =>
      obtain ⟨_, hmore, _⟩ := map_taken_eq_some_iff.mp hunquote
      exact Nat.lt_succ_of_lt (ih hmore)

/-- A reader takes a text up to the quote behind it exactly if the text is closed. -/
theorem unquote_eq_some_iff :
    unquote (text ++ '"' :: rest) = some (value, rest) ↔
      Closed text ∧ unescapeAll text = value := by
  induction text using unquote.induct generalizing value with
  | case1 => simp [unquote, closed_nil, unescapeAll]
  | case2 text =>
      have hlonger : text ++ '"' :: rest ≠ rest := by
        intro heq
        have hlength := congrArg List.length heq
        rw [List.length_append, List.length_cons] at hlength
        omega
      simp [unquote, hlonger, not_closed_quote]
  | case3 =>
      -- The backslash escapes the quote behind it, so the reader goes on into the rest.
      have hlate : unquote ('\\' :: '"' :: rest) ≠ some (value, rest) := by
        intro hunquote
        obtain ⟨_, hmore, _⟩ := map_taken_eq_some_iff.mp hunquote
        exact Nat.lt_irrefl _ (length_of_unquote hmore)
      simp [hlate, not_closed_backslash]
  | case4 char text ih =>
      rw [List.cons_append, List.cons_append, unquote, map_taken_eq_some_iff, closed_pair_iff,
        unescapeAll]
      simp only [ih, and_assoc, exists_and_left, exists_eq_left']
  | case5 char text hquote hend hmore ih =>
      have hbackslash : char ≠ '\\' := ne_backslash hend hmore
      rw [List.cons_append, unquote_cons hquote hbackslash, map_taken_eq_some_iff,
        closed_cons_iff hquote hbackslash, unescapeAll_cons hbackslash]
      simp only [ih, and_assoc, exists_and_left, exists_eq_left']

end ShaderCalls.Dot
