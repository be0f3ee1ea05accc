import Mathlib.Data.List.Basic
import ShaderCalls.Json.Printer
import ShaderCalls.Json.Reader

/-!
# Reading what was printed

A printed value reads back as itself, whatever its strings hold.  Its numbers must be natural
numbers, and it must not nest deeper than the reader goes; the printer has no such limit.
-/

namespace ShaderCalls.Json

/-! ## Strings -/

theorem hexWord?_control : ∀ code < 0x20,
    hexWord? '0' '0' (Nat.digitChar (code / 16)) (Nat.digitChar (code % 16)) = some code := by
  decide

section

variable {char : Char} {text characters rest : List Char}

theorem readCharacters_control (hcontrol : char.toNat < 0x20)
    (hread : readCharacters text = some (characters, rest)) :
    readCharacters ('\\' :: 'u' :: '0' :: '0' :: Nat.digitChar (char.toNat / 16) ::
      Nat.digitChar (char.toNat % 16) :: text) = some (char :: characters, rest) := by
  have hscalar : Text.isScalar char.toNat = true := by
    simp only [Text.isScalar, Bool.or_eq_true, decide_eq_true_eq]
    omega
  simp [readCharacters, hexWord?_control _ hcontrol, hscalar, hread]

theorem readCharacters_plain (hplain : ¬ char.toNat < 0x20) (hquote : char ≠ '"')
    (hbackslash : char ≠ '\\') (hread : readCharacters text = some (characters, rest)) :
    readCharacters (char :: text) = some (char :: characters, rest) := by
  rw [readCharacters]
  · simp [hread, hplain, hbackslash]
  · exact hquote
  · exact fun _ _ _ _ _ heq => absurd heq hbackslash
  · exact fun _ _ heq => absurd heq hbackslash

theorem readCharacters_escapeCharacter (char : Char)
    (hread : readCharacters text = some (characters, rest)) :
    readCharacters (escapeCharacter char ++ text) = some (char :: characters, rest) := by
  unfold escapeCharacter
  split
  case h_8 hquote hbackslash _ _ _ _ _ =>
      split
      · next hcontrol => exact readCharacters_control hcontrol hread
      · next hplain => exact readCharacters_plain hplain hquote hbackslash hread
  all_goals simp [readCharacters, escaped?, hread]

end

/-- The characters of a quoted text are read up to its closing quote. -/
theorem readCharacters_quoted (text : List Char) (rest : List Char) :
    readCharacters (text.flatMap escapeCharacter ++ '"' :: rest) = some (text, rest) := by
  induction text with
  | nil => rw [List.flatMap_nil, List.nil_append, readCharacters]
  | cons char more ih =>
      rw [List.flatMap_cons, List.append_assoc]
      exact readCharacters_escapeCharacter char ih

/-! ## Numbers -/

/-- What stands behind a printed value: nothing, a comma or the end of a line. -/
def EndsValue (rest : List Char) : Prop :=
  ∀ char ∈ rest.head?, char = ',' ∨ char = '\n'

theorem head?_toDigits_ne_zero {value : Nat} (hpos : 0 < value) :
    (Nat.toDigits 10 value).head? ≠ some '0' := by
  induction value using Nat.base_induction 10 (by decide) with
  | single digit hdigit =>
      rw [Nat.toDigits_of_lt_base hdigit]
      revert hpos
      revert digit
      decide
  | digit digit value hdigit hvalue ih =>
      rw [← Nat.toDigits_append_toDigits (by decide) hvalue hdigit,
        List.head?_append_of_ne_nil _ Nat.toDigits_ne_nil]
      exact ih hvalue

theorem isDigit_of_mem_toDigits {value : Nat} :
    ∀ char ∈ Nat.toDigits 10 value, char.isDigit :=
  fun _ hchar => Nat.isDigit_of_mem_toDigits (by decide) (by decide) hchar

/-- A natural number starts with a digit. -/
theorem exists_toDigits_eq (value : Nat) : ∃ first more, Nat.toDigits 10 value = first :: more ∧
    ∀ char, char.isDigit = false → first ≠ char := by
  cases hsome : Nat.toDigits 10 value with
  | nil => exact absurd hsome Nat.toDigits_ne_nil
  | cons first more =>
      refine ⟨first, more, rfl, ?_⟩
      rintro char hchar rfl
      simp [isDigit_of_mem_toDigits first (hsome ▸ List.mem_cons_self)] at hchar

section

variable {rest : List Char}

theorem EndsValue.isDigit (hends : EndsValue rest) : ∀ char ∈ rest.head?, char.isDigit = false := by
  intro char hchar
  rcases hends char hchar with rfl | rfl <;> rfl

theorem readDigits_append {digits : List Char} (hdigits : ∀ char ∈ digits, char.isDigit)
    (hsome : digits ≠ []) (hends : EndsValue rest) :
    readDigits (digits ++ rest) = some (digits, rest) := by
  have htake : rest.takeWhile Char.isDigit = [] := by
    cases rest with
    | nil => rfl
    | cons char more => simp [hends.isDigit char rfl]
  have hdrop : rest.dropWhile Char.isDigit = rest := by
    cases rest with
    | nil => rfl
    | cons char more => simp [hends.isDigit char rfl]
  rw [readDigits, List.takeWhile_append_of_pos hdigits, List.dropWhile_append_of_pos hdigits, htake,
    hdrop, List.append_nil]
  simp [hsome]

theorem readWhole_toDigits (value : Nat) (hends : EndsValue rest) :
    readWhole (Nat.toDigits 10 value ++ rest) = some (Nat.toDigits 10 value, rest) := by
  rcases Nat.eq_zero_or_pos value with rfl | hpos
  · rfl
  · have hfirst := head?_toDigits_ne_zero hpos
    rw [← readDigits_append isDigit_of_mem_toDigits Nat.toDigits_ne_nil hends, readWhole]
    intro more hzero
    apply hfirst
    rw [← List.head?_append_of_ne_nil _ Nat.toDigits_ne_nil, hzero]
    rfl

theorem readFraction_of_endsValue (hends : EndsValue rest) :
    readFraction rest = some ([], rest) := by
  rw [readFraction]
  rintro more rfl
  simpa using hends '.' rfl

theorem readExponent_of_endsValue (hends : EndsValue rest) :
    readExponent rest = some ([], rest) := by
  cases rest with
  | nil => rfl
  | cons char more =>
      have hletter : (char == 'e' || char == 'E') = false := by
        rcases hends char rfl with rfl | rfl <;> rfl
      simp [readExponent, hletter]

/-- A natural number is read up to the end of its digits. -/
theorem readMagnitude_toDigits (value : Nat) (hends : EndsValue rest) :
    readMagnitude (Nat.toDigits 10 value ++ rest) = some (Nat.toDigits 10 value, rest) := by
  simp [readMagnitude, readWhole_toDigits value hends, readFraction_of_endsValue hends,
    readExponent_of_endsValue hends]

end

/-! ## Gaps -/

theorem skipGaps_newLine (depth : Nat) (text : List Char) :
    skipGaps (newLine depth ++ text) = skipGaps text := by
  have hblanks : ∀ char ∈ newLine depth, isGap char := by
    intro char hchar
    rcases List.mem_cons.mp hchar with rfl | hblank
    · rfl
    · rw [List.eq_of_mem_replicate hblank]
      rfl
  exact List.dropWhile_append_of_pos hblanks

theorem skipGaps_cons {char : Char} (hchar : isGap char = false) (text : List Char) :
    skipGaps (char :: text) = char :: text :=
  List.dropWhile_cons_of_neg (by simp [hchar])

theorem readValue_newLine (depth indent : Nat) (text : List Char) :
    readValue depth (newLine indent ++ text) = readValue depth text := by
  cases depth <;> rw [readValue, readValue, skipGaps_newLine]

/-! ## Items -/

section

variable {α : Type} {item : List Char → Option (α × List Char)} {form : α → List Char}
  {close : Char}

/-- Items with commas between them are read up to what closes them. -/
theorem readItems_print (hgap : isGap close = false) (hcomma : close ≠ ',') (indent fuel : Nat)
    (rest : List Char) (first : α) (others : List α)
    (hitem : ∀ entry ∈ first :: others, ∀ rest, EndsValue rest →
      item (form entry ++ rest) = some (entry, rest)) (hfuel : others.length < fuel) :
    readItems item close fuel (form first ++ (others.flatMap (fun entry => ',' :: form entry) ++
      (newLine indent ++ close :: rest))) = some (first :: others, rest) := by
  induction others generalizing first fuel with
  | nil =>
      cases fuel with
      | zero => contradiction
      | succ fuel =>
          have hends : EndsValue (newLine indent ++ close :: rest) := by
            intro char hchar
            cases hchar
            exact Or.inr rfl
          rw [List.flatMap_nil, List.nil_append, readItems, hitem first List.mem_cons_self _ hends]
          simp [skipGaps_newLine, skipGaps_cons hgap]
  | cons second others ih =>
      cases fuel with
      | zero => contradiction
      | succ fuel =>
          have hothers := ih fuel second (fun entry hentry => hitem entry (.tail _ hentry))
            (Nat.lt_of_succ_lt_succ hfuel)
          have hends : EndsValue (List.flatMap (fun entry => ',' :: form entry)
              (second :: others) ++ (newLine indent ++ close :: rest)) := by
            intro char hchar
            cases hchar
            exact Or.inl rfl
          rw [readItems, hitem first List.mem_cons_self _ hends]
          simp only [List.flatMap_cons, List.cons_append, List.append_assoc, Option.bind_eq_bind,
            Option.bind_some]
          rw [skipGaps_cons (by rfl)]
          simp only [hothers, Option.bind_some]

theorem length_le_flatMap_cons (form : α → List Char) (entries : List α) :
    entries.length ≤ (entries.flatMap fun entry => ',' :: form entry).length := by
  induction entries with
  | nil => exact Nat.zero_le _
  | cons entry entries ih =>
      simp only [List.flatMap_cons, List.length_append, List.length_cons]
      omega

theorem readSequence_print (hgap : isGap close = false) (hcomma : close ≠ ',') (indent : Nat)
    (rest : List Char) (first : α) (others : List α)
    (hitem : ∀ entry ∈ first :: others, ∀ rest, EndsValue rest →
      item (form entry ++ rest) = some (entry, rest))
    (hfirst : ∀ tail, ∃ char more, skipGaps (form first ++ tail) = char :: more ∧ char ≠ close) :
    readSequence item close (form first ++ (others.flatMap (fun entry => ',' :: form entry) ++
      (newLine indent ++ close :: rest))) = some (first :: others, rest) := by
  obtain ⟨char, more, hstart, hopen⟩ := hfirst (others.flatMap (fun entry => ',' :: form entry) ++
    (newLine indent ++ close :: rest))
  have hfuel : others.length < (form first ++ (others.flatMap (fun entry => ',' :: form entry) ++
      (newLine indent ++ close :: rest))).length := by
    have hothers := length_le_flatMap_cons form others
    simp only [List.length_append, List.length_cons]
    omega
  rw [readSequence, hstart]
  simp only [hopen, if_false]
  exact readItems_print hgap hcomma indent _ rest first others hitem hfuel

end

/-! ## Values -/

/-- Numbers are natural numbers, and at most `depth` arrays and objects hold one another. -/
inductive Within : Nat → Json → Prop
  | null {depth : Nat} : Within depth .null
  | bool {depth : Nat} (value : Bool) : Within depth (.bool value)
  | ofNat {depth : Nat} (value : Nat) : Within depth (.ofNat value)
  | string {depth : Nat} (text : String) : Within depth (.string text)
  | array {depth : Nat} {elements : List Json} (helements : ∀ element ∈ elements,
      Within depth element) : Within (depth + 1) (.array elements)
  | object {depth : Nat} {members : List (String × Json)} (hmembers : ∀ member ∈ members,
      Within depth member.2) : Within (depth + 1) (.object members)

/-- An element of an array on a line of its own. -/
def printElement (depth : Nat) (element : Json) : List Char :=
  newLine depth ++ print depth element

/-- A member of an object on a line of its own. -/
def printMember (depth : Nat) (member : String × Json) : List Char :=
  newLine depth ++ (quoted member.1 ++ (':' :: ' ' :: print depth member.2))

theorem printElements_eq_flatMap (depth : Nat) (elements : List Json) :
    printElements depth elements =
      elements.flatMap fun element => ',' :: printElement depth element := by
  induction elements with
  | nil => rw [printElements, List.flatMap_nil]
  | cons element rest ih =>
      rw [printElements, ih, List.flatMap_cons, List.cons_append, printElement]

theorem printMembers_eq_flatMap (depth : Nat) (members : List (String × Json)) :
    printMembers depth members = members.flatMap fun member => ',' :: printMember depth member := by
  induction members with
  | nil => rw [printMembers, List.flatMap_nil]
  | cons member rest ih =>
      rw [printMembers, ih, List.flatMap_cons, List.cons_append, printMember]
      simp

theorem print_array (depth : Nat) (first : Json) (others : List Json) (rest : List Char) :
    print depth (.array (first :: others)) ++ rest = '[' :: (printElement (depth + 1) first ++
      (others.flatMap (fun element => ',' :: printElement (depth + 1) element) ++
        (newLine depth ++ ']' :: rest))) := by
  simp [print, printElements_eq_flatMap, printElement]

theorem print_object (depth : Nat) (first : String × Json) (others : List (String × Json))
    (rest : List Char) :
    print depth (.object (first :: others)) ++ rest = '\x7b' :: (printMember (depth + 1) first ++
      (others.flatMap (fun member => ',' :: printMember (depth + 1) member) ++
        (newLine depth ++ '\x7d' :: rest))) := by
  simp [print, printMembers_eq_flatMap, printMember]

theorem readValue_scalar {char : Char} (depth : Nat) (text : List Char)
    (hgap : isGap char = false) (harray : char ≠ '[') (hobject : char ≠ '\x7b') :
    readValue depth (char :: text) = readScalar (char :: text) := by
  cases depth with
  | zero => rw [readValue, skipGaps_cons hgap]
  | succ depth =>
      rw [readValue, skipGaps_cons hgap]
      split
      · next heq => exact absurd (List.cons.inj heq).1 harray
      · next heq => exact absurd (List.cons.inj heq).1 hobject
      · rfl

theorem readValue_ofNat (depth value : Nat) {rest : List Char} (hends : EndsValue rest) :
    readValue depth (Nat.toDigits 10 value ++ rest) = some (.ofNat value, rest) := by
  have hread := readMagnitude_toDigits value hends
  obtain ⟨first, more, hsome, hother⟩ := exists_toDigits_eq value
  have hgap : isGap first = false := by
    simp [isGap, hother]
  rw [hsome] at hread ⊢
  rw [List.cons_append, readValue_scalar depth _ hgap (hother _ rfl) (hother _ rfl), readScalar,
    readNumber, ← List.cons_append, hread]
  · simp [ofNat, hsome]
  all_goals simp [hother]

theorem readValue_string (depth : Nat) (text : String) (rest : List Char) :
    readValue depth (quoted text ++ rest) = some (.string text, rest) := by
  rw [quoted, List.cons_append, List.append_assoc,
    readValue_scalar depth _ (by rfl) (by decide) (by decide)]
  simp [readScalar, readCharacters_quoted]

theorem readMember_print {depth indent : Nat} {member : String × Json} {rest : List Char}
    (hvalue : readValue depth (print indent member.2 ++ rest) = some (member.2, rest)) :
    readMember (readValue depth) (printMember indent member ++ rest) = some (member, rest) := by
  have hblank : readValue depth (' ' :: (print indent member.2 ++ rest)) =
      some (member.2, rest) := by
    rw [← hvalue]
    cases depth <;> rfl
  rw [readMember, printMember, List.append_assoc, skipGaps_newLine, quoted, List.cons_append,
    List.cons_append, skipGaps_cons (by rfl)]
  have hcolon : isGap ':' = false := rfl
  simp [readCharacters_quoted, skipGaps_cons hcolon, hblank]

theorem Within.exists_first {depth : Nat} {value : Json} (hwithin : Within depth value)
    (indent : Nat) :
    ∃ first more, print indent value = first :: more ∧ isGap first = false ∧ first ≠ ']' := by
  cases hwithin with
  | null => exact ⟨'n', _, rfl, rfl, by decide⟩
  | bool value =>
      cases value
      · exact ⟨'f', _, rfl, rfl, by decide⟩
      · exact ⟨'t', _, rfl, rfl, by decide⟩
  | ofNat value =>
      obtain ⟨first, more, hsome, hother⟩ := exists_toDigits_eq value
      refine ⟨first, more, hsome, ?_, hother _ rfl⟩
      simp [isGap, hother]
  | string text => exact ⟨'"', _, rfl, rfl, by decide⟩
  | @array _ elements _ =>
      cases elements
      all_goals exact ⟨'[', _, rfl, rfl, by decide⟩
  | @object _ members _ =>
      cases members
      all_goals exact ⟨'\x7b', _, rfl, rfl, by decide⟩

theorem Within.skipGaps_printElement {depth : Nat} {element : Json} (hwithin : Within depth element)
    (indent : Nat) (tail : List Char) :
    ∃ char more, skipGaps (printElement indent element ++ tail) = char :: more ∧ char ≠ ']' := by
  obtain ⟨first, more, hprint, hgap, hopen⟩ := hwithin.exists_first indent
  refine ⟨first, more ++ tail, ?_, hopen⟩
  rw [printElement, List.append_assoc, skipGaps_newLine, hprint, List.cons_append,
    skipGaps_cons hgap]

theorem skipGaps_printMember (indent : Nat) (member : String × Json) (tail : List Char) :
    ∃ char more, skipGaps (printMember indent member ++ tail) = char :: more ∧ char ≠ '\x7d' := by
  rw [printMember, List.append_assoc, skipGaps_newLine]
  exact ⟨'"', _, skipGaps_cons (by rfl) _, by decide⟩

theorem Within.readValue_print {depth : Nat} {value : Json} (hwithin : Within depth value) :
    ∀ indent rest, EndsValue rest →
      readValue depth (print indent value ++ rest) = some (value, rest) := by
  induction hwithin with
  | null =>
      intro indent rest hends
      rw [print, List.cons_append, readValue_scalar _ _ (by rfl) (by decide) (by decide)]
      rfl
  | bool value =>
      intro indent rest hends
      cases value
      all_goals
        rw [print, List.cons_append, readValue_scalar _ _ (by rfl) (by decide) (by decide)]
        rfl
  | ofNat value =>
      intro indent rest hends
      exact readValue_ofNat _ value hends
  | string text =>
      intro indent rest hends
      rw [print]
      exact readValue_string _ text rest
  | @array depth elements helements ih =>
      intro indent rest hends
      cases elements with
      | nil => rfl
      | cons first others =>
          have helement : ∀ element ∈ first :: others, ∀ rest, EndsValue rest →
              readValue depth (printElement (indent + 1) element ++ rest) =
                some (element, rest) := by
            intro element hmem rest hends
            rw [printElement, List.append_assoc, readValue_newLine]
            exact ih element hmem (indent + 1) rest hends
          have hfirst := (helements first List.mem_cons_self).skipGaps_printElement (indent + 1)
          have hread := readSequence_print (by rfl) (by decide) indent rest first others helement
            hfirst
          rw [print_array, readValue, skipGaps_cons (by rfl)]
          simp [hread]
  | @object depth members hmembers ih =>
      intro indent rest hends
      cases members with
      | nil => rfl
      | cons first others =>
          have hmember : ∀ member ∈ first :: others, ∀ rest, EndsValue rest →
              readMember (readValue depth) (printMember (indent + 1) member ++ rest) =
                some (member, rest) := by
            intro member hmem rest hends
            exact readMember_print (ih member hmem (indent + 1) rest hends)
          have hfirst := skipGaps_printMember (indent + 1) first
          have hread := readSequence_print (by rfl) (by decide) indent rest first others hmember
            hfirst
          rw [print_object, readValue, skipGaps_cons (by rfl)]
          simp [hread]

/-- A value reads back from its printed form. -/
theorem read?_render {value : Json} (hwithin : Within depthLimit value) :
    read? (render value) = some value := by
  have hread := hwithin.readValue_print 0 [] (by simp [EndsValue])
  rw [List.append_nil] at hread
  rw [read?, render, String.toList_ofList, hread]
  rfl

end ShaderCalls.Json
