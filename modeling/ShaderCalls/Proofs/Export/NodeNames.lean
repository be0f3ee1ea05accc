import ShaderCalls.Export.Graphviz
import ShaderCalls.Proofs.Dot.ClosedText
import ShaderCalls.Proofs.FunctionId

/-!
# Names of nodes

A name is escaped in three passes, each of which sees what the passes before it have written.  The
one for backslashes comes first, so together they do what a single pass would: each character gives
way to its form.  A form ends neither the line nor the name, and is read as its character, so the
names of two nodes differ if the texts of their identities do.
-/

namespace ShaderCalls.Graphviz

open Dot

/-! ## Forms of characters -/

/-- The form of one character in an escaped text. -/
def characterForm : Char → List Char
  | '\\' => ['\\', '\\']
  | '"' => ['\\', '"']
  | '\n' => ['\\', 'n']
  | char => [char]

/-- No pass changes what an earlier one has written. -/
theorem replace_passes (char : Char) :
    replace '\n' ['\\', 'n'] (replace '"' ['\\', '"'] (replace '\\' ['\\', '\\'] [char])) =
      characterForm char := by
  unfold characterForm
  split
  · rfl
  · rfl
  · rfl
  · next hbackslash hquote hnewline =>
      simp [replace, show char ≠ '\\' from hbackslash, show char ≠ '"' from hquote,
        show char ≠ '\n' from hnewline]

theorem newline_notMem_characterForm (char : Char) : '\n' ∉ characterForm char := by
  unfold characterForm
  split
  · decide
  · decide
  · decide
  · next hnewline =>
      rw [List.mem_singleton]
      exact Ne.symm hnewline

theorem unquote_characterForm (char : Char) (rest : List Char) :
    unquote (characterForm char ++ rest) =
      (unquote rest).map fun taken => (char :: taken.1, taken.2) := by
  unfold characterForm
  split
  · rfl
  · rfl
  · rfl
  · next hbackslash hquote _ => exact unquote_cons hquote hbackslash rest

/-! ## Escaped texts -/

/-- A pass over a text is a pass over each part of it. -/
theorem replace_flatMap (char : Char) (form text : List Char) (part : Char → List Char) :
    replace char form (text.flatMap part) =
      text.flatMap fun found => replace char form (part found) :=
  List.flatMap_assoc

/-- The three passes are one. -/
theorem toList_escape (text : String) :
    (escape text).toList = text.toList.flatMap characterForm := by
  have hsingle : text.toList = text.toList.flatMap fun char => [char] := by simp
  rw [escape, String.toList_ofList, hsingle, replace_flatMap, replace_flatMap, replace_flatMap,
    ← hsingle]
  simp only [replace_passes]

/-- An escaped text stands for the text. -/
theorem unquote_escape (text : String) (rest : List Char) :
    unquote ((escape text).toList ++ '"' :: rest) = some (text.toList, rest) := by
  rw [toList_escape]
  induction text.toList with
  | nil => rfl
  | cons char more ih =>
      rw [List.flatMap_cons, List.append_assoc, unquote_characterForm, ih]
      rfl

theorem newline_notMem_escape (text : String) : '\n' ∉ (escape text).toList := by
  rw [toList_escape, List.mem_flatMap]
  rintro ⟨char, _, hnewline⟩
  exact newline_notMem_characterForm char hnewline

/-- An escaped text is read as a whole whatever comes behind it, so it is closed. -/
theorem closed_escape (text : String) : Closed (escape text).toList :=
  (unquote_eq_some_iff.mp (unquote_escape text [])).1

theorem unescapeAll_escape (text : String) : unescapeAll (escape text).toList = text.toList :=
  (unquote_eq_some_iff.mp (unquote_escape text [])).2

theorem escape_injective : Function.Injective escape := by
  intro left right hescape
  apply String.toList_inj.mp
  calc
    left.toList = unescapeAll (escape left).toList := (unescapeAll_escape left).symm
    _ = unescapeAll (escape right).toList := by rw [hescape]
    _ = right.toList := unescapeAll_escape right

/-! ## Distinct names -/

theorem nodeName_eq_iff {left right : FunctionId} :
    nodeName left = nodeName right ↔ left.text = right.text := by
  rw [nodeName, nodeName]
  constructor
  · intro hname
    have hescape : escape left.text = escape right.text := by simpa using hname
    exact escape_injective hescape
  · intro htext
    rw [htext]

/-- Escaping gives each character its form in one pass, which leaves a closed text on one line and
is undone by one pass.  So nodes share a name exactly if their identities share a text, which two
identities without a colon in their names never do. -/
theorem escape_closed_roundTrip :
    (∀ text, (escape text).toList = text.toList.flatMap characterForm) ∧
      (∀ text, '\n' ∉ (escape text).toList ∧ Closed (escape text).toList) ∧
      (∀ text, unescapeAll (escape text).toList = text.toList) ∧
      (∀ left right, nodeName left = nodeName right ↔ left.text = right.text) ∧
      Set.InjOn nodeName {id | ':' ∉ id.name.toList} := by
  refine ⟨toList_escape, fun text => ⟨newline_notMem_escape text, closed_escape text⟩,
    unescapeAll_escape, fun left right => nodeName_eq_iff, ?_⟩
  intro left hleft right hright hname
  exact FunctionId.eq_of_text_eq hleft hright (nodeName_eq_iff.mp hname)

/-- The end of a line and a backslash before an `n`, each before a quote, are kept apart. -/
theorem lineEnds_apart :
    escape "a\n\"" = "a\\n\\\"" ∧ escape "a\\n\"" = "a\\\\n\\\"" ∧ ':' ∉ "f".toList ∧
      nodeName ⟨"a\n\"", "f"⟩ ≠ nodeName ⟨"a\\n\"", "f"⟩ := by
  obtain ⟨_, _, _, _, hinj⟩ := escape_closed_roundTrip
  have hname : ':' ∉ "f".toList := by decide
  refine ⟨by decide, by decide, hname, ?_⟩
  intro hsame
  exact absurd (hinj hname hname hsame) (by decide)

end ShaderCalls.Graphviz
