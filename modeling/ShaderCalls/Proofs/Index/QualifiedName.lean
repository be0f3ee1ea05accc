import ShaderCalls.Index.ModulePath

/-!
# Qualified names

A qualified name is its segments with two colons between them.  Splitting a name and joining its
segments gives the name back, and joining more segments gives a longer name; so a name that begins
with the path of a module differs from the one without it.
-/

namespace ShaderCalls.Text

theorem splitColons_ne_nil (text : List Char) : splitColons text ≠ [] := by
  fun_cases splitColons text <;> simp

theorem intercalate_splitColons (text : List Char) :
    [':', ':'].intercalate (splitColons text) = text := by
  induction text using splitColons.induct with
  | case1 rest ih =>
      rw [splitColons, List.intercalate_cons_of_ne_nil (splitColons_ne_nil rest), ih]
      rfl
  | case2 char rest hcolons first more hsplit ih =>
      rw [splitColons.eq_2 char rest hcolons, hsplit]
      rw [hsplit] at ih
      cases more with
      | nil => simpa using ih
      | cons next more =>
          rw [List.intercalate_cons_cons] at ih ⊢
          rw [← ih]
          simp
  | case3 char rest hcolons hsplit ih => exact absurd hsplit (splitColons_ne_nil rest)
  | case4 => rfl

@[simp]
theorem qualified_segments (name : String) : qualified (segments name) = name := by
  rw [← String.toList_inj, qualified, String.toList_intercalate, segments, List.map_map]
  have hchars : (String.toList ∘ String.ofList) = id := by
    funext chars
    exact String.toList_ofList
  rw [hchars, List.map_id]
  exact intercalate_splitColons name.toList

theorem segments_ne_nil (name : String) : segments name ≠ [] :=
  fun hnil => splitColons_ne_nil name.toList (List.map_eq_nil_iff.mp hnil)

@[simp]
theorem qualified_singleton (segment : String) : qualified [segment] = segment :=
  String.intercalate_singleton

theorem qualified_append {left right : List String} (hleft : left ≠ []) (hright : right ≠ []) :
    qualified (left ++ right) = qualified left ++ "::" ++ qualified right :=
  String.intercalate_append_of_ne_nil hleft hright

/-- A name is longer than the name of its last segments alone. -/
theorem length_qualified_lt_append {left right : List String} (hleft : left ≠ [])
    (hright : right ≠ []) : (qualified right).length < (qualified (left ++ right)).length := by
  have hcolons : "::".length = 2 := rfl
  rw [qualified_append hleft hright, String.length_append, String.length_append]
  omega

/-- A name is at least as long as the name of its first segments. -/
theorem length_qualified_le_append (left right : List String) :
    (qualified left).length ≤ (qualified (left ++ right)).length := by
  by_cases hleft : left = []
  · subst hleft
    exact Nat.zero_le _
  by_cases hright : right = []
  · subst hright
    simp
  · rw [qualified_append hleft hright, String.length_append, String.length_append]
    omega

end ShaderCalls.Text

namespace ShaderCalls.ModulePath

open Text

theorem length_child (module name : String) :
    (child module name).length = module.length + 2 + name.length := by
  rw [child, String.length_append, String.length_append]
  rfl

theorem child_ne_name (module name : String) : child module name ≠ name := by
  intro hsame
  have hlength := length_child module name
  rw [hsame] at hlength
  omega

theorem child_ne_module (module name : String) : child module name ≠ module := by
  intro hsame
  have hlength := length_child module name
  rw [hsame] at hlength
  omega

/-- A path read inside a module differs from the path as written. -/
theorem qualified_inside_ne (module : String) {path : List String} (hpath : path ≠ []) :
    qualified (segments module ++ path) ≠ qualified path := by
  intro hsame
  have hlength := length_qualified_lt_append (segments_ne_nil module) hpath
  rw [hsame] at hlength
  exact Nat.lt_irrefl _ hlength

end ShaderCalls.ModulePath
