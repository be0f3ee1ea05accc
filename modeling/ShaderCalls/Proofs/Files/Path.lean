import Mathlib.Data.List.Basic
import ShaderCalls.Project.ModuleFile
import ShaderCalls.Proofs.Text.Separators

/-!
# Paths of entries

The path of an entry has one component more than the path of its directory, however that one is
written: its name, which has the extension of the path.  A name with an extension loses it and
nothing else.
-/

namespace ShaderCalls

namespace Path

open Text (splitAll splitAll_append splitAll_of_notMem splitLast_append)

/-- A name that an entry of a directory may have: one part of a path, which stands for itself. -/
structure IsEntry (name : String) : Prop where
  no_slash : '/' ∉ name.toList
  component : Component.ofPart? name.toList = some (.named name)

instance (name : String) : Decidable (IsEntry name) :=
  decidable_of_iff ('/' ∉ name.toList ∧ Component.ofPart? name.toList = some (.named name))
    ⟨fun ⟨hslash, hcomponent⟩ => ⟨hslash, hcomponent⟩, fun hname => ⟨hname.1, hname.2⟩⟩

variable {directory name : String}

theorem IsEntry.ne_nil (hname : IsEntry name) : name.toList ≠ [] := by
  intro hnil
  have hcomponent := hname.component
  rw [hnil] at hcomponent
  contradiction

/-! ## Components -/

/-- What stands in front of the components is told by what stands in front of a slash. -/
theorem start_append {before : List Char} (hbefore : before ≠ []) (after : List Char) :
    start (String.ofList (before ++ '/' :: after)) = start (String.ofList before) := by
  simp only [start, String.toList_ofList]
  rcases before with _ | ⟨first, _ | ⟨second, more⟩⟩
  · contradiction
  · by_cases hslash : first = '/' <;> by_cases hdot : first = '.' <;> simp_all
  · by_cases hslash : first = '/' <;> by_cases hdot : first = '.' <;>
      by_cases hsecond : second = '/' <;> simp_all

theorem components_append {before : List Char} (hbefore : before ≠ []) (after : List Char) :
    components (String.ofList (before ++ '/' :: after)) =
      components (String.ofList before) ++
        (splitAll '/' after).filterMap Component.ofPart? := by
  rw [components, components, start_append hbefore, parts, parts, String.toList_ofList,
    String.toList_ofList, splitAll_append, List.filterMap_append, List.append_assoc]

theorem components_rooted (after : List Char) :
    components (String.ofList ('/' :: after)) =
      .root :: (splitAll '/' after).filterMap Component.ofPart? := by
  have hempty : Component.ofPart? [] = none := rfl
  simp [components, start, parts, splitAll, hempty]

theorem IsEntry.filterMap_splitAll (hname : IsEntry name) :
    (splitAll '/' name.toList).filterMap Component.ofPart? = [.named name] := by
  rw [splitAll_of_notMem hname.no_slash, List.filterMap_cons_some hname.component,
    List.filterMap_nil]

theorem IsEntry.components (hname : IsEntry name) : components name = [.named name] := by
  have hstart : start name = [] := by
    have hslash := hname.no_slash
    have hcomponent := hname.component
    unfold start
    split <;> simp_all [Component.ofPart?]
  rw [Path.components, hstart, parts, hname.filterMap_splitAll, List.nil_append]

/-- The path of an entry has its name behind the components of the directory. -/
theorem components_join (directory : String) (hname : IsEntry name) :
    components (join directory name) = components directory ++ [.named name] := by
  rcases List.eq_nil_or_concat directory.toList with hnil | ⟨before, last, hdirectory⟩
  · rw [join, hnil, List.getLast?_nil, String.toList_eq_nil_iff.mp hnil]
    exact hname.components
  · rw [List.concat_eq_append] at hdirectory
    have hwritten : directory = String.ofList (before ++ [last]) := by
      rw [← hdirectory, String.ofList_toList]
    by_cases hslash : last = '/'
    -- The slash at the end of the directory separates the name from it.
    · have hjoin : join directory name = String.ofList (before ++ '/' :: name.toList) := by
        rw [join, hdirectory, List.getLast?_concat, hslash, hwritten]
        simp [← String.toList_inj, hslash]
      rw [hjoin, hwritten, hslash]
      cases before with
      | nil =>
          rw [List.nil_append, List.nil_append, components_rooted, components_rooted,
            hname.filterMap_splitAll]
          rfl
      | cons first more =>
          rw [components_append (List.cons_ne_nil _ _), components_append (List.cons_ne_nil _ _),
            hname.filterMap_splitAll, List.append_assoc]
          rfl
    · have hjoin : join directory name =
          String.ofList ((before ++ [last]) ++ '/' :: name.toList) := by
        rw [join, hdirectory, List.getLast?_concat, hwritten]
        simp [← String.toList_inj]
      rw [hjoin, components_append (by simp), hname.filterMap_splitAll, ← hwritten]

theorem name?_join (directory : String) (hname : IsEntry name) :
    name? (join directory name) = some name := by
  rw [name?, components_join directory hname, List.getLast?_concat]

/-! ## Extensions -/

/-- An entry has the extension of its name. -/
theorem extension?_join (directory : String) (hname : IsEntry name) :
    extension? (join directory name) = extension? name := by
  have hown : name? name = some name := by
    rw [name?, hname.components]
    rfl
  rw [extension?, extension?, name?_join directory hname, hown]

theorem IsEntry.addExtension (hname : IsEntry name) {extension : String}
    (hextension : extension.toList ≠ []) (hslash : '/' ∉ extension.toList) :
    IsEntry (name ++ "." ++ extension) := by
  have hchars : (name ++ "." ++ extension).toList = name.toList ++ '.' :: extension.toList := by
    simp
  refine ⟨?_, ?_⟩
  · rw [hchars, List.mem_append, List.mem_cons, not_or, not_or]
    exact ⟨hname.no_slash, by decide, hslash⟩
  · obtain ⟨first, more, hfirst⟩ := List.exists_cons_of_ne_nil hname.ne_nil
    obtain ⟨start, rest, hstart⟩ := List.exists_cons_of_ne_nil hextension
    have hlong : 3 ≤ (name ++ "." ++ extension).toList.length := by
      simp [hchars, hfirst, hstart]
      omega
    rw [← String.ofList_toList (s := name ++ "." ++ extension)]
    generalize (name ++ "." ++ extension).toList = chars at hlong
    rw [String.toList_ofList]
    unfold Component.ofPart?
    split <;> simp_all

/-- A name loses the extension that is put behind it. -/
theorem IsEntry.withoutExtension (hname : IsEntry name) {extension : String}
    (hextension : '.' ∉ extension.toList) :
    (Component.named (name ++ "." ++ extension)).withoutExtension = .named name := by
  have hsplit : splitExtension (name ++ "." ++ extension) = some (name.toList, extension) := by
    have hlast : Text.splitLast '.' (name ++ "." ++ extension).toList =
        some (name.toList, extension.toList) := by
      rw [String.toList_append, String.toList_append, List.append_assoc]
      exact splitLast_append name.toList hextension
    rw [splitExtension, hlast]
    obtain ⟨first, more, hchars⟩ := List.exists_cons_of_ne_nil hname.ne_nil
    rw [hchars]
    simp
  have hdot : name.toList ≠ ['.'] := by
    intro hdot
    have hcomponent := hname.component
    rw [hdot] at hcomponent
    contradiction
  rw [Component.withoutExtension, hsplit]
  split
  · next heq => simp_all
  · next heq =>
      cases heq
      rw [hname.component, Option.getD_some]
  · contradiction

/-- The path of a file with an extension, without it. -/
theorem withoutExtension_concat (above : List Component) (last : Component) :
    withoutExtension (above ++ [last]) = above ++ [last.withoutExtension] := by
  simp [withoutExtension]

/-- What a path has below another one is what its components have behind those of the other. -/
theorem below_of_components {root file : String} {rest : List Component}
    (hfile : components file = components root ++ rest) : below root file = rest := by
  have hprefix : (components root).isPrefixOf? (components root ++ rest) = some rest :=
    List.isPrefixOf?_eq_some_iff_append_eq.mpr rfl
  rw [below, hfile, hprefix, Option.getD_some]

end Path

end ShaderCalls
