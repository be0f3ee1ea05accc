import ShaderCalls.Index.Resolution
import ShaderCalls.Proofs.Interleaving
import ShaderCalls.Proofs.Lists

/-!
# First declarations

The index takes its functions from the files one after the other and keeps the first of each
identity.  So its functions have different identities, and what it finds under one is the first
declaration of it.  Where no two files share an identity, this is the first one in the file that has
any.
-/

namespace ShaderCalls

/-! ## The first function of each identity -/

namespace DeclaredFunction

variable {kept : List DeclaredFunction} {function : DeclaredFunction}

/-- The functions with another one, unless its identity is taken. -/
def keep (kept : List DeclaredFunction) (function : DeclaredFunction) : List DeclaredFunction :=
  if kept.any (·.id = function.id) then kept else kept ++ [function]

theorem firstOfEach_eq_foldl (functions : List DeclaredFunction) :
    firstOfEach functions = functions.foldl keep [] := rfl

theorem keep_of_taken (htaken : function.id ∈ kept.map (·.id)) : keep kept function = kept := by
  rw [keep, if_pos]
  simpa using htaken

theorem keep_of_free (hfree : function.id ∉ kept.map (·.id)) :
    keep kept function = kept ++ [function] := by
  rw [keep, if_neg]
  simpa using hfree

theorem nodup_keep (hkept : (kept.map (·.id)).Nodup) : ((keep kept function).map (·.id)).Nodup := by
  by_cases htaken : function.id ∈ kept.map (·.id)
  · rw [keep_of_taken htaken]
    exact hkept
  · rw [keep_of_free htaken, List.map_append]
    exact List.Nodup.append hkept (List.nodup_singleton _) (by simpa using htaken)

/-- A function whose identity is taken would not be found anyway. -/
theorem find?_keep (id : FunctionId) :
    (keep kept function).find? (·.id = id) = (kept ++ [function]).find? (·.id = id) := by
  by_cases htaken : function.id ∈ kept.map (·.id)
  · rw [keep_of_taken htaken, List.find?_append]
    cases hfind : kept.find? (·.id = id) with
    | some found => rfl
    | none =>
        have hother : function.id ≠ id := by
          rintro rfl
          obtain ⟨found, hfound, hid⟩ := List.mem_map.mp htaken
          exact absurd hid (by simpa using List.find?_eq_none.mp hfind found hfound)
        simp [hother]
  · rw [keep_of_free htaken]

theorem nodup_foldl_keep (functions : List DeclaredFunction) (hkept : (kept.map (·.id)).Nodup) :
    ((functions.foldl keep kept).map (·.id)).Nodup := by
  induction functions generalizing kept with
  | nil => exact hkept
  | cons function rest ih => exact ih (nodup_keep hkept)

theorem find?_foldl_keep (functions : List DeclaredFunction) (id : FunctionId) :
    (functions.foldl keep kept).find? (·.id = id) = (kept ++ functions).find? (·.id = id) := by
  induction functions generalizing kept with
  | nil => simp
  | cons function rest ih =>
      calc
        (rest.foldl keep (keep kept function)).find? (·.id = id) =
            ((keep kept function).find? (·.id = id)).or (rest.find? (·.id = id)) := by
          rw [ih, List.find?_append]
        _ = (kept ++ function :: rest).find? (·.id = id) := by
          rw [find?_keep, ← List.find?_append, List.append_assoc, List.singleton_append]

theorem foldl_keep_subset (functions : List DeclaredFunction) :
    functions.foldl keep kept ⊆ kept ++ functions := by
  induction functions generalizing kept with
  | nil => exact List.subset_append_left _ _
  | cons function rest ih =>
      intro element hmem
      rcases List.mem_append.mp (ih hmem) with hkeep | hrest
      · by_cases htaken : function.id ∈ kept.map (·.id)
        · rw [keep_of_taken htaken] at hkeep
          exact List.mem_append_left _ hkeep
        · rw [keep_of_free htaken] at hkeep
          rw [← List.singleton_append, ← List.append_assoc]
          exact List.mem_append_left _ hkeep
      · exact List.mem_append_right _ (List.mem_cons_of_mem _ hrest)

theorem firstOfEach_subset (functions : List DeclaredFunction) :
    firstOfEach functions ⊆ functions := by
  rw [firstOfEach_eq_foldl]
  exact foldl_keep_subset functions

theorem nodup_firstOfEach (functions : List DeclaredFunction) :
    ((firstOfEach functions).map (·.id)).Nodup := by
  rw [firstOfEach_eq_foldl]
  exact nodup_foldl_keep functions List.nodup_nil

theorem find?_firstOfEach (functions : List DeclaredFunction) (id : FunctionId) :
    (firstOfEach functions).find? (·.id = id) = functions.find? (·.id = id) := by
  rw [firstOfEach_eq_foldl]
  exact find?_foldl_keep functions id

end DeclaredFunction

/-! ## Several files -/

theorem Outline.ofFiles_eq_flatMap (files : List SourceFile) : ofFiles files =
    { functions := files.flatMap fun file => (ofFile file).functions
      types := files.flatMap fun file => (ofFile file).types
      modules := files.flatMap fun file => (ofFile file).modules
      imports := files.flatMap fun file => (ofFile file).imports
      globs := files.flatMap fun file => (ofFile file).globs } := by
  induction files with
  | nil => rfl
  | cons file rest ih =>
      change ofFile file ++ ofFiles rest = _
      rw [ih]
      rfl

/-- No two files have a key in common. -/
def Apart {κ : Type} (keys : SourceFile → List κ) (files : List SourceFile) : Prop :=
  ∀ left ∈ files, ∀ right ∈ files, ∀ key ∈ keys left, key ∈ keys right → left = right

instance {κ : Type} [DecidableEq κ] (keys : SourceFile → List κ) (files : List SourceFile) :
    Decidable (Apart keys files) :=
  inferInstanceAs (Decidable (∀ left ∈ files, ∀ right ∈ files, ∀ key ∈ keys left,
    key ∈ keys right → left = right))

namespace SourceFile

/-- The identities of the functions that a file declares. -/
def ids (file : SourceFile) : List FunctionId :=
  (Outline.ofFile file).functions.map (·.id)

/-- The names that a file imports, each with the module that imports it. -/
def aliases (file : SourceFile) : List (String × String) :=
  (Outline.ofFile file).imports.map fun imported => (imported.module, imported.name)

end SourceFile

namespace SymbolIndex

variable {index : SymbolIndex} {files : List SourceFile} {id : FunctionId}
  {function : DeclaredFunction}

theorem nodup_ids_ofOutline (outline : Outline) :
    ((ofOutline outline).functions.map (·.id)).Nodup :=
  DeclaredFunction.nodup_firstOfEach outline.functions

theorem function?_ofOutline (outline : Outline) (id : FunctionId) :
    (ofOutline outline).function? id = outline.functions.find? (·.id = id) :=
  DeclaredFunction.find?_firstOfEach outline.functions id

theorem function?_ofFiles (files : List SourceFile) (id : FunctionId) :
    (ofFiles files).function? id = (Outline.ofFiles files).functions.find? (·.id = id) :=
  function?_ofOutline (Outline.ofFiles files) id

theorem isSome_function?_of_mem (hmem : function ∈ (Outline.ofFiles files).functions) :
    ((ofFiles files).function? function.id).isSome := by
  rw [function?_ofFiles, List.find?_isSome]
  exact ⟨function, hmem, decide_eq_true rfl⟩

theorem isSome_function?_iff :
    (index.function? id).isSome ↔ id ∈ index.functions.map (·.id) := by
  rw [function?, List.find?_isSome, List.mem_map]
  simp only [decide_eq_true_eq]

theorem mem_functions_of_function? (hfunction : index.function? id = some function) :
    function ∈ index.functions :=
  List.mem_of_find?_eq_some hfunction

theorem id_of_function? (hfunction : index.function? id = some function) : function.id = id := by
  simpa using List.find?_some hfunction

/-- Functions with different identities are each found under its own. -/
theorem function?_eq_some_iff_mem (hnodup : (index.functions.map (·.id)).Nodup) :
    index.function? id = some function ↔ function ∈ index.functions ∧ function.id = id :=
  find?_key_eq_some_iff hnodup

/-- The hits of a search for an identity are in one file. -/
theorem eq_of_declares (hids : Apart SourceFile.ids files) (id : FunctionId) :
    ∀ left ∈ files, ∀ right ∈ files, ∀ function ∈ (Outline.ofFile left).functions,
      ∀ other ∈ (Outline.ofFile right).functions,
        decide (function.id = id) → decide (other.id = id) → left = right := by
  intro left hleft right hright function hfunction other hother hid hid'
  have hsame : function.id = other.id := (of_decide_eq_true hid).trans (of_decide_eq_true hid').symm
  apply hids left hleft right hright function.id (List.mem_map_of_mem hfunction)
  rw [hsame]
  exact List.mem_map_of_mem hother

/-- What the index finds is the first declaration in the only file that has any. -/
theorem function?_eq_some_iff (hids : Apart SourceFile.ids files) :
    (ofFiles files).function? id = some function ↔
      ∃ file ∈ files, (Outline.ofFile file).functions.find? (·.id = id) = some function := by
  rw [function?_ofFiles, Outline.ofFiles_eq_flatMap]
  exact (Interleaves.flatten _).find?_eq_some_iff (eq_of_declares hids id)

end SymbolIndex

end ShaderCalls
