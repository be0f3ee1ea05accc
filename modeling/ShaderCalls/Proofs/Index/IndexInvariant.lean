import ShaderCalls.Proofs.Index.DeclarationPlaces
import ShaderCalls.Proofs.Index.FirstDeclared

/-!
# What the index says about functions

The functions of the files go into two tables one after the other: the functions themselves, where
the first of an identity is kept, and the types that have a method of a name, which get an entry
only where the function is kept.  One step keeps the two tables in accord, so they are in accord for
all files.  A free function that comes first under the identity of a method takes it, and then the
type is not listed for the method.
-/

namespace ShaderCalls

namespace DeclaredFunction

/-- The types of the methods of a name among functions. -/
def ownersAmong (functions : List DeclaredFunction) (name : String) : List String :=
  functions.filterMap fun function =>
    if function.id.name = name then function.scope.owner else none

theorem KeyedByScope.id_eq {function : DeclaredFunction} (hkeyed : function.KeyedByScope)
    {owner : String} (howner : function.scope.owner = some owner) :
    function.id = ⟨owner, function.id.name⟩ := by
  have hid : function.id.owner = owner := by
    rw [hkeyed, howner]
    rfl
  rw [← hid]

end DeclaredFunction

/-! ## The tables, function by function -/

/-- The functions so far, and for each name the types that have a method of it. -/
structure Tables where
  functions : List DeclaredFunction := []
  owners : String → List String := fun _ => []

namespace Tables

variable {tables : Tables} {function : DeclaredFunction}

/-- Enters a function unless its identity is taken; a method is entered under its name as well. -/
def insert (tables : Tables) (function : DeclaredFunction) : Tables :=
  if function.id ∈ tables.functions.map (·.id) then tables
  else
    { functions := tables.functions ++ [function]
      owners := fun name =>
        if function.id.name = name then tables.owners name ++ function.scope.owner.toList
        else tables.owners name }

/-- The tables of functions that are entered one after the other. -/
def ofFunctions (functions : List DeclaredFunction) : Tables :=
  functions.foldl insert {}

theorem insert_of_taken (htaken : function.id ∈ tables.functions.map (·.id)) :
    tables.insert function = tables :=
  if_pos htaken

theorem functions_insert :
    (tables.insert function).functions = DeclaredFunction.keep tables.functions function := by
  by_cases htaken : function.id ∈ tables.functions.map (·.id)
  · rw [insert_of_taken htaken, DeclaredFunction.keep_of_taken htaken]
  · rw [insert, if_neg htaken, DeclaredFunction.keep_of_free htaken]

theorem mem_owners_insert_iff (hfree : function.id ∉ tables.functions.map (·.id))
    {name owner : String} : owner ∈ (tables.insert function).owners name ↔
      owner ∈ tables.owners name ∨
        (function.id.name = name ∧ function.scope.owner = some owner) := by
  rw [insert, if_neg hfree]
  by_cases hname : function.id.name = name <;> simp [hname]

/-- Both tables are keyed, and a name has the types of the methods that are entered under it. -/
structure Consistent (tables : Tables) : Prop where
  nodup_ids : (tables.functions.map (·.id)).Nodup
  nodup_owners : ∀ name, (tables.owners name).Nodup
  mem_owners_iff : ∀ name owner, owner ∈ tables.owners name ↔
    ∃ function ∈ tables.functions, function.id = ⟨owner, name⟩ ∧
      function.scope.owner = some owner

theorem consistent_empty : Consistent {} where
  nodup_ids := List.nodup_nil
  nodup_owners _ := List.nodup_nil
  mem_owners_iff := by simp

/-- A type that is listed for the method already has a function under the identity. -/
theorem Consistent.notMem_owners (htables : tables.Consistent) (hkeyed : function.KeyedByScope)
    (hfree : function.id ∉ tables.functions.map (·.id)) {owner : String}
    (howner : function.scope.owner = some owner) : owner ∉ tables.owners function.id.name := by
  intro hlisted
  obtain ⟨other, hother, hsame, _⟩ := (htables.mem_owners_iff _ _).mp hlisted
  rw [← hkeyed.id_eq howner] at hsame
  exact hfree (List.mem_map.mpr ⟨other, hother, hsame⟩)

theorem Consistent.nodup_owners_insert (htables : tables.Consistent)
    (hkeyed : function.KeyedByScope) (hfree : function.id ∉ tables.functions.map (·.id))
    (name : String) : ((tables.insert function).owners name).Nodup := by
  have hname := htables.nodup_owners name
  rw [insert, if_neg hfree]
  by_cases hsame : function.id.name = name
  · cases howner : function.scope.owner with
    | none => simpa [hsame, howner] using hname
    | some owner =>
        have hnew : owner ∉ tables.owners name := by
          rw [← hsame]
          exact htables.notMem_owners hkeyed hfree howner
        have hconcat : (tables.owners name ++ [owner]).Nodup :=
          hname.append (List.nodup_singleton owner) (by simpa using hnew)
        simpa [hsame, howner] using hconcat
  · simpa [hsame] using hname

theorem Consistent.insert (htables : tables.Consistent) (hkeyed : function.KeyedByScope) :
    (tables.insert function).Consistent := by
  by_cases htaken : function.id ∈ tables.functions.map (·.id)
  · rw [insert_of_taken htaken]
    exact htables
  · constructor
    · rw [functions_insert]
      exact DeclaredFunction.nodup_keep htables.nodup_ids
    · exact htables.nodup_owners_insert hkeyed htaken
    · intro name owner
      have hmethod : (function.id.name = name ∧ function.scope.owner = some owner) ↔
          (function.id = ⟨owner, name⟩ ∧ function.scope.owner = some owner) := by
        apply and_congr_left
        intro howner
        rw [hkeyed.id_eq howner]
        simp
      rw [mem_owners_insert_iff htaken, htables.mem_owners_iff, functions_insert,
        DeclaredFunction.keep_of_free htaken, hmethod]
      simp only [List.mem_append, List.mem_singleton, or_and_right, exists_or, exists_eq_left]

theorem Consistent.foldl (htables : tables.Consistent) {functions : List DeclaredFunction}
    (hkeyed : ∀ function ∈ functions, function.KeyedByScope) :
    (functions.foldl Tables.insert tables).Consistent := by
  induction functions generalizing tables with
  | nil => exact htables
  | cons function rest ih =>
      obtain ⟨hfunction, hrest⟩ := List.forall_mem_cons.mp hkeyed
      exact ih (htables.insert hfunction) hrest

/-- The types under a name are those of the functions that are kept. -/
theorem insert_ownersAmong (kept : List DeclaredFunction) :
    insert ⟨kept, DeclaredFunction.ownersAmong kept⟩ function =
      ⟨DeclaredFunction.keep kept function,
        DeclaredFunction.ownersAmong (DeclaredFunction.keep kept function)⟩ := by
  by_cases htaken : function.id ∈ kept.map (·.id)
  · rw [insert_of_taken htaken, DeclaredFunction.keep_of_taken htaken]
  · rw [insert, if_neg htaken, DeclaredFunction.keep_of_free htaken, mk.injEq]
    refine ⟨rfl, funext fun name => ?_⟩
    have hsplit : DeclaredFunction.ownersAmong (kept ++ [function]) name =
        DeclaredFunction.ownersAmong kept name ++ DeclaredFunction.ownersAmong [function] name :=
      List.filterMap_append
    rw [hsplit]
    by_cases hname : function.id.name = name
    · cases howner : function.scope.owner <;> simp [DeclaredFunction.ownersAmong, hname, howner]
    · simp [DeclaredFunction.ownersAmong, hname]

theorem ofFunctions_eq (functions : List DeclaredFunction) :
    ofFunctions functions = ⟨DeclaredFunction.firstOfEach functions,
      DeclaredFunction.ownersAmong (DeclaredFunction.firstOfEach functions)⟩ := by
  have hrun (kept : List DeclaredFunction) :
      functions.foldl insert ⟨kept, DeclaredFunction.ownersAmong kept⟩ =
        ⟨functions.foldl DeclaredFunction.keep kept,
          DeclaredFunction.ownersAmong (functions.foldl DeclaredFunction.keep kept)⟩ := by
    induction functions generalizing kept with
    | nil => rfl
    | cons function rest ih =>
        rw [List.foldl_cons, insert_ownersAmong, ih]
        rfl
  exact hrun []

end Tables

/-! ## The index -/

namespace SymbolIndex

variable {files : List SourceFile}

theorem keyedByScope_of_mem_ofFiles {function : DeclaredFunction}
    (hmem : function ∈ (Outline.ofFiles files).functions) : function.KeyedByScope := by
  obtain ⟨file, _, place, hplace⟩ := Outline.exists_place_of_mem_ofFiles hmem
  exact file.keyedByScope_of_declarationAt? hplace

/-- The index has the tables that the functions of the files are entered into one by one. -/
theorem tables_eq (files : List SourceFile) : Tables.ofFunctions (Outline.ofFiles files).functions =
    ⟨(ofFiles files).functions, (ofFiles files).ownersOf⟩ :=
  Tables.ofFunctions_eq _

theorem consistent_tables (files : List SourceFile) :
    Tables.Consistent ⟨(ofFiles files).functions, (ofFiles files).ownersOf⟩ := by
  rw [← tables_eq]
  exact Tables.consistent_empty.foldl fun _ => keyedByScope_of_mem_ofFiles

theorem keyedByScope_of_function? {id : FunctionId} {function : DeclaredFunction}
    (hfunction : (ofFiles files).function? id = some function) : function.KeyedByScope := by
  rw [function?_ofFiles] at hfunction
  exact keyedByScope_of_mem_ofFiles (List.mem_of_find?_eq_some hfunction)

/-- The function of an identity is a method of its owner. -/
def HasMethod (index : SymbolIndex) (owner name : String) : Prop :=
  ∃ function, index.function? ⟨owner, name⟩ = some function ∧ function.scope.owner = some owner

theorem mem_ownersOf_iff (files : List SourceFile) (name owner : String) :
    owner ∈ (ofFiles files).ownersOf name ↔ (ofFiles files).HasMethod owner name := by
  have htables := consistent_tables files
  rw [HasMethod]
  simp only [function?_eq_some_iff_mem htables.nodup_ids, and_assoc]
  exact htables.mem_owners_iff name owner

/-- A call of a method by its name alone, by the types that have one. -/
inductive MethodCall (index : SymbolIndex) (name : String) : Option FunctionId → Prop
  | none (hnone : ∀ owner, ¬ index.HasMethod owner name) :
      MethodCall index name (some ⟨intrinsicOwner, name⟩)
  | one {owner : String} (hone : index.HasMethod owner name)
      (honly : ∀ other, index.HasMethod other name → other = owner) :
      MethodCall index name (some ⟨owner, name⟩)
  | several {left right : String} (hne : left ≠ right) (hleft : index.HasMethod left name)
      (hright : index.HasMethod right name) : MethodCall index name none

theorem methodCall_callee? (files : List SourceFile) (scope : Scope) (name : String) :
    MethodCall (ofFiles files) name ((ofFiles files).callee? scope (.method name)) := by
  have hmem := mem_ownersOf_iff files name
  have hnodup := (consistent_tables files).nodup_owners name
  match howners : (ofFiles files).ownersOf name with
  | [] =>
      rw [callee?, howners]
      exact .none fun owner hmethod => by simpa [howners] using (hmem owner).mpr hmethod
  | [owner] =>
      rw [callee?, howners]
      refine .one ((hmem owner).mp (by simp [howners])) fun other hother => ?_
      simpa [howners] using (hmem other).mpr hother
  | left :: right :: rest =>
      rw [callee?, howners]
      have hne : left ≠ right := by
        rintro rfl
        simp [howners] at hnodup
      exact .several hne ((hmem left).mp (by simp [howners])) ((hmem right).mp (by simp [howners]))

namespace MethodCall

variable {index : SymbolIndex} {name : String} {result : Option FunctionId}

theorem eq_method_iff (hcall : MethodCall index name result) (owner : String) :
    (result = some ⟨owner, name⟩ ∧ index.HasMethod owner name) ↔
      index.HasMethod owner name ∧ ∀ other, index.HasMethod other name → other = owner := by
  cases hcall with
  | none hnone =>
      exact iff_of_false (fun h => hnone owner h.2) (fun h => hnone owner h.1)
  | @one found hone honly =>
      constructor
      · rintro ⟨hsame, hmethod⟩
        cases hsame
        exact ⟨hmethod, honly⟩
      · rintro ⟨hmethod, _⟩
        rw [honly owner hmethod]
        exact ⟨rfl, hone⟩
  | @several left right hne hleft hright =>
      apply iff_of_false
      · simp
      · rintro ⟨_, honly⟩
        exact hne ((honly left hleft).trans (honly right hright).symm)

theorem eq_intrinsic_iff (hcall : MethodCall index name result) :
    (result = some ⟨intrinsicOwner, name⟩ ∧ ¬ index.HasMethod intrinsicOwner name) ↔
      ∀ owner, ¬ index.HasMethod owner name := by
  cases hcall with
  | none hnone => exact iff_of_true ⟨rfl, hnone intrinsicOwner⟩ hnone
  | @one found hone _ =>
      apply iff_of_false
      · rintro ⟨hsame, hnever⟩
        cases hsame
        exact hnever hone
      · intro hnone
        exact hnone found hone
  | @several left _ _ hleft _ =>
      apply iff_of_false
      · rintro ⟨_, _⟩
        contradiction
      · intro hnone
        exact hnone left hleft

theorem eq_none_iff (hcall : MethodCall index name result) :
    result = Option.none ↔
      ∃ left right, left ≠ right ∧ index.HasMethod left name ∧ index.HasMethod right name := by
  cases hcall with
  | none hnone =>
      apply iff_of_false
      · simp
      · rintro ⟨left, _, _, hleft, _⟩
        exact hnone left hleft
  | one _ honly =>
      apply iff_of_false
      · simp
      · rintro ⟨left, right, hne, hleft, hright⟩
        exact hne ((honly left hleft).trans (honly right hright).symm)
  | several hne hleft hright => exact iff_of_true rfl ⟨_, _, hne, hleft, hright⟩

end MethodCall

/-- What the index of files says about functions, and what calls make of it. -/
structure IndexesFunctions (files : List SourceFile) : Prop where
  /-- An identity is indexed if some file declares a function of it. -/
  declared : ∀ id, ((ofFiles files).function? id).isSome ↔
    ∃ file ∈ files, ∃ place function, file.declarationAt? place = some function ∧ function.id = id
  /-- What is indexed is the first declaration in the file. -/
  first : ∀ id function, (ofFiles files).function? id = some function ↔
    ∃ file ∈ files, ∃ place, file.declarationAt? place = some function ∧ function.id = id ∧
      ∀ other earlier, file.declarationAt? other = some earlier → earlier.id = id → place ≤ other
  keyed : ∀ id function, (ofFiles files).function? id = some function →
    function.id = id ∧ id.owner = function.scope.owner.getD function.scope.module
  /-- In a method, `self.name()` and `Self::name()` stay in the owner of the method. -/
  self_call : ∀ id function, (ofFiles files).function? id = some function →
    function.scope.owner.isSome → ∀ name,
      (ofFiles files).callee? function.scope (.selfMethod name) = some ⟨id.owner, name⟩ ∧
      (ofFiles files).callee? function.scope (.path ["Self", name]) = some ⟨id.owner, name⟩
  /-- A type is entered for a method where the method is entered as a function. -/
  tables : Tables.ofFunctions (Outline.ofFiles files).functions =
    ⟨(ofFiles files).functions, (ofFiles files).ownersOf⟩
  nodup_owners : ∀ name, ((ofFiles files).ownersOf name).Nodup
  mem_owners_iff : ∀ name owner,
    owner ∈ (ofFiles files).ownersOf name ↔ (ofFiles files).HasMethod owner name
  /-- The one method of a name is called by its name alone. -/
  call_one : ∀ scope name owner,
    ((ofFiles files).callee? scope (.method name) = some ⟨owner, name⟩ ∧
        (ofFiles files).HasMethod owner name) ↔
      (ofFiles files).HasMethod owner name ∧
        ∀ other, (ofFiles files).HasMethod other name → other = owner
  /-- A name without methods is called as an intrinsic, which is the method of no type. -/
  call_intrinsic : ∀ scope name,
    ((ofFiles files).callee? scope (.method name) = some ⟨intrinsicOwner, name⟩ ∧
        ¬ (ofFiles files).HasMethod intrinsicOwner name) ↔
      ∀ owner, ¬ (ofFiles files).HasMethod owner name
  call_several : ∀ scope name, (ofFiles files).callee? scope (.method name) = none ↔
    ∃ left right, left ≠ right ∧ (ofFiles files).HasMethod left name ∧
      (ofFiles files).HasMethod right name

theorem isSome_function?_ofFiles_iff (files : List SourceFile) (id : FunctionId) :
    ((ofFiles files).function? id).isSome ↔ ∃ file ∈ files, ∃ place function,
      file.declarationAt? place = some function ∧ function.id = id := by
  rw [function?_ofFiles, Outline.ofFiles_eq_flatMap, List.find?_isSome]
  constructor
  · rintro ⟨function, hmem, hid⟩
    obtain ⟨file, hfile, hfunction⟩ := List.mem_flatMap.mp hmem
    obtain ⟨placed, hplaced⟩ := Outline.exists_placed_ofFile file
    obtain ⟨place, hplace⟩ := hplaced.mem_elements_iff.mp hfunction
    exact ⟨file, hfile, place, function, hplace, of_decide_eq_true hid⟩
  · rintro ⟨file, hfile, place, function, hplace, hid⟩
    obtain ⟨placed, hplaced⟩ := Outline.exists_placed_ofFile file
    have hfunction := hplaced.mem_elements_iff.mpr ⟨place, hplace⟩
    exact ⟨function, List.mem_flatMap.mpr ⟨file, hfile, hfunction⟩, decide_eq_true hid⟩

theorem function?_eq_some_iff_first (hids : Apart SourceFile.ids files) {id : FunctionId}
    {function : DeclaredFunction} : (ofFiles files).function? id = some function ↔
      ∃ file ∈ files, ∃ place, file.declarationAt? place = some function ∧ function.id = id ∧
        ∀ other earlier, file.declarationAt? other = some earlier → earlier.id = id →
          place ≤ other := by
  rw [function?_eq_some_iff hids]
  apply exists_congr
  intro file
  apply and_congr_right
  intro _
  obtain ⟨placed, hplaced⟩ := Outline.exists_placed_ofFile file
  rw [hplaced.find?_eq_some_iff]
  simp only [decide_eq_true_eq]

theorem callee?_self {id : FunctionId} {function : DeclaredFunction}
    (hfunction : (ofFiles files).function? id = some function)
    (hmethod : function.scope.owner.isSome) (name : String) :
    (ofFiles files).callee? function.scope (.selfMethod name) = some ⟨id.owner, name⟩ ∧
      (ofFiles files).callee? function.scope (.path ["Self", name]) = some ⟨id.owner, name⟩ := by
  obtain ⟨owner, howner⟩ := Option.isSome_iff_exists.mp hmethod
  have hid : id.owner = owner := by
    rw [← id_of_function? hfunction, (keyedByScope_of_function? hfunction).id_eq howner]
  rw [hid]
  constructor
  · rw [callee?, howner]
    rfl
  · change (function.scope.owner.map fun owner => (⟨owner, name⟩ : FunctionId)) = _
    rw [howner]
    rfl

/-- The index holds the first declaration of each identity under the owner of its scope, and a type
is known for a name exactly where it has a method of it.  This is what decides the calls of methods,
on `self` and on anything else. -/
theorem indexesFunctions_ofFiles (files : List SourceFile) (hids : Apart SourceFile.ids files) :
    IndexesFunctions files where
  declared := isSome_function?_ofFiles_iff files
  first _ _ := function?_eq_some_iff_first hids
  keyed id function hfunction := by
    have hid := id_of_function? hfunction
    refine ⟨hid, ?_⟩
    rw [← hid]
    exact keyedByScope_of_function? hfunction
  self_call _ _ := callee?_self
  tables := tables_eq files
  nodup_owners := (consistent_tables files).nodup_owners
  mem_owners_iff := mem_ownersOf_iff files
  call_one scope name := (methodCall_callee? files scope name).eq_method_iff
  call_intrinsic scope name := (methodCall_callee? files scope name).eq_intrinsic_iff
  call_several scope name := (methodCall_callee? files scope name).eq_none_iff

/-- A free function with the identity of a method, and a method that is written twice. -/
def repeatsEdge : List SourceFile :=
  [⟨"shaders", "shaders.rs",
      "mod Mesh { fn area() {} } impl Mesh { fn area() {} fn edge() {} fn edge() {} }"⟩,
    ⟨"shaders::math", "math.rs", "fn area() {}"⟩]

/-- The free function takes the identity, and the method that is written twice is called by its name
alone. -/
theorem repeatsEdge_indexed :
    Apart SourceFile.ids repeatsEdge ∧ (ofFiles repeatsEdge).ownersOf "area" = [] ∧
      (ofFiles repeatsEdge).ownersOf "edge" = ["shaders::Mesh"] ∧ IndexesFunctions repeatsEdge := by
  have hids : Apart SourceFile.ids repeatsEdge := by
    decide +kernel
  have howners : (ofFiles repeatsEdge).ownersOf "area" = [] ∧
      (ofFiles repeatsEdge).ownersOf "edge" = ["shaders::Mesh"] := by
    decide +kernel
  exact ⟨hids, howners.1, howners.2, indexesFunctions_ofFiles repeatsEdge hids⟩

end SymbolIndex

end ShaderCalls
