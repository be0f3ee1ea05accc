import ShaderCalls.Proofs.Index.FunctionNames
import ShaderCalls.Proofs.Index.GlobImports

/-!
# Texts of indexed identities

The text of an indexed identity is read back as the identity, unless the owner is empty or begins
with a blank: an identity without an owner is refused, and blanks around a text are dropped.  The
owners of an index begin like the module of a file or with a word of a file, so they are neither
where the modules of the files begin with a name.
-/

namespace ShaderCalls

open ModulePath (child relative)
open Source (Item IsIdentifier IsPathOf UseTree)
open Text (isBlank qualified segments)

/-! ## Reading texts back -/

theorem Source.IsIdentifier.not_isBlank {text : String} (htext : IsIdentifier text) :
    ∀ char ∈ text.toList, ¬ isBlank char := by
  intro char hchar hblank
  obtain ⟨hstarts, hcontinues, hmark⟩ := Text.not_identifier_of_isBlank hblank
  exact htext.notMem hstarts hcontinues hmark hchar

namespace FunctionId

/-- A text begins with something else than a blank. -/
def HasFront (text : String) : Prop :=
  ∃ first more, text.toList = first :: more ∧ ¬ isBlank first

/-- An identity with an identifier for a name is read back from its text exactly if its owner is
not empty and begins with no blank. -/
theorem parse?_text_iff {id : FunctionId} (hname : IsIdentifier id.name) :
    parse? id.text = some id ↔ HasFront id.owner := by
  have hcolon := colon_notMem_of_isIdentifier hname
  rw [parse?_text_iff_readsBack]
  constructor
  · intro hid
    obtain ⟨first, more, hchars⟩ :=
      List.exists_cons_of_ne_nil (mt String.toList_eq_nil_iff.mp hid.owner_ne)
    refine ⟨first, more, hchars, hid.front first ?_⟩
    rw [hchars]
    rfl
  · rintro ⟨first, more, hchars, hfirst⟩
    exact {
      owner_ne := by
        intro hempty
        rw [hempty] at hchars
        contradiction
      name_ne := fun hempty => hname.ne_nil (String.toList_eq_nil_iff.mpr hempty)
      no_colons := fun hcolons => hcolon (hcolons.subset List.mem_cons_self)
      no_third := fun hfront => hcolon (List.mem_of_head? hfront)
      front := by
        rw [hchars]
        rintro _ ⟨⟩
        exact hfirst
      back := fun char hchar => hname.not_isBlank char (List.mem_of_getLast? hchar) }

end FunctionId

/-! ## Beginnings of names -/

/-- A text begins with neither a blank nor a colon. -/
def BeginsName (text : String) : Prop :=
  ∃ first more, text.toList = first :: more ∧ ¬ isBlank first ∧ first ≠ ':'

/-- The first segment of a path begins like a name. -/
def BeginsPath (path : List String) : Prop :=
  ∃ first rest, path = first :: rest ∧ BeginsName first

namespace BeginsName

variable {text module name : String}

theorem hasFront (htext : BeginsName text) : FunctionId.HasFront text := by
  obtain ⟨first, more, hchars, hblank, _⟩ := htext
  exact ⟨first, more, hchars, hblank⟩

theorem of_isIdentifier (htext : IsIdentifier text) : BeginsName text := by
  obtain ⟨first, more, hchars⟩ := List.exists_cons_of_ne_nil htext.ne_nil
  have hfirst : first ∈ text.toList := by
    rw [hchars]
    exact List.mem_cons_self
  refine ⟨first, more, hchars, htext.not_isBlank first hfirst, ?_⟩
  rintro rfl
  exact colon_notMem_of_isIdentifier htext hfirst

theorem append (htext : BeginsName text) (more : String) : BeginsName (text ++ more) := by
  obtain ⟨first, rest, hchars, hfirst⟩ := htext
  exact ⟨first, rest ++ more.toList, by rw [String.toList_append, hchars, List.cons_append], hfirst⟩

theorem child (hmodule : BeginsName module) (name : String) :
    BeginsName (ModulePath.child module name) :=
  (hmodule.append "::").append name

/-- The first segment of a module begins like the module. -/
theorem segments (hmodule : BeginsName module) : BeginsPath (Text.segments module) := by
  obtain ⟨first, more, hchars, hblank, hcolon⟩ := hmodule
  have hsplit : ∃ front rest, Text.splitColons (first :: more) = (first :: front) :: rest := by
    obtain ⟨front, rest, hrest⟩ := List.exists_cons_of_ne_nil (Text.splitColons_ne_nil more)
    refine ⟨front, rest, ?_⟩
    rw [Text.splitColons, hrest]
    intro after hfirst _
    exact hcolon hfirst
  obtain ⟨front, rest, hsplit⟩ := hsplit
  refine ⟨String.ofList (first :: front), rest.map String.ofList, ?_, first, front, ?_, hblank,
    hcolon⟩
  · rw [Text.segments, hchars, hsplit, List.map_cons]
  · exact String.toList_ofList

end BeginsName

namespace BeginsPath

variable {module : String} {path : List String}

theorem of_isPathOf (hpath : IsPathOf IsIdentifier path) : BeginsPath path := by
  obtain ⟨first, rest, rfl⟩ := List.exists_cons_of_ne_nil hpath.1
  exact ⟨first, rest, rfl, .of_isIdentifier (hpath.2 first List.mem_cons_self)⟩

theorem qualified (hpath : BeginsPath path) : BeginsName (Text.qualified path) := by
  obtain ⟨first, rest, rfl, hfirst⟩ := hpath
  cases rest with
  | nil =>
      rw [Text.qualified_singleton]
      exact hfirst
  | cons second more =>
      rw [← List.singleton_append, Text.qualified_append (List.cons_ne_nil _ _)
        (List.cons_ne_nil _ _), Text.qualified_singleton]
      exact (hfirst.append "::").append _

/-- A path of words stands for one that begins like the module or with a word. -/
theorem relative (hmodule : BeginsName module) (hpath : IsPathOf IsIdentifier path) :
    BeginsPath (ModulePath.relative module path) := by
  obtain ⟨first, rest, rfl⟩ := List.exists_cons_of_ne_nil hpath.1
  cases hfirst : ModulePath.isKeyword first with
  | true =>
      obtain ⟨root, inner, hroot, hname⟩ := hmodule.segments
      obtain ⟨more, hmore⟩ := SymbolIndex.exists_relative_keyword hroot rest hfirst
      exact ⟨root, more, hmore, hname⟩
  | false =>
      rw [ModulePath.relative_of_not_keyword module hfirst]
      exact of_isPathOf hpath

end BeginsPath

/-! ## Owners -/

mutual

/-- The names of a `use` tree stand for paths that begin like names: there is a segment in each. -/
theorem UseLeaf.beginsPath_of_mem_ofTree {module : String} (hmodule : BeginsName module)
    {name : String} {path : List String} : ∀ (tree : UseTree) (above : List String),
      (∀ segment ∈ above, IsIdentifier segment) → tree.Names IsIdentifier →
        .binding name path ∈ UseLeaf.ofTree module above tree → BeginsPath path
  | .path segment rest, above, habove, hnames, hmem => by
      cases hnames with
      | path hsegment hrest =>
          rw [UseLeaf.ofTree] at hmem
          refine beginsPath_of_mem_ofTree hmodule rest _ ?_ hrest hmem
          exact List.forall_mem_append.mpr ⟨habove, List.forall_mem_singleton.mpr hsegment⟩
  | .name word, above, habove, hnames, hmem => by
      cases hnames with
      | name hname =>
          rw [UseLeaf.ofTree] at hmem
          split at hmem
          · cases hlast : above.getLast? with
            | none => simp [hlast] at hmem
            | some last =>
                have hnonempty : above ≠ [] := by
                  rintro rfl
                  contradiction
                simp only [hlast, List.mem_singleton, UseLeaf.binding.injEq] at hmem
                rw [hmem.2]
                exact .relative hmodule ⟨hnonempty, habove⟩
          · cases List.mem_singleton.mp hmem
            exact .relative hmodule (.concat habove hname)
  | .rename word newName, above, habove, hnames, hmem => by
      cases hnames with
      | rename hname _ =>
          cases List.mem_singleton.mp hmem
          exact .relative hmodule (.concat habove hname)
  | .glob, above, _, _, hmem => by
      simp [UseLeaf.ofTree] at hmem
  | .group trees, above, habove, hnames, hmem => by
      cases hnames with
      | group htrees =>
          rw [UseLeaf.ofTree] at hmem
          exact beginsPath_of_mem_ofTrees hmodule trees above habove htrees hmem

theorem UseLeaf.beginsPath_of_mem_ofTrees {module : String} (hmodule : BeginsName module)
    {name : String} {path : List String} : ∀ (trees : List UseTree) (above : List String),
      (∀ segment ∈ above, IsIdentifier segment) → (∀ tree ∈ trees, tree.Names IsIdentifier) →
        .binding name path ∈ UseLeaf.ofTrees module above trees → BeginsPath path
  | [], _, _, _, hmem => by
      simp [UseLeaf.ofTrees] at hmem
  | tree :: rest, above, habove, hnames, hmem => by
      obtain ⟨htree, hrest⟩ := List.forall_mem_cons.mp hnames
      rw [UseLeaf.ofTrees, List.mem_append] at hmem
      rcases hmem with hmem | hmem
      · exact beginsPath_of_mem_ofTree hmodule tree above habove htree hmem
      · exact beginsPath_of_mem_ofTrees hmodule rest above habove hrest hmem

end

/-- The imports of a body stand for paths that begin like names. -/
theorem Outline.beginsPath_of_mem_imports {module : String} (hmodule : BeginsName module)
    {items : List Item} (hnames : ∀ item ∈ items, item.Names IsIdentifier) :
    ∀ found ∈ (Outline.ofModule module items).imports, BeginsPath found.path := by
  intro found hfound
  obtain ⟨leaf, hleaf, hsome⟩ := List.mem_filterMap.mp hfound
  obtain ⟨item, hitem, hleaf⟩ := List.mem_flatMap.mp hleaf
  cases item with
  | use tree =>
      cases hnames _ hitem with
      | use htree =>
          cases leaf with
          | binding name path =>
              cases hsome
              exact UseLeaf.beginsPath_of_mem_ofTree hmodule tree [] (List.forall_mem_nil _) htree
                hleaf
          | glob path => contradiction
  | _ => contradiction

theorem Outline.beginsName_implementedType {module : String} (hmodule : BeginsName module)
    {imports : List Import} (himports : ∀ found ∈ imports, BeginsPath found.path)
    {type : List String} (htype : IsPathOf IsIdentifier type) :
    BeginsName (Outline.implementedType module imports type) := by
  unfold Outline.implementedType
  split
  · split
    · next path hpath =>
        obtain ⟨found, hfound, rfl⟩ := Option.map_eq_some_iff.mp hpath
        exact (himports found (List.mem_reverse.mp (List.mem_of_find?_eq_some hfound))).qualified
    · exact hmodule.child _
  · exact (BeginsPath.relative hmodule htype).qualified

/-- The owners of the functions of an item begin like names. -/
theorem Source.Item.beginsName_of_declarationAt? {path module : String} {imports : List Import}
    {item : Item} {place : List Nat} {declared : DeclaredFunction} (hmodule : BeginsName module)
    (himports : ∀ found ∈ imports, BeginsPath found.path) (hnames : item.Names IsIdentifier)
    (hplace : item.declarationAt? path module imports place = some declared) :
    BeginsName declared.id.owner := by
  fun_induction Item.declarationAt? path module imports item place with
  | case1 =>
      cases hplace
      exact hmodule
  | case2 =>
      obtain ⟨method, _, rfl⟩ := Option.map_eq_some_iff.mp hplace
      cases hnames with
      | implementation htype _ =>
          exact Outline.beginsName_implementedType hmodule himports (htype _ rfl)
  | case3 module imports name items _ _ child ih =>
      obtain ⟨item, hitem, hinner⟩ := Option.bind_eq_some_iff.mp hplace
      cases hnames with
      | module _ hitems =>
          have hchild := hmodule.child name
          exact ih item hchild (Outline.beginsPath_of_mem_imports hchild hitems)
            (hitems item (List.mem_of_getElem? hitem)) hinner
  | case4 => contradiction

theorem SourceFile.beginsName_of_declarationAt? {file : SourceFile}
    (hmodule : BeginsName file.module) {place : List Nat} {declared : DeclaredFunction}
    (hplace : file.declarationAt? place = some declared) : BeginsName declared.id.owner := by
  obtain ⟨items, hitems, hparts⟩ := Option.bind_eq_some_iff.mp hplace
  have hnames := Item.names_of_ofSource? hitems
  cases place with
  | nil => contradiction
  | cons index rest =>
      obtain ⟨item, hitem, hdeclared⟩ := Option.bind_eq_some_iff.mp hparts
      exact Item.beginsName_of_declarationAt? hmodule
        (Outline.beginsPath_of_mem_imports hmodule hnames)
        (hnames item (List.mem_of_getElem? hitem)) hdeclared

namespace SymbolIndex

variable {files : List SourceFile} {id : FunctionId}

theorem exists_place_of_mem_identities (hid : id ∈ (ofFiles files).identities) :
    ∃ file ∈ files, ∃ place declared, file.declarationAt? place = some declared ∧
      declared.id = id := by
  obtain ⟨declared, hdeclared, rfl⟩ := List.mem_map.mp (List.mem_mergeSort.mp hid)
  obtain ⟨file, hfile, place, hplace⟩ :=
    Outline.exists_place_of_mem_ofFiles (DeclaredFunction.firstOfEach_subset _ hdeclared)
  exact ⟨file, hfile, place, declared, hplace, rfl⟩

/-- An identity of the index is read back from its text exactly if its owner has a front. -/
theorem parse?_text_iff_of_mem_identities (hid : id ∈ (ofFiles files).identities) :
    FunctionId.parse? id.text = some id ↔ FunctionId.HasFront id.owner := by
  obtain ⟨file, _, place, declared, hplace, rfl⟩ := exists_place_of_mem_identities hid
  exact FunctionId.parse?_text_iff (file.isIdentifier_of_declarationAt? hplace)

/-- Where the modules of all files begin like names, all identities are read back. -/
theorem parse?_text_of_mem_identities (hmodules : ∀ file ∈ files, BeginsName file.module)
    (hid : id ∈ (ofFiles files).identities) : FunctionId.parse? id.text = some id := by
  rw [parse?_text_iff_of_mem_identities hid]
  obtain ⟨file, hfile, place, declared, hplace, rfl⟩ := exists_place_of_mem_identities hid
  exact (file.beginsName_of_declarationAt? (hmodules file hfile) hplace).hasFront

end SymbolIndex

end ShaderCalls
