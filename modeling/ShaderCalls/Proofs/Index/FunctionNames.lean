import ShaderCalls.Proofs.FunctionId
import ShaderCalls.Proofs.Graph.Calls
import ShaderCalls.Proofs.Index.DeclarationPlaces
import ShaderCalls.Proofs.Index.FirstDeclared
import ShaderCalls.Proofs.Source.DeclaredNames

/-!
# The names of functions in an index

An index knows its functions by identifiers.  They hold no colon, so the text of an identity tells
where the owner ends and the name begins.
-/

namespace ShaderCalls

open Source (Item IsIdentifier)

/-! ## Declared names -/

theorem colon_notMem_of_isIdentifier {text : String} (htext : IsIdentifier text) :
    ':' ∉ text.toList :=
  htext.notMem (by decide) (by decide) (by decide)

theorem Source.Item.good_of_declarationAt? {good : String → Prop} {path module : String}
    {imports : List Import} {item : Item} {place : List Nat} {declared : DeclaredFunction}
    (hnames : item.Names good)
    (hplace : item.declarationAt? path module imports place = some declared) :
    good declared.id.name := by
  fun_induction Item.declarationAt? path module imports item place with
  | case1 =>
      cases hplace
      cases hnames with
      | function hname => exact hname
  | case2 =>
      obtain ⟨method, hmethod, rfl⟩ := Option.map_eq_some_iff.mp hplace
      cases hnames with
      | implementation _ hmethods => exact hmethods method (List.mem_of_getElem? hmethod)
  | case3 _ _ _ _ _ _ _ ih =>
      obtain ⟨item, hitem, hinner⟩ := Option.bind_eq_some_iff.mp hplace
      cases hnames with
      | module _ hitems => exact ih item (hitems item (List.mem_of_getElem? hitem)) hinner
  | case4 => contradiction

theorem SourceFile.isIdentifier_of_declarationAt? {file : SourceFile} {place : List Nat}
    {declared : DeclaredFunction} (hplace : file.declarationAt? place = some declared) :
    IsIdentifier declared.id.name := by
  obtain ⟨items, hitems, hparts⟩ := Option.bind_eq_some_iff.mp hplace
  have hnames := Item.names_of_ofSource? hitems
  cases place with
  | nil => contradiction
  | cons index rest =>
      obtain ⟨item, hitem, hdeclared⟩ := Option.bind_eq_some_iff.mp hparts
      exact Item.good_of_declarationAt? (hnames item (List.mem_of_getElem? hitem)) hdeclared

namespace SymbolIndex

variable {files : List SourceFile} {id : FunctionId}

/-- The index knows functions by identifiers alone. -/
theorem isIdentifier_of_function? {function : DeclaredFunction}
    (hfunction : (ofFiles files).function? id = some function) : IsIdentifier id.name := by
  rw [← id_of_function? hfunction]
  rw [function?_ofFiles] at hfunction
  obtain ⟨file, _, place, hplace⟩ :=
    Outline.exists_place_of_mem_ofFiles (List.mem_of_find?_eq_some hfunction)
  exact file.isIdentifier_of_declarationAt? hplace

theorem colon_notMem_of_declared (hdeclared : Declared (ofFiles files).resolver.declaration? id) :
    ':' ∉ id.name.toList := by
  obtain ⟨declaration, hdeclaration⟩ := Option.isSome_iff_exists.mp hdeclared
  obtain ⟨function, hfunction, _⟩ := Option.map_eq_some_iff.mp hdeclaration
  exact colon_notMem_of_isIdentifier (isIdentifier_of_function? hfunction)

end SymbolIndex

end ShaderCalls
