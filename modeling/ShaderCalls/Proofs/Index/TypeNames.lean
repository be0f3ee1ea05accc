import ShaderCalls.Proofs.Index.IdentityTexts
import ShaderCalls.Proofs.Index.Owners

/-!
# The only type of a name

A name that nothing nearer gives a meaning to stands for the only indexed type that ends in it.  A
declaration of a type goes into two tables: the set of all types, which has a type once, and the
types under each name, where it stands once for each declaration.  So a type that is declared for
each of several configurations counts as several under its name, and is not found.
-/

namespace ShaderCalls

open ModulePath
open Source (Item IsIdentifier)

/-- The last segment of a qualified name. -/
def Text.lastSegment (name : String) : String :=
  match splitLastColons name.toList with
  | some (_, last) => String.ofList last
  | none => name

/-- What is declared in a module ends in its own name, whatever the name of the module is. -/
theorem Text.lastSegment_child (module : String) {name : String} (hname : ':' ∉ name.toList) :
    lastSegment (child module name) = name := by
  have hsplit : splitLastColons (child module name).toList =
      some (module.toList, name.toList) := by
    rw [← splitLastColons_append module.toList hname]
    simp [child]
  simp [lastSegment, hsplit]

namespace Outline

/-- The qualified name of each type ends in its own name. -/
def TypesEndInNames (outline : Outline) : Prop :=
  ∀ declared ∈ outline.types, Text.lastSegment declared.qualified = declared.name

theorem TypesEndInNames.append {left right : Outline} (hleft : left.TypesEndInNames)
    (hright : right.TypesEndInNames) : (left ++ right).TypesEndInNames :=
  fun declared hmem => (List.mem_append.mp hmem).elim (hleft declared) (hright declared)

theorem typesEndInNames_of_nil {outline : Outline} (hnil : outline.types = []) :
    outline.TypesEndInNames := by
  intro declared hmem
  rw [hnil] at hmem
  contradiction

mutual

theorem typesEndInNames_ofItem (path module : String) (imports : List Import) :
    ∀ item : Item, item.Names IsIdentifier → (ofItem path module imports item).TypesEndInNames
  | .function _, _ => typesEndInNames_of_nil rfl
  | .implementation (some _) _, _ => typesEndInNames_of_nil rfl
  | .implementation none _, _ => typesEndInNames_of_nil rfl
  | .type name, hnames => by
      cases hnames with
      | type hname =>
          intro declared hmem
          rw [List.mem_singleton.mp hmem]
          exact Text.lastSegment_child module (colon_notMem_of_isIdentifier hname)
  | .module name (some items), hnames => by
      cases hnames with
      | module _ hitems =>
          rw [ofItem]
          exact (typesEndInNames_of_nil rfl).append (typesEndInNames_ofItems path _ _ items hitems)
  | .module _ none, _ => typesEndInNames_of_nil rfl
  | .use _, _ => typesEndInNames_of_nil rfl
  | .other, _ => typesEndInNames_of_nil rfl

theorem typesEndInNames_ofItems (path module : String) (imports : List Import) :
    ∀ items : List Item, (∀ item ∈ items, item.Names IsIdentifier) →
      (ofItems path module imports items).TypesEndInNames
  | [], _ => typesEndInNames_of_nil rfl
  | item :: rest, hnames => by
      obtain ⟨hitem, hrest⟩ := List.forall_mem_cons.mp hnames
      rw [ofItems]
      exact (typesEndInNames_ofItem path module imports item hitem).append
        (typesEndInNames_ofItems path module imports rest hrest)

end

theorem typesEndInNames_ofFile (file : SourceFile) : (ofFile file).TypesEndInNames := by
  unfold ofFile
  split
  · next items hitems =>
      exact (typesEndInNames_of_nil rfl).append
        (typesEndInNames_ofItems _ _ _ items (Item.names_of_ofSource? hitems))
  · exact typesEndInNames_of_nil rfl

theorem typesEndInNames_ofFiles (files : List SourceFile) : (ofFiles files).TypesEndInNames := by
  induction files with
  | nil => exact typesEndInNames_of_nil rfl
  | cons file rest ih => exact (typesEndInNames_ofFile file).append ih

end Outline

/-! ## The tables, declaration by declaration -/

/-- The types so far, and those that are declared under each name. -/
structure TypeTables where
  types : List String := []
  lookup : String → List String := fun _ => []

namespace TypeTables

/-- Enters a declaration.  A type that is in the set stays there as it is, but is entered under its
name again. -/
def insert (tables : TypeTables) (declared : DeclaredType) : TypeTables where
  types := tables.types.insert declared.qualified
  lookup name :=
    if declared.name = name then tables.lookup name ++ [declared.qualified]
    else tables.lookup name

/-- The tables of declarations that are entered one after the other. -/
def ofTypes (declarations : List DeclaredType) : TypeTables :=
  declarations.foldl insert {}

end TypeTables

namespace SymbolIndex

/-- The index answers from its declarations of types as two tables would. -/
structure HasTypeTables (index : SymbolIndex) (tables : TypeTables) : Prop where
  nodup_types : tables.types.Nodup
  mem_types_iff : ∀ type, type ∈ tables.types ↔ index.hasType type
  lookup_eq : ∀ name, tables.lookup name = index.typesNamed name

/-- One more declaration keeps the tables in accord with the index. -/
theorem HasTypeTables.insert {index : SymbolIndex} {tables : TypeTables}
    (htables : index.HasTypeTables tables) (declared : DeclaredType) :
    HasTypeTables { index with types := index.types ++ [declared] } (tables.insert declared) where
  nodup_types := htables.nodup_types.insert
  mem_types_iff type := by
    rw [TypeTables.insert, List.mem_insert_iff, htables.mem_types_iff]
    simp only [hasType, List.any_append, List.any_cons, List.any_nil, Bool.or_false,
      Bool.or_eq_true, beq_iff_eq]
    rw [or_comm, @eq_comm _ type]
  lookup_eq name := by
    simp only [TypeTables.insert, htables.lookup_eq, typesNamed, List.filter_append,
      List.map_append]
    by_cases hname : declared.name = name <;> simp [hname]

/-- An index has the tables that its declarations of types are entered into one by one. -/
theorem hasTypeTables_ofTypes (index : SymbolIndex) :
    index.HasTypeTables (TypeTables.ofTypes index.types) := by
  suffices hall : ∀ types : List DeclaredType,
      HasTypeTables { index with types := types } (TypeTables.ofTypes types) from hall index.types
  intro types
  induction types using List.reverseRecOn with
  | nil => exact ⟨List.nodup_nil, by simp [TypeTables.ofTypes, hasType], fun _ => rfl⟩
  | append_singleton before declared ih =>
      rw [TypeTables.ofTypes, List.foldl_append]
      exact ih.insert declared

/-! ## The types of a name -/

/-- How many declarations of a type the index has read. -/
def declarations (index : SymbolIndex) (type : String) : Nat :=
  index.types.countP (·.qualified == type)

theorem hasType_iff {index : SymbolIndex} {type : String} :
    index.hasType type ↔ 0 < index.declarations type := by
  rw [hasType, declarations, List.countP_pos_iff, List.any_eq_true]

/-- A name lists each type that ends in it as often as the type is declared, and no other type. -/
theorem count_typesNamed (files : List SourceFile) (name type : String) :
    ((ofFiles files).typesNamed name).count type =
      if Text.lastSegment type = name then (ofFiles files).declarations type else 0 := by
  have hnamed : ∀ declared ∈ (ofFiles files).types,
      ((declared.qualified == type && declared.name == name) ↔
        (Text.lastSegment type = name ∧ declared.qualified = type)) := by
    intro declared hmem
    have hlast := Outline.typesEndInNames_ofFiles files declared hmem
    rw [Bool.and_eq_true, beq_iff_eq, beq_iff_eq, ← hlast]
    constructor
    · rintro ⟨rfl, rfl⟩
      exact ⟨rfl, rfl⟩
    · rintro ⟨hname, rfl⟩
      exact ⟨rfl, hname⟩
  rw [typesNamed, List.count_eq_countP, List.countP_map, List.countP_filter, declarations]
  split
  · next hname =>
      exact List.countP_congr fun declared hmem => by simpa [hname] using hnamed declared hmem
  · next hname =>
      exact List.countP_eq_zero.mpr fun declared hmem => by simpa [hname] using hnamed declared hmem

/-- A name that is neither imported nor declared in the module nor matched by a glob import, and a
type that is the only indexed one to end in it. -/
@[mk_iff]
structure NamesOnly (index : SymbolIndex) (scope : Scope) (name type : String) : Prop where
  ne_self : name ≠ "Self"
  not_imported : index.import? scope.module name = none
  not_here : index.hasType (child scope.module name) = false
  not_globbed : ∀ candidate ∈ index.globCandidates scope.module name,
    index.hasType candidate = false
  indexed : index.hasType type
  lastSegment_eq : Text.lastSegment type = name
  only : ∀ declared ∈ index.types, Text.lastSegment declared.qualified = name →
    declared.qualified = type

instance (index : SymbolIndex) (scope : Scope) (name type : String) :
    Decidable (index.NamesOnly scope name type) :=
  decidable_of_iff' _ (namesOnly_iff index scope name type)

variable {files : List SourceFile} {scope : Scope} {name type : String}

/-- The only type of a name stands under it once for each of its declarations. -/
theorem NamesOnly.typesNamed_eq (honly : (ofFiles files).NamesOnly scope name type) :
    (ofFiles files).typesNamed name =
      List.replicate ((ofFiles files).declarations type) type := by
  have hall : ∀ other ∈ (ofFiles files).typesNamed name, other = type := by
    intro other hother
    obtain ⟨declared, hdeclared, rfl⟩ := List.mem_map.mp hother
    obtain ⟨hindexed, hname⟩ := List.mem_filter.mp hdeclared
    apply honly.only declared hindexed
    rw [Outline.typesEndInNames_ofFiles files declared hindexed]
    exact beq_iff_eq.mp hname
  have hlength : ((ofFiles files).typesNamed name).length = (ofFiles files).declarations type :=
    calc
      ((ofFiles files).typesNamed name).length = ((ofFiles files).typesNamed name).count type :=
        (List.count_eq_length.mpr fun other hother => (hall other hother).symm).symm
      _ = (ofFiles files).declarations type := by
        rw [count_typesNamed, if_pos honly.lastSegment_eq]
  exact List.eq_replicate_iff.mpr ⟨hlength, hall⟩

/-- A name finds its only type if that stands under it once. -/
theorem NamesOnly.typeNamed?_eq (honly : (ofFiles files).NamesOnly scope name type) :
    (ofFiles files).typeNamed? scope name =
      if (ofFiles files).declarations type = 1 then some type else none := by
  have hglobbed : ((ofFiles files).globCandidates scope.module name).filter
      (ofFiles files).hasType = [] := by
    rw [List.filter_eq_nil_iff]
    exact fun candidate hmem => Bool.eq_false_iff.mp (honly.not_globbed candidate hmem)
  have hdeclared := hasType_iff.mp honly.indexed
  rw [typeNamed?_of_elsewhere honly.ne_self honly.not_imported honly.not_here, hglobbed,
    honly.typesNamed_eq]
  match hcount : (ofFiles files).declarations type with
  | 0 => omega
  | 1 => rfl
  | _ + 2 => rfl

/-- A name lists each type that ends in it as often as the type is declared, and no other type.  So
the only type that ends in it is found under it if it is declared once, and nothing if it is
declared again.  The set of types has each type once in either case. -/
theorem typeNamed?_only (files : List SourceFile) (name type : String) :
    ((ofFiles files).typesNamed name).count type =
      (if Text.lastSegment type = name then (ofFiles files).declarations type else 0) ∧
    (∀ scope, (ofFiles files).NamesOnly scope name type →
      (ofFiles files).typeNamed? scope name =
        if (ofFiles files).declarations type = 1 then some type else none) ∧
    (ofFiles files).HasTypeTables (TypeTables.ofTypes (Outline.ofFiles files).types) :=
  ⟨count_typesNamed files name type, fun _ honly => honly.typeNamed?_eq,
    hasTypeTables_ofTypes (ofFiles files)⟩

/-- A type with a method, and a module that calls the method by the name of the type alone. -/
def callsLight (declarations : String) : List SourceFile :=
  [⟨"shaders::model", "model.rs", declarations ++ " impl Light { pub fn on() {} }"⟩,
    ⟨"shaders::scene", "scene.rs", "fn f() { Light::on(); }"⟩]

theorem callsLight_finds_type :
    let index := ofFiles (callsLight "pub struct Light;")
    index.NamesOnly ⟨"shaders::scene", none⟩ "Light" "shaders::model::Light" ∧
    index.typeNamed? ⟨"shaders::scene", none⟩ "Light" = some "shaders::model::Light" := by
  have hindex : (ofFiles (callsLight "pub struct Light;")).NamesOnly ⟨"shaders::scene", none⟩
        "Light" "shaders::model::Light" ∧
      (ofFiles (callsLight "pub struct Light;")).declarations "shaders::model::Light" = 1 := by
    decide +kernel
  obtain ⟨honly, honce⟩ := hindex
  refine ⟨honly, ?_⟩
  rw [(typeNamed?_only _ "Light" "shaders::model::Light").2.1 _ honly, if_pos honce]

/-- A declaration for each of two configurations. -/
def lightTwice : String :=
  "#[cfg(a)] pub struct Light; #[cfg(b)] pub struct Light;"

/-- The second declaration hides the type, and the call names nothing that is declared. -/
theorem callsLight_misses_type :
    let index := ofFiles (callsLight lightTwice)
    index.NamesOnly ⟨"shaders::scene", none⟩ "Light" "shaders::model::Light" ∧
    index.typesNamed "Light" = ["shaders::model::Light", "shaders::model::Light"] ∧
    index.functions.map (fun caller =>
      (caller.id, caller.sites.map fun site => index.callee? caller.scope site.target)) =
      [(⟨"shaders::model::Light", "on"⟩, []),
        (⟨"shaders::scene", "f"⟩, [some ⟨"Light", "on"⟩])] := by
  decide +kernel

end SymbolIndex

end ShaderCalls
