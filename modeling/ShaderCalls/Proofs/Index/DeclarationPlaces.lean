import Mathlib.Data.List.Induction
import Mathlib.Data.List.Lex
import Mathlib.Data.List.Sort
import ShaderCalls.Index.Outline
import ShaderCalls.Proofs.Lists

/-!
# The places of declarations

A place is a list of numbers that leads from the items of a file, through inline modules, to a
function or to a method of an `impl` block.  The outline of a file lists what is declared at its
places in lexicographic order: an item before the items behind it, and the items of an inline module
where the module stands.  So the first declaration that passes a test is the one at the least place.
-/

namespace ShaderCalls

open Source (Item)

/-! ## Lists in the order of places -/

section

variable {α β : Type}

/-- What stands at a place that begins with the number of a part. -/
def inParts (at? : β → List Nat → Option α) (parts : List β) : List Nat → Option α
  | [] => none
  | index :: rest => parts[index]?.bind fun part => at? part rest

/-- Something that stands at a place has nothing inside. -/
def atRoot (element : α) : List Nat → Option α
  | [] => some element
  | _ :: _ => none

theorem inParts_concat {at? : β → List Nat → Option α} (parts : List β) (last : β)
    (place : List Nat) (element : α) :
    inParts at? (parts ++ [last]) place = some element ↔
      inParts at? parts place = some element ∨
        ∃ rest, place = parts.length :: rest ∧ at? last rest = some element := by
  cases place with
  | nil => simp [inParts]
  | cons index rest =>
      simp only [inParts, Option.bind_eq_some_iff, getElem?_concat_eq_some_iff]
      grind

theorem exists_cons_of_inParts {at? : β → List Nat → Option α} {parts : List β} {place : List Nat}
    {element : α} (hplace : inParts at? parts place = some element) :
    ∃ index rest, place = index :: rest ∧ index < parts.length := by
  cases place with
  | nil => contradiction
  | cons index rest =>
      obtain ⟨part, hpart, _⟩ := Option.bind_eq_some_iff.mp hplace
      obtain ⟨hlt, _⟩ := List.getElem?_eq_some_iff.mp hpart
      exact ⟨index, rest, rfl, hlt⟩

/-- The list holds what stands at places, each with its place, in the order of the places. -/
structure Placed (at? : List Nat → Option α) (elements : List α)
    (placed : List (List Nat × α)) : Prop where
  elements_eq : placed.map (·.2) = elements
  ascending : (placed.map (·.1)).Pairwise (· < ·)
  mem_iff : ∀ place element, (place, element) ∈ placed ↔ at? place = some element

namespace Placed

theorem nil {at? : List Nat → Option α} (hnone : ∀ place, at? place = none) :
    Placed at? [] [] where
  elements_eq := rfl
  ascending := .nil
  mem_iff := by simp [hnone]

theorem root (element : α) : Placed (atRoot element) [element] [([], element)] where
  elements_eq := rfl
  ascending := List.pairwise_singleton _ _
  mem_iff := by
    intro place other
    cases place <;> simp [atRoot, eq_comm]

/-- One more part behind others: the places in it begin with its number. -/
theorem concat {at? : β → List Nat → Option α} {parts : List β} {last : β} {front back : List α}
    {before behind : List (List Nat × α)} (hbefore : Placed (inParts at? parts) front before)
    (hbehind : Placed (at? last) back behind) :
    Placed (inParts at? (parts ++ [last])) (front ++ back)
      (before ++ behind.map fun entry => (parts.length :: entry.1, entry.2)) where
  elements_eq := by
    rw [List.map_append, List.map_map, hbefore.elements_eq, ← hbehind.elements_eq]
    rfl
  ascending := by
    apply pairwise_append_numbered hbefore.ascending hbehind.ascending
    intro entry hentry
    exact exists_cons_of_inParts ((hbefore.mem_iff _ _).mp hentry)
  mem_iff := by
    intro place element
    rw [inParts_concat, ← hbefore.mem_iff, List.mem_append, List.mem_map]
    simp only [← hbehind.mem_iff]
    grind

theorem exists_inParts {at? : β → List Nat → Option α} {elements : β → List α} {parts : List β}
    (hparts : ∀ part ∈ parts, ∃ placed, Placed (at? part) (elements part) placed) :
    ∃ placed, Placed (inParts at? parts) (parts.flatMap elements) placed := by
  -- From the right: the number of the last part is the number of parts before it.
  induction parts using List.reverseRecOn with
  | nil =>
      refine ⟨[], .nil fun place => ?_⟩
      cases place <;> rfl
  | append_singleton parts last ih =>
      obtain ⟨before, hbefore⟩ := ih fun part hpart => hparts part (by simp [hpart])
      obtain ⟨behind, hbehind⟩ := hparts last (by simp)
      rw [List.flatMap_append, List.flatMap_singleton]
      exact ⟨_, hbefore.concat hbehind⟩

variable {at? : List Nat → Option α} {elements : List α} {placed : List (List Nat × α)}

theorem mem_elements_iff (hplaced : Placed at? elements placed) {element : α} :
    element ∈ elements ↔ ∃ place, at? place = some element := by
  rw [← hplaced.elements_eq, List.mem_map]
  constructor
  · rintro ⟨⟨place, _⟩, hmem, rfl⟩
    exact ⟨place, (hplaced.mem_iff _ _).mp hmem⟩
  · rintro ⟨place, hplace⟩
    exact ⟨(place, element), (hplaced.mem_iff _ _).mpr hplace, rfl⟩

theorem least_of_find? (hplaced : Placed at? elements placed) {test : α → Bool} {found : α}
    (hfound : elements.find? test = some found) :
    ∃ place, at? place = some found ∧
      ∀ other element, at? other = some element → test element → place ≤ other := by
  rw [← hplaced.elements_eq, List.find?_map, Option.map_eq_some_iff] at hfound
  obtain ⟨⟨place, _⟩, hfind, rfl⟩ := hfound
  obtain ⟨_, before, behind, hsplit, hbefore⟩ := List.find?_eq_some_iff_append.mp hfind
  have hmem := List.mem_of_find?_eq_some hfind
  refine ⟨place, (hplaced.mem_iff _ _).mp hmem, ?_⟩
  intro other element hother htest
  have hother := (hplaced.mem_iff _ _).mpr hother
  have hascending := hplaced.ascending
  rw [hsplit] at hother hascending
  rcases List.mem_append.mp hother with hearly | hlate
  · exact absurd htest (by simpa using hbefore _ hearly)
  · rcases List.mem_cons.mp hlate with heq | hlate
    · cases heq
      exact le_rfl
    · have hpairs := List.pairwise_append.mp (List.pairwise_map.mp hascending)
      exact (List.rel_of_pairwise_cons hpairs.2.1 hlate).le

/-- The first element that passes a test is the one at the least place. -/
theorem find?_eq_some_iff (hplaced : Placed at? elements placed) {test : α → Bool} {found : α} :
    elements.find? test = some found ↔ ∃ place, at? place = some found ∧ test found ∧
      ∀ other element, at? other = some element → test element → place ≤ other := by
  constructor
  · intro hfound
    obtain ⟨place, hplace, hleast⟩ := hplaced.least_of_find? hfound
    exact ⟨place, hplace, List.find?_some hfound, hleast⟩
  · rintro ⟨place, hplace, htest, hleast⟩
    have hmem : found ∈ elements := hplaced.mem_elements_iff.mpr ⟨place, hplace⟩
    obtain ⟨first, hfirst⟩ := Option.isSome_iff_exists.mp (List.find?_isSome.mpr ⟨_, hmem, htest⟩)
    obtain ⟨other, hother, hleast'⟩ := hplaced.least_of_find? hfirst
    have hsame : place = other := by
      apply le_antisymm
      · exact hleast other first hother (List.find?_some hfirst)
      · exact hleast' place found hplace htest
    rw [hsame] at hplace
    rw [hfirst, ← hother, hplace]

end Placed

end

/-! ## Declarations of a file -/

/-- The function that an item declares at a place inside it, where `module` and `imports` are the
module around the item and the imports beside it: the item itself, the method of an `impl` block on
the path of a type, or a declaration in an inline module. -/
def Source.Item.declarationAt? (path module : String) (imports : List Import) :
    Item → List Nat → Option DeclaredFunction
  | .function declared, [] => some (.ofFunction path ⟨module, none⟩ declared)
  | .implementation (some owner) methods, [number] =>
    methods[number]?.map
      (.ofFunction path ⟨module, some (Outline.implementedType module imports owner)⟩)
  | .module name (some items), index :: rest =>
    let child := ModulePath.child module name
    items[index]?.bind fun item =>
      item.declarationAt? path child (Outline.ofModule child items).imports rest
  | _, _ => none

/-- The function that a file declares at a place; none if the file is not well formed. -/
def SourceFile.declarationAt? (file : SourceFile) (place : List Nat) : Option DeclaredFunction :=
  (Item.ofSource? file.text).bind fun items =>
    inParts (Item.declarationAt? file.path file.module (Outline.ofModule file.module items).imports)
      items place

namespace Outline

variable {path module : String} {imports : List Import}

theorem functions_ofItems (items : List Item) :
    (ofItems path module imports items).functions =
      items.flatMap fun item => (ofItem path module imports item).functions := by
  induction items with
  | nil => rfl
  | cons item rest ih =>
      rw [List.flatMap_cons, ← ih]
      rfl

/-- A method stands at its number in the block. -/
theorem exists_placed_methods (type : List String) (methods : List Source.Function) :
    ∃ placed, Placed (Item.declarationAt? path module imports (.implementation (some type) methods))
      (ofItem path module imports (.implementation (some type) methods)).functions placed := by
  have hat : Item.declarationAt? path module imports (.implementation (some type) methods) =
      inParts (fun method => atRoot (.ofFunction path
        ⟨module, some (implementedType module imports type)⟩ method)) methods := by
    funext place
    match place with
    | [] => rfl
    | [number] =>
        rw [inParts, Item.declarationAt?]
        cases methods[number]? <;> rfl
    | number :: _ :: _ =>
        rw [inParts]
        cases methods[number]? <;> rfl
  have hfunctions :
      (ofItem path module imports (.implementation (some type) methods)).functions =
        methods.flatMap fun method => [.ofFunction path
          ⟨module, some (implementedType module imports type)⟩ method] :=
    List.map_eq_flatMap
  rw [hat, hfunctions]
  exact Placed.exists_inParts fun method _ => ⟨_, .root _⟩

mutual

theorem exists_placed_ofItem (path module : String) (imports : List Import) : ∀ item : Item,
    ∃ placed, Placed (item.declarationAt? path module imports)
      (ofItem path module imports item).functions placed
  | .function declared => by
      have hat : Item.declarationAt? path module imports (.function declared) =
          atRoot (.ofFunction path ⟨module, none⟩ declared) := by
        funext place
        cases place <;> rfl
      rw [hat]
      exact ⟨_, .root _⟩
  | .implementation (some type) methods => exists_placed_methods type methods
  | .implementation none _ => ⟨[], .nil fun place => by cases place <;> rfl⟩
  | .type _ => ⟨[], .nil fun place => by cases place <;> rfl⟩
  | .module name (some items) => by
      let child := ModulePath.child module name
      have hat : inParts (Item.declarationAt? path child (ofModule child items).imports) items =
          Item.declarationAt? path module imports (.module name (some items)) := by
        funext place
        cases place <;> rfl
      have hfunctions : (ofItem path module imports (.module name (some items))).functions =
          (ofItems path child (ofModule child items).imports items).functions := rfl
      rw [← hat, hfunctions, functions_ofItems]
      exact Placed.exists_inParts (exists_placed_of_mem path child _ items)
  | .module _ none => ⟨[], .nil fun place => by cases place <;> rfl⟩
  | .use _ => ⟨[], .nil fun place => by cases place <;> rfl⟩
  | .other => ⟨[], .nil fun place => by cases place <;> rfl⟩

theorem exists_placed_of_mem (path module : String) (imports : List Import) :
    ∀ items : List Item, ∀ item ∈ items, ∃ placed,
      Placed (item.declarationAt? path module imports)
        (ofItem path module imports item).functions placed
  | [] => List.forall_mem_nil _
  | first :: rest => List.forall_mem_cons.mpr
      ⟨exists_placed_ofItem path module imports first,
        exists_placed_of_mem path module imports rest⟩

end

/-- The functions of a file are listed in the order of their places. -/
theorem exists_placed_ofFile (file : SourceFile) :
    ∃ placed, Placed file.declarationAt? (ofFile file).functions placed := by
  unfold ofFile
  split
  · next items hitems =>
      have hat : inParts (Item.declarationAt? file.path file.module
          (ofModule file.module items).imports) items = file.declarationAt? := by
        funext place
        rw [SourceFile.declarationAt?, hitems]
        rfl
      have hfunctions : (ofModule file.module items ++ ofItems file.path file.module
          (ofModule file.module items).imports items).functions =
            (ofItems file.path file.module (ofModule file.module items).imports items).functions :=
        rfl
      rw [← hat, hfunctions, functions_ofItems]
      exact Placed.exists_inParts (exists_placed_of_mem file.path file.module _ items)
  · next hnone =>
      refine ⟨[], .nil fun place => ?_⟩
      rw [SourceFile.declarationAt?, hnone]
      rfl

/-- The functions of several files are those at the places of each. -/
theorem exists_place_of_mem_ofFiles {files : List SourceFile} {declared : DeclaredFunction}
    (hmem : declared ∈ (ofFiles files).functions) :
    ∃ file ∈ files, ∃ place, file.declarationAt? place = some declared := by
  induction files with
  | nil => contradiction
  | cons file rest ih =>
      rcases List.mem_append.mp hmem with hfile | hrest
      · obtain ⟨placed, hplaced⟩ := exists_placed_ofFile file
        exact ⟨file, List.mem_cons_self, hplaced.mem_elements_iff.mp hfile⟩
      · obtain ⟨other, hother, hplace⟩ := ih hrest
        exact ⟨other, List.mem_cons_of_mem _ hother, hplace⟩

end Outline

/-! ## Keys -/

/-- The owner of a declared function is the type around it, or else the module. -/
def DeclaredFunction.KeyedByScope (function : DeclaredFunction) : Prop :=
  function.id.owner = function.scope.owner.getD function.scope.module

theorem Source.Item.keyedByScope_of_declarationAt? {path module : String} {imports : List Import}
    {item : Item} {place : List Nat} {declared : DeclaredFunction}
    (hplace : item.declarationAt? path module imports place = some declared) :
    declared.KeyedByScope := by
  fun_induction Item.declarationAt? path module imports item place with
  | case1 =>
      cases hplace
      rfl
  | case2 =>
      obtain ⟨method, _, rfl⟩ := Option.map_eq_some_iff.mp hplace
      rfl
  | case3 _ _ _ _ _ _ _ ih =>
      obtain ⟨item, _, hinner⟩ := Option.bind_eq_some_iff.mp hplace
      exact ih _ hinner
  | case4 => contradiction

theorem SourceFile.keyedByScope_of_declarationAt? {file : SourceFile} {place : List Nat}
    {declared : DeclaredFunction} (hplace : file.declarationAt? place = some declared) :
    declared.KeyedByScope := by
  obtain ⟨items, _, hparts⟩ := Option.bind_eq_some_iff.mp hplace
  cases place with
  | nil => contradiction
  | cons index rest =>
      obtain ⟨item, _, hitem⟩ := Option.bind_eq_some_iff.mp hparts
      exact item.keyedByScope_of_declarationAt? hitem

end ShaderCalls
