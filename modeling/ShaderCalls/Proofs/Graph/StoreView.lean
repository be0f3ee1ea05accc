import Mathlib.Data.List.Nodup
import ShaderCalls.Graph.NodeStore
import ShaderCalls.Proofs.Lists

/-!
# Node stores seen from outside

A store is read through three views: the identity at a position, the callees linked to it and the
callers linked to it.  This module says what creating a node and linking two nodes do to each view,
and that both keep a store well formed: one node for each identity, an index with the positions of
these nodes, and every link recorded at both of its ends.
-/

namespace ShaderCalls

namespace NodeStore

variable {δ : Type} {store : NodeStore δ}

def idAt? (store : NodeStore δ) (position : Nat) : Option FunctionId :=
  (store.node? position).map (·.id)

def children (store : NodeStore δ) (position : Nat) : List Nat :=
  ((store.node? position).map (·.children)).getD []

def parents (store : NodeStore δ) (position : Nat) : List Nat :=
  ((store.node? position).map (·.parents)).getD []

/-- One node for each identity, and links without repetition that both ends agree on. -/
structure WellFormed (store : NodeStore δ) : Prop where
  distinct : (store.nodes.map (·.id)).Nodup
  /-- The index has an entry for each node and no other. -/
  indexed : store.index.Perm (store.nodes.map (·.id)).zipIdx
  mem_children_iff : ∀ caller callee,
    callee ∈ store.children caller ↔ caller ∈ store.parents callee
  nodup_children : ∀ position, (store.children position).Nodup
  nodup_parents : ∀ position, (store.parents position).Nodup

/-- Every node holds the declaration of its identity. -/
def Caches (store : NodeStore δ) (declaration? : FunctionId → Option δ) : Prop :=
  ∀ position node, store.node? position = some node → node.declaration = declaration? node.id

/-! ## Reading a store -/

@[simp]
theorem node?_empty (position : Nat) : (empty : NodeStore δ).node? position = none := by
  simp [node?, empty]

theorem wellFormed_empty : (empty : NodeStore δ).WellFormed where
  distinct := List.nodup_nil
  indexed := .nil
  mem_children_iff := by simp [children, parents]
  nodup_children := by simp [children]
  nodup_parents := by simp [parents]

theorem caches_empty (declaration? : FunctionId → Option δ) :
    (empty : NodeStore δ).Caches declaration? := by
  simp [Caches]

theorem idAt?_eq_getElem? (store : NodeStore δ) (position : Nat) :
    store.idAt? position = (store.nodes.map (·.id))[position]? := by
  simp [idAt?, node?]

theorem idAt?_eq_some_iff {position : Nat} {id : FunctionId} :
    store.idAt? position = some id ↔ ∃ node, store.node? position = some node ∧ node.id = id := by
  simp [idAt?, Option.map_eq_some_iff]

theorem WellFormed.idAt?_inj (hstore : store.WellFormed) {left right : Nat} {id : FunctionId}
    (hleft : store.idAt? left = some id) (hright : store.idAt? right = some id) :
    left = right := by
  rw [idAt?_eq_getElem?] at hleft hright
  have hbound : left < (store.nodes.map (·.id)).length :=
    (List.getElem?_eq_some_iff.mp hleft).1
  exact (List.getElem?_inj hbound hstore.distinct).mp (hleft.trans hright.symm)

/-- The nodes of a well-formed store are what its index finds. -/
theorem WellFormed.lookup?_eq_some_iff (hstore : store.WellFormed) {id : FunctionId}
    {position : Nat} :
    store.lookup? id = some position ↔ store.idAt? position = some id := by
  have hkeys : (store.index.map (·.1)).Nodup := by
    rw [(hstore.indexed.map _).nodup_iff, List.zipIdx_map_fst]
    exact hstore.distinct
  rw [lookup?, lookup_eq_some_iff_mem hkeys, hstore.indexed.mem_iff,
    List.mk_mem_zipIdx_iff_getElem?, idAt?_eq_getElem?]

theorem WellFormed.lookup?_eq_none_iff (hstore : store.WellFormed) {id : FunctionId} :
    store.lookup? id = none ↔ id ∉ store.nodes.map (·.id) := by
  rw [Option.eq_none_iff_forall_ne_some, List.mem_iff_getElem?, not_exists]
  simp only [ne_eq, hstore.lookup?_eq_some_iff, idAt?_eq_getElem?]

theorem WellFormed.getOrCreate_of_idAt? (hstore : store.WellFormed) {id : FunctionId}
    {position : Nat} {declaration? : FunctionId → Option δ}
    (hid : store.idAt? position = some id) :
    store.getOrCreate id declaration? = (store, position) := by
  simp [NodeStore.getOrCreate, hstore.lookup?_eq_some_iff.mpr hid]

theorem Caches.any_isResolved {declaration? : FunctionId → Option δ}
    (hcaches : store.Caches declaration?) {position : Nat} {id : FunctionId}
    (hid : store.idAt? position = some id) :
    (store.node? position).any (·.isResolved) = (declaration? id).isSome := by
  obtain ⟨node, hnode, rfl⟩ := idAt?_eq_some_iff.mp hid
  simp [hnode, Node.isResolved, hcaches position node hnode]

/-! ## Creating a node -/

@[simp]
theorem map_id_push (node : Node δ) :
    (store.push node).nodes.map (·.id) = store.nodes.map (·.id) ++ [node.id] := by
  simp [push]

section Create

variable {id : FunctionId} {declaration? : FunctionId → Option δ}

theorem getOrCreate_of_lookup? {position : Nat} (hlookup : store.lookup? id = some position) :
    store.getOrCreate id declaration? = (store, position) := by
  simp [getOrCreate, hlookup]

theorem getOrCreate_of_none (hlookup : store.lookup? id = none) :
    store.getOrCreate id declaration? =
      (store.push ⟨id, declaration? id, [], []⟩, store.size) := by
  simp [getOrCreate, hlookup]

/-- The nodes of a store keep their positions; at most one node is new, behind them. -/
theorem node?_getOrCreate (position : Nat) :
    (store.getOrCreate id declaration?).1.node? position =
      if store.lookup? id = none ∧ position = store.size then
        some ⟨id, declaration? id, [], []⟩
      else store.node? position := by
  cases hlookup : store.lookup? id with
  | some found => simp [getOrCreate_of_lookup? hlookup]
  | none =>
      simp only [getOrCreate_of_none hlookup, node?, push, size, true_and]
      split
      · next hposition => simp [hposition]
      · next hposition =>
          rcases Nat.lt_or_gt_of_ne hposition with hlt | hgt
          · rw [List.getElem?_append_left hlt]
          · rw [List.getElem?_eq_none (by simp; omega), List.getElem?_eq_none (by omega)]

theorem WellFormed.idAt?_getOrCreate_self (hstore : store.WellFormed) :
    (store.getOrCreate id declaration?).1.idAt? (store.getOrCreate id declaration?).2 =
      some id := by
  cases hlookup : store.lookup? id with
  | some found =>
      rw [getOrCreate_of_lookup? hlookup]
      exact hstore.lookup?_eq_some_iff.mp hlookup
  | none => simp [getOrCreate_of_none hlookup, idAt?, node?, push, size]

theorem idAt?_getOrCreate_of_some {position : Nat} {other : FunctionId}
    (hother : store.idAt? position = some other) :
    (store.getOrCreate id declaration?).1.idAt? position = some other := by
  obtain ⟨node, hnode, rfl⟩ := idAt?_eq_some_iff.mp hother
  have hbound : position < store.size := (List.getElem?_eq_some_iff.mp hnode).1
  simp [idAt?, node?_getOrCreate, Nat.ne_of_lt hbound, hnode]

@[simp]
theorem children_getOrCreate (position : Nat) :
    (store.getOrCreate id declaration?).1.children position = store.children position := by
  simp only [children, node?_getOrCreate]
  split
  · next hnew => simp [hnew.2, node?, size]
  · rfl

@[simp]
theorem parents_getOrCreate (position : Nat) :
    (store.getOrCreate id declaration?).1.parents position = store.parents position := by
  simp only [parents, node?_getOrCreate]
  split
  · next hnew => simp [hnew.2, node?, size]
  · rfl

theorem WellFormed.getOrCreate (hstore : store.WellFormed) :
    (store.getOrCreate id declaration?).1.WellFormed where
  distinct := by
    cases hlookup : store.lookup? id with
    | some found => simpa [getOrCreate_of_lookup? hlookup] using hstore.distinct
    | none =>
        rw [getOrCreate_of_none hlookup, map_id_push, ← List.concat_eq_append]
        exact hstore.distinct.concat (hstore.lookup?_eq_none_iff.mp hlookup)
  indexed := by
    cases hlookup : store.lookup? id with
    | some found => simpa [getOrCreate_of_lookup? hlookup] using hstore.indexed
    | none =>
        -- The new entry is in front of the index, and the new node is behind the others.
        have hentries : (store.nodes.map (·.id) ++ [id]).zipIdx =
            (store.nodes.map (·.id)).zipIdx ++ [(id, store.size)] := by
          simp [List.zipIdx_append, size]
        rw [getOrCreate_of_none hlookup, map_id_push, hentries]
        exact (hstore.indexed.cons _).trans (List.perm_append_singleton _ _).symm
  mem_children_iff := by simpa using hstore.mem_children_iff
  nodup_children := by simpa using hstore.nodup_children
  nodup_parents := by simpa using hstore.nodup_parents

theorem Caches.getOrCreate (hcaches : store.Caches declaration?) :
    (store.getOrCreate id declaration?).1.Caches declaration? := by
  intro position node hnode
  rw [node?_getOrCreate] at hnode
  split at hnode
  · cases hnode
    rfl
  · exact hcaches position node hnode

end Create

/-! ## Linking two nodes -/

section Link

variable {caller callee : Nat}

theorem mem_insertOnce {elements : List Nat} {element other : Nat} :
    other ∈ insertOnce elements element ↔ other ∈ elements ∨ other = element := by
  unfold insertOnce
  split
  · next hmem => exact ⟨Or.inl, fun h => h.elim id fun heq => heq ▸ hmem⟩
  · simp

theorem nodup_insertOnce {elements : List Nat} (hnodup : elements.Nodup) (element : Nat) :
    (insertOnce elements element).Nodup := by
  unfold insertOnce
  split
  · exact hnodup
  · next hmem =>
      rw [← List.concat_eq_append]
      exact hnodup.concat hmem

theorem node?_link (position : Nat) :
    (store.link caller callee).node? position = (store.node? position).map fun node =>
      { node with
        children := if caller = position then insertOnce node.children callee else node.children
        parents :=
          if callee = position then insertOnce node.parents caller else node.parents } := by
  simp only [link, node?, List.getElem?_modify]
  cases store.nodes[position]? with
  | none => rfl
  | some node =>
      simp only [Option.map_eq_map, Option.map_some, Option.some.injEq]
      split <;> split <;> rfl

@[simp]
theorem idAt?_link (position : Nat) :
    (store.link caller callee).idAt? position = store.idAt? position := by
  simp [idAt?, node?_link, Function.comp_def]

theorem children_link (hcaller : (store.idAt? caller).isSome) (position : Nat) :
    (store.link caller callee).children position =
      if caller = position then insertOnce (store.children position) callee
      else store.children position := by
  simp only [children, node?_link]
  cases hnode : store.node? position with
  | none =>
      have hother : caller ≠ position := by
        rintro rfl
        simp [idAt?, hnode] at hcaller
      simp [hother]
  | some node => simp

theorem parents_link (hcallee : (store.idAt? callee).isSome) (position : Nat) :
    (store.link caller callee).parents position =
      if callee = position then insertOnce (store.parents position) caller
      else store.parents position := by
  simp only [parents, node?_link]
  cases hnode : store.node? position with
  | none =>
      have hother : callee ≠ position := by
        rintro rfl
        simp [idAt?, hnode] at hcallee
      simp [hother]
  | some node => simp

/-- The only new link leads from the caller to the callee. -/
theorem mem_children_link (hcaller : (store.idAt? caller).isSome) {position child : Nat} :
    child ∈ (store.link caller callee).children position ↔
      child ∈ store.children position ∨ (position = caller ∧ child = callee) := by
  rw [children_link hcaller]
  split
  · next hposition => simp [mem_insertOnce, hposition]
  · next hposition => simp [Ne.symm hposition]

theorem mem_parents_link (hcallee : (store.idAt? callee).isSome) {position parent : Nat} :
    parent ∈ (store.link caller callee).parents position ↔
      parent ∈ store.parents position ∨ (position = callee ∧ parent = caller) := by
  rw [parents_link hcallee]
  split
  · next hposition => simp [mem_insertOnce, hposition]
  · next hposition => simp [Ne.symm hposition]

/-- A link leaves the identities of the nodes as they are. -/
@[simp]
theorem map_id_link : (store.link caller callee).nodes.map (·.id) = store.nodes.map (·.id) := by
  apply List.ext_getElem?
  intro position
  simpa only [idAt?_eq_getElem?] using idAt?_link position

theorem WellFormed.link (hstore : store.WellFormed) (hcaller : (store.idAt? caller).isSome)
    (hcallee : (store.idAt? callee).isSome) : (store.link caller callee).WellFormed where
  distinct := by
    rw [map_id_link]
    exact hstore.distinct
  indexed := by
    rw [map_id_link]
    exact hstore.indexed
  mem_children_iff := by
    intro position child
    rw [mem_children_link hcaller, mem_parents_link hcallee, hstore.mem_children_iff,
      and_comm]
  nodup_children := by
    intro position
    rw [children_link hcaller]
    split
    · exact nodup_insertOnce (hstore.nodup_children position) callee
    · exact hstore.nodup_children position
  nodup_parents := by
    intro position
    rw [parents_link hcallee]
    split
    · exact nodup_insertOnce (hstore.nodup_parents position) caller
    · exact hstore.nodup_parents position

theorem Caches.link {declaration? : FunctionId → Option δ}
    (hcaches : store.Caches declaration?) : (store.link caller callee).Caches declaration? := by
  intro position node hnode
  rw [node?_link, Option.map_eq_some_iff] at hnode
  obtain ⟨old, hold, rfl⟩ := hnode
  exact hcaches position old hold

/-- A link that a store has is not recorded again. -/
theorem WellFormed.link_of_mem (hstore : store.WellFormed)
    (hmem : callee ∈ store.children caller) : store.link caller callee = store := by
  have hparent : caller ∈ store.parents callee := (hstore.mem_children_iff caller callee).mp hmem
  have hnodes : (store.link caller callee).nodes = store.nodes := by
    apply List.ext_getElem?
    intro position
    change (store.link caller callee).node? position = store.node? position
    rw [node?_link]
    cases hnode : store.node? position with
    | none => rfl
    | some node =>
        have hchildren : caller = position → callee ∈ node.children := by
          rintro rfl
          simpa [children, hnode] using hmem
        have hparents : callee = position → caller ∈ node.parents := by
          rintro rfl
          simpa [parents, hnode] using hparent
        simp +contextual only [Option.map_some, insertOnce, hchildren, hparents, if_true, ite_self]
  cases store
  exact NodeStore.mk.injEq .. |>.mpr ⟨hnodes, rfl⟩

end Link

/-! ## Stores that grow -/

/-- A node for the identity exists. -/
def Has (store : NodeStore δ) (id : FunctionId) : Prop :=
  ∃ position, store.idAt? position = some id

/-- The node of the caller has the node of the callee among its children. -/
def Linked (store : NodeStore δ) (caller callee : FunctionId) : Prop :=
  ∃ position child, store.idAt? position = some caller ∧ store.idAt? child = some callee ∧
    child ∈ store.children position

/-- Nodes keep their positions and no link is lost. -/
structure Extends (store larger : NodeStore δ) : Prop where
  idAt? : ∀ {position id}, store.idAt? position = some id → larger.idAt? position = some id
  children : ∀ {position child}, child ∈ store.children position →
    child ∈ larger.children position

namespace Extends

variable {larger largest : NodeStore δ}

theorem trans (hleft : store.Extends larger) (hright : larger.Extends largest) :
    store.Extends largest :=
  ⟨fun hid => hright.idAt? (hleft.idAt? hid), fun hmem => hright.children (hleft.children hmem)⟩

theorem has (hextends : store.Extends larger) {id : FunctionId} (hid : store.Has id) :
    larger.Has id := by
  obtain ⟨position, hposition⟩ := hid
  exact ⟨position, hextends.idAt? hposition⟩

theorem linked (hextends : store.Extends larger) {caller callee : FunctionId}
    (hlinked : store.Linked caller callee) : larger.Linked caller callee := by
  obtain ⟨position, child, hposition, hchild, hmem⟩ := hlinked
  exact ⟨position, child, hextends.idAt? hposition, hextends.idAt? hchild,
    hextends.children hmem⟩

theorem getOrCreate (store : NodeStore δ) (id : FunctionId)
    (declaration? : FunctionId → Option δ) :
    store.Extends (store.getOrCreate id declaration?).1 :=
  ⟨idAt?_getOrCreate_of_some, fun hmem => by simpa using hmem⟩

theorem link (store : NodeStore δ) {caller : Nat} (hcaller : (store.idAt? caller).isSome)
    (callee : Nat) : store.Extends (store.link caller callee) :=
  ⟨fun hid => by simpa using hid, fun hmem => (mem_children_link hcaller).mpr (Or.inl hmem)⟩

end Extends

theorem isSome_idAt?_of_mem_children {position child : Nat}
    (hmem : child ∈ store.children position) : (store.idAt? position).isSome := by
  cases hnode : store.node? position with
  | none => simp [children, hnode] at hmem
  | some node => simp [idAt?, hnode]

theorem isSome_idAt?_of_mem_parents {position parent : Nat}
    (hmem : parent ∈ store.parents position) : (store.idAt? position).isSome := by
  cases hnode : store.node? position with
  | none => simp [parents, hnode] at hmem
  | some node => simp [idAt?, hnode]

theorem linked_of_getOrCreate (hstore : store.WellFormed) {id caller callee : FunctionId}
    {declaration? : FunctionId → Option δ}
    (hlinked : (store.getOrCreate id declaration?).1.Linked caller callee) :
    store.Linked caller callee := by
  obtain ⟨position, child, hposition, hchild, hmem⟩ := hlinked
  rw [children_getOrCreate] at hmem
  obtain ⟨old, hold⟩ := Option.isSome_iff_exists.mp (isSome_idAt?_of_mem_children hmem)
  obtain ⟨oldChild, holdChild⟩ := Option.isSome_iff_exists.mp
    (isSome_idAt?_of_mem_parents ((hstore.mem_children_iff position child).mp hmem))
  have hcaller : old = caller :=
    Option.some.inj ((idAt?_getOrCreate_of_some hold).symm.trans hposition)
  have hcallee : oldChild = callee :=
    Option.some.inj ((idAt?_getOrCreate_of_some holdChild).symm.trans hchild)
  exact ⟨position, child, hcaller ▸ hold, hcallee ▸ holdChild, hmem⟩

theorem linked_link {position child : Nat} {id callee : FunctionId}
    (hposition : store.idAt? position = some id) (hchild : store.idAt? child = some callee) :
    (store.link position child).Linked id callee := by
  refine ⟨position, child, by simpa using hposition, by simpa using hchild, ?_⟩
  exact (mem_children_link (by simp [hposition])).mpr (Or.inr ⟨rfl, rfl⟩)

theorem linked_of_link {position child : Nat} {id callee left right : FunctionId}
    (hposition : store.idAt? position = some id) (hchild : store.idAt? child = some callee)
    (hlinked : (store.link position child).Linked left right) :
    store.Linked left right ∨ (left = id ∧ right = callee) := by
  obtain ⟨caller, called, hcaller, hcalled, hmem⟩ := hlinked
  rw [idAt?_link] at hcaller hcalled
  rcases (mem_children_link (by simp [hposition])).mp hmem with hold | ⟨rfl, rfl⟩
  · exact Or.inl ⟨caller, called, hcaller, hcalled, hold⟩
  · exact Or.inr ⟨Option.some.inj (hcaller.symm.trans hposition),
      Option.some.inj (hcalled.symm.trans hchild)⟩

/-- Between linked functions the positions of their nodes are linked. -/
theorem WellFormed.mem_children_of_linked (hstore : store.WellFormed) {position child : Nat}
    {caller callee : FunctionId} (hposition : store.idAt? position = some caller)
    (hchild : store.idAt? child = some callee) (hlinked : store.Linked caller callee) :
    child ∈ store.children position := by
  obtain ⟨left, right, hleft, hright, hmem⟩ := hlinked
  rwa [hstore.idAt?_inj hposition hleft, hstore.idAt?_inj hchild hright]

end NodeStore

end ShaderCalls
