import Mathlib.Data.Finset.Card
import ShaderCalls.Graph.PostOrder
import ShaderCalls.Proofs.Graph.StoreView

/-!
# Recursive post-order

The traversal that marks a node, visits its unmarked children in their order and then lists the
node itself, as a relation.  It visits every node that it can reach once, and in a graph without
cycles it lists each node behind all of its children.  No assumption about where the graph comes
from is made here.
-/

namespace ShaderCalls

namespace PostOrder

variable {δ : Type} {store : NodeStore δ}

/-- Visiting the nodes of a queue one after the other: the marks before and after it, and the nodes
in the order in which they are left. -/
inductive Visits (store : NodeStore δ) : List Nat → List Nat → List Nat → List Nat → Prop
  | nil {marked : List Nat} : Visits store [] marked marked []
  | skip {child : Nat} {queue marked after order : List Nat} (hmarked : child ∈ marked)
      (hrest : Visits store queue marked after order) :
      Visits store (child :: queue) marked after order
  | enter {child : Nat} {queue marked between after inner order : List Nat} {node : Node δ}
      (hfresh : child ∉ marked) (hnode : store.node? child = some node)
      (hinner : Visits store node.children (child :: marked) between inner)
      (hrest : Visits store queue between after order) :
      Visits store (child :: queue) marked after (inner ++ child :: order)

/-- The second node is a child of the first. -/
def Child (store : NodeStore δ) (position child : Nat) : Prop :=
  child ∈ store.children position

theorem child_iff {position child : Nat} {node : Node δ}
    (hnode : store.node? position = some node) :
    Child store position child ↔ child ∈ node.children := by
  simp [Child, NodeStore.children, hnode]

namespace Visits

variable {queue marked after order : List Nat}

/-- The nodes that are marked by a visit are the ones that it lists. -/
theorem mem_after (hvisits : Visits store queue marked after order) (position : Nat) :
    position ∈ after ↔ position ∈ marked ∨ position ∈ order := by
  induction hvisits with
  | nil => simp
  | skip _ _ ih => exact ih
  | enter _ _ _ _ ihInner ihRest =>
      rw [ihRest, ihInner, List.mem_cons, List.mem_append, List.mem_cons]
      tauto

theorem queue_marked (hvisits : Visits store queue marked after order) :
    ∀ position ∈ queue, position ∈ after := by
  induction hvisits with
  | nil => simp
  | skip hmarked hrest ih =>
      exact List.forall_mem_cons.mpr ⟨(hrest.mem_after _).mpr (Or.inl hmarked), ih⟩
  | enter _ _ hinner hrest _ ihRest =>
      refine List.forall_mem_cons.mpr ⟨(hrest.mem_after _).mpr (Or.inl ?_), ihRest⟩
      exact (hinner.mem_after _).mpr (Or.inl List.mem_cons_self)

theorem not_marked (hvisits : Visits store queue marked after order) :
    ∀ position ∈ order, position ∉ marked := by
  induction hvisits with
  | nil => simp
  | skip _ _ ih => exact ih
  | enter hfresh _ hinner _ ihInner ihRest =>
      intro position hposition hmem
      rcases List.mem_append.mp hposition with hpos | hpos
      · exact ihInner position hpos (List.mem_cons_of_mem _ hmem)
      rcases List.mem_cons.mp hpos with rfl | hpos
      · exact hfresh hmem
      · exact ihRest position hpos
          ((hinner.mem_after position).mpr (Or.inl (List.mem_cons_of_mem _ hmem)))

theorem nodup (hvisits : Visits store queue marked after order) : order.Nodup := by
  induction hvisits with
  | nil => exact List.nodup_nil
  | skip _ _ ih => exact ih
  | @enter child _ _ between _ inner order _ _ _ hinner hrest ihInner ihRest =>
      have hbetween : ∀ position ∈ child :: inner, position ∈ between := by
        intro position hposition
        rcases List.mem_cons.mp hposition with rfl | hmem
        · exact (hinner.mem_after _).mpr (Or.inl List.mem_cons_self)
        · exact (hinner.mem_after _).mpr (Or.inr hmem)
      have hchild : child ∉ inner := fun hmem =>
        hinner.not_marked child hmem List.mem_cons_self
      rw [List.nodup_middle, List.nodup_cons, List.mem_append]
      refine ⟨not_or.mpr ⟨hchild, fun hmem => ?_⟩, ihInner.append ihRest ?_⟩
      · exact hrest.not_marked child hmem (hbetween child List.mem_cons_self)
      · intro position hleft hright
        exact hrest.not_marked position hright
          (hbetween position (List.mem_cons_of_mem _ hleft))

theorem node?_isSome (hvisits : Visits store queue marked after order) :
    ∀ position ∈ order, (store.node? position).isSome := by
  induction hvisits with
  | nil => simp
  | skip _ _ ih => exact ih
  | enter _ hnode _ _ ihInner ihRest =>
      intro position hposition
      rcases List.mem_append.mp hposition with hpos | hpos
      · exact ihInner position hpos
      rcases List.mem_cons.mp hpos with rfl | hpos
      · simp [hnode]
      · exact ihRest position hpos

/-- A visit that starts at one node leaves that node last. -/
theorem of_singleton {root : Nat} (hvisits : Visits store [root] [] after order) :
    ∃ inner node, order = inner ++ [root] ∧ store.node? root = some node ∧
      Visits store node.children [root] after inner := by
  cases hvisits with
  | skip hmarked => simp at hmarked
  | enter _ hnode hinner hrest =>
      cases hrest with
      | nil => exact ⟨_, _, rfl, hnode, hinner⟩

/-- Every listed node is reached from the queue. -/
theorem reached (hvisits : Visits store queue marked after order) :
    ∀ position ∈ order, ∃ start ∈ queue, Relation.ReflTransGen (Child store) start position := by
  induction hvisits with
  | nil => simp
  | skip _ _ ih =>
      intro position hposition
      obtain ⟨start, hstart, hreached⟩ := ih position hposition
      exact ⟨start, List.mem_cons_of_mem _ hstart, hreached⟩
  | @enter child _ _ _ _ _ _ _ _ hnode _ _ ihInner ihRest =>
      intro position hposition
      rcases List.mem_append.mp hposition with hpos | hpos
      · obtain ⟨start, hstart, hreached⟩ := ihInner position hpos
        exact ⟨child, List.mem_cons_self, hreached.head ((child_iff hnode).mpr hstart)⟩
      rcases List.mem_cons.mp hpos with rfl | hpos
      · exact ⟨position, List.mem_cons_self, .refl⟩
      · obtain ⟨start, hstart, hreached⟩ := ihRest position hpos
        exact ⟨start, List.mem_cons_of_mem _ hstart, hreached⟩

/-- The children of a listed node are marked. -/
theorem children_marked (hvisits : Visits store queue marked after order) :
    ∀ position ∈ order, ∀ child, Child store position child → child ∈ after := by
  induction hvisits with
  | nil => simp
  | skip _ _ ih => exact ih
  | enter _ hnode hinner hrest ihInner ihRest =>
      intro position hposition child hchild
      have hlater : ∀ other, other ∈ _ → other ∈ _ := fun other hmem =>
        (hrest.mem_after other).mpr (Or.inl hmem)
      rcases List.mem_append.mp hposition with hpos | hpos
      · exact hlater child (ihInner position hpos child hchild)
      rcases List.mem_cons.mp hpos with rfl | hpos
      · exact hlater child (hinner.queue_marked child ((child_iff hnode).mp hchild))
      · exact ihRest position hpos child hchild

/-- A visit that starts at one node lists exactly the nodes that this node reaches. -/
theorem mem_iff_reached {root : Nat} (hvisits : Visits store [root] [] after order)
    (position : Nat) :
    position ∈ order ↔ Relation.ReflTransGen (Child store) root position := by
  have hlisted : ∀ other, other ∈ after → other ∈ order := fun other hmem => by
    simpa using (hvisits.mem_after other).mp hmem
  constructor
  · intro hposition
    obtain ⟨start, hstart, hreached⟩ := hvisits.reached position hposition
    rw [List.mem_singleton] at hstart
    exact hstart ▸ hreached
  · intro hreached
    induction hreached with
    | refl => exact hlisted root (hvisits.queue_marked root List.mem_cons_self)
    | tail _ hchild ih => exact hlisted _ (hvisits.children_marked _ ih _ hchild)

end Visits

/-! ## Children stand before their parents -/

/-- Each listed node has all its children before it or among the nodes that are done already. -/
def ChildrenFirst (store : NodeStore δ) : List Nat → List Nat → Prop
  | _, [] => True
  | done, position :: rest =>
    (∀ child, Child store position child → child ∈ done) ∧
      ChildrenFirst store (position :: done) rest

theorem ChildrenFirst.mono {done later order : List Nat}
    (hfirst : ChildrenFirst store done order) (hdone : ∀ position ∈ done, position ∈ later) :
    ChildrenFirst store later order := by
  induction order generalizing done later with
  | nil => trivial
  | cons position rest ih =>
      refine ⟨fun child hchild => hdone child (hfirst.1 child hchild), ih hfirst.2 ?_⟩
      exact List.forall_mem_cons.mpr
        ⟨List.mem_cons_self, fun other hother => List.mem_cons_of_mem _ (hdone other hother)⟩

theorem childrenFirst_append {done left right : List Nat} :
    ChildrenFirst store done (left ++ right) ↔
      ChildrenFirst store done left ∧ ChildrenFirst store (left.reverse ++ done) right := by
  induction left generalizing done with
  | nil => simp [ChildrenFirst]
  | cons position left ih =>
      simp only [List.cons_append, ChildrenFirst, ih, List.reverse_cons, List.append_assoc,
        List.nil_append, and_assoc]

theorem ChildrenFirst.of_split {done order before after : List Nat} {position child : Nat}
    (hfirst : ChildrenFirst store done order) (hsplit : order = before ++ position :: after)
    (hchild : Child store position child) : child ∈ before ∨ child ∈ done := by
  rw [hsplit, childrenFirst_append] at hfirst
  simpa using hfirst.2.1 child hchild

/-- Without cycles a node is left behind its children.  Marked nodes that are not done yet are on
the way to the queue, so a child among them would close a cycle. -/
theorem Visits.childrenFirst {queue marked after order done : List Nat}
    (hvisits : Visits store queue marked after order)
    (hacyclic : ∀ position, ¬ Relation.TransGen (Child store) position position)
    (hmarked : ∀ position ∈ marked, position ∈ done ∨
      ∀ start ∈ queue, Relation.TransGen (Child store) position start) :
    ChildrenFirst store done order := by
  induction hvisits generalizing done with
  | nil => trivial
  | skip _ _ ih =>
      refine ih fun position hposition => (hmarked position hposition).imp_right fun hway => ?_
      exact fun start hstart => hway start (List.mem_cons_of_mem _ hstart)
  | @enter child queue marked between after inner order node hfresh hnode hinner hrest ihInner
      ihRest =>
      have hcycle : ∀ position, Relation.TransGen (Child store) position child →
          ¬ Child store child position := fun position hway hchild =>
        hacyclic child (Relation.TransGen.head hchild hway)
      rw [childrenFirst_append]
      refine ⟨ihInner ?_, fun position hposition => ?_, ihRest ?_⟩
      · intro position hposition
        rcases List.mem_cons.mp hposition with rfl | hmem
        · exact Or.inr fun start hstart => .single ((child_iff hnode).mpr hstart)
        · refine (hmarked position hmem).imp_right fun hway start hstart => ?_
          exact (hway child List.mem_cons_self).tail ((child_iff hnode).mpr hstart)
      · have hafter : position ∈ between :=
          hinner.queue_marked position ((child_iff hnode).mp hposition)
        rcases (hinner.mem_after position).mp hafter with hmem | hmem
        · rcases List.mem_cons.mp hmem with rfl | hmem
          · exact absurd (.single hposition) (hacyclic position)
          · rcases hmarked position hmem with hdone | hway
            · exact List.mem_append_right _ hdone
            · exact absurd hposition (hcycle position (hway child List.mem_cons_self))
        · exact List.mem_append_left _ (List.mem_reverse.mpr hmem)
      · intro position hposition
        rcases (hinner.mem_after position).mp hposition with hmem | hmem
        · rcases List.mem_cons.mp hmem with rfl | hmem
          · exact Or.inl List.mem_cons_self
          · refine (hmarked position hmem).imp (fun hdone => ?_) fun hway start hstart => ?_
            · exact List.mem_cons_of_mem _ (List.mem_append_right _ hdone)
            · exact hway start (List.mem_cons_of_mem _ hstart)
        · exact Or.inl (List.mem_cons_of_mem _
            (List.mem_append_left _ (List.mem_reverse.mpr hmem)))

/-! ## Every queue can be visited -/

/-- The positions of a store that are not marked. -/
def unmarked (store : NodeStore δ) (marked : List Nat) : Finset Nat :=
  Finset.range store.size \ marked.toFinset

theorem card_unmarked_le (store : NodeStore δ) {marked later : List Nat}
    (hlater : ∀ position ∈ marked, position ∈ later) :
    (unmarked store later).card ≤ (unmarked store marked).card := by
  apply Finset.card_le_card
  intro position hposition
  simp only [unmarked, Finset.mem_sdiff, List.mem_toFinset] at hposition ⊢
  exact ⟨hposition.1, mt (hlater position) hposition.2⟩

theorem card_unmarked_lt {marked : List Nat} {child : Nat} {node : Node δ}
    (hfresh : child ∉ marked) (hnode : store.node? child = some node) :
    (unmarked store (child :: marked)).card < (unmarked store marked).card := by
  have hbound : child < store.size := (List.getElem?_eq_some_iff.mp hnode).1
  have herase : unmarked store (child :: marked) = (unmarked store marked).erase child := by
    ext position
    simp only [unmarked, List.toFinset_cons, Finset.mem_sdiff, Finset.mem_insert,
      Finset.mem_erase]
    tauto
  rw [herase]
  exact Finset.card_erase_lt_of_mem (by simp [unmarked, hbound, hfresh])

/-- A queue of nodes can be visited from any marks.  Each node that is entered leaves fewer nodes
unmarked, both for its children and for the rest of the queue. -/
theorem Visits.exists_of_valid
    (hvalid : ∀ position child, Child store position child → (store.node? child).isSome)
    (queue marked : List Nat) (hqueue : ∀ position ∈ queue, (store.node? position).isSome) :
    ∃ after order, Visits store queue marked after order := by
  induction hcount : (unmarked store marked).card using Nat.strong_induction_on
    generalizing queue marked with
  | _ count ihCount =>
      subst hcount
      induction queue with
      | nil => exact ⟨marked, [], .nil⟩
      | cons child queue ihQueue =>
          obtain ⟨hchild, hrest⟩ := List.forall_mem_cons.mp hqueue
          by_cases hmem : child ∈ marked
          · obtain ⟨after, order, hvisits⟩ := ihQueue hrest
            exact ⟨after, order, .skip hmem hvisits⟩
          obtain ⟨node, hnode⟩ := Option.isSome_iff_exists.mp hchild
          have hfewer := card_unmarked_lt hmem hnode
          obtain ⟨between, inner, hinner⟩ := ihCount _ hfewer node.children (child :: marked)
            (fun position hposition => hvalid child position ((child_iff hnode).mpr hposition)) rfl
          have hstill := card_unmarked_le store fun position hposition =>
            (hinner.mem_after position).mpr (Or.inl hposition)
          obtain ⟨after, order, houter⟩ :=
            ihCount _ (hstill.trans_lt hfewer) queue between hrest rfl
          exact ⟨after, inner ++ child :: order, .enter hmem hnode hinner houter⟩

end PostOrder

end ShaderCalls
