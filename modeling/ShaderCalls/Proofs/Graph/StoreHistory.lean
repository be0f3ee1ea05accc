import ShaderCalls.Proofs.Graph.StoreView
import ShaderCalls.Proofs.Lists

/-!
# Histories of a node store

A store that starts empty is asked for nodes and told of calls between nodes that it handed out.
Whatever the order, it keeps one node for each identity, hands out the same position for an identity
each time, asks for its declaration once, and has for each node the callees and the callers that it
was told of, each once and in the order in which they came.
-/

namespace ShaderCalls

namespace NodeStore

variable {δ : Type} {store : NodeStore δ}

/-! ## Asking for declarations -/

/-- `getOrCreate` where it is a computation to ask for a declaration. -/
def getOrCreateM {m : Type → Type} [Monad m] (store : NodeStore δ) (id : FunctionId)
    (declaration? : FunctionId → m (Option δ)) : m (NodeStore δ × Nat) :=
  match store.lookup? id with
  | some position => pure (store, position)
  | none => do
    let declaration ← declaration? id
    pure (store.push ⟨id, declaration, [], []⟩, store.size)

/-- A resolver that notes down what it is asked for. -/
def noting (declaration? : FunctionId → Option δ) (id : FunctionId) :
    StateM (List FunctionId) (Option δ) := do
  modify (· ++ [id])
  pure (declaration? id)

/-- The resolver is asked for an identity without a node, and for nothing else. -/
theorem run_getOrCreateM_noting (id : FunctionId) (declaration? : FunctionId → Option δ)
    (asked : List FunctionId) :
    (store.getOrCreateM id (noting declaration?)).run asked =
      (store.getOrCreate id declaration?,
        if store.lookup? id = none then asked ++ [id] else asked) := by
  unfold getOrCreate getOrCreateM
  cases store.lookup? id <;> rfl

/-! ## Requests -/

/-- What is asked of a store. -/
inductive Request (δ : Type) where
  /-- the node of an identity, with a resolver to ask for its declaration -/
  | node (id : FunctionId) (declaration? : FunctionId → Option δ)
  /-- to record a call between two nodes -/
  | link (caller callee : Nat)

namespace Request

/-- The identity whose node is asked for. -/
def id? : Request δ → Option FunctionId
  | .node id _ => some id
  | .link .. => none

/-- What the resolver of a request says, if the request is for the node of an identity. -/
def answer? (id : FunctionId) : Request δ → Option (Option δ)
  | .node other declaration? => if other = id then some (declaration? id) else none
  | .link .. => none

/-- The callee of a recorded call of a node. -/
def callee? (position : Nat) : Request δ → Option Nat
  | .node .. => none
  | .link caller callee => if caller = position then some callee else none

/-- The caller of a recorded call to a node. -/
def caller? (position : Nat) : Request δ → Option Nat
  | .node .. => none
  | .link caller callee => if callee = position then some caller else none

end Request

/-- A store in use. -/
structure Session (δ : Type) where
  store : NodeStore δ
  /-- The identities that resolvers were asked for, in order. -/
  asked : List FunctionId
  /-- The positions that were handed out, in order. -/
  handed : List Nat

def Session.start : Session δ :=
  ⟨empty, [], []⟩

/-- A request is met.  Calls are recorded between positions that were handed out. -/
inductive Step : Session δ → Request δ → Session δ → Prop
  | node {session : Session δ} {id : FunctionId} {declaration? : FunctionId → Option δ}
      {grown : NodeStore δ} {position : Nat} {asked : List FunctionId}
      (hget : (session.store.getOrCreateM id (noting declaration?)).run session.asked =
        ((grown, position), asked)) :
      Step session (.node id declaration?) ⟨grown, asked, session.handed ++ [position]⟩
  | link {session : Session δ} {caller callee : Nat} (hcaller : caller ∈ session.handed)
      (hcallee : callee ∈ session.handed) :
      Step session (.link caller callee)
        { session with store := session.store.link caller callee }

/-- Requests are met one after the other. -/
inductive Run (start : Session δ) : List (Request δ) → Session δ → Prop
  | nil : Run start [] start
  | concat {requests : List (Request δ)} {request : Request δ} {session next : Session δ}
      (hrun : Run start requests session) (hstep : Step session request next) :
      Run start (requests ++ [request]) next

/-! ## What requests keep -/

/-- Nodes keep their positions, identities and declarations. -/
def Keeps (store later : NodeStore δ) : Prop :=
  ∀ position node, store.node? position = some node →
    ∃ same, later.node? position = some same ∧ same.id = node.id ∧
      same.declaration = node.declaration

namespace Keeps

variable {middle later : NodeStore δ}

theorem refl (store : NodeStore δ) : store.Keeps store :=
  fun _ node hnode => ⟨node, hnode, rfl, rfl⟩

theorem trans (hmiddle : store.Keeps middle) (hlater : middle.Keeps later) :
    store.Keeps later := by
  intro position node hnode
  obtain ⟨between, hbetween, hid, hdeclaration⟩ := hmiddle position node hnode
  obtain ⟨same, hsame, hid', hdeclaration'⟩ := hlater position between hbetween
  exact ⟨same, hsame, hid'.trans hid, hdeclaration'.trans hdeclaration⟩

theorem idAt? (hkeeps : store.Keeps later) {position : Nat} {id : FunctionId}
    (hid : store.idAt? position = some id) : later.idAt? position = some id := by
  obtain ⟨node, hnode, rfl⟩ := idAt?_eq_some_iff.mp hid
  obtain ⟨same, hsame, hsameId, _⟩ := hkeeps position node hnode
  exact idAt?_eq_some_iff.mpr ⟨same, hsame, hsameId⟩

theorem getOrCreate (store : NodeStore δ) (id : FunctionId)
    (declaration? : FunctionId → Option δ) :
    store.Keeps (store.getOrCreate id declaration?).1 := by
  intro position node hnode
  have hold : position ≠ store.size := Nat.ne_of_lt (List.getElem?_eq_some_iff.mp hnode).1
  refine ⟨node, ?_, rfl, rfl⟩
  rw [node?_getOrCreate, if_neg fun hnew => hold hnew.2, hnode]

theorem link (store : NodeStore δ) (caller callee : Nat) :
    store.Keeps (store.link caller callee) := by
  intro position node hnode
  rw [node?_link, hnode]
  exact ⟨_, rfl, rfl, rfl⟩

end Keeps

theorem Step.keeps {session next : Session δ} {request : Request δ}
    (hstep : Step session request next) : session.store.Keeps next.store := by
  cases hstep with
  | @node id declaration? grown position asked hget =>
      rw [run_getOrCreateM_noting] at hget
      obtain ⟨hgrown, _⟩ := Prod.mk.inj hget
      have hkeeps := Keeps.getOrCreate session.store id declaration?
      rwa [hgrown] at hkeeps
  | @link caller callee => exact Keeps.link session.store caller callee

theorem Run.keeps {session later : Session δ} {requests : List (Request δ)}
    (hrun : Run session requests later) : session.store.Keeps later.store := by
  induction hrun with
  | nil => exact Keeps.refl _
  | concat _ hstep ih => exact ih.trans hstep.keeps

/-! ## What a store knows of its requests -/

/-- Adding an element once is what erasing duplicates does with it. -/
theorem eraseDups_concat (elements : List Nat) (element : Nat) :
    (elements ++ [element]).eraseDups = insertOnce elements.eraseDups element := by
  rw [List.eraseDups_append, insertOnce]
  by_cases hmem : element ∈ elements <;> simp [List.removeAll, hmem, List.eraseDups_cons]

/-- A store in use agrees with the requests so far. -/
structure Session.Reflects (session : Session δ) (requests : List (Request δ)) : Prop where
  wellFormed : session.store.WellFormed
  asked_eq : session.asked = session.store.nodes.map (·.id)
  /-- Each position that was handed out has the identity that it was handed out for. -/
  handed : List.Forall₂ (fun position id => session.store.idAt? position = some id)
    session.handed (requests.filterMap Request.id?)
  declaration : ∀ position node, session.store.node? position = some node →
    requests.findSome? (Request.answer? node.id) = some node.declaration
  children_eq : ∀ position, session.store.children position =
    (requests.filterMap (Request.callee? position)).eraseDups
  parents_eq : ∀ position, session.store.parents position =
    (requests.filterMap (Request.caller? position)).eraseDups

namespace Session.Reflects

variable {session next : Session δ} {requests : List (Request δ)} {request : Request δ}

theorem start : (start : Session δ).Reflects [] where
  wellFormed := wellFormed_empty
  asked_eq := rfl
  handed := .nil
  declaration := by simp [Session.start]
  children_eq := by simp [Session.start, NodeStore.children]
  parents_eq := by simp [Session.start, NodeStore.parents]

theorem map_idAt?_handed (hsession : session.Reflects requests) :
    session.handed.map session.store.idAt? = (requests.filterMap Request.id?).map some := by
  rw [← List.forall₂_eq_eq_eq, List.forall₂_map_left_iff, List.forall₂_map_right_iff]
  exact hsession.handed

/-- A position that was handed out is that of a node. -/
theorem isSome_idAt? (hsession : session.Reflects requests) {position : Nat}
    (hposition : position ∈ session.handed) : (session.store.idAt? position).isSome := by
  have hmem := List.mem_map_of_mem (f := session.store.idAt?) hposition
  rw [hsession.map_idAt?_handed] at hmem
  obtain ⟨id, _, hid⟩ := List.mem_map.mp hmem
  rw [← hid]
  rfl

/-- No request was for an identity without a node. -/
theorem answer?_eq_none (hsession : session.Reflects requests) {id : FunctionId}
    (hlookup : session.store.lookup? id = none) :
    requests.findSome? (Request.answer? id) = none := by
  rw [List.findSome?_eq_none_iff]
  intro request hrequest
  cases request with
  | link => rfl
  | node other declaration? =>
      have hid : other ∈ requests.filterMap Request.id? :=
        List.mem_filterMap.mpr ⟨_, hrequest, rfl⟩
      have hmem := List.mem_map_of_mem (f := some) hid
      rw [← hsession.map_idAt?_handed] at hmem
      obtain ⟨position, _, hposition⟩ := List.mem_map.mp hmem
      have hother : other ≠ id := by
        rintro rfl
        have hfound := hsession.wellFormed.lookup?_eq_some_iff.mpr hposition
        rw [hlookup] at hfound
        contradiction
      exact if_neg hother

theorem node (hsession : session.Reflects requests) (id : FunctionId)
    (declaration? : FunctionId → Option δ) :
    Reflects ⟨(session.store.getOrCreate id declaration?).1,
      if session.store.lookup? id = none then session.asked ++ [id] else session.asked,
      session.handed ++ [(session.store.getOrCreate id declaration?).2]⟩
      (requests ++ [.node id declaration?]) where
  wellFormed := hsession.wellFormed.getOrCreate
  asked_eq := by
    cases hlookup : session.store.lookup? id with
    | some found => simpa [getOrCreate_of_lookup? hlookup] using hsession.asked_eq
    | none => simp [getOrCreate_of_none hlookup, hsession.asked_eq]
  handed := by
    rw [List.filterMap_append]
    refine List.rel_append ?_ (.cons hsession.wellFormed.idAt?_getOrCreate_self .nil)
    exact hsession.handed.imp fun _ _ hid => idAt?_getOrCreate_of_some hid
  declaration := by
    intro position node hnode
    rw [List.findSome?_append]
    rw [node?_getOrCreate] at hnode
    split at hnode
    · next hnew =>
        cases hnode
        rw [hsession.answer?_eq_none hnew.1]
        simp [Request.answer?]
    · rw [hsession.declaration position node hnode, Option.some_or]
  children_eq := by
    intro position
    rw [children_getOrCreate, hsession.children_eq, List.filterMap_append,
      List.filterMap_cons_none rfl, List.filterMap_nil, List.append_nil]
  parents_eq := by
    intro position
    rw [parents_getOrCreate, hsession.parents_eq, List.filterMap_append,
      List.filterMap_cons_none rfl, List.filterMap_nil, List.append_nil]

theorem link (hsession : session.Reflects requests) {caller callee : Nat}
    (hcaller : caller ∈ session.handed) (hcallee : callee ∈ session.handed) :
    Reflects { session with store := session.store.link caller callee }
      (requests ++ [.link caller callee]) where
  wellFormed := hsession.wellFormed.link (hsession.isSome_idAt? hcaller)
    (hsession.isSome_idAt? hcallee)
  asked_eq := by
    rw [map_id_link, hsession.asked_eq]
  handed := by
    rw [List.filterMap_append, List.filterMap_cons_none rfl, List.filterMap_nil, List.append_nil]
    simpa using hsession.handed
  declaration := by
    intro position node hnode
    rw [node?_link, Option.map_eq_some_iff] at hnode
    obtain ⟨old, hold, rfl⟩ := hnode
    rw [List.findSome?_append, hsession.declaration position old hold, Option.some_or]
  children_eq := by
    intro position
    rw [children_link (hsession.isSome_idAt? hcaller), hsession.children_eq,
      List.filterMap_append]
    split
    · next hposition => simp [Request.callee?, hposition, eraseDups_concat]
    · next hposition => simp [Request.callee?, hposition]
  parents_eq := by
    intro position
    rw [parents_link (hsession.isSome_idAt? hcallee), hsession.parents_eq,
      List.filterMap_append]
    split
    · next hposition => simp [Request.caller?, hposition, eraseDups_concat]
    · next hposition => simp [Request.caller?, hposition]

theorem step (hsession : session.Reflects requests) (hstep : Step session request next) :
    next.Reflects (requests ++ [request]) := by
  cases hstep with
  | @node id declaration? grown position asked hget =>
      rw [run_getOrCreateM_noting] at hget
      obtain ⟨hgrown, rfl⟩ := Prod.mk.inj hget
      have hnode := hsession.node id declaration?
      rwa [hgrown] at hnode
  | link hcaller hcallee => exact hsession.link hcaller hcallee

end Session.Reflects

section

variable {start session later : Session δ} {requests more : List (Request δ)}

theorem Run.append (hrun : Run start requests session) (hmore : Run session more later) :
    Run start (requests ++ more) later := by
  induction hmore with
  | nil => rwa [List.append_nil]
  | concat _ hstep ih =>
      rw [← List.append_assoc]
      exact .concat ih hstep

theorem Run.reflects (hrun : Run .start requests session) : session.Reflects requests := by
  induction hrun with
  | nil => exact .start
  | concat _ hstep ih => exact ih.step hstep

end

/-- What holds of a store between requests. -/
structure Session.Sound (session : Session δ) (requests : List (Request δ)) : Prop where
  /-- An identity is found at the position of its node. -/
  lookup?_iff : ∀ id position, session.store.lookup? id = some position ↔
    position < session.store.size ∧
      ∃ node, session.store.node? position = some node ∧ node.id = id
  /-- The index has an entry for each node and no other. -/
  indexed : session.store.index.Perm (session.store.nodes.map (·.id)).zipIdx
  /-- The declaration of each stored identity was asked for once. -/
  nodup_asked : session.asked.Nodup
  mem_asked_iff : ∀ id, id ∈ session.asked ↔ (session.store.lookup? id).isSome
  /-- The first resolver that came with an identity has told its declaration. -/
  declaration : ∀ position node, session.store.node? position = some node →
    requests.findSome? (Request.answer? node.id) = some node.declaration
  /-- The positions that were handed out are those of the identities that were asked for. -/
  handed : List.Forall₂ (fun position id => session.store.lookup? id = some position)
    session.handed (requests.filterMap Request.id?)
  nodup_children : ∀ position, (session.store.children position).Nodup
  nodup_parents : ∀ position, (session.store.parents position).Nodup
  mem_children_iff : ∀ caller callee,
    callee ∈ session.store.children caller ↔ caller ∈ session.store.parents callee
  /-- Children stand in the order of the first links to them. -/
  children_eq : ∀ position, session.store.children position =
    (requests.filterMap (Request.callee? position)).eraseDups

theorem Session.Reflects.sound {session : Session δ} {requests : List (Request δ)}
    (hsession : session.Reflects requests) : session.Sound requests where
  lookup?_iff id position := by
    rw [hsession.wellFormed.lookup?_eq_some_iff, idAt?_eq_some_iff]
    constructor
    · rintro ⟨node, hnode, hid⟩
      exact ⟨(List.getElem?_eq_some_iff.mp hnode).1, node, hnode, hid⟩
    · exact And.right
  indexed := hsession.wellFormed.indexed
  nodup_asked := hsession.asked_eq ▸ hsession.wellFormed.distinct
  mem_asked_iff id := by
    rw [hsession.asked_eq, ← Option.ne_none_iff_isSome, ne_eq,
      hsession.wellFormed.lookup?_eq_none_iff, not_not]
  declaration := hsession.declaration
  handed := hsession.handed.imp fun _ _ hid => hsession.wellFormed.lookup?_eq_some_iff.mpr hid
  nodup_children := hsession.wellFormed.nodup_children
  nodup_parents := hsession.wellFormed.nodup_parents
  mem_children_iff := hsession.wellFormed.mem_children_iff
  children_eq := hsession.children_eq

/-- Whatever is asked of a store that starts empty, it is sound, and it stays so whatever is asked
of it later, with its nodes, their declarations and their positions as they were handed out. -/
theorem sound_of_run {requests : List (Request δ)} {session : Session δ}
    (hrun : Run .start requests session) :
    session.Sound requests ∧ ∀ more later, Run session more later →
      later.Sound (requests ++ more) ∧ session.store.Keeps later.store ∧
        ∀ id position, session.store.lookup? id = some position →
          later.store.lookup? id = some position := by
  refine ⟨hrun.reflects.sound, fun more later hmore => ?_⟩
  have hlater := (hrun.append hmore).reflects
  refine ⟨hlater.sound, hmore.keeps, fun id position hlookup => ?_⟩
  rw [hrun.reflects.wellFormed.lookup?_eq_some_iff] at hlookup
  exact hlater.wellFormed.lookup?_eq_some_iff.mpr (hmore.keeps.idAt? hlookup)

/-- Two nodes, one of them asked for twice, and calls of the second and of itself by the first. -/
def callsItself : List (Request String) :=
  [.node ⟨"shaders", "f"⟩ fun _ => some "fn f() {}", .node ⟨"shaders", "sqrt"⟩ fun _ => none,
    .link 0 1, .link 0 0, .link 0 1, .node ⟨"shaders", "f"⟩ fun _ => none]

def callsItselfSession : Session String where
  store := ⟨[⟨⟨"shaders", "f"⟩, some "fn f() {}", [1, 0], [0]⟩,
    ⟨⟨"shaders", "sqrt"⟩, none, [], [0]⟩],
    [(⟨"shaders", "sqrt"⟩, 1), (⟨"shaders", "f"⟩, 0)]⟩
  asked := [⟨"shaders", "f"⟩, ⟨"shaders", "sqrt"⟩]
  handed := [0, 1, 0]

theorem callsItself_sound :
    Run .start callsItself callsItselfSession ∧ callsItselfSession.Sound callsItself := by
  have hnodes : Run .start (callsItself.take 2) _ := .concat (.concat .nil (.node rfl)) (.node rfl)
  have hlinks : Run .start (callsItself.take 5) _ :=
    .concat (.concat (.concat hnodes (.link (by decide) (by decide)))
      (.link (by decide) (by decide))) (.link (by decide) (by decide))
  have hrun : Run .start callsItself callsItselfSession := .concat hlinks (.node rfl)
  exact ⟨hrun, (sound_of_run hrun).1⟩

end NodeStore

end ShaderCalls
