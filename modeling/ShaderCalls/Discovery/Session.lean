import ShaderCalls.Discovery.Extraction
import ShaderCalls.Graph.Builder
import ShaderCalls.Graph.PostOrder

/-!
# Discovery of entry points

The program of one entry point, the programs of several, and the entry points among candidates.
-/

namespace ShaderCalls

variable (resolver : Resolver) (markers : Markers)

/-- The program of an entry point. -/
def discover (root : FunctionId) : Except DiscoveryError Program := do
  let graph ← Builder.build resolver root
  let functions ← graph.postOrder (Declaration.extract markers)
  .ok {
    root
    kind := (functions.getLast?.map (·.kind)).getD .normal
    functions
    calls := graph.edges }

/-- The programs of several entry points, each on its own. -/
def discoverAll (roots : List FunctionId) : List (Except DiscoveryError Program) :=
  roots.map (discover resolver markers)

/-- The programs of several entry points, or the first error among them. -/
def discoverEach (roots : List FunctionId) : Except DiscoveryError (List Program) :=
  roots.mapM (discover resolver markers)

/-- A function with a marker. -/
structure EntryPoint where
  id : FunctionId
  kind : Kind
  deriving DecidableEq, Repr

/-- The candidate as an entry point, if it is declared and carries a marker. -/
def entryPoint? (id : FunctionId) : Option EntryPoint := do
  let declaration ← resolver.declaration? id
  let (kind, _) := declaration.classify markers
  if kind.isEntryPoint then some ⟨id, kind⟩ else none

/-- The entry points among candidates, in the order of their identities. -/
def entryPoints (candidates : List FunctionId) : List EntryPoint :=
  (candidates.filterMap (entryPoint? resolver markers)).mergeSort fun left right =>
    (compare left.id right.id).isLE

end ShaderCalls
