/-!
# Ordered lists

Lists in ascending order.  Texts compare by their characters, lists of texts by their elements.
-/

namespace ShaderCalls

variable {α : Type} [Ord α]

/-- The elements in ascending order; equal elements keep their order. -/
def ascending (elements : List α) : List α :=
  elements.mergeSort fun left right => (compare left right).isLE

/-- The elements in ascending order, each once. -/
def ascendingDistinct [BEq α] (elements : List α) : List α :=
  (ascending elements).eraseDups

end ShaderCalls
