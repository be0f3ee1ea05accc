import ShaderCalls.Shader.Program

/-!
# Call graphs in the DOT language

One node for each function of a program and one edge for each call, callees below their callers.
The name of a node is the escaped text of an identity; the label shows name and owner as they are.
-/

namespace ShaderCalls.Graphviz

/-- A text in which each occurrence of a character gives way to other characters. -/
def replace (char : Char) (form text : List Char) : List Char :=
  text.flatMap fun found => if found = char then form else [found]

/-- The form of a text between double quotes. -/
def escape (text : String) : String :=
  String.ofList (replace '\n' ['\\', 'n']
    (replace '"' ['\\', '"'] (replace '\\' ['\\', '\\'] text.toList)))

/-- An identity between double quotes. -/
def nodeName (id : FunctionId) : String :=
  "\"" ++ escape id.text ++ "\""

/-- How the node of a function is drawn. -/
structure NodeStyle where
  shape : String
  color : String
  style : String

def NodeStyle.ofKind : Kind → NodeStyle
  | .vertex => ⟨"box", "#a6e3a1", "filled,rounded"⟩
  | .fragment => ⟨"box", "#f9e2af", "filled,rounded"⟩
  | .compute => ⟨"hexagon", "#cba6f7", "filled"⟩
  | .normal => ⟨"box", "#89b4fa", "filled"⟩

/-- The statement of a function's node; `position` counts from zero. -/
def nodeStatement (function : FunctionRecord) (position : Nat) : String :=
  let style := NodeStyle.ofKind function.kind
  let label := toString (position + 1) ++ ". " ++ function.id.name ++ "\\n" ++ function.id.owner
  "    " ++ nodeName function.id ++ " [label=\"" ++ label ++ "\", shape=" ++ style.shape ++
    ", style=\"" ++ style.style ++ "\", fillcolor=\"" ++ style.color ++ "\"];"

/-- The statement of a call's edge. -/
def edgeStatement (call : FunctionId × FunctionId) : String :=
  "    " ++ nodeName call.1 ++ " -> " ++ nodeName call.2 ++ ";"

/-- The lines of a program's graph. -/
def lines (program : Program) : List String :=
  ["digraph " ++ nodeName program.root ++ " \x7b", "    rankdir=BT;",
      "    node [fontname=\"Helvetica\", fontsize=12];", ""] ++
    program.functions.mapIdx (fun position function => nodeStatement function position) ++
    [""] ++ program.calls.map edgeStatement ++ ["\x7d"]

/-- The graph of a program. -/
def ofProgram (program : Program) : String :=
  "\n".intercalate (lines program)

end ShaderCalls.Graphviz
