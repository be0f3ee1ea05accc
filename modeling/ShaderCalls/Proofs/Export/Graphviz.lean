import ShaderCalls.Discovery.Session
import ShaderCalls.Export.Backend
import ShaderCalls.Index.Resolution
import ShaderCalls.Proofs.Dot.Reader
import ShaderCalls.Proofs.Export.NodeNames
import ShaderCalls.Proofs.Lists

/-!
# Reading call graphs back

The text of a call graph describes one node for each function and one edge for each call, as long as
the labels need no escapes.  The names of nodes are escaped, so they may hold anything; labels are
not.
-/

namespace ShaderCalls.Graphviz

open Dot

/-! ## The graph of a program -/

/-- The label of a function's node; `position` counts from zero. -/
def label (function : FunctionRecord) (position : Nat) : String :=
  toString (position + 1) ++ ". " ++ function.id.name ++ "\n" ++ function.id.owner

def node (function : FunctionRecord) (position : Nat) : Statement :=
  let style := NodeStyle.ofKind function.kind
  .node function.id.text [("label", label function position), ("shape", style.shape),
    ("style", style.style), ("fillcolor", style.color)]

def edge (call : FunctionId × FunctionId) : Statement :=
  .edge call.1.text call.2.text

/-- Callees are drawn below their callers. -/
def direction : Statement :=
  .setting "rankdir" "BT"

def font : Statement :=
  .defaults [("fontname", "Helvetica"), ("fontsize", "12")]

def settings : List Statement :=
  [direction, font]

/-- The graph that the text of a program is meant to describe. -/
def graph (program : Program) : Graph where
  name := program.root.text
  statements :=
    settings ++ program.functions.mapIdx (fun position function => node function position) ++
      program.calls.map edge

/-! ## Names of nodes -/

/-- The name of a node is one token, which stands for the text of the identity. -/
theorem tokens?_nodeName (id : FunctionId) (rest : List Char) :
    tokens? .between ((nodeName id).toList ++ rest) =
      (tokens? .between rest).map (.quoted id.text.toList :: ·) := by
  have hname : (nodeName id).toList ++ rest =
      ['"'] ++ ((escape id.text).toList ++ '"' :: rest) := by
    simp [nodeName]
  have hrun : run .between ['"'] = some ([], .quoted []) := rfl
  rw [hname, tokens?_append hrun, tokens?_quoted, unquote_escape]
  simp [Function.comp_def]

/-! ## Statements -/

/-- The statements of a text up to the closing brace. -/
def statementsOf? (text : List Char) : Option (List Statement) :=
  (tokens? .between text).bind (statements? [])

theorem statementsOf?_gap (rest : List Char) :
    statementsOf? ('\n' :: rest) = statementsOf? rest := by
  have hrun : run .between ['\n'] = some ([], .between) := rfl
  rw [statementsOf?, ← List.singleton_append, tokens?_append hrun]
  simp [statementsOf?]

/-- A text that begins with the tokens of a statement and a semicolon begins with the statement. -/
theorem statementsOf?_of_tokens? {text rest : List Char} {segment : List Token}
    {statement : Statement} (htokens : tokens? .between text =
      (tokens? .between rest).map fun found => segment ++ .mark ';' :: found)
    (hsegment : ∀ token ∈ segment, token ≠ .mark ';' ∧ token ≠ .mark '\x7d')
    (hstatement : statement? segment = some statement) :
    statementsOf? text = (statementsOf? rest).map (statement :: ·) := by
  rw [statementsOf?, statementsOf?, htokens]
  cases tokens? .between rest with
  | none => rfl
  | some found =>
      rw [Option.map_some, Option.bind_some, Option.bind_some,
        statements?_append hsegment hstatement]

theorem run_indent : run .between [' ', ' ', ' ', ' '] = some ([], .between) :=
  rfl

/-- The statement of a call is read as its edge. -/
theorem statementsOf?_edge (call : FunctionId × FunctionId) (rest : List Char) :
    statementsOf? ((edgeStatement call).toList ++ rest) =
      (statementsOf? rest).map (edge call :: ·) := by
  have htext : (edgeStatement call).toList ++ rest =
      [' ', ' ', ' ', ' '] ++ ((nodeName call.1).toList ++
        ([' ', '-', '>', ' '] ++ ((nodeName call.2).toList ++ ([';'] ++ rest)))) := by
    have hindent : "    ".toList = [' ', ' ', ' ', ' '] := rfl
    have harrow : " -> ".toList = [' ', '-', '>', ' '] := rfl
    have hend : ";".toList = [';'] := rfl
    simp only [edgeStatement, String.toList_append, hindent, harrow, hend, List.append_assoc]
  have harrow : run .between [' ', '-', '>', ' '] = some ([.arrow], .between) := rfl
  have hend : run .between [';'] = some ([.mark ';'], .between) := rfl
  have htokens : tokens? .between ((edgeStatement call).toList ++ rest) =
      (tokens? .between rest).map fun found =>
        [.quoted call.1.text.toList, .arrow, .quoted call.2.text.toList] ++ .mark ';' :: found := by
    rw [htext, tokens?_append run_indent, tokens?_nodeName, tokens?_append harrow,
      tokens?_nodeName, tokens?_append hend]
    simp [Function.comp_def]
  apply statementsOf?_of_tokens? htokens
  · simp
  · simp [statement?, Token.name?, edge]

/-! ## Nodes -/

section

variable (function : FunctionRecord) (position : Nat)

/-- The first line of a label. -/
def firstLine : List Char :=
  (toString (position + 1) ++ ". " ++ function.id.name).toList

/-- What stands between the quotes of a label. -/
def labelText : List Char :=
  firstLine function position ++ '\\' :: 'n' :: function.id.owner.toList

/-- What stands between a label and the next quote. -/
def shapeText : List Char :=
  (", shape=" ++ (NodeStyle.ofKind function.kind).shape ++ ", style=").toList

/-- What stands behind that quote. -/
def colorText : List Char :=
  let style := NodeStyle.ofKind function.kind
  (style.style ++ "\", fillcolor=\"" ++ style.color ++ "\"];").toList

/-- The tokens up to the label of a node. -/
def labelTokens : List Token :=
  [.quoted function.id.text.toList, .mark '[', .word "label".toList, .mark '=']

/-- The tokens behind the label of a node, without the semicolon. -/
def styleTokens : List Token :=
  let style := NodeStyle.ofKind function.kind
  [.mark ',', .word "shape".toList, .mark '=', .word style.shape.toList,
    .mark ',', .word "style".toList, .mark '=', .quoted style.style.toList,
    .mark ',', .word "fillcolor".toList, .mark '=', .quoted style.color.toList, .mark ']']

theorem toList_nodeStatement : (nodeStatement function position).toList =
    [' ', ' ', ' ', ' '] ++ ((nodeName function.id).toList ++ (" [label=\"".toList ++
      (labelText function position ++
        '"' :: (shapeText function ++ '"' :: colorText function)))) := by
  have hindent : "    ".toList = [' ', ' ', ' ', ' '] := rfl
  have hnewline : "\\n".toList = ['\\', 'n'] := rfl
  have hshape : "\", shape=".toList = '"' :: ", shape=".toList := rfl
  have hstyle : ", style=\"".toList = ", style=".toList ++ ['"'] := rfl
  -- Equations of such definitions are slow to prove: their texts are compared byte by byte.
  delta nodeStatement labelText firstLine shapeText colorText
  simp only [String.toList_append, hindent, hnewline, hshape, hstyle, List.append_assoc,
    List.cons_append, List.nil_append]

theorem toList_label : (label function position).toList =
    firstLine function position ++ '\n' :: function.id.owner.toList := by
  simp [label, firstLine]

theorem run_style : run .between (shapeText function ++ '"' :: colorText function) =
    some (styleTokens function ++ [.mark ';'], .between) := by
  rw [shapeText, colorText, styleTokens]
  cases function.kind <;> decide +kernel

theorem plain_shapeText : Plain (shapeText function) := by
  rw [shapeText]
  cases function.kind <;> decide

theorem shapeText_ne_nil : shapeText function ≠ [] := by
  rw [shapeText]
  cases function.kind <;> decide

/-- The tokens of a node's statement, where its label ends as a quoted text does. -/
theorem tokens?_nodeStatement (rest : List Char) :
    tokens? .between ((nodeStatement function position).toList ++ rest) =
      (unquote (labelText function position ++
        '"' :: (shapeText function ++ '"' :: (colorText function ++ rest)))).bind fun taken =>
          (tokens? .between taken.2).map fun found =>
            labelTokens function ++ .quoted taken.1 :: found := by
  have hlabel : run .between " [label=\"".toList =
      some ([.mark '[', .word "label".toList, .mark '='], .quoted []) := by
    decide +kernel
  rw [toList_nodeStatement, List.append_assoc, List.append_assoc, List.append_assoc,
    tokens?_append run_indent, tokens?_nodeName, tokens?_append hlabel, tokens?_quoted]
  simp [Function.comp_def, labelTokens]

theorem plain_firstLine_iff :
    Plain (firstLine function position) ↔ Plain function.id.name.toList := by
  have hnumber : Plain (toString (position + 1)).toList := by
    intro char hchar
    rw [Nat.toString_eq_repr, Nat.toList_repr] at hchar
    have hdigit := Nat.isDigit_of_mem_toDigits (by decide) (by decide) hchar
    constructor
    · rintro rfl
      contradiction
    · rintro rfl
      contradiction
  have hdot : Plain ". ".toList := by
    decide
  rw [firstLine, String.toList_append, String.toList_append, plain_append_iff, plain_append_iff]
  simp only [hnumber, hdot, true_and]

theorem statement?_node : statement? (labelTokens function ++
    .quoted (label function position).toList :: styleTokens function) =
      some (node function position) := by
  simp [labelTokens, styleTokens, statement?, attributes?, Token.name?, node]

variable {function position}

/-- The statement of a node with a plain label is read as the node. -/
theorem statementsOf?_node (hname : Plain function.id.name.toList)
    (howner : Plain function.id.owner.toList) (rest : List Char) :
    statementsOf? ((nodeStatement function position).toList ++ rest) =
      (statementsOf? rest).map (node function position :: ·) := by
  have hfirst := (plain_firstLine_iff function position).mpr hname
  have htaken : unquote (labelText function position ++
      '"' :: (shapeText function ++ '"' :: (colorText function ++ rest))) =
        some ((label function position).toList,
          shapeText function ++ '"' :: (colorText function ++ rest)) := by
    rw [labelText, List.append_assoc, unquote_plain hfirst, List.cons_append, List.cons_append,
      unquote, unquote_plain howner, unquote, toList_label]
    simp [unescape]
  have hstyle := tokens?_append (run_style function) rest
  rw [List.append_assoc, List.cons_append] at hstyle
  have htokens : tokens? .between ((nodeStatement function position).toList ++ rest) =
      (tokens? .between rest).map fun found => (labelTokens function ++
        .quoted (label function position).toList :: styleTokens function) ++
          .mark ';' :: found := by
    rw [tokens?_nodeStatement, htaken, Option.bind_some, hstyle]
    simp [Function.comp_def]
  apply statementsOf?_of_tokens? htokens
  · simp [labelTokens, styleTokens]
  · exact statement?_node function position

theorem label_of_statement? {shown : List Char} {more : List Token}
    (hread : statement? (labelTokens function ++ .quoted shown :: more) =
      some (node function position)) : shown = (label function position).toList := by
  obtain ⟨attributes, hattributes, hnode⟩ := Option.bind_eq_some_iff.mp hread
  have hhead := head?_of_attributes? hattributes
  rw [(Statement.node.inj (Option.some.inj hnode)).2, List.head?_cons, Option.some.injEq,
    Prod.mk.injEq] at hhead
  rw [hhead.2, String.toList_ofList]

/-- The statement of a node is read as the node only if the label is plain. -/
theorem plain_of_statementsOf? {rest : List Char} {others : List Statement}
    (hread : statementsOf? ((nodeStatement function position).toList ++ rest) =
      some (node function position :: others)) :
    Plain function.id.name.toList ∧ Plain function.id.owner.toList := by
  obtain ⟨tokens, htokens, hstatements⟩ := Option.bind_eq_some_iff.mp hread
  rw [tokens?_nodeStatement] at htokens
  obtain ⟨⟨shown, behind⟩, htaken, hfound⟩ := Option.bind_eq_some_iff.mp htokens
  obtain ⟨found, _, rfl⟩ := Option.map_eq_some_iff.mp hfound
  have hbegun : statements? (labelTokens function ++ [.quoted shown]) found =
      some (node function position :: others) := by
    rw [← List.nil_append (_ ++ _), ← statements?_taken (by simp [labelTokens]), List.append_assoc]
    exact hstatements
  obtain ⟨more, hmore⟩ := exists_statement?_of_statements? hbegun
  rw [List.append_assoc, List.singleton_append] at hmore
  rw [label_of_statement? hmore, toList_label] at htaken
  obtain ⟨hfirst, howner⟩ :=
    plain_of_unquote_lines (plain_shapeText function) (shapeText_ne_nil function) htaken
  exact ⟨(plain_firstLine_iff function position).mp hfirst, howner⟩

end

/-! ## Graphs -/

/-- The lines of nodes, the first of them at a position. -/
def nodeText (functions : List FunctionRecord) (start : Nat) : List Char :=
  (functions.mapIdx fun position function => nodeStatement function (start + position)).flatMap
    fun line => line.toList ++ ['\n']

def edgeText (calls : List (FunctionId × FunctionId)) : List Char :=
  calls.flatMap fun call => (edgeStatement call).toList ++ ['\n']

/-- The lines of nodes are read as nodes exactly if the labels are plain. -/
theorem statementsOf?_nodeText_iff (functions : List FunctionRecord) (start : Nat)
    (rest : List Char) (others : List Statement) :
    statementsOf? (nodeText functions start ++ rest) =
        some (functions.mapIdx (fun position function => node function (start + position)) ++
          others) ↔
      (∀ function ∈ functions, Plain function.id.name.toList ∧ Plain function.id.owner.toList) ∧
        statementsOf? rest = some others := by
  induction functions generalizing start with
  | nil => simp [nodeText]
  | cons function functions ih =>
      have htext : nodeText (function :: functions) start ++ rest =
          (nodeStatement function start).toList ++
            '\n' :: (nodeText functions (start + 1) ++ rest) := by
        simp [nodeText, Nat.add_assoc, Nat.add_comm 1]
      have hnodes : (function :: functions).mapIdx (fun position function =>
          node function (start + position)) ++ others = node function start ::
            (functions.mapIdx (fun position function => node function (start + 1 + position)) ++
              others) := by
        simp [Nat.add_assoc, Nat.add_comm 1]
      rw [htext, hnodes, List.forall_mem_cons, and_assoc, ← ih (start + 1)]
      constructor
      · intro hread
        have hplain := plain_of_statementsOf? hread
        rw [statementsOf?_node hplain.1 hplain.2, statementsOf?_gap,
          Option.map_eq_some_iff] at hread
        obtain ⟨statements, hstatements, heq⟩ := hread
        rw [(List.cons.inj heq).2] at hstatements
        exact ⟨hplain, hstatements⟩
      · rintro ⟨hplain, hread⟩
        rw [statementsOf?_node hplain.1 hplain.2, statementsOf?_gap, hread]
        rfl

theorem statementsOf?_edgeText (calls : List (FunctionId × FunctionId)) :
    statementsOf? (edgeText calls ++ ['\x7d']) = some (calls.map edge) := by
  induction calls with
  | nil => rfl
  | cons call calls ih =>
      have htext : edgeText (call :: calls) ++ ['\x7d'] =
          (edgeStatement call).toList ++ '\n' :: (edgeText calls ++ ['\x7d']) := by
        simp [edgeText]
      rw [htext, statementsOf?_edge, statementsOf?_gap, ih]
      rfl

/-- The text of a graph behind its first lines. -/
def bodyText (program : Program) : List Char :=
  nodeText program.functions 0 ++ '\n' :: (edgeText program.calls ++ ['\x7d'])

/-- The lines between the opening brace and the nodes, each behind the end of the line before. -/
def settingsText : List Char :=
  ["", "    rankdir=BT;", "    node [fontname=\"Helvetica\", fontsize=12];", ""].flatMap
    fun line => line.toList ++ ['\n']

def directionTokens : List Token :=
  [.word "rankdir".toList, .mark '=', .word "BT".toList]

def fontTokens : List Token :=
  [.word ['n', 'o', 'd', 'e'], .mark '[', .word "fontname".toList, .mark '=',
    .quoted "Helvetica".toList, .mark ',', .word "fontsize".toList, .mark '=',
    .word "12".toList, .mark ']']

theorem toList_ofProgram (program : Program) : (ofProgram program).toList =
    "digraph ".toList ++ ((nodeName program.root).toList ++
      (" \x7b".toList ++ (settingsText ++ bodyText program))) := by
  have hnewline : "\n".toList = ['\n'] := rfl
  have hbrace : "\x7d".toList = ['\x7d'] := rfl
  rw [ofProgram, lines, String.toList_intercalate, List.map_append, List.map_singleton, hnewline,
    hbrace, intercalate_concat, List.flatMap_map, settingsText, bodyText, nodeText, edgeText]
  simp only [List.flatMap_append, List.flatMap_map, List.flatMap_cons, List.flatMap_nil,
    String.toList_append, String.toList_empty, Nat.zero_add, List.append_assoc, List.nil_append,
    List.cons_append]

/-- The settings are read as the same statements in each graph. -/
theorem statementsOf?_settings (rest : List Char) : statementsOf? (settingsText ++ rest) =
    (statementsOf? rest).map (settings ++ ·) := by
  have hrun : run .between settingsText =
      some (directionTokens ++ .mark ';' :: (fontTokens ++ [.mark ';']), .between) := by
    decide +kernel
  have hdirection : ∀ others, statements? [] (directionTokens ++ .mark ';' :: others) =
      (statements? [] others).map (direction :: ·) :=
    statements?_append (by decide) rfl
  have hfont : ∀ others, statements? [] (fontTokens ++ .mark ';' :: others) =
      (statements? [] others).map (font :: ·) :=
    statements?_append (by decide) rfl
  rw [statementsOf?, statementsOf?, tokens?_append hrun]
  cases tokens? .between rest with
  | none => rfl
  | some found =>
      simp only [Option.map_some, Option.bind_some, List.append_assoc, List.cons_append,
        List.nil_append, hdirection, hfont, Option.map_map]
      rfl

/-- Behind its name and the opening brace a graph is read statement by statement. -/
theorem read?_of_toList {text : String} {id : FunctionId} {rest : List Char} (htext : text.toList =
    "digraph ".toList ++ ((nodeName id).toList ++ (" \x7b".toList ++ rest))) :
    Dot.read? text = (statementsOf? rest).map fun statements => ⟨id.text, statements⟩ := by
  have hdigraph : run .between "digraph ".toList =
      some ([.word ['d', 'i', 'g', 'r', 'a', 'p', 'h']], .between) := by
    decide +kernel
  have hbrace : run .between " \x7b".toList = some ([.mark '\x7b'], .between) := by
    decide +kernel
  rw [Dot.read?, htext, tokens?_append hdigraph, tokens?_nodeName, tokens?_append hbrace,
    statementsOf?]
  cases tokens? .between rest with
  | none => rfl
  | some found =>
      simp only [Option.map_some, Option.bind_eq_bind, Option.bind_some, List.singleton_append,
        Token.name?, String.ofList_toList]
      cases statements? [] found <;> rfl

/-- A graph is read back exactly if no function has a quote or a backslash in its name or owner. -/
theorem read?_emit_iff (program : Program) :
    Dot.read? (Backend.dot.emit program) = some (graph program) ↔
      ∀ function ∈ program.functions,
        Plain function.id.name.toList ∧ Plain function.id.owner.toList := by
  have hgraph : graph program = ⟨program.root.text, settings ++
      (program.functions.mapIdx (fun position function => node function (0 + position)) ++
        program.calls.map edge)⟩ := by
    simp only [graph, List.append_assoc, Nat.zero_add]
  have hbody := statementsOf?_nodeText_iff program.functions 0
    ('\n' :: (edgeText program.calls ++ ['\x7d'])) (program.calls.map edge)
  rw [statementsOf?_gap, statementsOf?_edgeText, ← bodyText] at hbody
  rw [Backend.emit, read?_of_toList (toList_ofProgram program), statementsOf?_settings, hgraph]
  constructor
  · intro hread
    obtain ⟨_, hsettings, heq⟩ := Option.map_eq_some_iff.mp hread
    obtain ⟨statements, hstatements, rfl⟩ := Option.map_eq_some_iff.mp hsettings
    rw [List.append_cancel_left (Dot.Graph.mk.inj heq).2] at hstatements
    exact (hbody.mp hstatements).1
  · intro hplain
    rw [hbody.mpr ⟨hplain, rfl⟩]
    rfl

/-- A shader in a file that has a quote in its name. -/
def quotedFile : List SourceFile :=
  [⟨"shaders::a\"b", "a\"b.rs", "#[vertex_shader] fn f() \x7b\x7d"⟩]

/-- The program of the shader. -/
def quotedProgram : Program where
  root := ⟨"shaders::a\"b", "f"⟩
  kind := .vertex
  functions := [⟨⟨"shaders::a\"b", "f"⟩, "void", [], .vertex, {}, "\x7b \x7d"⟩]
  calls := []

/-- The quote ends the label, so the text is no graph at all. -/
theorem quotedProgram_no_graph :
    discover (SymbolIndex.ofFiles quotedFile).resolver {} ⟨"shaders::a\"b", "f"⟩ =
        .ok quotedProgram ∧
      Dot.read? (Backend.dot.emit quotedProgram) = none := by
  constructor
  · decide +kernel
  · rw [Backend.emit, read?_of_toList (toList_ofProgram _), statementsOf?_settings]
    decide +kernel

end ShaderCalls.Graphviz
