import ShaderCalls.Source.Grammar.Signature

/-!
# Imports

The trees of `use` declarations.  A path inside a group of a tree may begin with `::`; a declaration
with such a path imports nothing that the index knows, and is kept as it stands in the source.
-/

namespace ShaderCalls.Source.Grammar

open ShaderCalls.Source.Parser

variable (phrases : Phrases)

/-- The group of a `use` tree. -/
def useGroup (rooted : Bool) : Parser UseOperand := do
  let step (trees : List (UseOperand × List Token)) :
      Parser (List (UseOperand × List Token) ⊕ List (UseOperand × List Token)) := do
    if ← atEnd then pure (.inr trees)
    else
      let root ← if rooted then operator? "::" else pure []
      let tree ← phrases.useTree (rooted && root.isEmpty)
      let tree : UseOperand :=
        ⟨root ++ tree.tokens, if root.isEmpty then tree.tree else none⟩
      if ← atEnd then pure (.inr (trees ++ [(tree, [])]))
      else pure (.inl (trees ++ [(tree, ← operator ",")]))
  let trees ← inside .brace (loop step [])
  pure ⟨[.group .brace (trees.flatMap fun (tree, comma) => tree.tokens ++ comma)],
    (trees.mapM fun (tree : UseOperand × List Token) => tree.1.tree).map .group⟩

/-- A `use` tree; `rooted` tells whether paths in its groups may begin with `::`. -/
def useTree (rooted : Bool) : Parser UseOperand := do
  let tokens ← here
  if Ahead.isName tokens || Ahead.isOneOf ["self", "super", "crate", "try"] tokens then
    let word ← anyWord
    let name := Token.render [word]
    if ← peek (Ahead.isOperator "::") then
      let colons ← operator "::"
      let rest ← phrases.useTree false
      pure ⟨word :: colons ++ rest.tokens, rest.tree.map (.path name)⟩
    else if ← peek (Ahead.isWord "as") then
      let asWord ← Parser.word "as"
      let newName ← nameOrUnderscore
      pure ⟨word :: asWord ++ [newName], some (.rename name (Token.render [newName]))⟩
    else pure ⟨[word], some (.name name)⟩
  else if Ahead.isOperator "*" tokens then pure ⟨← operator "*", some .glob⟩
  else useGroup phrases rooted

/-- A `use` declaration; none when it is kept as it stands in the source. -/
def useDeclaration : Parser (Option ItemOperand) := do
  let useWord ← word "use"
  let root ← operator? "::"
  let tree ← phrases.useTree root.isEmpty
  let semicolon ← operator ";"
  pure (tree.tree.map fun declared =>
    ⟨useWord ++ root ++ tree.tokens ++ semicolon, .use declared⟩)

end ShaderCalls.Source.Grammar
