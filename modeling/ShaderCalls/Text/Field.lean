/-!
# Fields of a given width

A text is padded with blanks to a width counted in characters; a longer text stays as it is, unless
it is to be cut.
-/

namespace ShaderCalls.Text

def blanks (count : Nat) : String :=
  String.ofList (List.replicate count ' ')

/-- The text at the left of its field. -/
def alignLeft (width : Nat) (text : String) : String :=
  text ++ blanks (width - text.length)

/-- The text at the right of its field. -/
def alignRight (width : Nat) (text : String) : String :=
  blanks (width - text.length) ++ text

/-- The text in the middle of its field; an odd blank goes to the right. -/
def alignCenter (width : Nat) (text : String) : String :=
  let missing := width - text.length
  blanks (missing / 2) ++ text ++ blanks (missing - missing / 2)

/-- At most the first `width` characters of a text. -/
def truncate (width : Nat) (text : String) : String :=
  String.ofList (text.toList.take width)

inductive Alignment where
  | left
  | right
  | center
  deriving DecidableEq, Repr

/-- How a text is shown in a field. -/
structure Layout where
  alignment : Alignment := .left
  width : Nat := 0
  /-- The number of characters that are shown at most. -/
  limit : Option Nat := none
  deriving DecidableEq, Repr

/-- The text as a layout shows it: cut first, then padded. -/
def pad (layout : Layout) (text : String) : String :=
  let shown := match layout.limit with
    | some limit => truncate limit text
    | none => text
  match layout.alignment with
  | .left => alignLeft layout.width shown
  | .right => alignRight layout.width shown
  | .center => alignCenter layout.width shown

end ShaderCalls.Text
