import ShaderCalls.Toml.Value

/-!
# Building tables

A table remembers how it came about, because that decides what may be added to it.  A header opens
a table once.  A dotted key adds to the tables on its way that no header has opened, and its value
goes into a table that dotted keys made.
-/

namespace ShaderCalls.Toml

/-- How a table came about. -/
inductive Origin where
  /-- A header names it, or it is the outermost one. -/
  | opened
  /-- It is on the way to the table of a header. -/
  | implied
  /-- It is on the way of a dotted key. -/
  | dotted
  deriving DecidableEq, Repr

/-- What a name in a table under construction stands for. -/
inductive Item where
  | value (value : Toml)
  | table (origin : Origin) (members : List (String × Item))
  /-- Tables with one header, in order. -/
  | tables (elements : List (List (String × Item)))
  deriving Repr

abbrev Members :=
  List (String × Item)

/-- The members with the one of a name changed, or added at the end. -/
def setMember (name : String) (item : Item) : Members → Members
  | [] => [(name, item)]
  | (other, old) :: rest =>
    if other = name then (name, item) :: rest else (other, old) :: setMember name item rest

/-- Changes the members of the table that names lead to, where `made` is the origin of the tables
that are missing on the way.  Of several tables with one header the last one is meant. -/
def changeAt (made : Origin) (change : Origin → Members → Option Members) :
    List String → Origin → Members → Option Members
  | [], origin, members => change origin members
  | name :: names, _, members =>
    match members.lookup name with
    | none => do
      let inner ← changeAt made change names made []
      some (members ++ [(name, .table made inner)])
    | some (.value _) => none
    | some (.table origin inner) =>
      if made = .dotted && origin = .opened then none
      else do
        let inner ← changeAt made change names origin inner
        some (setMember name (.table origin inner) members)
    | some (.tables elements) =>
      match elements.getLast? with
      | none => none
      | some inner => do
        let inner ← changeAt made change names .opened inner
        some (setMember name (.tables (elements.dropLast ++ [inner])) members)

/-- Adds the value of a key, of which the table must not have one yet. -/
def assign (key : Key) (value : Toml) (members : Members) : Option Members :=
  changeAt .dotted (fun origin members =>
    if (!key.tables.isEmpty && origin != .dotted) || (members.lookup key.name).isSome then none
    else some (members ++ [(key.name, .value value)])) key.tables .opened members

/-- Opens the table of a header. -/
def openTable (key : Key) (members : Members) : Option Members :=
  changeAt .implied (fun _ members =>
    match members.lookup key.name with
    | none => some (members ++ [(key.name, .table .opened [])])
    | some (.table .implied inner) => some (setMember key.name (.table .opened inner) members)
    | some _ => none) key.tables .opened members

/-- Opens one more of the tables of a header. -/
def openElement (key : Key) (members : Members) : Option Members :=
  changeAt .implied (fun _ members =>
    match members.lookup key.name with
    | none => some (members ++ [(key.name, .tables [[]])])
    | some (.tables elements) => some (setMember key.name (.tables (elements ++ [[]])) members)
    | some _ => none) key.tables .opened members

mutual

/-- The finished value of an item. -/
def Item.finish : Item → Toml
  | .value value => value
  | .table _ members => .table (finishMembers members)
  | .tables elements => .array (finishTables elements)

def finishMembers : List (String × Item) → List (String × Toml)
  | [] => []
  | (name, item) :: rest => (name, item.finish) :: finishMembers rest

def finishTables : List (List (String × Item)) → List Toml
  | [] => []
  | members :: rest => .table (finishMembers members) :: finishTables rest

end

end ShaderCalls.Toml
