import ShaderCalls.Files.Tree
import ShaderCalls.Proofs.Files.Path
import ShaderCalls.Proofs.Lists

/-!
# File trees and the order of their entries

A file tree is known by what names lead to in it.  Two trees in which the same names lead to the
same files and to directories differ at most in the order in which the entries are listed, and a
path leads to the same place in both.
-/

namespace ShaderCalls

open ShaderCalls.Path (IsEntry)

namespace FileNode

/-- The entries of every directory have names of their own, no two of them the same. -/
inductive WellNamed : FileNode → Prop
  | file (text : Option String) : WellNamed (.file text)
  | directory {entries : List (String × FileNode)} (hdistinct : (entries.map (·.1)).Nodup)
      (hnames : ∀ entry ∈ entries, IsEntry entry.1)
      (hnodes : ∀ entry ∈ entries, WellNamed entry.2) : WellNamed (.directory entries)

/-- What is told of a node apart from its entries: the text of a file, and of a directory that it
is one. -/
def contents : FileNode → Option (Option String)
  | .file text => some text
  | .directory _ => none

/-- The same names lead to the same files and to directories in both trees. -/
def SameContents (left right : FileNode) : Prop :=
  ∀ names, (left.find? names).map contents = (right.find? names).map contents

variable {node left right : FileNode} {entries : List (String × FileNode)}

/-! ## Following names -/

theorem find?_cons (node : FileNode) (name : String) (names : List String) :
    node.find? (name :: names) = (node.entry? name).bind (·.find? names) := by
  rw [find?]

theorem find?_append (node : FileNode) (names more : List String) :
    node.find? (names ++ more) = (node.find? names).bind (·.find? more) := by
  induction names generalizing node with
  | nil => simp [find?]
  | cons name names ih =>
      rw [List.cons_append, find?_cons, find?_cons, Option.bind_assoc]
      simp only [ih]

theorem find?_file (text : Option String) (name : String) (names : List String) :
    (FileNode.file text).find? (name :: names) = none := by
  simp [find?_cons, entry?, FileNode.entries]

theorem find?_directory (entries : List (String × FileNode)) (name : String)
    (names : List String) :
    (FileNode.directory entries).find? (name :: names) =
      (entries.lookup name).bind (·.find? names) :=
  find?_cons _ name names

theorem WellNamed.find? (hnode : node.WellNamed) {names : List String} {found : FileNode}
    (hfound : node.find? names = some found) : found.WellNamed := by
  induction names generalizing node with
  | nil =>
      cases hfound
      exact hnode
  | cons name names ih =>
      cases hnode with
      | file text =>
          rw [find?_file] at hfound
          contradiction
      | @directory entries hdistinct hnames hnodes =>
          rw [find?_directory] at hfound
          obtain ⟨entry, hentry, hfound⟩ := Option.bind_eq_some_iff.mp hfound
          have hmem := (lookup_eq_some_iff_mem hdistinct).mp hentry
          exact ih (hnodes _ hmem) hfound

/-! ## Trees with the same contents -/

theorem SameContents.symm (hsame : left.SameContents right) : right.SameContents left :=
  fun names => (hsame names).symm

/-- The same names lead to nodes with the same contents in both trees, or to nothing in both. -/
theorem SameContents.find? (hsame : left.SameContents right) (names : List String) :
    (left.find? names = none ∧ right.find? names = none) ∨
      ∃ leftNode rightNode, left.find? names = some leftNode ∧
        right.find? names = some rightNode ∧ leftNode.SameContents rightNode := by
  have hhere := hsame names
  cases hleft : left.find? names with
  | none =>
      rw [hleft, Option.map_none, eq_comm, Option.map_eq_none_iff] at hhere
      exact Or.inl ⟨rfl, hhere⟩
  | some leftNode =>
      rw [hleft, Option.map_some, eq_comm, Option.map_eq_some_iff] at hhere
      obtain ⟨rightNode, hright, _⟩ := hhere
      refine Or.inr ⟨leftNode, rightNode, rfl, hright, fun more => ?_⟩
      have hbelow := hsame (names ++ more)
      rwa [find?_append, find?_append, hleft, hright] at hbelow

theorem SameContents.find?_file_iff (hsame : left.SameContents right) (names : List String)
    (text : Option String) :
    left.find? names = some (.file text) ↔ right.find? names = some (.file text) := by
  have hcontents : ∀ node : Option FileNode,
      node = some (.file text) ↔ node.map contents = some (some text) := by
    rintro (_ | _ | _) <;> simp [contents]
  rw [hcontents, hcontents, hsame names]

theorem SameContents.of_file {text : Option String}
    (hsame : (FileNode.file text).SameContents right) : right = .file text := by
  have hhere := (hsame.find?_file_iff [] text).mp rfl
  exact Option.some.inj hhere

theorem SameContents.of_directory (hsame : (FileNode.directory entries).SameContents right) :
    ∃ others, right = .directory others := by
  cases right with
  | file text => exact absurd hsame.symm.of_file (by simp)
  | directory others => exact ⟨others, rfl⟩

theorem SameContents.isSome_lookup {others : List (String × FileNode)}
    (hsame : (FileNode.directory entries).SameContents (.directory others)) (name : String) :
    (entries.lookup name).isSome = (others.lookup name).isSome := by
  have hname := congrArg Option.isSome (hsame [name])
  simpa [FileNode.find?, entry?, FileNode.entries] using hname

/-- Directories have the same contents if their entries of each name have. -/
theorem SameContents.directory {others : List (String × FileNode)}
    (hentries : ∀ name,
      (entries.lookup name = none ∧ others.lookup name = none) ∨
        ∃ leftNode rightNode, entries.lookup name = some leftNode ∧
          others.lookup name = some rightNode ∧ leftNode.SameContents rightNode) :
    (FileNode.directory entries).SameContents (.directory others) := by
  intro names
  cases names with
  | nil => rfl
  | cons name names =>
      rw [find?_directory, find?_directory]
      rcases hentries name with ⟨hleft, hright⟩ | ⟨leftNode, rightNode, hleft, hright, hsame⟩
      · rw [hleft, hright]
      · rw [hleft, hright]
        exact hsame names

/-- The entries may be listed in any order. -/
theorem sameContents_of_perm {others : List (String × FileNode)}
    (hdistinct : (entries.map (·.1)).Nodup) (hperm : entries.Perm others) :
    (FileNode.directory entries).SameContents (.directory others) := by
  have hothers : (others.map (·.1)).Nodup := (hperm.map _).nodup_iff.mp hdistinct
  apply SameContents.directory
  intro name
  have hlookup : entries.lookup name = others.lookup name := by
    apply Option.ext
    intro node
    rw [lookup_eq_some_iff_mem hdistinct, lookup_eq_some_iff_mem hothers, hperm.mem_iff]
  rw [hlookup]
  cases hnode : others.lookup name with
  | none => exact Or.inl ⟨rfl, rfl⟩
  | some node => exact Or.inr ⟨node, node, rfl, rfl, fun _ => rfl⟩

/-- Two paths are refused for the same cause, or they lead to nodes with the same contents. -/
inductive SameOutcome : Except FileError FileNode → Except FileError FileNode → Prop
  | error (cause : FileError) : SameOutcome (.error cause) (.error cause)
  | ok {left right : FileNode} (hsame : left.SameContents right) :
      SameOutcome (.ok left) (.ok right)

theorem SameOutcome.refl : ∀ outcome : Except FileError FileNode, SameOutcome outcome outcome
  | .error cause => .error cause
  | .ok _ => .ok fun _ => rfl

end FileNode

namespace Files

/-- Both have the same contents, and relative paths are read from the same place. -/
structure SameContents (files other : Files) : Prop where
  root : files.root.SameContents other.root
  place : files.place = other.place

variable {files other : Files}

theorem SameContents.symm (hsame : files.SameContents other) : other.SameContents files :=
  ⟨hsame.root.symm, hsame.place.symm⟩

theorem SameContents.step_eq (hsame : files.SameContents other) (place : List String)
    (component : Path.Component) : files.step place component = other.step place component := by
  unfold step
  rcases hsame.root.find? place with ⟨hleft, hright⟩ | ⟨node, otherNode, hleft, hright, hnodes⟩
  · rw [hleft, hright]
  · rw [hleft, hright]
    cases node with
    | file text => rw [hnodes.of_file]
    | directory entries =>
        obtain ⟨others, rfl⟩ := hnodes.of_directory
        cases component with
        | named name => simp only [hnodes.isSome_lookup name]
        | _ => rfl

theorem SameContents.follow_eq (hsame : files.SameContents other)
    (components : List Path.Component) : files.follow components = other.follow components := by
  have hstep : files.step = other.step := by
    funext place component
    exact hsame.step_eq place component
  rw [follow, follow, hstep, hsame.place]

/-- A path leads to the same place in both. -/
theorem SameContents.node (hsame : files.SameContents other) (path : String) :
    FileNode.SameOutcome (files.node path) (other.node path) := by
  unfold Files.node
  split
  · exact .refl _
  · rw [hsame.follow_eq]
    cases other.follow (Path.components path) with
    | error cause => exact .refl _
    | ok place =>
        simp only [bind, Except.bind]
        rcases hsame.root.find? place with ⟨hleft, hright⟩ |
          ⟨node, otherNode, hleft, hright, hnodes⟩
        · rw [hleft, hright]
          exact .refl _
        · rw [hleft, hright]
          cases node with
          | directory entries =>
              obtain ⟨others, rfl⟩ := hnodes.of_directory
              exact .ok hnodes
          | file text =>
              rw [hnodes.of_file]
              exact .refl _

/-- What a path leads to is found under names from the root. -/
theorem exists_find?_of_node {path : String} {node : FileNode}
    (hnode : files.node path = .ok node) : ∃ names, files.root.find? names = some node := by
  unfold Files.node at hnode
  split at hnode
  · contradiction
  · obtain ⟨place, _, hnode⟩ := exists_of_bind_ok hnode
    refine ⟨place, ?_⟩
    split at hnode <;> simp_all

end Files

end ShaderCalls
