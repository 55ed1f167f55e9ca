/-
**Trees of files.**

A tree holds files and directories below a top directory.  Nothing is known about what lies outside,
but that the directories around it are directories.

Main definitions:

* `ShaderEffect.FileTree` — files and directories with their paths from the top;
* `ShaderEffect.FileTree.walk` — what a path leads to;
* `ShaderEffect.FileTree.disk` — the tree as a disk whose paths start at the top.
-/

import ShaderEffect.Files.Disk

set_option autoImplicit false

namespace ShaderEffect

/-- Files and directories with the names that lead to them. -/
structure FileTree where
  /-- The files and their contents. -/
  files : List (List String × ByteArray)
  /-- Directories that may be empty. -/
  directories : List (List String)

/-- What a path leads to. -/
inductive FileNode where
  | file (content : ByteArray)
  /-- The directory that these names lead to, the last of them first. -/
  | directory (names : List String)
  /-- A directory around the top. -/
  | outside

namespace FileTree

/-- The names in a path that count. -/
def names (path : String) : List String :=
  (path.splitOn "/").filter fun name => name ≠ "" ∧ name ≠ "."

/-- The tree of contents with their paths; a slash at the end of a path makes it a directory. -/
def ofList : List (String × ByteArray) → FileTree
  | [] => ⟨[], []⟩
  | (path, content) :: rest =>
    let tree := ofList rest
    if path.toList.getLast? = some '/' then
      { tree with directories := names path :: tree.directories }
    else { tree with files := (names path, content) :: tree.files }

/-- Whether names lead to a directory: one of its own, or one that something lies in. -/
def isDirectory (tree : FileTree) (ns : List String) : Bool :=
  tree.directories.any (ns.isPrefixOf ·) || tree.files.any fun f => ns.isPrefixOf f.1 && ns != f.1

/-- What a name in a directory leads to, where the names of the directory stand in reverse. -/
def child (tree : FileTree) (above : List String) (name : String) : Except FileFault FileNode :=
  let ns := (name :: above).reverse
  match tree.files.lookup ns with
  | some content => .ok (.file content)
  | none => if tree.isDirectory ns then .ok (.directory (name :: above)) else .error .notFound

/-- How many bytes a name in a path may have. -/
def maxName : Nat := 255

/-- How many bytes a path may have. -/
def maxPath : Nat := 4095

/-- What one component of a path leads to. -/
def step (tree : FileTree) (node : FileNode) (component : String) : Except FileFault FileNode :=
  match node with
  | .file _ => .error .notDirectory
  | .outside =>
    if component = "" ∨ component = "." ∨ component = ".." then .ok .outside
    else if maxName < component.utf8ByteSize then .error .tooLong
    else .error .notFound
  | .directory above =>
    if maxName < component.utf8ByteSize then .error .tooLong
    else if component = "" ∨ component = "." then .ok (.directory above)
    else if component = ".." then
      match above with
      | [] => .ok .outside
      | _ :: above => .ok (.directory above)
    else tree.child above component

/-- What the components of a path lead to. -/
def walk (tree : FileTree) (node : FileNode) : List String → Except FileFault FileNode
  | [] => .ok node
  | component :: rest =>
    match tree.step node component with
    | .error fault => .error fault
    | .ok node => tree.walk node rest

/-- What a path leads to from the top. -/
def find (tree : FileTree) (path : String) : Except FileFault FileNode :=
  if '\x00' ∈ path.toList then .error .zeroInPath
  else if path = "" then .error .notFound
  else if maxPath < path.utf8ByteSize then .error .tooLong
  else if path.toList.head? = some '/' then tree.walk .outside (path.splitOn "/")
  else tree.walk (.directory []) (path.splitOn "/")

/-- The tree as a disk. -/
def disk (tree : FileTree) : Disk where
  read path :=
    match tree.find path with
    | .error fault => .error fault
    | .ok (.file content) =>
      match String.fromUTF8? content with
      | some text => .ok text
      | none => .error .notText
    | .ok _ => .error .isDirectory

end FileTree

end ShaderEffect
