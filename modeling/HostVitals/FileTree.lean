import HostVitals.IoFault
import HostVitals.Text.Path

/-!
# The file tree

The files that collectors read: directories and files below the root. A path starts at
the root if it is absolute, and at the working directory if it is not. Paths are resolved
component by component, as the system does it, and the first obstacle is the fault.

* `FileTree.resolve`: the node that a path leads to.
* `FileTree.readText`: the text of a file.
* `FileTree.write`, `makeDir`, `remove`: changes to the tree.
-/

namespace HostVitals

/-- A file with its bytes, or a directory with its named entries. -/
inductive FileNode where
  | file (content : ByteArray)
  | dir (entries : List (String × FileNode))

instance : Inhabited FileNode := ⟨.dir []⟩

/-- All files, and where a program stands among them. -/
structure FileTree where
  /-- The entries of the root. -/
  entries : List (String × FileNode)
  /-- The names that lead from the root to the working directory. -/
  workdir : List String

namespace FileTree

/-- A tree with nothing but an empty working directory. -/
def empty : FileTree where
  entries := [("home", .dir [])]
  workdir := ["home"]

/-! ## Resolving a path -/

/-- The greatest number of bytes in one component of a path. -/
def maxComponent : Nat := 255

/-- The least number of bytes that is too many for a path. -/
def pathLimit : Nat := 4096

/-- Follows the components of a path from `node`, whose parent directories, the nearest
first, are `parents`. Anything but a directory ends the path; in a directory an empty
component and `.` lead nowhere and `..` leads to its parent. -/
def walk : List (List (String × FileNode)) → FileNode → List String → Except IoFault FileNode
  | _, node, [] => .ok node
  | _, .file _, _ :: _ => .error .notDirectory
  | parents, .dir entries, name :: rest =>
    if name = "" ∨ name = "." then walk parents (.dir entries) rest
    else if name = ".." then
      match parents with
      | [] => walk [] (.dir entries) rest
      | parent :: parents => walk parents (.dir parent) rest
    else if maxComponent < name.utf8ByteSize then .error .nameTooLong
    else
      match entries.lookup name with
      | none => .error .notFound
      | some node => walk (entries :: parents) node rest

def components (path : String) : List String :=
  (path.toList.splitOn '/').map String.ofList

/-- The components of a path from the root on. -/
def fromRoot (tree : FileTree) (path : String) : List String :=
  if Text.isAbsolute path then components path else tree.workdir ++ components path

/-- The node that a path leads to. -/
def resolve (tree : FileTree) (path : String) : Except IoFault FileNode :=
  if path.toList.contains '\x00' then .error .nulInPath
  else if path.isEmpty then .error .notFound
  else if pathLimit ≤ path.utf8ByteSize then .error .nameTooLong
  else walk [] (.dir tree.entries) (tree.fromRoot path)

/-- The path leads to a file or a directory. -/
def holds (tree : FileTree) (path : String) : Bool :=
  match tree.resolve path with
  | .ok _ => true
  | .error _ => false

/-- The text of a file. -/
def readText (tree : FileTree) (path : String) : Except IoFault String :=
  match tree.resolve path with
  | .error fault => .error fault
  | .ok (.dir _) => .error .isDirectory
  | .ok (.file content) =>
    match String.fromUTF8? content with
    | some text => .ok text
    | none => .error .notText

/-! ## Changing the tree -/

/-- The names that lead to the end of a path: each `..` takes back the one before it. -/
def trail (tree : FileTree) (path : String) : List String :=
  ((tree.fromRoot path).foldl (fun taken name =>
    if name = "" ∨ name = "." then taken
    else if name = ".." then taken.tail
    else name :: taken) []).reverse

/-- Puts a node under a name, in the place of one that has the name. -/
def setEntry (name : String) (node : FileNode) (entries : List (String × FileNode)) :
    List (String × FileNode) :=
  (name, node) :: entries.filter fun e => e.1 != name

/-- The entries of the directory under a name, or none. -/
def entriesUnder (name : String) (entries : List (String × FileNode)) :
    List (String × FileNode) :=
  match entries.lookup name with
  | some (.dir inner) => inner
  | _ => []

/-- Changes the node at the end of a path, and makes the directories on the way. -/
def alter (f : Option FileNode → FileNode) :
    List String → List (String × FileNode) → List (String × FileNode)
  | [], entries => entries
  | [name], entries => setEntry name (f (entries.lookup name)) entries
  | name :: rest, entries => setEntry name (.dir (alter f rest (entriesUnder name entries))) entries

/-- Takes out the node at the end of a path, if there is one. -/
def erase : List String → List (String × FileNode) → List (String × FileNode)
  | [], entries => entries
  | [name], entries => entries.filter fun e => e.1 != name
  | name :: rest, entries =>
    entries.map fun e =>
      match e.2 with
      | .dir inner => if e.1 = name then (e.1, .dir (erase rest inner)) else e
      | .file _ => e

/-- Changes what is at the end of a path, but neither the working directory itself nor a
directory that it is in. -/
def change (tree : FileTree) (path : String)
    (f : List String → List (String × FileNode) → List (String × FileNode)) : FileTree :=
  if (tree.trail path).isPrefixOf tree.workdir then tree
  else { tree with entries := f (tree.trail path) tree.entries }

/-- Creates a file, or replaces its content. -/
def write (tree : FileTree) (path : String) (content : ByteArray) : FileTree :=
  tree.change path (alter fun _ => .file content)

/-- Creates a directory, unless there is one already. -/
def makeDir (tree : FileTree) (path : String) : FileTree :=
  tree.change path (alter fun node? => node?.getD (.dir []))

/-- Removes a file, or a directory with all that is in it. -/
def remove (tree : FileTree) (path : String) : FileTree :=
  tree.change path erase

example : ((empty.write "/proc/stat" "7".toUTF8).readText "../proc/stat").toOption = some "7" := by
  decide +kernel

end FileTree

end HostVitals
