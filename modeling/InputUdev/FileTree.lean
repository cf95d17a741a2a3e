import InputUdev.Association
import InputUdev.IoError
import InputUdev.Path

/-!
# File trees

Files and directories by path, as far as a program can tell them apart by opening and listing them.
A path is looked up component by component, from the root or from the working directory. Which
files are device nodes is not a part of the tree. Permissions are left out, and so are links, and
names that are no text, which a scan of a directory passes over.
-/

namespace InputUdev

inductive FileNode where
  | file (content : ByteArray)
  | directory

structure FileTree where
  /-- What there is below the root, by its components. -/
  entries : List (List String × FileNode) := []
  /-- The working directory. -/
  home : List String := []
  nodup_paths : (entries.map Prod.fst).Nodup := by simp

namespace FileTree

/-- What the components lead to; the root is a directory. -/
def node? (t : FileTree) (names : List String) : Option FileNode :=
  if names.isEmpty then some .directory else t.entries.lookup names

/-! ## Changes -/

def put (t : FileTree) (names : List String) (node : FileNode) : FileTree where
  entries := Association.upsert names node t.entries
  home := t.home
  nodup_paths := Association.nodup_upsert t.nodup_paths names node

/-- Makes the directories on the way to the given components, as far as they are missing. -/
def makeParents (t : FileTree) (names : List String) : FileTree :=
  (List.range' 1 (names.length - 1)).foldl (fun t n =>
    if (t.node? (names.take n)).isSome then t else t.put (names.take n) .directory) t

/-- The components from the root of a path that is written in the working directory, without looking
anything up. -/
def absolute (t : FileTree) (path : String) : List String :=
  (Path.components path).foldl (fun names name =>
    if name = "." then names else if name = ".." then names.dropLast else names ++ [name])
    (if path.startsWith "/" then [] else t.home)

/-- Makes a file or directory and the directories it is in. -/
def write (t : FileTree) (path : String) (node : FileNode) : FileTree :=
  (t.makeParents (t.absolute path)).put (t.absolute path) node

/-- Takes a path away, with all that is below it. -/
def remove (t : FileTree) (path : String) : FileTree where
  entries := t.entries.filter fun (names, _) => !(t.absolute path).isPrefixOf names
  home := t.home
  nodup_paths := t.nodup_paths.sublist (List.filter_sublist.map _)

/-- The tree that holds nothing but a working directory. -/
def bare (home : List String) : FileTree :=
  { (FileTree.makeParents {} home).put home .directory with home }

/-! ## Looking up -/

/-- The longest name of a file, in bytes. -/
def maxName : Nat := 255

/-- The longest path, in bytes. -/
def maxPath : Nat := 4095

/-- What a name leads to from the given components. -/
def descend (t : FileTree) (names : List String) (name : String) : Except IoError (List String) :=
  match t.node? names with
  | none => .error .notFound
  | some (.file _) => .error .notADirectory
  | some .directory =>
    if name = "." then .ok names
    else if name = ".." then .ok names.dropLast
    else if maxName < name.utf8ByteSize then .error .nameTooLong
    else if (t.node? (names ++ [name])).isSome then .ok (names ++ [name])
    else .error .notFound

/-- The components of what a path leads to. A path with a slash at its end leads to a directory
only. -/
def resolve (t : FileTree) (path : String) : Except IoError (List String) :=
  if '\x00' ∈ path.toList then .error .nulByte
  else if path.isEmpty then .error .notFound
  else if maxPath < path.utf8ByteSize then .error .nameTooLong
  else
    let names := Path.components path ++ if path.endsWith "/" then ["."] else []
    names.foldlM t.descend (if path.startsWith "/" then [] else t.home)

def hasPath (t : FileTree) (path : String) : Bool := (t.resolve path).isOk

/-- The content of a file as text. -/
def readText (t : FileTree) (path : String) : Except IoError String := do
  match t.node? (← t.resolve path) with
  | none => .error .notFound
  | some .directory => .error .isADirectory
  | some (.file content) =>
    match String.fromUTF8? content with
    | some text => .ok text
    | none => .error .invalidUtf8

/-- The names in a directory, each once, in no particular order. -/
def list (t : FileTree) (path : String) : Except IoError (List String) := do
  let names ← t.resolve path
  match t.node? names with
  | none => .error .notFound
  | some (.file _) => .error .notADirectory
  | some .directory =>
    .ok (t.entries.filterMap fun (entry, _) =>
      if entry.dropLast = names then entry.getLast? else none)

end FileTree
end InputUdev
