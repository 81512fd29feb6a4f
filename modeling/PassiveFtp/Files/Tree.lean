import PassiveFtp.Files.Path

/-!
# File trees

A tree is what the server sees of the disk: directories with named entries,
files with their bytes, and symbolic links with the path they hold. Places are
lists of names from the top, and looking one up follows no link, so a place
tells exactly one node. Following links is resolution, and has its own module.
-/

namespace PassiveFtp

/-- What an entry of a directory can be. -/
inductive Node where
  | file (content : List UInt8)
  | link (target : Path)
  | dir (entries : List (Name × Node))

namespace Node

/-- Whether a node is a directory. -/
def isDir : Node → Bool
  | .dir _ => true
  | _ => false

/-- The entry of a directory under a name. -/
def child? (node : Node) (name : Name) : Option Node :=
  match node with
  | .dir entries => entries.lookup name
  | _ => none

/-- The node at a place below a node. -/
def get? : Node → Location → Option Node
  | node, [] => some node
  | node, name :: rest => (node.child? name).bind fun next => next.get? rest

/-- Entries with one of them changed, added or taken away. -/
def alterEntry (change : Option Node → Option Node) (name : Name)
    (entries : List (Name × Node)) : List (Name × Node) :=
  let others := entries.filter fun entry => entry.1 ≠ name
  match change (entries.lookup name) with
  | some node => others ++ [(name, node)]
  | none => others

/-- A node with the entry at a place changed; nothing happens if the way there
is not made of directories. -/
def alter (change : Option Node → Option Node) : Node → Location → Node
  | .dir entries, [name] => .dir (alterEntry change name entries)
  | .dir entries, name :: rest =>
    match entries.lookup name with
    | some next => .dir (alterEntry (fun _ => some (next.alter change rest)) name entries)
    | none => .dir entries
  | node, _ => node

end Node

/-- A file tree; its top is a directory. -/
structure Tree where
  entries : List (Name × Node)

namespace Tree

/-- The tree with nothing in it. -/
def empty : Tree :=
  ⟨[]⟩

/-- The node at the top. -/
def top (tree : Tree) : Node :=
  .dir tree.entries

/-- The node at a place, no link followed. -/
def get? (tree : Tree) (place : Location) : Option Node :=
  tree.top.get? place

/-- The tree whose top is the given node. -/
def ofTop : Node → Tree
  | .dir entries => ⟨entries⟩
  | _ => empty

/-- The tree with the entry at a place changed. -/
def alter (tree : Tree) (change : Option Node → Option Node) (place : Location) : Tree :=
  ofTop (tree.top.alter change place)

theorem get?_nil (tree : Tree) : tree.get? [] = some (.dir tree.entries) := rfl

end Tree

end PassiveFtp
