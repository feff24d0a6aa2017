import Mermaid.Files.Path
import Mermaid.Text.Utf8

/-!
# Trees of files

A directory with everything below it, and its own place among all files. Looking a path up walks
through its parts, so the first part that fails says why.

A file may be closed to readers or to writers, and a directory to those who look for something in
it. A file that is no regular one gives the same content whatever is written to it.

* `FileTree.find` is what stands at a path, or why nothing can be found there;
* `FileTree.read` is the content of a file, and `FileTree.write` gives it another one;
* `FileTree.put` and `FileTree.remove` change an entry.
-/

namespace Mermaid

/-- What can be done with a file. -/
structure FileMode where
  readable : Bool := true
  writable : Bool := true
  /-- Whether it is a regular file, which keeps what is written to it. -/
  regular : Bool := true
  deriving DecidableEq

/-- What stands at a path. -/
inductive FileNode
  | file (content : Bytes) (mode : FileMode := {})
  | directory (searchable : Bool := true)

/-- The directory `home` with its entries, each by its parts below `home`. Of the other files only
the directories above `home` are there, and all may look into these. -/
structure FileTree where
  home : List String
  entries : List (List String × FileNode) := []
  /-- The directory that relative paths start from. -/
  current : List String := home

/-- Why a path cannot be opened. -/
inductive FileFault
  | notFound
  | denied
  | notDirectory
  | isDirectory
  | nameTooLong
  deriving DecidableEq

/-- Whether a fault just says that there is nothing at a path. -/
def FileFault.meansAbsent : FileFault → Bool
  | .notFound | .notDirectory => true
  | .denied | .isDirectory | .nameTooLong => false

/-- The number of a fault among the errors of the system. -/
def FileFault.number : FileFault → Nat
  | .notFound => 2
  | .denied => 13
  | .notDirectory => 20
  | .isDirectory => 21
  | .nameTooLong => 36

/-- The text of a fault. -/
def FileFault.text : FileFault → String
  | .notFound => "No such file or directory"
  | .denied => "Permission denied"
  | .notDirectory => "Not a directory"
  | .isDirectory => "Is a directory"
  | .nameTooLong => "File name too long"

/-- The message of a fault at a path. -/
def FileFault.message (f : FileFault) (path : String) : String :=
  "[Errno " ++ toString f.number ++ "] " ++ f.text ++ ": " ++
    String.ofList (Text.quoted path.toList)

namespace FileTree

/-- The most bytes of one part of a path. -/
def partLimit : Nat := 255

/-- The most bytes of a whole path. -/
def pathLimit : Nat := 4095

/-- The length of a name in bytes. -/
def byteLength (s : String) : Nat := (Utf8.encode s.toList).length

/-- The entry with some parts below `home`. -/
def entry? (t : FileTree) (parts : List String) : Option FileNode :=
  if parts.isEmpty then some (.directory true)
  else (t.entries.find? fun e => e.1 = parts).map Prod.snd

/-- What stands at some parts below the root of all files. -/
def nodeAt? (t : FileTree) (location : List String) : Option FileNode :=
  if location.isPrefixOf t.home then some (.directory true)
  else if t.home.isPrefixOf location then t.entry? (location.drop t.home.length)
  else none

/-- Where a part of a path leads from a place. -/
def step (location : List String) (part : String) : List String :=
  if part = ".." then location.dropLast else location ++ [part]

/-- Walks on from a node through the parts of a path, and gives the place it leads to. -/
def walk (t : FileTree) (location : List String) (node : FileNode) :
    List String → Except FileFault (List String × FileNode)
  | [] => .ok (location, node)
  | part :: parts =>
    match node with
    | .file .. => .error .notDirectory
    | .directory searchable =>
      if !searchable then .error .denied
      else if partLimit < byteLength part then .error .nameTooLong
      else match t.nodeAt? (step location part) with
        | none => .error .notFound
        | some next => walk t (step location part) next parts

/-- The place that a path starts from: the current directory unless it is absolute. -/
def origin (t : FileTree) (p : Path) : List String := if p.isAbsolute then [] else t.current

/-- What stands at a path, and where that is. -/
def find (t : FileTree) (p : Path) : Except FileFault (List String × FileNode) :=
  if pathLimit < byteLength p.toString then .error .nameTooLong
  else match t.nodeAt? (t.origin p) with
    | none => .error .notFound
    | some node => walk t (t.origin p) node p.parts

/-- The content of the file at a path. -/
def read (t : FileTree) (p : Path) : Except FileFault Bytes :=
  match t.find p with
  | .error f => .error f
  | .ok (_, .directory _) => .error .isDirectory
  | .ok (_, .file content mode) => if mode.readable then .ok content else .error .denied

/-- The entries with one of them set. -/
def setEntry (parts : List String) (node : FileNode) :
    List (List String × FileNode) → List (List String × FileNode)
  | [] => [(parts, node)]
  | (p, n) :: rest => if p = parts then (p, node) :: rest else (p, n) :: setEntry parts node rest

/-- The entries with a directory added when it is not there. -/
def ensureDirectory (entries : List (List String × FileNode)) (parts : List String) :
    List (List String × FileNode) :=
  if entries.any fun e => e.1 = parts then entries else setEntry parts (.directory true) entries

/-- The directories on the way to some parts. -/
def ancestors (parts : List String) : List (List String) :=
  (List.range (parts.length - 1)).map fun n => parts.take (n + 1)

/-- The tree with an entry below `home` set, and the directories on the way to it. -/
def put (t : FileTree) (parts : List String) (node : FileNode) : FileTree :=
  { t with
    entries := setEntry parts node ((ancestors parts).foldl ensureDirectory t.entries) }

/-- The tree with new content for a file that is there. -/
def write (t : FileTree) (p : Path) (content : Bytes) : Except FileFault FileTree :=
  match t.find p with
  | .error f => .error f
  | .ok (_, .directory _) => .error .isDirectory
  | .ok (location, .file _ mode) =>
    if !mode.writable then .error .denied
    else if !mode.regular then .ok t
    else .ok { t with
      entries := setEntry (location.drop t.home.length) (.file content mode) t.entries }

/-- The tree without an entry below `home`. -/
def remove (t : FileTree) (parts : List String) : FileTree :=
  { t with entries := t.entries.filter fun e => e.1 ≠ parts }

end FileTree

end Mermaid
