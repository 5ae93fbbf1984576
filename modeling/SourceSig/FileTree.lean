import SourceSig.Failure
import SourceSig.Path
import SourceSig.Text.Utf8

/-!
# File trees

The files of a working directory as a value. Looking a path up follows it segment by segment, and
fails the way an operating system does.
-/

namespace SourceSig

open Text (Bytes)

/-- A file with its content, or a directory with its entries. -/
inductive FileTree where
  | file (content : Bytes)
  | dir (entries : List (String × FileTree))

namespace FileTree

/-- The folder without entries. -/
def empty : FileTree := .dir []

/-- Whether a tree is a folder. -/
def isDir : FileTree → Bool
  | .dir _ => true
  | .file _ => false

/-- The entry of a directory. -/
def child? (name : String) : FileTree → Option FileTree
  | .dir entries => (entries.find? (·.1 == name)).map (·.2)
  | .file _ => none

/-- The entries with `name` bound to `t`. -/
def putEntry (name : String) (t : FileTree) : List (String × FileTree) → List (String × FileTree)
  | [] => [(name, t)]
  | (n, u) :: rest => if n = name then (name, t) :: rest else (n, u) :: putEntry name t rest

/-- The tree with `t` at the end of a path of names, with the directories that it needs. A directory
that is there is kept when an empty one is put in its place. -/
def put : List String → FileTree → FileTree → FileTree
  | [], .dir [], .dir entries => .dir entries
  | [], t, _ => t
  | name :: names, t, tree =>
    let entries := match tree with
      | .dir entries => entries
      | .file _ => []
    .dir (putEntry name (put names t ((tree.child? name).getD empty)) entries)

/-- The tree with a file or a directory at a relative path. -/
def putAt (tree : FileTree) (path : String) (t : FileTree) : FileTree :=
  let names := (Path.components path).filterMap fun
    | .name s => some (String.ofList s)
    | _ => none
  put names t tree

/-- How many bytes a name has at most. -/
def maxNameSize : Nat := 255

/-- How many bytes a path has at most. -/
def maxPathSize : Nat := 4095

/-- Why there is no entry with a name. -/
def missingCause (name : String) : IoError :=
  if maxNameSize < name.utf8ByteSize then .nameTooLong else .notFound

/-- Why a path leads nowhere, where following it fails for a cause. -/
def pathCause (path : String) (cause : IoError) : IoError :=
  if path.contains '\x00' then .nulInName
  else if maxPathSize < path.utf8ByteSize then .nameTooLong
  else cause

/-- A place in a tree: what stands there, and the directories above it, the nearest first. -/
structure Place where
  tree : FileTree
  above : List FileTree

/-- The place that segments lead to. Only a directory can be gone through, and what lies above the
working directory is not known. -/
def follow : List Path.Segment → Place → Except IoError Place
  | [], place => .ok place
  | s :: segments, place =>
    if place.tree.isDir then
      match Path.component? s with
      | some (.name s) =>
        match place.tree.child? (String.ofList s) with
        | some t => follow segments ⟨t, place.tree :: place.above⟩
        | none => .error (missingCause (String.ofList s))
      | some _ =>
        match place.above with
        | t :: above => follow segments ⟨t, above⟩
        | [] => .error .notFound
      | none => follow segments place
    else .error .notADirectory

/-- The place that a path leads to. The empty path leads nowhere, and absolute paths lie outside the
tree. -/
def Place.lookup (place : Place) (path : String) : Except IoError Place :=
  let p := Path.parts path
  let found := if path = "" ∨ p.absolute = true then .error .notFound else follow p.segments place
  found.mapError (pathCause path)

/-- The place that a path names, from the top of a tree. -/
def lookup (tree : FileTree) (path : String) : Except IoError Place :=
  Place.lookup ⟨tree, []⟩ path

/-- The bytes of a file. -/
def content : FileTree → Except IoError Bytes
  | .file content => .ok content
  | .dir _ => .error .isADirectory

/-- The text of a file, which has to be well-formed. -/
def text (t : FileTree) : Except IoError String := do
  match Text.decode? (← t.content) with
  | some s => return s
  | none => throw .notUtf8

/-- The bytes of the file that a path leads to. -/
def Place.contentAt (place : Place) (path : String) : Except IoError Bytes := do
  (← place.lookup path).tree.content

/-- The bytes of the file at a path. -/
def contentAt (tree : FileTree) (path : String) : Except IoError Bytes := do
  (← tree.lookup path).tree.content

/-- The text of the file at a path. -/
def textAt (tree : FileTree) (path : String) : Except IoError String := do
  (← tree.lookup path).tree.text

end FileTree

end SourceSig
