import SourceSig.FileTree

/-!
# Discovery

The files of a target: the target itself, or the files under it that have the wanted extension and
are not ignored. Each directory may hold a file that lists entries to leave out; an ignored
directory is not entered.
-/

namespace SourceSig

/-! ## Ignore lists -/

/-- The name that a line of an ignore file lists, if any. Blank lines and comments list nothing, and
slashes at the end of a name do not count. -/
def ignoredName? (line : List Char) : Option String :=
  match (Text.trim (String.ofList line)).toList with
  | '#' :: _ => none
  | cs =>
    match Text.dropEndWhile (· = '/') cs with
    | [] => none
    | name => some (String.ofList name)

/-- The names that an ignore file lists. -/
def ignoredNames (text : String) : List String :=
  (Text.lines text.toList).filterMap ignoredName?

/-! ## Walking -/

/-- Which files are wanted, and how the ignore files are called. -/
structure DiscoveryRules where
  extension : String
  ignoreFile : String

namespace DiscoveryRules

/-- The end of the names of wanted files. -/
def suffix (rules : DiscoveryRules) : List Char :=
  '.' :: rules.extension.toList.dropWhile (· = '.')

/-- Whether a path has the wanted extension. -/
def wants (rules : DiscoveryRules) (path : String) : Bool :=
  match Path.fileName? path with
  | some name => rules.suffix.isSuffixOf name.toList
  | none => false

/-- The names that are left out of a directory. A list that cannot be read leaves nothing out. -/
def ignoredIn (rules : DiscoveryRules) (dir : FileTree.Place) : List String :=
  match dir.lookup rules.ignoreFile with
  | .ok place =>
    match place.tree.text with
    | .ok text => ignoredNames text
    | .error _ => []
  | .error _ => []

mutual

/-- The wanted files at a place. -/
def walk (rules : DiscoveryRules) (path : String) (above : List FileTree) :
    FileTree → List String
  | .file _ => if rules.wants path then [path] else []
  | .dir entries =>
    let place : FileTree.Place := ⟨.dir entries, above⟩
    let found := walkEntries rules path (.dir entries :: above) (rules.ignoredIn place) entries
    ((found.mergeSort fun a b => decide (a.1 ≤ b.1)).map (·.2)).flatten

/-- The wanted files under each entry that is not ignored. -/
def walkEntries (rules : DiscoveryRules) (path : String) (above : List FileTree)
    (ignored : List String) : List (String × FileTree) → List (String × List String)
  | [] => []
  | (name, t) :: rest =>
    let others := walkEntries rules path above ignored rest
    if ignored.contains name then others
    else (name, walk rules (Path.child path name) above t) :: others

end

end DiscoveryRules

/-- The files to report on, and the root that their report paths are relative to. -/
structure Discovered where
  root : String
  files : List String

/-- The files of a target. A file is taken as it is, under an empty root. -/
def discover (rules : DiscoveryRules) (tree : FileTree) (target : String) :
    Except Failure Discovered :=
  match tree.lookup target with
  | .error cause => .error (.unreadable target cause)
  | .ok place =>
    match place.tree with
    | .file _ => .ok ⟨"", [target]⟩
    | .dir entries => .ok ⟨target, rules.walk target place.above (.dir entries)⟩

end SourceSig
