import SourceSig.Text.Lines

/-!
# Paths

Paths as texts with slashes. A path is cut at its slashes into segments; the empty segment and `.`
mean nothing, except that a leading `.` of a relative path counts. Two spellings of one path have
the same components, and `relativeTo` compares by components while it keeps the spelling of what is
left.
-/

namespace SourceSig.Path

/-- What stands between two slashes of a path. -/
abbrev Segment := List Char

/-- The segments of a path, after its leading slash if it has one. -/
structure Parts where
  absolute : Bool
  segments : List Segment

/-- A path taken apart at its slashes. -/
def parts (path : String) : Parts :=
  match path.toList with
  | '/' :: rest => ⟨true, Text.splitOn '/' rest⟩
  | cs => ⟨false, Text.splitOn '/' cs⟩

/-- A step of a path. -/
inductive Component where
  | root
  | here
  | up
  | name (segment : Segment)
deriving DecidableEq

/-- What a segment after the first stands for; the empty one and `.` stand for nothing. -/
def component? (s : Segment) : Option Component :=
  if s = [] ∨ s = ['.'] then none
  else if s = ['.', '.'] then some .up
  else some (.name s)

/-- The component that a path begins with before its segments are looked at. -/
def Parts.start (p : Parts) : Option Component :=
  if p.absolute then some .root
  else if p.segments.head? = some ['.'] then some .here
  else none

/-- The steps of a path. Empty segments, and dots after the first segment, are none. -/
def components (path : String) : List Component :=
  let p := parts path
  p.start.toList ++ p.segments.filterMap component?

/-- Segments with slashes between them. -/
def join (segments : List Segment) : List Char :=
  List.intercalate ['/'] segments

/-- The segments without those at the end that stand for nothing. -/
def trimEnd (segments : List Segment) : List Segment :=
  Text.dropEndWhile (fun s => (component? s).isNone) segments

/-- The segments after some that stand for the given components. -/
def after : List Component → List Segment → Option (List Segment)
  | [], segments => some segments
  | _ :: _, [] => none
  | c :: cs, s :: segments =>
    match component? s with
    | none => after (c :: cs) segments
    | some d => if d = c then after cs segments else none

/-- The text of a path with nothing taken off its front. -/
def Parts.wholeText (p : Parts) : List Char :=
  match p.start with
  | some .root => '/' :: join (trimEnd p.segments)
  | some _ => join (['.'] :: trimEnd (p.segments.drop 1))
  | none => join (trimEnd p.segments)

/-- What is left of a path once the components of `root` are taken off its front, if it begins with
them. -/
def relativeTo (root path : String) : Option String :=
  let p := parts path
  match components root with
  | [] => some (String.ofList p.wholeText)
  | c :: cs =>
    let left := match p.start with
      | some d => if d = c then after cs p.segments else none
      | none => after (c :: cs) p.segments
    left.map fun segments =>
      String.ofList (join (trimEnd (segments.dropWhile fun s => (component? s).isNone)))

/-- The path that a report names a file by: relative to the root where the file lies under it, with
forward slashes, and without slashes at its ends. -/
def normalize (root path : String) : String :=
  let relative := (relativeTo root path).getD path
  let slashed := relative.toList.map fun c => if c = '\\' then '/' else c
  String.ofList (Text.dropEndWhile (· = '/') (slashed.dropWhile (· = '/')))

/-- The last component of a path, if it is a name. -/
def fileName? (path : String) : Option String :=
  match (components path).getLast? with
  | some (.name s) => some (String.ofList s)
  | _ => none

/-- The path up to the end of its last component, if that is a name. -/
def withoutEnd? (path : String) : Option String :=
  let p := parts path
  if (fileName? path).isNone then none
  else some (String.ofList ((if p.absolute then ['/'] else []) ++ join (trimEnd p.segments)))

/-- An entry of a directory by its name. An absolute name stands for itself. -/
def child (dir name : String) : String :=
  if name.toList.head? = some '/' ∨ dir = "" then name
  else if dir.toList.getLast? = some '/' then dir ++ name
  else dir ++ "/" ++ name

end SourceSig.Path
