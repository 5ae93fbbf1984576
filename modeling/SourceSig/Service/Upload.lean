import SourceSig.Json.Skip
import SourceSig.Tree.Dump

/-!
# Uploads

The bodies of requests: a file with its statements, or a list of such files. A record is an object,
in which entries that nobody asked for are skipped, or a list of the fields in their order.
-/

namespace SourceSig

open Text (Bytes)
open Json (Rest)

/-- A file by its path, with its statements. -/
structure Upload where
  path : String
  statements : List Node

namespace Upload

/-- A text. -/
def readText (s : Bytes) : Except DecodeError (String × Rest s) :=
  match Json.peek s with
  | none => .error (.malformed .endInValue)
  | some (b, rest) =>
    if b = 0x22 then do
      let (text, after) ← liftRead (Json.readString rest.1)
      return (text, rest.then after)
    else .error (mismatchAt .text s)

/-- The end of a list of fields that were all read. -/
def expectClose (s : Bytes) : Except DecodeError (Rest s) :=
  match Json.peek s with
  | none => .error (.malformed .endInList)
  | some (b, rest) =>
    if b = 0x5D then .ok rest
    else
      let dangling := b = 0x2C ∧ (Json.peek rest.1).any fun (c, _) => c == 0x5D
      .error (.malformed (if dangling then .trailingComma else .trailingCharacters))

/-- A field in a list of fields, of which `index` were read before. -/
def readPositional {α : Type} (record : String) (size index : Nat)
    (readOne : (s : Bytes) → Except DecodeError (α × Rest s)) (s : Bytes) :
    Except DecodeError (α × Rest s) := do
  match ← liftRead (Json.nextItem (index == 0) s) with
  | .done _ => throw (.tooShort index record size)
  | .more here =>
    let (a, rest) ← readOne here.1
    return (a, here.then rest)

/-- The value of a field, which must not have been read before. -/
def readField {α : Type} (name : String) (before : Option α)
    (readOne : (s : Bytes) → Except DecodeError (α × Rest s)) (s : Bytes) :
    Except DecodeError (Option α × Rest s) :=
  if before.isSome then .error (.duplicateField name)
  else do
    let rest ← liftRead (Json.readColon s)
    let (a, after) ← readOne rest.1
    return (some a, rest.then after)

/-- The input after the value of an entry that nobody asked for. -/
def skipField (s : Bytes) : Except DecodeError (Rest s) := do
  let rest ← liftRead (Json.readColon s)
  let after ← liftRead (Json.skipValue rest.1)
  return rest.then after

/-- A field that has to be there. -/
def require {α : Type} (name : String) : Option α → Except DecodeError α
  | some a => .ok a
  | none => .error (.missingField name)

/-- A record, from an object or from a list of its fields. -/
def readRecord {α : Type} (name : String)
    (keyed positional : (s : Bytes) → Except DecodeError (α × Rest s)) (s : Bytes) :
    Except DecodeError (α × Rest s) :=
  match Json.peek s with
  | none => .error (.malformed .endInValue)
  | some (b, rest) =>
    if b = 0x5B then do
      let (a, after) ← positional rest.1
      return (a, rest.then after)
    else if b = 0x7B then do
      let (a, after) ← keyed rest.1
      return (a, rest.then after)
    else .error (mismatchAt (.record name) s)

/-! ## One file -/

/-- The statements of a file. -/
def readStatements (s : Bytes) : Except DecodeError (List Node × Rest s) :=
  readSequence readNode s

/-- The entries of a file's object up to its end, with the fields read before. -/
def readEntries (first : Bool) (path : Option String) (statements : Option (List Node))
    (s : Bytes) : Except DecodeError (Upload × Rest s) := do
  match ← liftRead (Json.nextKey first s) with
  | .done rest => return (⟨← require "path" path, ← require "ast" statements⟩, rest)
  | .more here =>
    let (key, rest) ← liftRead (Json.readString here.1)
    if key = "path" then
      let (path, after) ← readField "path" path readText rest.1
      let (upload, last) ← readEntries false path statements after.1
      return (upload, here.then (rest.then (after.then last)))
    else if key = "ast" then
      let (statements, after) ← readField "ast" statements readStatements rest.1
      let (upload, last) ← readEntries false path statements after.1
      return (upload, here.then (rest.then (after.then last)))
    else
      let after ← skipField rest.1
      let (upload, last) ← readEntries false path statements after.1
      return (upload, here.then (rest.then (after.then last)))
termination_by s.length
decreasing_by
  all_goals exact (here.then (rest.then after)).2

/-- The path and the statements of a file as a list. -/
def readFields (s : Bytes) : Except DecodeError (Upload × Rest s) := do
  let (path, rest) ← readPositional "FileAst" 2 0 readText s
  let (statements, after) ← readPositional "FileAst" 2 1 readStatements rest.1
  let last ← expectClose after.1
  return (⟨path, statements⟩, rest.then (after.then last))

/-- One file. -/
def read (s : Bytes) : Except DecodeError (Upload × Rest s) :=
  readRecord "FileAst" (readEntries true none none) readFields s

/-! ## Several files -/

/-- The files of a request. -/
def readUploads (s : Bytes) : Except DecodeError (List Upload × Rest s) :=
  readSequence read s

/-- The entries of the object of a request up to its end, with the files read before. -/
def readListEntries (first : Bool) (files : Option (List Upload)) (s : Bytes) :
    Except DecodeError (List Upload × Rest s) := do
  match ← liftRead (Json.nextKey first s) with
  | .done rest => return (← require "files" files, rest)
  | .more here =>
    let (key, rest) ← liftRead (Json.readString here.1)
    if key = "files" then
      let (files, after) ← readField "files" files readUploads rest.1
      let (all, last) ← readListEntries false files after.1
      return (all, here.then (rest.then (after.then last)))
    else
      let after ← skipField rest.1
      let (all, last) ← readListEntries false files after.1
      return (all, here.then (rest.then (after.then last)))
termination_by s.length
decreasing_by
  all_goals exact (here.then (rest.then after)).2

/-- The files of a request as the one element of a list. -/
def readListFields (s : Bytes) : Except DecodeError (List Upload × Rest s) := do
  let (files, rest) ← readPositional "ReportRequest" 1 0 readUploads s
  let last ← expectClose rest.1
  return (files, rest.then last)

/-- A request with several files. -/
def readList (s : Bytes) : Except DecodeError (List Upload × Rest s) :=
  readRecord "ReportRequest" (readListEntries true none) readListFields s

/-! ## Bodies -/

/-- What a body holds, with nothing but blanks after it. -/
def ofBody {α : Type} (readOne : (s : Bytes) → Except DecodeError (α × Rest s)) (body : Bytes) :
    Except DecodeError α := do
  let (a, rest) ← readOne body
  liftRead (Json.expectEnd rest.1)
  return a

/-- The file in the body of a request. -/
def parse (body : Bytes) : Except DecodeError Upload :=
  ofBody read body

/-- The files in the body of a request. -/
def parseList (body : Bytes) : Except DecodeError (List Upload) :=
  ofBody readList body

end Upload

end SourceSig
