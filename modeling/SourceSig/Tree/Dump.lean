import SourceSig.Json.Reader
import SourceSig.Tree.Decode
import SourceSig.Text.Hidden

/-!
# Syntax tree dumps

The dump of a file is a JSON list of statements, often with a banner of the dumping tool above it.
`stripBanner` cuts the banner off, and `readDump` reads the statements, each completely and turned
into a node before the next one is looked at.
-/

namespace SourceSig

open Text (Bytes)
open Json (ReadError Rest)

/-! ## Banners -/

/-- Whether a list opens on the line, after any blanks. -/
def opensList (line : List Char) : Bool :=
  (Text.trimStart line).head? == some '['

/-- The text from the first line on which a list opens, or the whole text if there is none. -/
def stripBanner (s : String) : String :=
  match (Text.lines s.toList).dropWhile (!opensList ·) with
  | [] => s
  | kept => String.ofList kept.flatten

/-! ## Statements -/

/-- What stands where something else was wanted. -/
inductive Found where
  | null
  | bool (b : Bool)
  | number (n : Json.Number)
  | text (s : String)
  | sequence
  | map

/-- The words for what was found. -/
def Found.describe : Found → String
  | .null => "null"
  | .bool b => "boolean `" ++ toString b ++ "`"
  | .number (.int i) => "integer `" ++ toString i ++ "`"
  | .number (.float x) => "floating point `" ++ Json.writeFloat x ++ "`"
  | .text s => "string " ++ Text.showText s
  | .sequence => "sequence"
  | .map => "map"

/-- What was wanted. -/
inductive Wanted where
  | sequence
  | text
  | record (name : String)
deriving DecidableEq

/-- The words for what was wanted. -/
def Wanted.describe : Wanted → String
  | .sequence => "a sequence"
  | .text => "a string"
  | .record name => "struct " ++ name

/-- Why a document does not hold what was asked of it. -/
inductive DecodeError where
  | malformed (fault : ReadError)
  | badNode (fault : FormatError)
  | mismatch (found : Found) (wanted : Wanted)
  | duplicateField (name : String)
  | missingField (name : String)
  | tooShort (length : Nat) (record : String) (size : Nat)

/-- What is said about a document. As in `Json.ReadError.message`, the position that a reader may
append, ` at line L column C`, is left out. -/
def DecodeError.message : DecodeError → String
  | .malformed fault => fault.message
  | .badNode fault => fault.message
  | .mismatch found wanted =>
    "invalid type: " ++ found.describe ++ ", expected " ++ wanted.describe
  | .duplicateField name => "duplicate field `" ++ name ++ "`"
  | .missingField name => "missing field `" ++ name ++ "`"
  | .tooShort length record size =>
    "invalid length " ++ toString length ++ ", expected struct " ++ record ++ " with " ++
      toString size ++ (if size = 1 then " element" else " elements")

/-- A fault of the text under a reader that has faults of its own. -/
def liftRead {α : Type} (read : Except ReadError α) : Except DecodeError α :=
  read.mapError .malformed

/-- The fault of a value that is not what was wanted: a list or an object is not looked into, and
anything else has to be well-formed to be named. -/
def mismatchAt (wanted : Wanted) (s : Bytes) : DecodeError :=
  match Json.peek s with
  | none => .malformed .endInValue
  | some (b, _) =>
    if b = 0x5B then .mismatch .sequence wanted
    else if b = 0x7B then .mismatch .map wanted
    else
      match Json.readValue s with
      | .error fault => .malformed fault
      | .ok (.bool b, _) => .mismatch (.bool b) wanted
      | .ok (.num n, _) => .mismatch (.number n) wanted
      | .ok (.str s, _) => .mismatch (.text s) wanted
      | .ok (.arr _, _) => .mismatch .sequence wanted
      | .ok (.obj _, _) => .mismatch .map wanted
      | .ok (.null, _) => .mismatch .null wanted

/-- The elements of a list up to its end, by a reader of one element; `acc` holds those before, in
reverse. -/
def readElements {α : Type} (readOne : (s : Bytes) → Except DecodeError (α × Rest s))
    (first : Bool) (acc : List α) (s : Bytes) : Except DecodeError (List α × Rest s) := do
  match ← liftRead (Json.nextItem first s) with
  | .done rest => return (acc.reverse, rest)
  | .more here =>
    let (a, rest) ← readOne here.1
    let (all, last) ← readElements readOne false (a :: acc) rest.1
    return (all, here.then (rest.then last))
termination_by s.length
decreasing_by exact (here.then rest).2

/-- A list, by a reader of one element. -/
def readSequence {α : Type} (readOne : (s : Bytes) → Except DecodeError (α × Rest s)) (s : Bytes) :
    Except DecodeError (List α × Rest s) :=
  match Json.peek s with
  | none => .error (.malformed .endInValue)
  | some (b, rest) =>
    if b = 0x5B then do
      let (all, last) ← readElements readOne true [] rest.1
      return (all, rest.then last)
    else .error (mismatchAt .sequence s)

/-- One node. The value is read to its end before it is looked at. -/
def readNode (s : Bytes) : Except DecodeError (Node × Rest s) := do
  let (v, rest) ← liftRead (Json.readValue s)
  match Node.ofJson v with
  | .ok n => return (n, rest)
  | .error fault => throw (.badNode fault)

/-- The statements of a dump. -/
def readDump (bytes : Bytes) : Except DecodeError (List Node) := do
  let (statements, rest) ← readSequence readNode bytes
  liftRead (Json.expectEnd rest.1)
  return statements

end SourceSig
