import SourceSig.Json.Basic
import SourceSig.Number.Int64
import SourceSig.Tree.Basic

/-!
# Nodes as JSON

A node is an object with the entry `nodeType`; its other entries are its fields, except for
`attributes`, which holds its position. An object without `nodeType` is a keyed array.
`Node.ofJson` reads a node and `Node.toJson` writes one back, without its position.
-/

namespace SourceSig

/-- What sort of JSON value something is. -/
inductive Json.Sort where
  | null
  | boolean
  | number
  | string
  | array
  | object
deriving DecidableEq, Repr

/-- The sort of a JSON value. -/
def Json.sort : Json → Json.Sort
  | .null => .null
  | .bool _ => .boolean
  | .num _ => .number
  | .str _ => .string
  | .arr _ => .array
  | .obj _ => .object

/-- The words for a sort of JSON values in messages. -/
def Json.Sort.describe : Json.Sort → String
  | .null => "null"
  | .boolean => "a boolean"
  | .number => "a number"
  | .string => "a string"
  | .array => "an array"
  | .object => "an object"

/-- Why a JSON value is no node. -/
inductive FormatError where
  | notAnObject (found : Json.Sort)
  | tagNotText (found : Json.Sort)
  | noTag
deriving DecidableEq, Repr

/-- What is said about a value that is no node. -/
def FormatError.message : FormatError → String
  | .notAnObject found => "expected a node object, got " ++ found.describe
  | .tagNotText found => "nodeType must be a string, got " ++ found.describe
  | .noTag => "node object without nodeType"

/-- The entry that holds a node's tag. -/
def tagKey : String := "nodeType"

/-- The entry that holds a node's position. -/
def linesKey : String := "attributes"

/-- A line number; a value of any other shape gives none. -/
def lineOfJson? : Json → Option UInt32
  | .num (.int i) => if 0 ≤ i ∧ i < UInt32.size then some (UInt32.ofNat i.toNat) else none
  | _ => none

/-- The lines that an entry of attributes gives. -/
def Lines.ofJson (v : Json) : Lines where
  first := (v.get? "startLine").bind lineOfJson?
  last := (v.get? "endLine").bind lineOfJson?

/-- An integer of 64 bits stays one, and every other number is a floating-point number. -/
def Value.ofNumber : Json.Number → Value
  | .int i =>
    match int64OfInt? i with
    | some n => .int n
    | none => .float (.ofRatio (i < 0) i.natAbs 1)
  | .float x => .float x

/-- The value of the entry with the key. -/
def valueOf? (key : String) (entries : List (String × Json)) : Option Json :=
  (entries.find? (·.1 == key)).map (·.2)

/-- The node with these fields, tag and position read off the entries. -/
def Node.ofParts (entries : List (String × Json)) (fields : List (String × Value)) :
    Except FormatError Node :=
  match valueOf? tagKey entries with
  | some (.str tag) => .ok ⟨tag, fields, ((valueOf? linesKey entries).map Lines.ofJson).getD {}⟩
  | some other => .error (.tagNotText other.sort)
  | none => .error .noTag

mutual

/-- The value of a JSON document. An object with a tag is a node, and any other is a keyed array. -/
def Value.ofJson : Json → Except FormatError Value
  | .null => .ok .null
  | .bool b => .ok (.bool b)
  | .num n => .ok (.ofNumber n)
  | .str s => .ok (.str s)
  | .arr items => do return .list (← Value.ofItems items)
  | .obj entries =>
    if (valueOf? tagKey entries).isSome then do
      return .node (← Node.ofParts entries (← Node.fieldsOf entries))
    else do return .map (← Value.ofEntries entries)

/-- The values of the elements of a list, or the first fault. -/
def Value.ofItems : List Json → Except FormatError (List Value)
  | [] => .ok []
  | v :: vs => do
    let w ← Value.ofJson v
    return w :: (← Value.ofItems vs)

/-- The values of the entries of a keyed array, or the first fault. -/
def Value.ofEntries : List (String × Json) → Except FormatError (List (String × Value))
  | [] => .ok []
  | (key, v) :: rest => do
    let w ← Value.ofJson v
    return (key, w) :: (← Value.ofEntries rest)

/-- The fields of a node, in the order of its entries. A tag that is no text is a fault at its place
in that order. -/
def Node.fieldsOf : List (String × Json) → Except FormatError (List (String × Value))
  | [] => .ok []
  | (key, v) :: rest =>
    if key = tagKey then
      match v with
      | .str _ => Node.fieldsOf rest
      | other => .error (.tagNotText other.sort)
    else if key = linesKey then Node.fieldsOf rest
    else do
      let w ← Value.ofJson v
      return (key, w) :: (← Node.fieldsOf rest)

end

/-- The node that a JSON document is. -/
def Node.ofJson : Json → Except FormatError Node
  | .obj entries => do Node.ofParts entries (← Node.fieldsOf entries)
  | other => .error (.notAnObject other.sort)

mutual

/-- The JSON document of a value. -/
def Value.toJson : Value → Json
  | .null => .null
  | .bool b => .bool b
  | .int i => .num (.int i.toInt)
  | .float x => .num (.float x)
  | .str s => .str s
  | .node n => n.toJson
  | .list items => .arr (Value.itemsToJson items)
  | .map entries => .obj (Value.entriesToJson entries)

/-- The JSON documents of the elements of a list. -/
def Value.itemsToJson : List Value → List Json
  | [] => []
  | v :: vs => v.toJson :: Value.itemsToJson vs

/-- The JSON documents of the entries of a keyed array. -/
def Value.entriesToJson : List (String × Value) → List (String × Json)
  | [] => []
  | (key, v) :: rest => (key, v.toJson) :: Value.entriesToJson rest

/-- The tag first, then the fields in order. -/
def Node.toJson : Node → Json
  | ⟨tag, fields, _⟩ => .obj ((tagKey, .str tag) :: Value.entriesToJson fields)

end

end SourceSig
