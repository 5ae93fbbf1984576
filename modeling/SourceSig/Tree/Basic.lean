import SourceSig.Number.Binary64
import SourceSig.Tree.Kind
import SourceSig.Text.Lines

/-!
# Syntax trees

A node has a tag and named fields in declared order. Its position in the source stands apart from
the fields, so nothing that reads fields depends on it.

Fields are read through the accessors of this module: a field is its first occurrence, and an
explicit `null` counts as absent.
-/

namespace SourceSig

/-- The lines of the source that a node spans. -/
structure Lines where
  first : Option UInt32 := none
  last : Option UInt32 := none
deriving DecidableEq, Repr, Inhabited

mutual

/-- The value of a field. -/
inductive Value where
  | null
  | bool (b : Bool)
  | int (i : Int64)
  | float (x : Binary64)
  | str (s : String)
  | node (n : Node)
  /-- A positional array. -/
  | list (items : List Value)
  /-- A keyed array. -/
  | map (entries : List (String × Value))

/-- A node of a syntax tree. The fields are in the order of the dump, and the lines are not among
them. -/
structure Node where
  tag : String
  fields : List (String × Value)
  lines : Lines

end

instance : Inhabited Value := ⟨.null⟩

instance : Inhabited Node := ⟨⟨"", [], {}⟩⟩

namespace Value

/-- The node that a value is. -/
def asNode? : Value → Option Node
  | .node n => some n
  | _ => none

/-- The text that a value is. -/
def asText? : Value → Option String
  | .str s => some s
  | _ => none

/-- Whether a value is null. -/
def isNull : Value → Bool
  | .null => true
  | _ => false

/-- The nodes that a value holds: itself, or the nodes among its elements. -/
def nodes : Value → List Node
  | .list items => items.filterMap asNode?
  | v => v.asNode?.toList

end Value

namespace Node

/-- The kind of a node by its tag. -/
def kind (n : Node) : Kind :=
  Kind.ofTag n.tag

/-- The line that a diagnostic about the node names. -/
def line (n : Node) : Option UInt32 :=
  n.lines.first

/-- A field that is there and not `null`. -/
def field (n : Node) (name : String) : Option Value :=
  ((n.fields.find? (·.1 == name)).map (·.2)).filter fun v => !v.isNull

/-- The node in a field. -/
def child (n : Node) (name : String) : Option Node :=
  (n.field name).bind Value.asNode?

/-- The text in a field. -/
def text (n : Node) (name : String) : Option String :=
  (n.field name).bind Value.asText?

/-- The integer in a field. -/
def int (n : Node) (name : String) : Option Int64 :=
  match n.field name with
  | some (.int i) => some i
  | _ => none

/-- A boolean field; anything but `true` counts as `false`. -/
def flag (n : Node) (name : String) : Bool :=
  match n.field name with
  | some (.bool b) => b
  | _ => false

/-- The elements of a list field. -/
def items (n : Node) (name : String) : List Value :=
  match n.field name with
  | some (.list items) => items
  | _ => []

/-- The nodes of a list field. -/
def children (n : Node) (name : String) : List Node :=
  (n.items name).filterMap Value.asNode?

/-- The parts of a name, from a list of parts or from one text with backslashes between them. -/
def nameParts (n : Node) : List String :=
  match n.field "parts" with
  | some (.list parts) => parts.filterMap Value.asText?
  | _ =>
    match n.text "name" with
    | some name => ((Text.splitOn '\\' name.toList).filter (!·.isEmpty)).map String.ofList
    | none => []

/-- The parts of a name with backslashes between them. -/
def joinedName (n : Node) : String :=
  "\\".intercalate n.nameParts

end Node

/-- The text of an identifier: a plain string, an identifier node or a name. -/
def Value.identifier? : Value → Option String
  | .str s => some s
  | .node n =>
    if n.kind = .identifier then n.text "name"
    else if n.kind.isName then some n.joinedName
    else none
  | _ => none

/-- The identifier in a field. -/
def Node.identifier? (n : Node) (name : String) : Option String :=
  (n.field name).bind Value.identifier?

end SourceSig
