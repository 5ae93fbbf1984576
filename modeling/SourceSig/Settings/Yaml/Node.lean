import SourceSig.Settings.LoadError
import SourceSig.Settings.Value

/-!
# YAML nodes

The nodes of a YAML document as they are written, and the values that they stand for: a plain scalar
is a null, a truth value, a number or else a text by its spelling, unless a tag decides, and an
alias stands for the last node with its anchor.
-/

namespace SourceSig.Settings.Yaml

/-- A tag, cut after the exclamation mark that ends its handle. -/
structure Tag where
  handle : String
  suffix : String

/-- What stands before a node. -/
structure Properties where
  anchor : Option String
  tag : Option Tag

/-- Neither a tag nor an anchor. -/
def Properties.none : Properties := ⟨.none, .none⟩

/-- A node of a document before its tags and aliases are resolved. -/
inductive Node where
  | scalar (p : Properties) (plain : Bool) (text : String)
  | list (p : Properties) (items : List Node)
  | table (p : Properties) (entries : List (Node × Node))
  | alias (name : String)

namespace Node

/-- A node that is not there. -/
def missing : Node := .scalar .none true "~"

/-- Whether a colon may follow a node without a blank after it. -/
def isDelimited : Node → Bool
  | .scalar _ plain _ => !plain
  | .list _ _ | .table _ _ => true
  | .alias _ => false

/-- The node with properties in place of its own. -/
def withProperties (p : Properties) : Node → Node
  | .scalar _ plain text => .scalar p plain text
  | .list _ items => .list p items
  | .table _ entries => .table p entries
  | n => n

end Node

/-! ## Scalars -/

/-- An integer of 64 bits in a base, with or without sign. -/
def int64OfBase? (base : Nat) (s : List Char) : Option Int64 := do
  let (negative, digits) := splitSign s
  if digits.isEmpty then none
  let ds ← digits.mapM fun c => (Text.hexDigit? c).filter (· < base)
  let n := ds.foldl (base * · + ·) 0
  int64OfInt? (if negative then -(n : Int) else n)

/-- The spellings of infinities and of what is no number. They are floating-point numbers that have
no value here. -/
def valuelessFloats : List String :=
  [".inf", ".Inf", ".INF", "+.inf", "+.Inf", "+.INF", "-.inf", "-.Inf", "-.INF", ".nan", ".NAN"]

/-- A floating-point number by its spelling, of which at least one character is a digit. -/
def float? (s : String) : Option Binary64 :=
  if s = "NaN" then some .nan
  else if s.toList.any Char.isDigit then Binary64.ofText? s
  else none

/-- The integer of 64 bits that a word spells, in one of three bases. -/
def int? (s : String) : Option Int64 :=
  match s.toList with
  | '0' :: 'x' :: rest => int64OfBase? 16 rest
  | '0' :: 'o' :: rest => int64OfBase? 8 rest
  | '+' :: rest => int64OfText? (String.ofList rest)
  | _ => int64OfText? s

/-- Whether a word stands for no value. -/
def isNull (s : String) : Bool := ["", "~", "null"].contains s

/-- The truth value that a word spells. -/
def bool? : String → Option Bool
  | "true" => some true
  | "false" => some false
  | _ => none

/-- The value of a plain scalar without a tag. -/
def plainValue (s : String) : Except LoadError Value :=
  if valuelessFloats.contains s then .error .unreadable
  else if isNull s then .ok .null
  else
    match bool? s, int? s, float? s with
    | some b, _, _ => .ok (.bool b)
    | none, some i, _ => .ok (.int i)
    | none, none, some x => .ok (.float x)
    | none, none, none => .ok (.text s)

/-- The handle of the tags for the kinds of scalars. -/
def coreHandle : String := "tag:yaml.org,2002:"

/-- The value of a plain scalar with a tag for a kind of scalar; a spelling of another kind is null.
-/
def taggedValue (kind s : String) : Except LoadError Value :=
  match kind with
  | "bool" => .ok (((bool? s).map Value.bool).getD .null)
  | "int" => .ok (((int64OfText? s).map Value.int).getD .null)
  | "float" =>
    if valuelessFloats.contains s then .error .unreadable
    else .ok (((float? s).map Value.float).getD .null)
  | "null" => .ok .null
  | _ => .ok (.text s)

/-- What handles of tags stand for. -/
abbrev Handles := List (String × String)

/-- The handles of a document that declares none. -/
def Handles.standard : Handles := [("!", "!"), ("!!", coreHandle), ("", "")]

/-- The value of a scalar: quoted it is a text, plain it is what its tag or its spelling says. -/
def scalarValue (handles : Handles) (tag : Option Tag) (plain : Bool) (s : String) :
    Except LoadError Value :=
  match tag with
  | none => if plain then plainValue s else .ok (.text s)
  | some t =>
    match handles.lookup t.handle with
    | none => .error .unreadable
    | some handle => if plain ∧ handle = coreHandle then taggedValue t.suffix s else .ok (.text s)

/-! ## Values -/

/-- The values that anchors stand for, the last one first. -/
abbrev Anchors := List (String × Value)

/-- The anchors with a value for a node with properties. -/
def Anchors.add (anchors : Anchors) (p : Properties) (v : Value) : Anchors :=
  match p.anchor with
  | some name => (name, v) :: anchors
  | none => anchors

/-- The key of an entry. Only texts and integers can be one. -/
def keyText : Value → Except LoadError String
  | .text s => .ok s
  | .int i => .ok (toString i.toInt)
  | _ => .error .misplaced

mutual

/-- The value of a node, and the anchors after it. Inside of itself an anchor stands for nothing. -/
def Node.read (handles : Handles) (anchors : Anchors) : Node → Except LoadError (Value × Anchors)
  | .scalar p plain text => do
    let v ← scalarValue handles p.tag plain text
    return (v, anchors.add p v)
  | .list p items => do
    let (vs, anchors) ← readItems handles (anchors.add p .null) items
    return (.list vs, anchors.add p (.list vs))
  | .table p entries => do
    let (es, anchors) ← readEntries handles (anchors.add p .null) [] entries
    return (.table es, anchors.add p (.table es))
  | .alias name =>
    match anchors.lookup name with
    | some v => .ok (v, anchors)
    | none => .error .unreadable

/-- The values of the items of a list. Anchors that are set in one item are known in the next. -/
def readItems (handles : Handles) (anchors : Anchors) :
    List Node → Except LoadError (List Value × Anchors)
  | [] => .ok ([], anchors)
  | n :: rest => do
    let (v, anchors) ← n.read handles anchors
    let (vs, anchors) ← readItems handles anchors rest
    return (v :: vs, anchors)

/-- Entries after those that were read before; of two with one key the later one counts. -/
def readEntries (handles : Handles) (anchors : Anchors) (before : List (String × Value)) :
    List (Node × Node) → Except LoadError (List (String × Value) × Anchors)
  | [] => .ok (before, anchors)
  | (key, n) :: rest => do
    let (k, anchors) ← key.read handles anchors
    let (v, anchors) ← n.read handles anchors
    readEntries handles anchors (Entries.put (← keyText k) v before) rest

end

end SourceSig.Settings.Yaml
