import SourceSig.Settings.Yaml.Flow

/-!
# YAML nodes in block style

Nodes that are laid out by lines and indentation. The entries of a list or a table stand one under
the other, and what belongs to an entry is indented further; only a list that is the value of a key
may stand right under the key. A nested list or table may begin on the line of the entry that it
belongs to.
-/

namespace SourceSig.Settings.Yaml

open Scan

/-- A node that is to be read. -/
inductive Wanted where
  /-- A node after what introduces it, whose lines are indented at least that far; a list may stand
  one step less to the right where it is the value of a key. -/
  | node (indent : Nat) (ofKey : Bool)
  /-- A node of an entry with the given indentation, which may begin on the line of the entry. -/
  | entry (indent : Nat) (ofKey : Bool)

/-- A node that is missing at the end of a line. -/
def missingNode : Scan Node := do
  newLine
  return .missing

/-! ## Lists -/

/-- The mark of an entry of a list, with a gap after it. -/
def dash : Scan Unit := do
  let _ ← char '-'
  gapNext

/-- An entry of a list that is indented by `n`. -/
def listEntry (inner : Wanted → Scan Node) (n : Nat) : Scan Node := do
  dash
  inner (.entry n false)

/-! ## Tables -/

/-- A sign of the grammar for keys and values. -/
def keyMark (c : Char) : Scan Unit := do
  let _ ← char c
  gapNext

/-- How long a key may be that is not introduced by a question mark. -/
def maxKeyLength : Nat := 1024

/-- A key on one line. A colon alone has a key that is missing. -/
def lineKey (depth : Nat) : Scan Node := fun s =>
  match flowNode depth ⟨0, false, true⟩ true s with
  | some (key, rest) => if s.length - rest.length ≤ maxKeyLength then some (key, rest) else none
  | none => some (.missing, s)

/-- An entry of a table whose keys have the given indentation, which was read already. -/
def tableEntry (depth : Nat) (inner : Wanted → Scan Node) (n : Nat) : Scan (Node × Node) :=
  (do keyMark '?'
      let key ← inner (.entry n true)
      let v ← (do indentation n; keyMark ':'; inner (.entry n true)) <|> pure .missing
      return (key, v))
  <|> (do let key ← lineKey depth
          whites
          keyMark ':'
          return (key, ← inner (.node (n + 1) true) <|> missingNode))

/-! ## Collections -/

/-- One or more entries with the given indentation, which was read already for the first. -/
def aligned {α : Type} (n : Nat) (entry : Scan α) : Scan (List α) := do
  return (← entry) :: (← many (do indentation n; entry))

/-- A list or a table whose first entry comes next, at the given indentation. -/
def collection (depth : Nat) (inner : Wanted → Scan Node) (n : Nat) : Scan Node :=
  (.list .none <$> aligned n (listEntry inner n))
    <|> (.table .none <$> aligned n (tableEntry depth inner n))

/-- Nothing, where an entry of a list comes next. -/
def dashNext : Scan Unit := fun s => (dash s).map fun _ => ((), s)

/-- A list or a table on lines of its own. -/
def indentedCollection (depth : Nat) (inner : Wanted → Scan Node) (indent : Nat) (ofKey : Bool) :
    Scan Node := do
  let c : Context := ⟨indent, false, false⟩
  let p ← Scan.optional (do c.separate; c.properties)
  newLine
  noMarker
  let n := (← takeWhile (· = ' ')).length
  if n < indent then
    if ofKey && n + 1 = indent then dashNext else fail
  return (← collection depth inner n).withProperties (p.getD .none)

/-- A list or a table that begins on the line of the entry that it belongs to. -/
def nestedCollection (depth : Nat) (inner : Wanted → Scan Node) (indent : Nat) : Scan Node := do
  let blanks ← takeSome (· = ' ')
  collection depth inner (indent + 1 + blanks.length)

/-! ## Nodes -/

/-- A scalar of lines, with what stands before it. -/
def lineScalar (indent : Nat) : Scan Node := do
  let c : Context := ⟨indent, false, false⟩
  c.separate
  let p ← Scan.optional (do let p ← c.properties; c.separate; return p)
  return .scalar (p.getD .none) false (← blockScalar indent)

/-- A node in flow style on the lines of a block. -/
def flowInBlock (depth : Nat) (indent : Nat) : Scan Node := do
  let c : Context := ⟨indent, false, false⟩
  c.separate
  let n ← flowNode depth c true
  newLine
  return n

/-- A node in block style that nests to the given depth. -/
def blockNode : Nat → Wanted → Scan Node
  | 0, _ => fail
  | depth + 1, .node indent ofKey =>
    lineScalar indent <|> indentedCollection depth (blockNode depth) indent ofKey
      <|> flowInBlock depth indent
  | depth + 1, .entry indent ofKey =>
    nestedCollection depth (blockNode depth) indent
      <|> blockNode depth (.node (indent + 1) ofKey) <|> missingNode

end SourceSig.Settings.Yaml
