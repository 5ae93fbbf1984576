import SourceSig.Settings.Yaml.Scalar

/-!
# YAML nodes in flow style

Nodes that are laid out by brackets, braces and quotes rather than by indentation. Inside of
brackets an entry with a colon is a table of its own. What closes brackets or separates entries may
stand less far to the right than the entries.
-/

namespace SourceSig.Settings.Yaml

open Scan

/-! ## Properties -/

/-- Whether the name of an anchor can have the character. -/
def isAnchorChar (c : Char) : Bool := !isGap (some c) && !isFlowMark c

/-- The name of an anchor or of an alias, after its mark. -/
def anchorName (mark : Char) : Scan String := do
  let _ ← char mark
  return String.ofList (← takeSome isAnchorChar)

/-- A tag as it is written after its first exclamation mark. -/
def tagOfText (s : List Char) : Tag :=
  match s.dropWhile (· ≠ '!') with
  | [] => ⟨"!", String.ofList s⟩
  | _ :: suffix => ⟨"!" ++ String.ofList (s.takeWhile (· ≠ '!')) ++ "!", String.ofList suffix⟩

/-- A tag, whole between angle brackets or in short. -/
def tag : Scan Tag := do
  let _ ← char '!'
  (do let _ ← char '<'
      let whole ← takeSome (· ≠ '>')
      let _ ← char '>'
      return ⟨"", String.ofList whole⟩)
    <|> tagOfText <$> takeWhile isAnchorChar

/-- An anchor and a tag in either order, or one of them. -/
def Context.properties (c : Context) : Scan Properties :=
  (do let name ← anchorName '&'
      let tag ← Scan.optional (do c.separate; tag)
      return ⟨some name, tag⟩)
  <|> (do let t ← tag
          let name ← Scan.optional (do c.separate; anchorName '&')
          return ⟨name, some t⟩)

/-! ## Entries -/

/-- What may stand before an entry. -/
def Context.gap (c : Context) : Scan Unit := do
  let _ ← accept c.separate

/-- What may stand before a sign that separates or closes. -/
def Context.wideGap (c : Context) : Scan Unit :=
  { c with indent := c.indent - 1 }.gap

/-- A node inside of brackets or braces, read by `node`, which is told whether the node may be
plain. Less far to the right a plain one may not stand. -/
def Context.entryNode (c : Context) (node : Bool → Scan Node) : Scan Node :=
  (do c.gap; node true) <|> (do c.wideGap; node false)

/-- A colon and the node after it, if there is one. -/
def Context.colonNode (c : Context) (node : Bool → Scan Node) (delimited : Bool) : Scan Node := do
  let _ ← char ':'
  if !delimited && c.isSafe (← peek) then fail
  c.entryNode node <|> pure .missing

/-- The sign that a key follows which may be any node. -/
def Context.keySign (c : Context) : Scan Unit := do
  c.wideGap
  let _ ← char '?'
  if c.isSafe (← peek) then fail

/-- A node that may have a colon and another node after it. -/
def Context.entry (c : Context) (node : Bool → Scan Node) : Scan (Node × Option Node) :=
  (do c.keySign
      let key ← c.entryNode node <|> pure .missing
      let v ← (do c.wideGap; c.colonNode node true) <|> pure .missing
      return (key, some v))
  <|> (do let key ← c.entryNode node
          let v ← Scan.optional (do c.wideGap; c.colonNode node key.isDelimited)
          return (key, v))
  <|> (do c.wideGap
          let v ← c.colonNode node false
          return (.missing, some v))

/-- Entries with commas between them, where one may stand after the last. -/
def Context.entries (c : Context) (node : Bool → Scan Node) : Scan (List (Node × Option Node)) := do
  let found ← sepBy (c.entry node) (do c.wideGap; char ',')
  c.wideGap
  if !found.isEmpty then
    if ← accept (char ',') then c.wideGap
  return found

/-- An element of a list. -/
def listItem : Node × Option Node → Node
  | (n, none) => n
  | (key, some v) => .table .none [(key, v)]

/-- A list between brackets. -/
def Context.list (c : Context) (node : Bool → Scan Node) : Scan Node := do
  let _ ← char '['
  let items ← c.entries node
  let _ ← char ']'
  return .list .none (items.map listItem)

/-- A table between braces. A key without value has the missing one. -/
def Context.table (c : Context) (node : Bool → Scan Node) : Scan Node := do
  let _ ← char '\x7b'
  let items ← c.entries node
  let _ ← char '\x7d'
  return .table .none (items.map fun (key, v) => (key, v.getD .missing))

/-! ## Nodes -/

/-- A node without properties, whose parts inside of brackets and braces are read by `node`. -/
def Context.content (c : Context) (node : Context → Bool → Scan Node) (plain : Bool) : Scan Node :=
  let inner : Context := { c with inFlow := true }
  (.scalar .none false <$> (c.doubleQuoted <|> c.singleQuoted))
  <|> inner.list (node inner) <|> inner.table (node inner)
  <|> (if plain then .scalar .none true <$> c.plain else fail)

/-- A node in flow style that nests to the given depth. -/
def flowNode : Nat → Context → Bool → Scan Node
  | 0, _, _ => fail
  | depth + 1, c, plain =>
    (.alias <$> anchorName '*')
    <|> c.content (flowNode depth) plain
    <|> (do let p ← c.properties
            (do c.separate; return (← c.content (flowNode depth) true).withProperties p)
              <|> pure (.scalar p true ""))

end SourceSig.Settings.Yaml
