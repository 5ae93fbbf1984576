import SourceSig.Settings.Yaml.Block
import SourceSig.Text.Lines

/-!
# YAML documents

The documents of a text. Settings are one document, or none, which is an empty table.
-/

namespace SourceSig.Settings.Yaml

open Scan

/-- A document: the handles that it declares, and its value. -/
structure Document where
  handles : Handles
  root : Node

/-- A line that says something about the document after it: what a handle of tags stands for, or
something that does not matter here. -/
def directive : Scan Handles := do
  let _ ← char '%'
  let line ← takeWhile (· ≠ '\n')
  lineEnd
  let words := (Text.splitOn ' ' line).filter (· ≠ [])
  return match words with
    | ['T', 'A', 'G'] :: handle :: start :: _ => [(String.ofList handle, String.ofList start)]
    | _ => []

/-- A line mark of three characters, with a gap after it. -/
def marker (c : Char) : Scan Unit := do
  Scan.text (String.ofList [c, c, c])
  gapNext

/-- The node of a document, on the lines after what introduces it. -/
def rootNode (depth : Nat) : Scan Node :=
  blockNode depth (.node 0 false) <|> missingNode

/-- A document with a mark before it. -/
def markedDocument (depth : Nat) : Scan Document := do
  let handles ← many (do let h ← directive; let _ ← many idleLine; return h)
  marker '-'
  return ⟨handles.flatten ++ .standard, ← rootNode depth⟩

/-- A document that begins with its node. -/
def bareDocument (depth : Nat) : Scan Document := fun s =>
  -- The first line starts like all others.
  if s.isEmpty then none
  else (blockNode depth (.node 0 false) ('\n' :: s)).map fun (n, rest) => (⟨.standard, n⟩, rest)

/-- The end of a document, if it is marked. -/
def documentEnd : Scan Unit := do
  marker '.'
  newLine

/-- What comes next: a document, or the mark after one. -/
def part (depth : Nat) : Scan (Option Document) := do
  let _ ← many idleLine
  ((fun _ => none) <$> documentEnd) <|> some <$> (markedDocument depth <|> bareDocument depth)

/-- The documents of a file, up to its last line. -/
def documents (depth : Nat) : Scan (List Document) := do
  let parts ← many (part depth)
  let _ ← many idleLine
  return parts.filterMap id

/-- The text with line feeds for all line ends. -/
def unifyLineEnds : List Char → List Char
  | [] => []
  | '\r' :: '\n' :: rest => '\n' :: unifyLineEnds rest
  | c :: rest => (if c = '\r' then '\n' else c) :: unifyLineEnds rest

/-- The table of a text, which a null character ends. -/
def parse (text : String) : Except LoadError Entries := do
  let s := unifyLineEnds (text.toList.takeWhile (· ≠ '\x00'))
  match whole (documents (2 * s.length + 4)) s with
  | some [] => return []
  | some [d] =>
    match ← d.root.read d.handles [] with
    | (.table entries, _) => return entries
    | _ => throw .unreadable
  | _ => throw .unreadable

end SourceSig.Settings.Yaml
