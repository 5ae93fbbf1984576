import SourceSig.Settings.Value
import SourceSig.Text.Scan

/-!
# INI files

Lines `key = value`, where a colon may stand for the equals sign, under headers `[section]`. The
entries before the first header belong to the root and the others to the table of their section. All
values are texts. A comment takes a whole line, without anything before it. A key goes on to the
sign after it, even over lines.
-/

namespace SourceSig.Settings.Ini

open Scan

/-- A line of the file that says something. -/
inductive Item where
  | comment
  | header (name : String)
  | entry (key value : String)

/-! ## Texts -/

/-- What an escape stands for, after its backslash. A line end that is escaped does not count. -/
def escape : Scan (List Char) := do
  match ← satisfy fun _ => true with
  | '0' => return ['\x00']
  | 'a' => return ['\x07']
  | 'b' => return ['\x08']
  | 't' => return ['\t']
  | 'r' => return ['\r']
  | 'n' => return ['\n']
  | '\n' => return []
  | 'x' => return [← codePoint 4]
  | c => return [c]

/-- The text up to a character that ends it. -/
def textUntil (ends : Char → Bool) : Scan (List Char) := do
  let parts ← many (takeSome (fun c => !ends c && c ≠ '\\') <|>
    (do let _ ← char '\\'; escape))
  return parts.flatten

/-- Whether a character ends a line. -/
def isLineEnd (c : Char) : Bool := c = '\n' || c = '\r'

/-- The rest of a line. -/
def lineRest : Scan (List Char) := do
  let s ← textUntil isLineEnd
  match ← peek with
  | some '\\' => fail
  | _ => return s

/-- What stands between quotes. -/
def quoted (quote : Char) : Scan (List Char) := do
  let _ ← char quote
  let s ← textUntil (· = quote)
  let _ ← char quote
  return s

/-- A text without the blanks around it. -/
def trimmed (s : List Char) : String := Text.trim (String.ofList s)

/-! ## Items -/

/-- Blanks and line ends, with whether they reach up to the start of a line. -/
def gap : Scan Bool := do
  return (← takeWhile Text.isBlank).getLast? = some '\n'

/-- A comment up to the end of its line. -/
def comment : Scan Item := (fun _ => .comment) <$> takeWhile (· ≠ '\n')

/-- The name of a section between brackets. -/
def header : Scan Item := do
  let _ ← char '['
  let name ← textUntil (· = ']')
  let _ ← char ']'
  return .header (trimmed name)

/-- A value, which may be quoted at its front. -/
def value : Scan String := do
  let _ ← takeWhile fun c => Text.isBlank c && !isLineEnd c
  let front ← match ← peek with
    | some '"' => quoted '"'
    | some '\x27' => quoted '\x27'
    | _ => pure []
  return trimmed (front ++ (← lineRest))

/-- A key and its value, with an equals sign or a colon between them. -/
def entry : Scan Item := do
  let key := trimmed (← textUntil fun c => c = '=' || c = ':')
  let _ ← satisfy fun c => c = '=' || c = ':'
  if key = "" then fail else return .entry key (← value)

/-- The next line that says something. A comment has to begin its line. -/
def item : Scan Item := do
  let fresh ← gap
  match ← peek with
  | some ';' | some '#' => if fresh then comment else fail
  | some '[' => header
  | _ => entry

/-! ## Tables -/

/-- The entries of the root, and the sections, the last one first. -/
structure Sections where
  root : Entries
  others : List (String × Entries)

/-- The sections with one more line: an entry belongs to the last section, or to the root. -/
def Sections.add (s : Sections) : Item → Sections
  | .comment => s
  | .header name => { s with others := (name, []) :: s.others }
  | .entry key value =>
    match s.others with
    | [] => { s with root := s.root.put key (.text value) }
    | (name, entries) :: others =>
      { s with others := (name, entries.put key (.text value)) :: others }

/-- All entries together. Of two sections with one name the later one counts. -/
def Sections.entries (s : Sections) : Entries :=
  s.others.reverse.foldl (fun es (name, entries) => es.put name (.table entries)) s.root

/-- The table of a text, if it is an INI file. -/
def parse? (text : String) : Option Entries := do
  -- The first line starts like all others.
  let items ← whole (do let items ← many item; let _ ← gap; return items) ('\n' :: text.toList)
  return (items.foldl Sections.add ⟨[], []⟩).entries

end SourceSig.Settings.Ini
