import SourceSig.Settings.TomlSyntax

/-!
# TOML documents

The table that the lines of a text describe. A table is opened once by a header, or grows by dotted
keys, or only because something lies in it; each of these ways excludes some of the others, and no
key is given twice.
-/

namespace SourceSig.Settings.Toml

/-- How a table came about. -/
inductive Origin where
  /-- By a header of its own, or as the root. -/
  | header
  /-- By a dotted key that goes through it. -/
  | dotted
  /-- By the header of a table inside it. -/
  | implied
deriving DecidableEq

/-- What stands under a name while the document is read. -/
inductive Item where
  | value (v : Value)
  | table (origin : Origin) (entries : List (String × Item))
  /-- The tables that were opened by double brackets, the last one first. -/
  | tables (elements : List (List (String × Item)))

/-- What a table holds while the document is read. -/
abbrev Entries := List (String × Item)

/-- The entries with one put in or replaced. -/
def put (name : String) (item : Item) : Entries → Entries
  | [] => [(name, item)]
  | (n, i) :: rest => if n = name then (name, item) :: rest else (n, i) :: put name item rest

mutual

/-- The value that is left of an item when the document has ended. -/
def Item.toValue : Item → Value
  | .value v => v
  | .table _ entries => .table (entriesValue entries)
  | .tables elements => .list (tablesValue elements).reverse

/-- The entries of a table as values. -/
def entriesValue : List (String × Item) → List (String × Value)
  | [] => []
  | (name, item) :: rest => (name, item.toValue) :: entriesValue rest

/-- The tables of a list of tables as values, in the order in which they are kept. -/
def tablesValue : List (List (String × Item)) → List Value
  | [] => []
  | entries :: rest => .table (entriesValue entries) :: tablesValue rest

end

/-- Change the entries of the table that a path of names leads to. A table that is missing on the
way is made with the given origin. -/
def descend (made : Origin) (change : Origin → Entries → Option Entries) :
    Key → Origin → Entries → Option Entries
  | [], origin, entries => change origin entries
  | name :: path, _, entries => do
    let item ← match entries.lookup name with
      | none => (Item.table made ·) <$> descend made change path made []
      | some (.value _) => none
      | some (.tables []) => none
      | some (.tables (last :: others)) =>
        (fun es => Item.tables (es :: others)) <$> descend made change path .header last
      | some (.table origin inner) =>
        -- A dotted key does not go into a table that has a header.
        if made = .dotted ∧ origin = .header then none
        else (Item.table origin ·) <$> descend made change path origin inner
    return put name item entries

/-- Give a key of the current table its value. A key with dots belongs to a table that dotted keys
made, and one without to a table that they did not make. -/
def addEntry (key : Key) (v : Value) (origin : Origin) (entries : Entries) : Option Entries :=
  let change (o : Origin) (es : Entries) : Option Entries := do
    let name ← key.getLast?
    if (o = .dotted ↔ key.length = 1) ∨ (es.lookup name).isSome then none
    else return put name (.value v) es
  descend .dotted change key.dropLast origin entries

/-- Open a table by its header: a new one, or one that was only implied. -/
def openTable (name : String) (entries : Entries) : Option Entries :=
  match entries.lookup name with
  | none => some (put name (.table .header []) entries)
  | some (.table .implied inner) => some (put name (.table .header inner) entries)
  | some _ => none

/-- Open one more of the tables with a name. -/
def openItem (name : String) (entries : Entries) : Option Entries :=
  match entries.lookup name with
  | none => some (put name (.tables [[]]) entries)
  | some (.tables elements) => some (put name (.tables ([] :: elements)) entries)
  | some _ => none

/-- A document as far as it was read: where the last header leads, and the root. -/
structure Document where
  current : Key
  root : Entries

/-- The document before its first line. -/
def Document.empty : Document := ⟨[], []⟩

/-- The document with a header read. -/
def Document.opened (d : Document) (change : String → Entries → Option Entries) (path : Key) :
    Option Document := do
  let name ← path.getLast?
  return ⟨path, ← descend .implied (fun _ => change name) path.dropLast .header d.root⟩

/-- The document with one more line read. -/
def Document.add (d : Document) : Line → Option Document
  | .header path => d.opened openTable path
  | .item path => d.opened openItem path
  | .entry key v => do
    return { d with root := ← descend .implied (addEntry key v) d.current .header d.root }

/-- The inline table with the given entries. -/
def inlineTable (items : List (Key × Value)) : Option Value := do
  let entries ← items.foldlM (fun es (key, v) => addEntry key v .header es) []
  return .table (entriesValue entries)

/-- The table of a text, if it is a TOML document. A mark of the byte order may stand at its front.
-/
def parse? (s : String) : Option (List (String × Value)) := do
  let text := match s.toList with
    | '\uFEFF' :: rest => rest
    | text => text
  let d ← (← lines? inlineTable text).foldlM Document.add .empty
  return entriesValue d.root

end SourceSig.Settings.Toml
