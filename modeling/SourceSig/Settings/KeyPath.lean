import SourceSig.Settings.Value
import SourceSig.Text.Scan

/-!
# Paths in tables

The key of a setting may lead into a table or a list: `a.b` is the entry `b` of the table `a`, and
`a[0]` the first element of the list `a`. What is given for a key replaces what was there, except
that tables are merged. The case of letters in keys does not count, so keys are kept in lower case.
-/

namespace SourceSig.Settings

open Scan

/-! ## Merging -/

/-- The entries of a table; all else has none. -/
def Value.entries : Value → Entries
  | .table entries => entries
  | _ => []

/-- The elements of a list; all else has none. -/
def Value.items : Value → List Value
  | .list items => items
  | _ => []

mutual

/-- What a new value leaves of an old one: a table adds its entries, all else takes the place. -/
def Value.merge (old : Value) : Value → Value
  | .table entries => if entries.isEmpty then old else .table (mergeEntries old.entries entries)
  | v => v

/-- Entries with others given after them, one by one. -/
def mergeEntries (old : List (String × Value)) : List (String × Value) → List (String × Value)
  | [] => old
  | (key, v) :: rest =>
    let key := Value.lowercase key
    let before := (old.lookup key).getD (.table [])
    mergeEntries (Entries.put key (before.merge v) old) rest

end

/-! ## Paths -/

/-- A step of a path inside a table or a list. -/
inductive Step where
  | name (key : String)
  /-- An element by its place; a negative place is counted from the end. -/
  | place (i : Int64)
deriving DecidableEq, Repr

/-- A path begins at an entry of the root. -/
structure KeyPath where
  root : String
  steps : List Step
deriving DecidableEq, Repr

namespace KeyPath

/-- Whether a name in a path can have the character. -/
def isNameChar (c : Char) : Bool := c.isAlphanum || c = '_' || c = '-' || c = ' '

/-- A name in a path, in lower case. -/
def name : Scan String := do
  return Value.lowercase (String.ofList (← takeSome isNameChar))

/-- Spaces and tabs. -/
def blanks : Scan Unit := (fun _ => ()) <$> takeWhile fun c => c = ' ' || c = '\t'

/-- The place of an element, between brackets. -/
def place : Scan Int64 := do
  let _ ← char '['
  blanks
  let sign ← Scan.optional (char '-')
  let digits ← takeSome Char.isDigit
  blanks
  let _ ← char ']'
  ofOption (int64OfText? (String.ofList (sign.toList ++ digits)))

/-- A name after a dot, or a place. -/
def step : Scan Step :=
  (do let _ ← char '.'; return .name (← name)) <|> (.place <$> place)

/-- The path that a key spells, if it spells one. -/
def ofKey? (key : String) : Option KeyPath :=
  whole (do return ⟨← name, ← many step⟩) key.toList

end KeyPath

/-! ## Assignment -/

/-- How many elements a list has at most. -/
def maxItems : Nat := 16777216

/-- The place of an element from the front, in a list of the given length. A place after the end is
one to be filled; there is none before the front. -/
def position? (length : Nat) (i : Int64) : Option Nat :=
  let j : Int := if i.toInt < 0 then length + i.toInt else i.toInt
  if 0 ≤ j ∧ j < maxItems then some j.toNat else none

/-- The list with an element at a place, after as many nulls as are missing before it. -/
def placeItem (items : List Value) (j : Nat) (v : Value) : List Value :=
  (items ++ List.replicate (j + 1 - items.length) Value.null).set j v

/-- The value that is left of an old one when something in it is given a value. What stands in the
way of a step is replaced by a table or a list. -/
def assignAt (v : Value) : List Step → Value → Option Value
  | [], old => some (old.merge v)
  | .name key :: steps, old => do
    let before := (old.entries.lookup key).getD (.table [])
    return .table (Entries.put key (← assignAt v steps before) old.entries)
  | [.place i], old => do
    let j ← position? old.items.length i
    return .list (placeItem old.items j v)
  | .place i :: steps, old => do
    let j ← position? old.items.length i
    return .list (placeItem old.items j (← assignAt v steps (old.items.getD j .null)))

/-- The entries with a key given a value, where the key may be a path. A place that a list cannot
have is refused. -/
def assign? (entries : Entries) (key : String) (v : Value) : Option Entries :=
  match KeyPath.ofKey? key with
  | some path => (assignAt v (.name path.root :: path.steps) (.table entries)).map Value.entries
  | none => some (mergeEntries entries [(key, v)])

end SourceSig.Settings
