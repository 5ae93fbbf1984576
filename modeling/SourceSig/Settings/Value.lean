import SourceSig.Json.Basic
import SourceSig.Number.Reader

/-!
# Values of settings

What a configuration file or a variable gives for a setting, and how it is taken for a number, a
text or a list of texts. A scalar of the wrong kind is converted where it has one meaning.
-/

namespace SourceSig.Settings

/-- A value of a settings file, whatever notation the file has. -/
inductive Value where
  | null
  | bool (b : Bool)
  | int (i : Int64)
  | float (x : Binary64)
  | text (s : String)
  | list (items : List Value)
  | table (entries : List (String × Value))

/-- Keys with their values. -/
abbrev Entries := List (String × Value)

/-- The entries with one put in, in place of the one with its key if there is one. -/
def Entries.put (key : String) (v : Value) : Entries → Entries
  | [] => [(key, v)]
  | (k, w) :: rest => if k = key then (key, v) :: rest else (k, w) :: put key v rest

namespace Value

/-- Numbers as texts have no exponent, and no point where they are integral. -/
def numberLayout : Layout where
  positionalFrom := -400
  positionalBelow := 400
  keepsPoint := false
  plus := ""
  tie := .up

/-- A character in lower case. Outside of ASCII only the Kelvin sign has an ASCII letter as its
lower case, and what has none cannot be part of a name that means something, so it is left alone. -/
def lowerChar (c : Char) : Char :=
  if c = '\u212A' then 'k' else c.toLower

/-- A text in lower case. -/
def lowercase (s : String) : String :=
  String.ofList (s.toList.map lowerChar)

/-- The number that a text stands for, by digits or by one of the words for yes and no. -/
def natOfWord? (limit : Nat) (s : String) : Option Nat :=
  if ["true", "on", "yes"].contains (lowercase s) then some 1
  else if ["false", "off", "no"].contains (lowercase s) then some 0
  else boundedOfText? limit s

/-- A natural number of 64 bits. -/
def toNat? : Value → Option Nat
  | bool b => some b.toNat
  | int i => if 0 ≤ i.toInt then some i.toInt.toNat else none
  | float x => some (x.toNatClamped (UInt64.size - 1))
  | text s => natOfWord? UInt64.size s
  | _ => none

/-- A natural number below `limit`, which is at most that of 64 bits. -/
def toBounded? (limit : Nat) (v : Value) : Option Nat :=
  v.toNat?.filter (· < limit)

/-- The value as a text. Numbers and truth values are spelled out. -/
def toText? : Value → Option String
  | bool b => some (if b then "true" else "false")
  | int i => some (toString i.toInt)
  | float x => some (numberLayout.writeNumber x)
  | text s => some s
  | _ => none

/-- A list of texts. A single text is none. -/
def toTexts? : Value → Option (List String)
  | list items => items.mapM toText?
  | _ => none

mutual

/-- The value of a JSON document. An integer beyond 64 bits is a floating-point number. -/
def ofJson : Json → Value
  | .null => .null
  | .bool b => .bool b
  | .num (.int i) =>
    match int64OfInt? i with
    | some n => .int n
    | none => .float (Binary64.ofRatio (i < 0) i.natAbs 1)
  | .num (.float x) => .float x
  | .str s => .text s
  | .arr items => .list (ofJsonItems items)
  | .obj entries => .table (ofJsonEntries entries)

/-- The values of the elements of a list. -/
def ofJsonItems : List Json → List Value
  | [] => []
  | j :: rest => ofJson j :: ofJsonItems rest

/-- The entries of an object with their values. -/
def ofJsonEntries : List (String × Json) → List (String × Value)
  | [] => []
  | (key, j) :: rest => (key, ofJson j) :: ofJsonEntries rest

end

end Value

end SourceSig.Settings
