import SourceSig.Number.Decimal
import SourceSig.Text.Quoted

/-!
# JSON values

The value type, and the one way a value is written: without blanks, objects in their own order.
An object is a list of entries; reading keeps its keys distinct (`Json.put`).
-/

namespace SourceSig

namespace Json

/-- A number of a document: an integer where it was written as one and is small enough, else a
floating-point number. -/
inductive Number where
  | int (i : Int)
  | float (x : Binary64)
deriving DecidableEq, Repr

end Json

/-- A JSON document. The entries of an object are in the order of the text. -/
inductive Json where
  | null
  | bool (b : Bool)
  | num (n : Json.Number)
  | str (s : String)
  | arr (items : List Json)
  | obj (entries : List (String × Json))

namespace Json

instance : Inhabited Json := ⟨.null⟩

/-- Fractions down to `0.00001` and numbers below `1e+16` are written without exponent, an integral
value keeps `.0`, and a positive exponent has its sign. -/
def numberLayout : Layout where
  positionalFrom := -5
  positionalBelow := 16
  keepsPoint := true
  plus := "+"
  tie := .even

/-- A floating-point number as JSON has it; what is not finite has no number text. -/
def writeFloat (x : Binary64) : String :=
  if x.isFinite then numberLayout.writeFinite x else "null"

/-- The text of a number. -/
def Number.write : Number → String
  | .int i => toString i
  | .float x => writeFloat x

mutual

/-- The text of a value, without blanks. -/
def write : Json → String
  | .null => "null"
  | .bool b => if b then "true" else "false"
  | .num n => n.write
  | .str s => Text.quote s
  | .arr items => "[" ++ writeItems items ++ "]"
  | .obj entries => "\x7b" ++ writeEntries entries ++ "\x7d"

/-- The texts of the elements of a list, with commas between them. -/
def writeItems : List Json → String
  | [] => ""
  | [v] => v.write
  | v :: vs => v.write ++ "," ++ writeItems vs

/-- The texts of the entries of an object, with commas between them. -/
def writeEntries : List (String × Json) → String
  | [] => ""
  | [(key, v)] => Text.quote key ++ ":" ++ v.write
  | (key, v) :: rest => Text.quote key ++ ":" ++ v.write ++ "," ++ writeEntries rest

end

mutual

/-- How many lists and objects are around the innermost one, itself included. -/
def depth : Json → Nat
  | .arr items => 1 + depthOfItems items
  | .obj entries => 1 + depthOfEntries entries
  | _ => 0

/-- The depth of the deepest element of a list. -/
def depthOfItems : List Json → Nat
  | [] => 0
  | v :: vs => max v.depth (depthOfItems vs)

/-- The depth of the deepest value among the entries of an object. -/
def depthOfEntries : List (String × Json) → Nat
  | [] => 0
  | (_, v) :: rest => max v.depth (depthOfEntries rest)

end

/-- The entries with `key` bound to `v`: a key that is there keeps its place and takes the new
value, and a new key comes last. -/
def put (key : String) (v : Json) : List (String × Json) → List (String × Json)
  | [] => [(key, v)]
  | (k, w) :: rest => if k = key then (key, v) :: rest else (k, w) :: put key v rest

/-- The value of an object's entry. -/
def get? (key : String) : Json → Option Json
  | .obj entries => (entries.find? (·.1 == key)).map (·.2)
  | _ => none

end Json

end SourceSig
