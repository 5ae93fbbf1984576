import SourceSig.Hash.Sha256
import SourceSig.Number.Decimal
import SourceSig.Text.Quoted
import SourceSig.Tree.Basic

/-!
# Digests

A digest stands for a subtree without showing it. The subtree is serialized to a text that leaves
positions out, and the text is hashed together with the version of the format. Strings and keys
are quoted in it, so that no content reads as structure.
-/

namespace SourceSig

/-! ## Serialization -/

/-- Fractions below `0.0001` and numbers from `1e16` on are written with an exponent, and an
integral value keeps `.0`. -/
def digestLayout : Layout where
  positionalFrom := -4
  positionalBelow := 16
  keepsPoint := true
  plus := ""
  tie := .up

mutual

/-- A value in the digest format. -/
def Value.serialize : Value → String
  | .null => "null"
  | .bool false => "false"
  | .bool true => "true"
  | .int i => toString i.toInt
  | .float x => digestLayout.writeNumber x
  | .str s => Text.quote s
  | .node n => n.serialize
  | .list items => "[" ++ Value.serializeItems 0 items ++ ")"
  | .map entries => "[" ++ Value.serializeEntries entries ++ ")"

/-- The elements of a list, each after its index, from index `i` on. -/
def Value.serializeItems (i : Nat) : List Value → String
  | [] => ""
  | v :: vs => toString i ++ ":" ++ v.serialize ++ Value.serializeItems (i + 1) vs

/-- The entries of a keyed list, one after the other. -/
def Value.serializeEntries : List (String × Value) → String
  | [] => ""
  | (key, v) :: rest => Text.quote key ++ ":" ++ v.serialize ++ Value.serializeEntries rest

/-- A node in the digest format: its tag, and its fields in declared order. -/
def Node.serialize : Node → String
  | ⟨tag, fields, _⟩ => tag ++ "(" ++ Node.serializeFields fields ++ ")"

/-- The fields of a node, each on a line of its own. -/
def Node.serializeFields : List (String × Value) → String
  | [] => ""
  | (name, v) :: rest => "\n    " ++ name ++ ": " ++ v.serialize ++ Node.serializeFields rest

end

/-! ## Hashing -/

/-- The 32 bytes of a SHA-256 hash. -/
structure Digest where
  bytes : Text.Bytes
  length_bytes : bytes.length = 32
deriving DecidableEq

namespace Digest

/-- The version of the digest format, hashed before every text. -/
def formatVersion : UInt8 := 2

/-- The digest of a serialized tree, after the byte that says in which format it is. -/
def ofText (text : String) : Digest :=
  ⟨Sha256.hash (formatVersion :: Text.encode text), Sha256.length_hash _⟩

/-- The digest of a field; an absent one has the digest of `null`. -/
def ofValue (v : Option Value) : Digest :=
  ofText ((v.getD .null).serialize)

/-- The digest of a node. -/
def ofNode (n : Node) : Digest :=
  ofText n.serialize

/-- The digest of a list of statements. -/
def ofStatements (items : List Value) : Digest :=
  ofText (Value.list items).serialize

/-- Two lowercase hexadecimal digits for each byte. -/
def hex (d : Digest) : String :=
  String.ofList (d.bytes.flatMap fun b =>
    [Nat.digitChar (b.toNat / 16), Nat.digitChar (b.toNat % 16)])

end Digest

end SourceSig
