/-!
# UTF-8

Byte sequences and the characters they encode. `units` cuts a byte sequence into characters and
ill-formed pieces, where a piece is as long as it could still have begun a character. The two
readers differ in what they make of a piece: `decode?` refuses the text, `decodeLossy` puts the
replacement character in its place.
-/

namespace SourceSig.Text

/-- The content of a file or of a message. -/
abbrev Bytes := List UInt8

/-- The bytes of a text. -/
def encode (s : String) : Bytes :=
  s.toList.flatMap String.utf8EncodeChar

namespace Utf8

/-- Whether a byte of `bytes` stands at `i` and lies between the bounds. -/
def within (bytes : Bytes) (i : Nat) (low high : UInt8) : Bool :=
  match bytes[i]? with
  | some b => low ≤ b && b ≤ high
  | none => false

/-- The payload of the continuation byte at `i`. -/
def payload (bytes : Bytes) (i : Nat) : Nat :=
  (bytes.getD i 0).toNat % 64

/-- The bounds of the byte after the lead byte of a three-byte character. -/
def secondOfThree (lead : UInt8) : UInt8 × UInt8 :=
  if lead = 0xE0 then (0xA0, 0xBF) else if lead = 0xED then (0x80, 0x9F) else (0x80, 0xBF)

/-- The bounds of the byte after the lead byte of a four-byte character. -/
def secondOfFour (lead : UInt8) : UInt8 × UInt8 :=
  if lead = 0xF0 then (0x90, 0xBF) else if lead = 0xF4 then (0x80, 0x8F) else (0x80, 0xBF)

/-- What a lead byte and the bytes after it begin with: a character, or nothing for an ill-formed
piece; and how many of the bytes after the lead belong to it. -/
def front (lead : UInt8) (rest : Bytes) : Option Char × Nat :=
  if lead < 0x80 then (some (Char.ofNat lead.toNat), 0)
  else if 0xC2 ≤ lead && lead ≤ 0xDF then
    if within rest 0 0x80 0xBF then
      (some (Char.ofNat (lead.toNat % 32 * 64 + payload rest 0)), 1)
    else (none, 0)
  else if 0xE0 ≤ lead && lead ≤ 0xEF then
    let (low, high) := secondOfThree lead
    if !within rest 0 low high then (none, 0)
    else if !within rest 1 0x80 0xBF then (none, 1)
    else
      (some (Char.ofNat ((lead.toNat % 16 * 64 + payload rest 0) * 64 + payload rest 1)), 2)
  else if 0xF0 ≤ lead && lead ≤ 0xF4 then
    let (low, high) := secondOfFour lead
    if !within rest 0 low high then (none, 0)
    else if !within rest 1 0x80 0xBF then (none, 1)
    else if !within rest 2 0x80 0xBF then (none, 2)
    else
      (some (Char.ofNat
        (((lead.toNat % 8 * 64 + payload rest 0) * 64 + payload rest 1) * 64 + payload rest 2)), 3)
  else (none, 0)

end Utf8

/-- The characters of a byte sequence in order, with `none` for each ill-formed piece. -/
def units : Bytes → List (Option Char)
  | [] => []
  | lead :: rest =>
    let (unit, taken) := Utf8.front lead rest
    unit :: units (rest.drop taken)
termination_by bytes => bytes.length
decreasing_by simp only [List.length_drop, List.length_cons]; omega

/-- The text that the bytes encode, if they are well-formed. -/
def decode? (bytes : Bytes) : Option String :=
  ((units bytes).mapM id).map String.ofList

/-- The text that the bytes encode, with U+FFFD for each ill-formed piece. -/
def decodeLossy (bytes : Bytes) : String :=
  String.ofList ((units bytes).map fun unit => unit.getD (Char.ofNat 0xFFFD))

end SourceSig.Text
