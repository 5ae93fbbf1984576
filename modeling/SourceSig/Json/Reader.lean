import SourceSig.Json.Basic
import SourceSig.Text.Utf8

/-!
# Reading JSON

A reader over bytes. Every part of it returns the input that it left, with a proof that some was
read, so nesting of any depth is read by well-founded recursion on the length of the input. The
first fault of a text, from left to right, is the one that is reported.

* `readValue` reads one value, and `parse` a whole document.
* `nextItem`, `nextKey` and `readColon` read what stands between the parts of a list or an object,
  for readers that want a list or an object of their own shape.
-/

namespace SourceSig.Json

open Text (Bytes)

/-- Why a text is no JSON document. -/
inductive ReadError where
  | endInList
  | endInObject
  | endInString
  | endInValue
  | noColon
  | noListEnd
  | noObjectEnd
  | noIdent
  | noValue
  | badEscape
  | badNumber
  | outOfRange
  | badCodePoint
  | controlCharacter
  | keyNotString
  | loneSurrogate
  | halfSurrogate
  | trailingComma
  | trailingCharacters
deriving DecidableEq, Repr

/-- What is said about a fault. The position that a reader may append, ` at line L column C`, is
left out of the message: a document that cannot be read is reported without a line, and nothing else
is read from the position. -/
def ReadError.message : ReadError → String
  | .endInList => "EOF while parsing a list"
  | .endInObject => "EOF while parsing an object"
  | .endInString => "EOF while parsing a string"
  | .endInValue => "EOF while parsing a value"
  | .noColon => "expected `:`"
  | .noListEnd => "expected `,` or `]`"
  | .noObjectEnd => "expected `,` or `\x7d`"
  | .noIdent => "expected ident"
  | .noValue => "expected value"
  | .badEscape => "invalid escape"
  | .badNumber => "invalid number"
  | .outOfRange => "number out of range"
  | .badCodePoint => "invalid unicode code point"
  | .controlCharacter => "control character (\\u0000-\\u001F) found while parsing a string"
  | .keyNotString => "key must be a string"
  | .loneSurrogate => "lone leading surrogate in hex escape"
  | .halfSurrogate => "unexpected end of hex escape"
  | .trailingComma => "trailing comma"
  | .trailingCharacters => "trailing characters"

/-- The input that is left once a part of `s` was read. -/
abbrev Rest (s : Bytes) := { r : Bytes // r.length < s.length }

/-- The input that is left where possibly nothing was read. -/
abbrev Part (s : Bytes) := { r : Bytes // r.length ≤ s.length }

/-! Remainders of remainders. -/

theorem length_lt_cons (b : UInt8) (s : Bytes) : s.length < (b :: s).length :=
  Nat.lt_succ_self _

theorem Rest.length_then {s : Bytes} (r : Rest s) (q : Rest r.1) : q.1.length < s.length :=
  Nat.lt_trans q.2 r.2

theorem Rest.length_thenPart {s : Bytes} (r : Rest s) (q : Part r.1) : q.1.length < s.length :=
  Nat.lt_of_le_of_lt q.2 r.2

theorem Rest.length_le {s : Bytes} (r : Rest s) : r.1.length ≤ s.length :=
  Nat.le_of_lt r.2

theorem Part.length_thenPart {s : Bytes} (p : Part s) (q : Part p.1) : q.1.length ≤ s.length :=
  Nat.le_trans q.2 p.2

theorem Part.length_then {s : Bytes} (p : Part s) (r : Rest p.1) : r.1.length < s.length :=
  Nat.lt_of_lt_of_le r.2 p.2

/-- What is left after the first byte. -/
def Rest.tail (b : UInt8) (s : Bytes) : Rest (b :: s) := ⟨s, length_lt_cons b s⟩

/-- What is left of what is left. -/
def Rest.then {s : Bytes} (r : Rest s) (q : Rest r.1) : Rest s := ⟨q.1, r.length_then q⟩

/-- What is left of what is left, where possibly nothing more was read. -/
def Rest.thenPart {s : Bytes} (r : Rest s) (q : Part r.1) : Rest s := ⟨q.1, r.length_thenPart q⟩

/-- What is left is a part, whether something was read or not. -/
def Rest.toPart {s : Bytes} (r : Rest s) : Part s := ⟨r.1, r.length_le⟩

/-- All of the input. -/
def Part.all (s : Bytes) : Part s := ⟨s, Nat.le_refl s.length⟩

/-- What is left once something of a part was read. -/
def Part.then {s : Bytes} (p : Part s) (r : Rest p.1) : Rest s := ⟨r.1, p.length_then r⟩

/-- A part of a part. -/
def Part.thenPart {s : Bytes} (p : Part s) (q : Part p.1) : Part s := ⟨q.1, p.length_thenPart q⟩

/-! ## Blanks -/

/-- Space, tab, line feed and carriage return. -/
def isSpace (b : UInt8) : Bool :=
  b == 0x20 || b == 0x09 || b == 0x0A || b == 0x0D

theorem length_dropWhile_le (p : UInt8 → Bool) (s : Bytes) :
    (s.dropWhile p).length ≤ s.length :=
  (List.dropWhile_sublist _).length_le

/-- The input after the bytes at its front that satisfy `p`. -/
def dropRun (p : UInt8 → Bool) (s : Bytes) : Part s :=
  ⟨s.dropWhile p, length_dropWhile_le p s⟩

/-- The input after its leading blanks. -/
def skipSpace (s : Bytes) : Part s :=
  dropRun isSpace s

/-- The first byte after the blanks, if any, with the input after it. -/
def peek (s : Bytes) : Option (UInt8 × Rest s) :=
  match skipSpace s with
  | ⟨[], _⟩ => none
  | ⟨b :: rest, h⟩ => some (b, Part.then ⟨b :: rest, h⟩ (.tail b rest))

/-! ## Strings -/

/-- The value of a hexadecimal digit in either case. -/
def hexValue (b : UInt8) : Option Nat :=
  if 0x30 ≤ b && b ≤ 0x39 then some (b.toNat - 0x30)
  else if 0x41 ≤ b && b ≤ 0x46 then some (b.toNat - 0x37)
  else if 0x61 ≤ b && b ≤ 0x66 then some (b.toNat - 0x57)
  else none

/-- The number that four hexadecimal digits denote. -/
def readHex (s : Bytes) : Except ReadError (Nat × Rest s) :=
  match s with
  | a :: b :: c :: d :: rest =>
    match [a, b, c, d].mapM hexValue with
    | some digits =>
      .ok (digits.foldl (16 * · + ·) 0,
        (Rest.tail a _).then ((Rest.tail b _).then ((Rest.tail c _).then (.tail d rest))))
    | none => .error .badEscape
  | _ => .error .endInString

/-- Whether a number is the first half of a surrogate pair. -/
def isLeading (n : Nat) : Bool := 0xD800 ≤ n && n ≤ 0xDBFF

/-- Whether a number is the second half of a surrogate pair. -/
def isTrailing (n : Nat) : Bool := 0xDC00 ≤ n && n ≤ 0xDFFF

/-- The input after a byte that has to stand at its front. -/
def expectByte (b : UInt8) (fault : ReadError) (s : Bytes) : Except ReadError (Rest s) :=
  match s with
  | [] => .error .endInString
  | c :: rest => if c = b then .ok (.tail c rest) else .error fault

/-- The character of an escape whose `\u` was read. A leading surrogate needs a trailing one in a
second escape. -/
def readCodePoint (s : Bytes) : Except ReadError (Nat × Rest s) := do
  let (n, rest) ← readHex s
  if isTrailing n then throw .loneSurrogate
  if !isLeading n then return (n, rest)
  let rest1 ← expectByte 0x5C .halfSurrogate rest.1
  let rest2 ← expectByte 0x75 .halfSurrogate rest1.1
  let (n2, rest3) ← readHex rest2.1
  if !isTrailing n2 then throw .loneSurrogate
  return ((n - 0xD800) * 0x400 + (n2 - 0xDC00) + 0x10000,
    rest.then (rest1.then (rest2.then rest3)))

/-- The byte that a one-letter escape stands for. -/
def shortEscape (b : UInt8) : Option UInt8 :=
  [(0x22, 0x22), (0x5C, 0x5C), (0x2F, 0x2F), (0x62, 0x08), (0x66, 0x0C), (0x6E, 0x0A), (0x72, 0x0D),
    (0x74, 0x09)].lookup b

/-- The bytes of the escape whose backslash was read. -/
def readEscape (s : Bytes) : Except ReadError (Bytes × Rest s) :=
  match s with
  | [] => .error .endInString
  | b :: rest =>
    if b = 0x75 then do
      let (n, after) ← readCodePoint rest
      return (String.utf8EncodeChar (Char.ofNat n), (Rest.tail b rest).then after)
    else
      match shortEscape b with
      | some e => .ok ([e], .tail b rest)
      | none => .error .badEscape

/-- The bytes of a string up to its closing quote; `acc` holds those before, in reverse. -/
def readBytes (acc s : Bytes) : Except ReadError (Bytes × Rest s) :=
  match s with
  | [] => .error .endInString
  | b :: rest =>
    if b = 0x22 then .ok (acc.reverse, .tail b rest)
    else if b = 0x5C then do
      let (bytes, after) ← readEscape rest
      let (all, last) ← readBytes (bytes.reverse ++ acc) after.1
      return (all, (Rest.tail b rest).then (after.then last))
    else if b < 0x20 then .error .controlCharacter
    else do
      let (all, last) ← readBytes (b :: acc) rest
      return (all, (Rest.tail b rest).then last)
termination_by s.length
decreasing_by
  · exact ((Rest.tail b rest).then after).2
  · exact (Rest.tail b rest).2

/-- A string whose opening quote was read. Its bytes have to be well-formed. -/
def readString (s : Bytes) : Except ReadError (String × Rest s) := do
  let (bytes, rest) ← readBytes [] s
  match Text.decode? bytes with
  | some text => return (text, rest)
  | none => throw .badCodePoint

/-! ## Numbers -/

/-- Whether a byte is a decimal digit. -/
def isDigit (b : UInt8) : Bool := 0x30 ≤ b && b ≤ 0x39

/-- The value of a decimal digit. -/
def digitValue (b : UInt8) : Nat := b.toNat - 0x30

/-- The digits at the front of the input, and the input after them. -/
def takeDigits (s : Bytes) : List Nat × Part s :=
  ((s.takeWhile isDigit).map digitValue, dropRun isDigit s)

/-- The significand with as many digits appended as it has room for in 64 bits, and the digits that
are left over. -/
def absorb (significand : Nat) : List Nat → Nat × List Nat
  | [] => (significand, [])
  | d :: ds =>
    if significand * 10 + d < UInt64.size then absorb (significand * 10 + d) ds
    else (significand, d :: ds)

/-- The number divided by `10 ^ n`, in steps of at most `10 ^ 308`. -/
def scaleDown (x : Binary64) (n : Nat) : Binary64 :=
  if n ≤ 308 then x.div (.ofNat (Nat.pow 10 n))
  else if x.isZero then x
  else scaleDown (x.div (.ofNat (Nat.pow 10 308))) (n - 308)
termination_by n

/-- The value of `significand · 10 ^ e`, rounded once for the significand and once for each scaling.
-/
def scale (significand : Nat) (e : Int) : Except ReadError Binary64 :=
  let x := Binary64.ofNat significand
  if e < 0 then .ok (scaleDown x (-e).toNat)
  else if x.isZero then .ok x
  else if 308 < e then .error .outOfRange
  else
    let y := x.mul (.ofNat (Nat.pow 10 e.toNat))
    if y.isFinite then .ok y else .error .outOfRange

/-- The digits that an exponent or a fraction cannot do without. -/
def someDigits (s : Bytes) : Except ReadError (List Nat × Part s) :=
  if s.isEmpty then .error .endInValue
  else if s.head?.any isDigit then .ok (takeDigits s)
  else .error .badNumber

/-- Whether a minus stands at the front, and the input after the sign, if there is one. -/
def takeSign (s : Bytes) : Bool × Part s :=
  match s with
  | b :: rest =>
    if b = 0x2D then (true, (Rest.tail b rest).toPart)
    else if b = 0x2B then (false, (Rest.tail b rest).toPart)
    else (false, .all _)
  | [] => (false, .all _)

/-- The value of an exponent whose mark was read. -/
def readExponent (s : Bytes) : Except ReadError (Int × Part s) := do
  let (negative, unsigned) := takeSign s
  let (digits, rest) ← someDigits unsigned.1
  let n : Int := (digits.foldl (10 * · + ·) 0 : Nat)
  return (if negative then -n else n, unsigned.thenPart rest)

/-- Whether a byte is the mark of an exponent. -/
def isExponentMark (b : UInt8) : Bool := b == 0x65 || b == 0x45

/-- The value of `significand · 10 ^ e` with the exponent, if any, that stands at the front. -/
def finishFloat (significand : Nat) (e : Int) (s : Bytes) :
    Except ReadError (Binary64 × Part s) :=
  match s with
  | b :: rest =>
    if isExponentMark b then do
      let (n, after) ← readExponent rest
      return (← scale significand (e + n), ((Rest.tail b rest).thenPart after).toPart)
    else return (← scale significand e, .all _)
  | [] => return (← scale significand e, .all _)

/-- A number without fraction, whose digits were read into `significand` with `extra` of them left
over. It is an integer if it has no exponent and 64 bits are enough. -/
def finishWhole (negative : Bool) (significand extra : Nat) (s : Bytes) :
    Except ReadError (Number × Part s) := do
  if s.head?.any isExponentMark || 0 < extra then
    let (x, rest) ← finishFloat significand extra s
    return (.float (x.withSign negative), rest)
  else if !negative then return (.int significand, .all s)
  else if 0 < significand ∧ 2 * significand ≤ UInt64.size then
    return (.int (-significand), .all s)
  else return (.float ((Binary64.ofNat significand).withSign negative), .all s)

/-- The number whose integer digits were read into `significand`, with `extra` of them left over,
and whose fraction and exponent, if any, stand at the front. -/
def finishNumber (negative : Bool) (significand extra : Nat) (s : Bytes) :
    Except ReadError (Number × Part s) :=
  match s with
  | b :: rest =>
    if b = 0x2E then do
      let (fraction, after) ← someDigits rest
      let (significand, dropped) := absorb significand fraction
      let (x, last) ←
        finishFloat significand (extra - (fraction.length - dropped.length : Nat)) after.1
      return (.float (x.withSign negative),
        ((Rest.tail b rest).thenPart (after.thenPart last)).toPart)
    else finishWhole negative significand extra (b :: rest)
  | [] => finishWhole negative significand extra []

/-- A number whose sign, if any, was read. -/
def readUnsigned (negative : Bool) (s : Bytes) : Except ReadError (Number × Rest s) :=
  match s with
  | [] => .error .endInValue
  | b :: rest =>
    if b = 0x30 then
      if rest.head?.any isDigit then .error .badNumber
      else do
        let (n, after) ← finishNumber negative 0 0 rest
        return (n, (Rest.tail b rest).thenPart after)
    else if isDigit b then do
      let (digits, after) := takeDigits rest
      let (significand, dropped) := absorb 0 (digitValue b :: digits)
      let (n, last) ← finishNumber negative significand dropped.length after.1
      return (n, (Rest.tail b rest).thenPart (after.thenPart last))
    else .error .badNumber

/-- A number, with its sign. -/
def readNumber (s : Bytes) : Except ReadError (Number × Rest s) :=
  match s with
  | b :: rest =>
    if b = 0x2D then do
      let (n, after) ← readUnsigned true rest
      return (n, (Rest.tail b rest).then after)
    else readUnsigned false (b :: rest)
  | [] => .error .endInValue

/-! ## Values -/

/-- The input after the letters of a word. -/
def readWord : Bytes → (s : Bytes) → Except ReadError (Part s)
  | [], s => .ok (.all s)
  | _ :: _, [] => .error .endInValue
  | w :: word, b :: s =>
    if b = w then do
      let rest ← readWord word s
      return ((Rest.tail b s).thenPart rest).toPart
    else .error .noIdent

/-- What comes next in an open list or object. -/
inductive Upcoming (s : Bytes) where
  /-- Its end, which was read. -/
  | done (rest : Rest s)
  /-- A further part of it, at the front of the input. -/
  | more (rest : Part s)

/-- What comes next in a list, before its first element or after one. -/
def nextItem (first : Bool) (s : Bytes) : Except ReadError (Upcoming s) :=
  match peek s with
  | none => .error .endInList
  | some (b, rest) =>
    if b = 0x5D then .ok (.done rest)
    else if first then .ok (.more (.all s))
    else if b = 0x2C then
      match peek rest.1 with
      | none => .error .endInValue
      | some (c, _) =>
        if c = 0x5D then .error .trailingComma else .ok (.more rest.toPart)
    else .error .noListEnd

/-- What comes next in an object, before its first key or after an entry. The opening quote of a key
is read. -/
def nextKey (first : Bool) (s : Bytes) : Except ReadError (Upcoming s) :=
  match peek s with
  | none => .error .endInObject
  | some (b, rest) =>
    if b = 0x7D then .ok (.done rest)
    else if first then
      if b = 0x22 then .ok (.more rest.toPart) else .error .keyNotString
    else if b = 0x2C then
      match peek rest.1 with
      | none => .error .endInValue
      | some (c, after) =>
        if c = 0x22 then .ok (.more (rest.then after).toPart)
        else if c = 0x7D then .error .trailingComma
        else .error .keyNotString
    else .error .noObjectEnd

/-- The input after the colon of an entry. -/
def readColon (s : Bytes) : Except ReadError (Rest s) :=
  match peek s with
  | none => .error .endInObject
  | some (b, rest) => if b = 0x3A then .ok rest else .error .noColon

/-- One of the words `null`, `true` and `false`, from its first letter on. -/
def readLiteral (b : UInt8) (s : Bytes) :
    Option (Except ReadError (Json × Part s)) :=
  if b = 0x6E then some ((readWord [0x75, 0x6C, 0x6C] s).map (.null, ·))
  else if b = 0x74 then some ((readWord [0x72, 0x75, 0x65] s).map (.bool true, ·))
  else if b = 0x66 then some ((readWord [0x61, 0x6C, 0x73, 0x65] s).map (.bool false, ·))
  else none

/-- Whether a byte can begin a number. -/
def startsNumber (b : UInt8) : Bool := b == 0x2D || isDigit b

mutual

/-- One value, after any blanks. -/
def readValue (s : Bytes) : Except ReadError (Json × Rest s) :=
  match peek s with
  | none => .error .endInValue
  | some (b, rest) =>
    match readLiteral b rest.1 with
    | some read => do
      let (v, after) ← read
      return (v, rest.thenPart after)
    | none =>
      if startsNumber b then do
        let (n, after) ← readNumber (skipSpace s).1
        return (.num n, (skipSpace s).then after)
      else if b = 0x22 then do
        let (text, after) ← readString rest.1
        return (.str text, rest.then after)
      else if b = 0x5B then do
        let (items, after) ← readItems true [] rest.1
        return (.arr items, rest.then after)
      else if b = 0x7B then do
        let (entries, after) ← readEntries true [] rest.1
        return (.obj entries, rest.then after)
      else .error .noValue
termination_by (s.length, 0)
decreasing_by all_goals exact Prod.Lex.left _ _ rest.2

/-- The elements of a list up to its end; `acc` holds those before, in reverse. -/
def readItems (first : Bool) (acc : List Json) (s : Bytes) :
    Except ReadError (List Json × Rest s) := do
  match ← nextItem first s with
  | .done rest => return (acc.reverse, rest)
  | .more here =>
    let (v, rest) ← readValue here.1
    let (items, last) ← readItems false (v :: acc) rest.1
    return (items, here.then (rest.then last))
termination_by (s.length, 1)
decreasing_by
  · rcases Nat.lt_or_eq_of_le here.2 with h | h
    · exact Prod.Lex.left _ _ h
    · rw [h]; exact Prod.Lex.right _ (by decide)
  · exact Prod.Lex.left _ _ (here.then rest).2

/-- The entries of an object up to its end; `acc` holds those before. A repeated key keeps its first
place and takes its last value. -/
def readEntries (first : Bool) (acc : List (String × Json)) (s : Bytes) :
    Except ReadError (List (String × Json) × Rest s) := do
  match ← nextKey first s with
  | .done rest => return (acc, rest)
  | .more here =>
    let (key, rest1) ← readString here.1
    let rest2 ← readColon rest1.1
    let (v, rest3) ← readValue rest2.1
    let (entries, last) ← readEntries false (put key v acc) rest3.1
    return (entries, here.then (rest1.then (rest2.then (rest3.then last))))
termination_by (s.length, 1)
decreasing_by
  · exact Prod.Lex.left _ _ (here.then (rest1.then rest2)).2
  · exact Prod.Lex.left _ _ (here.then (rest1.then (rest2.then rest3))).2

end

/-- Nothing but blanks may follow a document. -/
def expectEnd (s : Bytes) : Except ReadError Unit :=
  match peek s with
  | none => .ok ()
  | some _ => .error .trailingCharacters

/-- The value that a document holds. -/
def parse (s : Bytes) : Except ReadError Json := do
  let (v, rest) ← readValue s
  expectEnd rest.1
  return v

end SourceSig.Json
