import SourceSig.Settings.Value
import SourceSig.Text.Alphanumeric
import SourceSig.Text.Scan

/-!
# JSON5

JSON with comments, names as keys, texts between either kind of quotes, commas after the last
element, and more spellings of numbers. An integer has 64 bits, or 32 where it is hexadecimal.
-/

namespace SourceSig.Settings.Json5

open Scan

/-! ## Space -/

/-- Whether a character ends a line. -/
def isLineEnd (c : Char) : Bool :=
  c = '\n' || c = '\r' || c = '\u2028' || c = '\u2029'

/-- Blanks are those of Unicode but the next line, and the mark of the byte order. -/
def isSpace (c : Char) : Bool :=
  Text.isBlank c && c ≠ '\u0085' || c = '\uFEFF'

/-- The rest of a comment between a slash and a star at either end. -/
def longComment : List Char → Option (Unit × List Char)
  | '*' :: '/' :: rest => some ((), rest)
  | _ :: rest => longComment rest
  | [] => none

/-- A comment of either form. -/
def comment : Scan Unit :=
  (do Scan.text "/*"; longComment)
    <|> (do Scan.text "//"; let _ ← takeWhile fun c => !isLineEnd c)

/-- Blanks and comments. -/
def space : Scan Unit := do
  let _ ← many ((fun _ => ()) <$> takeSome isSpace <|> comment)

/-- A character of the grammar, and the space after it. -/
def sign (c : Char) : Scan Unit := do
  let _ ← char c
  space

/-! ## Texts -/

/-- Whether a number is the first half of a surrogate pair. -/
def isLead (n : Nat) : Bool := 0xD800 ≤ n && n ≤ 0xDBFF

/-- Whether a number is the second half of a surrogate pair. -/
def isTrail (n : Nat) : Bool := 0xDC00 ≤ n && n ≤ 0xDFFF

/-- The character of four hexadecimal digits, or of eight in two escapes. -/
def unicodeEscape : Scan Char := do
  let n ← hexNumber 4
  if isLead n then
    Scan.text "\\u"
    let m ← hexNumber 4
    if isTrail m then ofOption (charOfNat? (0x10000 + (n - 0xD800) * 0x400 + (m - 0xDC00)))
    else fail
  else ofOption (charOfNat? n)

/-- What an escape stands for, after its backslash. A line end that is escaped does not count. -/
def escape : Scan (List Char) := do
  match ← satisfy fun _ => true with
  | 'b' => return ['\x08']
  | 'f' => return ['\x0c']
  | 'n' => return ['\n']
  | 'r' => return ['\r']
  | 't' => return ['\t']
  | 'v' => return ['\x0b']
  | '0' => return ['\x00']
  | 'x' => return [← codePoint 2]
  | 'u' => return [← unicodeEscape]
  | '\r' => let _ ← accept (char '\n'); return []
  | c => if isLineEnd c then return [] else if c.isDigit then fail else return [c]

/-- A text between quotes of the given form. -/
def quoted (quote : Char) : Scan String := do
  let _ ← char quote
  let parts ← many (takeSome (fun c => c ≠ quote && c ≠ '\\' && !isLineEnd c) <|>
    (do let _ ← char '\\'; escape))
  let _ ← char quote
  return String.ofList parts.flatten

/-- A text in quotes of either form. -/
def text : Scan String := quoted '"' <|> quoted '\x27'

/-! ## Names -/

/-- Whether a name can begin with the character. -/
def isNameStart (c : Char) : Bool := Text.isAlphabetic c || c = '$' || c = '_'

/-- The ranges of marks and of punctuation that go on with a name: diacritics, combining marks and
connectors. -/
def markRanges : List (Nat × Nat) :=
  [(0x5E, 0x5E), (0x60, 0x60), (0xA8, 0xA8), (0xAF, 0xAF), (0xB4, 0xB4), (0xB7, 0xB8),
    (0x2B0, 0x36F), (0x483, 0x487), (0x591, 0x5C7), (0x64B, 0x65F), (0x1AB0, 0x1AFF),
    (0x1DC0, 0x1DFF), (0x200C, 0x200D), (0x203F, 0x2040), (0x2054, 0x2054), (0x20D0, 0x20F0),
    (0xFE00, 0xFE0F), (0xFE20, 0xFE2F), (0xFE33, 0xFE34), (0xFE4D, 0xFE4F), (0xFF3F, 0xFF3F)]

/-- Whether a name can go on with the character. -/
def isNamePart (c : Char) : Bool :=
  isNameStart c || Text.isDecimalDigit c || Text.inRanges markRanges c

/-- An escaped character of a name. -/
def nameEscape : Scan Char := do
  Scan.text "\\u"
  unicodeEscape

/-- A key that is written without quotes. -/
def name : Scan String := do
  let first ← satisfy isNameStart <|> nameEscape
  let rest ← many (satisfy isNamePart <|> nameEscape)
  return String.ofList (first :: rest)

/-! ## Numbers -/

/-- An integer without sign in hexadecimal digits. -/
def hexInt : Scan Value := do
  Scan.text "0x" <|> Scan.text "0X"
  let digits ← takeSome fun c => (Text.hexDigit? c).isSome
  let n := (digits.filterMap Text.hexDigit?).foldl (16 * · + ·) 0
  if n < UInt32.size then ofOption ((int64OfInt? n).map .int) else fail

/-- The digits of a whole number, without needless zeros. -/
def wholeDigits : Scan (List Char) :=
  (do return [← char '0']) <|> takeSome Char.isDigit

/-- The exponent of a number as it is spelled. -/
def exponent : Scan (List Char) := do
  let e ← satisfy fun c => c = 'e' || c = 'E'
  let sign ← Scan.optional (satisfy fun c => c = '+' || c = '-')
  return e :: sign.toList ++ (← takeSome Char.isDigit)

/-- A decimal as it is spelled. -/
def decimalText : Scan (List Char) := do
  let digits ← wholeDigits <|> pure []
  let fraction ← (do let _ ← char '.'; return '.' :: (← takeWhile Char.isDigit)) <|> pure []
  if digits.isEmpty && fraction.length < 2 then fail
  return digits ++ fraction ++ (← exponent <|> pure [])

/-- A decimal number. One that is spelled in digits alone is an integer of 64 bits. -/
def decimal (minus : List Char) : Scan Value := do
  let spelled ← decimalText
  let spelling := String.ofList (minus ++ spelled)
  if spelled.all Char.isDigit then ofOption ((int64OfText? spelling).map .int)
  else
    let x ← ofOption (Binary64.ofText? spelling)
    if x.isInfinite then fail else return .float x

/-- A number. The ones that are not finite have names, without a plus sign. -/
def number : Scan Value :=
  hexInt <|> do
    let sign ← Scan.optional (satisfy fun c => c = '+' || c = '-')
    let minus := sign.toList.filter (· = '-')
    decimal minus
      <|> (do Scan.text "Infinity"
              if sign = some '+' then fail else return .float (.infinity (!minus.isEmpty)))
      <|> (do Scan.text "NaN"
              if sign = some '+' then fail else return .float .nan)

/-! ## Values -/

/-- A value that is neither an array nor an object. -/
def scalar : Scan Value :=
  (do Scan.text "null"; return .null)
  <|> (do Scan.text "true"; return .bool true)
  <|> (do Scan.text "false"; return .bool false)
  <|> (.text <$> text) <|> number

/-- Elements with commas between them, where one may stand after the last. -/
def elements {α : Type} (element : Scan α) : Scan (List α) := do
  let found ← sepBy element (sign ',')
  if !found.isEmpty then let _ ← accept (sign ',')
  return found

/-- A list of values between brackets. -/
def array (inner : Scan Value) : Scan Value := do
  sign '['
  let items ← elements inner
  let _ ← char ']'
  return .list items

/-- Keys and values between braces. A key that comes again takes the new value. -/
def object (inner : Scan Value) : Scan Entries := do
  sign '\x7b'
  let pairs ← elements (do
    let key ← name <|> text
    space
    sign ':'
    return (key, ← inner))
  let _ ← char '\x7d'
  return pairs.foldl (fun es (key, v) => Entries.put key v es) []

/-- A value that nests to the given depth, and the space after it. -/
def value : Nat → Scan Value
  | 0 => fail
  | depth + 1 => do
    let v ← scalar <|> array (value depth) <|> (.table <$> object (value depth))
    space
    return v

/-- The value of a text, if it is a JSON5 document. -/
def parse? (s : String) : Option Value :=
  whole (do space; value (s.length + 1)) s.toList

end SourceSig.Settings.Json5
