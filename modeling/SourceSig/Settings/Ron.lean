import SourceSig.Settings.Value
import SourceSig.Text.Scan

/-!
# RON files

Values with named records: `Name(field: value)`, where the name may be missing, is a table, and so
is `{"key": value}`. A tuple is a list, an optional value stands for what it holds, and a name alone
for nothing.
-/

namespace SourceSig.Settings.Ron

open Scan

/-! ## Space -/

/-- Whether a character is a blank. -/
def isSpace (c : Char) : Bool := c = ' ' || c = '\t' || c = '\n' || c = '\r'

/-- The rest of a comment between a slash and a star at either end, inside a number of others. -/
def longComment : Nat → List Char → Option (Unit × List Char)
  | 0, '*' :: '/' :: rest => some ((), rest)
  | n + 1, '*' :: '/' :: rest => longComment n rest
  | n, '/' :: '*' :: rest => longComment (n + 1) rest
  | n, _ :: rest => longComment n rest
  | _, [] => none

/-- A comment of either form. -/
def comment : Scan Unit :=
  (do Scan.text "/*"; longComment 0)
    <|> (do Scan.text "//"; let _ ← takeWhile (· ≠ '\n'))

/-- Blanks and comments. -/
def space : Scan Unit := do
  let _ ← many ((fun _ => ()) <$> takeSome isSpace <|> comment)

/-- A character of the grammar, and the space after it. -/
def sign (c : Char) : Scan Unit := do
  let _ ← char c
  space

/-! ## Names -/

/-- Whether a name can go on with the character. -/
def isNamePart (c : Char) : Bool := c.isAlphanum || c = '_'

/-- The name of a record or of a field. -/
def name : Scan String := do
  let first ← satisfy fun c => c.isAlpha || c = '_'
  return String.ofList (first :: (← takeWhile isNamePart))

/-- A word that does not go on. -/
def word (w : String) : Scan Unit := do
  Scan.text w
  match ← peek with
  | some c => if isNamePart c then fail
  | none => return

/-! ## Texts -/

/-- The character of an escape, after its backslash. -/
def escape : Scan Char := do
  match ← satisfy fun _ => true with
  | '\x27' => return '\x27'
  | '"' => return '"'
  | '\\' => return '\\'
  | 'n' => return '\n'
  | 'r' => return '\r'
  | 't' => return '\t'
  | '0' => return '\x00'
  | 'x' => codePoint 2
  | 'u' =>
    let _ ← char '\x7b'
    let digits ← takeSome fun c => (Text.hexDigit? c).isSome
    let _ ← char '\x7d'
    if 6 < digits.length then fail
    else ofOption (charOfNat? ((digits.filterMap Text.hexDigit?).foldl (16 * · + ·) 0))
  | _ => fail

/-- A text between quotes. -/
def quoted : Scan String := do
  let _ ← char '"'
  let parts ← many (takeSome (fun c => c ≠ '"' && c ≠ '\\') <|>
    (do let _ ← char '\\'; return [← escape]))
  let _ ← char '"'
  return String.ofList parts.flatten

/-- The text up to a mark, which is taken off as well. -/
def upTo (mark : List Char) : List Char → Option (List Char × List Char)
  | [] => none
  | c :: cs =>
    if mark.isPrefixOf (c :: cs) then some ([], (c :: cs).drop mark.length)
    else (upTo mark cs).map fun (s, rest) => (c :: s, rest)

/-- A text without escapes, between quotes with as many number signs around them as it takes. -/
def rawText : Scan String := do
  let _ ← char 'r'
  let marks ← takeWhile (· = '#')
  let _ ← char '"'
  return String.ofList (← upTo ('"' :: marks))

/-- A single character between quotes, as a text. -/
def character : Scan String := do
  let _ ← char '\x27'
  let c ← (do let _ ← char '\\'; escape) <|> satisfy fun c => c ≠ '\x27'
  let _ ← char '\x27'
  return String.ofList [c]

/-! ## Numbers -/

/-- The digits of a base at the front of a text, where underscores do not count. -/
def digitsOf (base : Nat) : Scan Nat := do
  let value? (c : Char) := (Text.hexDigit? c).filter (· < base)
  let first ← satisfy fun c => (value? c).isSome
  let rest ← takeWhile fun c => (Text.hexDigit? c).isSome || c = '_'
  let ds ← ofOption ((first :: rest.filter (· ≠ '_')).mapM value?)
  return ds.foldl (base * · + ·) 0

/-- A natural number in one of the four bases. -/
def magnitude : Scan Nat :=
  (do Scan.text "0x"; digitsOf 16) <|> (do Scan.text "0b"; digitsOf 2)
    <|> (do Scan.text "0o"; digitsOf 8) <|> digitsOf 10

/-- The sign of a number, if it has one. -/
def plusOrMinus : Scan (Option Char) := Scan.optional (satisfy fun c => c = '+' || c = '-')

/-- An integer, which is not the front of a decimal. -/
def integer : Scan Value := do
  let negative := (← plusOrMinus) = some '-'
  let n ← magnitude
  match ← peek with
  | some '.' => fail
  | _ => ofOption ((int64OfInt? (if negative then -(n : Int) else n)).map .int)

/-- Whether a decimal number can have the character. -/
def isDecimalPart (c : Char) : Bool :=
  c.isDigit || c = '.' || c = 'e' || c = 'E' || c = '+' || c = '-' || c = '_'

/-- A number with a fraction or an exponent, where underscores do not count. -/
def decimal : Scan Value := do
  let spelled ← takeSome isDecimalPart
  .float <$> ofOption (Binary64.ofText? (String.ofList (spelled.filter (· ≠ '_'))))

/-! ## Values -/

/-- A scalar that begins with no letter but those of its own spelling. -/
def scalar : Scan Value :=
  (do word "true"; return .bool true)
  <|> (do word "false"; return .bool false)
  <|> (do word "None"; return .null)
  <|> (do Scan.text "()"; return .null)
  <|> (do word "inf"; return .float (.infinity false))
  <|> (do word "-inf"; return .float (.infinity true))
  <|> (do word "NaN"; return .float .nan)
  <|> (.text <$> (rawText <|> quoted <|> character)) <|> integer <|> decimal

/-- Elements with commas between them, where one may stand after the last. -/
def elements {α : Type} (element : Scan α) : Scan (List α) := do
  let found ← sepBy element (sign ',')
  if !found.isEmpty then let _ ← accept (sign ',')
  return found

/-- The table of some pairs. A key that comes again takes the new value. -/
def tableOf (pairs : List (String × Value)) : Value :=
  .table (pairs.foldl (fun es (key, v) => Entries.put key v es) [])

/-- A pair of which the first part is read by `key`. -/
def pair (key : Scan String) (inner : Scan Value) : Scan (String × Value) := do
  let k ← key
  space
  sign ':'
  return (k, ← inner)

/-- What stands between parentheses: the fields of a record, or the parts of a tuple. -/
def group (inner : Scan Value) : Scan Value := do
  sign '('
  let v ← (do
      let fields ← elements (pair name inner)
      if fields.isEmpty then fail else return tableOf fields)
    <|> (.list <$> elements inner)
  let _ ← char ')'
  return v

/-- A value that is marked as given. -/
def optionalValue (inner : Scan Value) : Scan Value := do
  word "Some"
  space
  sign '('
  let v ← inner
  let _ ← char ')'
  return v

/-- A record with its name, which does not count. A name alone is no value. -/
def record (inner : Scan Value) : Scan Value := do
  let _ ← name
  space
  match ← peek with
  | some '(' => group inner
  | _ => return .null

/-- A list of values between brackets. -/
def array (inner : Scan Value) : Scan Value := do
  sign '['
  let items ← elements inner
  let _ ← char ']'
  return .list items

/-- The text of a value, if it is one. -/
def asText : Value → Scan String
  | .text s => pure s
  | _ => fail

/-- Keys and values between braces. The keys have to be texts. -/
def table (inner : Scan Value) : Scan Value := do
  sign '\x7b'
  let pairs ← elements (pair (inner >>= asText) inner)
  let _ ← char '\x7d'
  return tableOf pairs

/-- A value that nests to the given depth, and the space after it. -/
def value : Nat → Scan Value
  | 0 => fail
  | depth + 1 => do
    let inner := value depth
    let v ← scalar <|> optionalValue inner <|> record inner <|> group inner <|> array inner
      <|> table inner
    space
    return v

/-- How deep values nest at most. -/
def maxDepth : Nat := 128

/-- The extensions of the notation that a text may ask for. They concern values of expected types,
and here any value is expected. -/
def extensions : List String := ["unwrap_newtypes", "implicit_some", "unwrap_variant_newtypes"]

/-- The name of one of the extensions. -/
def extension : Scan Unit := do
  let n ← name
  space
  if !extensions.contains n then fail

/-- A line that asks for extensions. -/
def header : Scan Unit := do
  sign '#'
  sign '!'
  sign '['
  Scan.text "enable"
  space
  sign '('
  if (← elements extension).isEmpty then fail
  sign ')'
  sign ']'

/-- The value of a text, if it is in the notation. -/
def parse? (s : String) : Option Value :=
  whole (do space; let _ ← many header; value maxDepth) s.toList

end SourceSig.Settings.Ron
