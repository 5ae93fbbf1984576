import SourceSig.Settings.Value
import SourceSig.Text.Scan

/-!
# TOML syntax

The lines of a TOML text: headers, and keys with values. What the lines mean together is settled
apart (`TomlDocument`), except inside the braces of an inline table, which is a value of its own;
the parts of such a table are put together by a function that is passed in.
-/

namespace SourceSig.Settings.Toml

open Scan

/-- The parts of a dotted key; there is always one. -/
abbrev Key := List String

/-- A line of a document: the header of a table, the header of an element of a list of tables, or an
entry of the table that was opened last. -/
inductive Line where
  | header (path : Key)
  | item (path : Key)
  | entry (key : Key) (value : Value)

/-- How deep arrays and inline tables nest, and how many parts a key has, at most. -/
def maxDepth : Nat := 79

/-! ## Blanks -/

/-- Whether a character is a blank inside a line. -/
def isBlank (c : Char) : Bool := c = ' ' || c = '\t'

/-- The blanks between the parts of a line. -/
def blanks : Scan Unit := (fun _ => ()) <$> takeWhile isBlank

/-- A line feed, with or without a carriage return. -/
def lineEnd : Scan Unit := Scan.text "\n" <|> Scan.text "\r\n"

/-- Whether a character may stand in a text: a tab or no control character. -/
def isPrintable (c : Char) : Bool := c = '\t' || (0x20 ≤ c.toNat && c.toNat ≠ 0x7F)

/-- A comment up to the end of its line. -/
def comment : Scan Unit := do
  let _ ← char '#'
  let _ ← takeWhile isPrintable

/-- The rest of a line after what counts on it. -/
def lineRest : Scan Unit := do
  blanks
  let _ ← accept comment
  lineEnd <|> atEnd

/-- Blanks, comments and line ends, where lines do not count. -/
def space : Scan Unit := do
  let _ ← many ((fun _ => ()) <$> takeSome isBlank <|> lineEnd <|> (do comment; lineEnd))

/-! ## Texts -/

/-- The character of an escape whose backslash was read. -/
def escape : Scan Char := do
  match ← satisfy fun _ => true with
  | 'b' => return '\x08'
  | 't' => return '\t'
  | 'n' => return '\n'
  | 'f' => return '\x0c'
  | 'r' => return '\r'
  | '"' => return '"'
  | '\\' => return '\\'
  | 'u' => codePoint 4
  | 'U' => codePoint 8
  | _ => fail

/-- A run of characters that stand for themselves between double quotes. -/
def plainRun : Scan (List Char) := takeSome fun c => isPrintable c && c ≠ '"' && c ≠ '\\'

/-- A part of a text in double quotes: a run of characters or an escape. -/
def basicPart : Scan (List Char) :=
  plainRun <|> (do let _ ← char '\\'; return [← escape])

/-- A text in double quotes, with escapes. -/
def basicText : Scan String := do
  let _ ← char '"'
  let parts ← many basicPart
  let _ ← char '"'
  return String.ofList parts.flatten

/-- Whether a text in single quotes can have the character. -/
def isLiteral (c : Char) : Bool := isPrintable c && c ≠ '\x27'

/-- A text in single quotes, without escapes. -/
def literalText : Scan String := do
  let _ ← char '\x27'
  let s ← takeWhile isLiteral
  let _ ← char '\x27'
  return String.ofList s

/-- A broken line in a text of many lines: the blanks and line ends after a backslash. -/
def brokenLine : Scan Unit := do
  let _ ← char '\\'
  blanks
  lineEnd
  let _ ← many ((fun _ => ()) <$> takeSome isBlank <|> lineEnd)

/-- One or two quotes that do not end a text of many lines, since the text goes on. -/
def innerQuotes (quote : Char) : Scan (List Char) := do
  let quotes ← takeSome (· = quote)
  if quotes.length < 3 then return quotes else fail

/-- The end of a text of many lines: three quotes, and before them up to two that belong to it. -/
def closingQuotes (quote : Char) : Scan (List Char) := do
  let quotes ← takeSome (· = quote)
  if 3 ≤ quotes.length && quotes.length ≤ 5 then return quotes.drop 3 else fail

/-- A text of many lines with the parts of one line. A line end at its front does not count. -/
def longText (quote : Char) (part : Scan (List Char)) : Scan String := do
  Scan.text (String.ofList [quote, quote, quote])
  let _ ← accept lineEnd
  let parts ← many (part <|> ((fun _ => ['\n']) <$> lineEnd) <|> innerQuotes quote)
  let last ← closingQuotes quote
  return String.ofList (parts.flatten ++ last)

/-- A text of many lines in double quotes, with escapes. -/
def longBasicText : Scan String :=
  longText '"' (plainRun <|> ((fun _ => []) <$> brokenLine) <|>
    (do let _ ← char '\\'; return [← escape]))

/-- A text of many lines in single quotes, without escapes. -/
def longLiteralText : Scan String := longText '\x27' (takeSome isLiteral)

/-! ## Keys -/

/-- Whether a key without quotes can have the character. -/
def isBareKey (c : Char) : Bool := c.isAlphanum || c = '_' || c = '-'

/-- One name of a dotted key, with the blanks around it. -/
def keyPart : Scan String := do
  blanks
  let part ← basicText <|> literalText <|> (String.ofList <$> takeSome isBareKey)
  blanks
  return part

/-- A dotted key, of no more names than tables may nest. -/
def key : Scan Key := do
  let parts ← sepBy keyPart (char '.')
  if parts.isEmpty || maxDepth < parts.length then fail else return parts

/-! ## Numbers -/

/-- Digits with single underscores between them, which are left out. -/
def digitGroups (isDigit : Char → Bool) : Scan (List Char) := do
  let first ← takeSome isDigit
  let others ← many (do let _ ← char '_'; takeSome isDigit)
  return first ++ others.flatten

/-- A sign that may be missing, with whether it is a minus. -/
def negativeSign : Scan Bool := do
  match ← peek with
  | some '-' => (fun _ => true) <$> char '-'
  | some '+' => (fun _ => false) <$> char '+'
  | _ => return false

/-- The digits of a decimal integer, without needless zeros. -/
def wholeDigits : Scan (List Char) := do
  let digits ← digitGroups Char.isDigit
  if digits.head? = some '0' && digits.length ≠ 1 then fail else return digits

/-- The exponent of a decimal. -/
def exponent : Scan Int := do
  let _ ← satisfy fun c => c = 'e' || c = 'E'
  let negative ← negativeSign
  let n := Text.natOfDigits (← digitGroups Char.isDigit)
  return if negative then -n else n

/-- A decimal with a fraction or an exponent. A positive one has to be finite. -/
def decimal : Scan Value := do
  let negative ← negativeSign
  let digits ← wholeDigits
  let fraction ← Scan.optional (do let _ ← char '.'; digitGroups Char.isDigit)
  let e ← Scan.optional exponent
  if fraction.isNone && e.isNone then fail
  let fraction := fraction.getD []
  let x := Binary64.ofDecimal negative (Text.natOfDigits (digits ++ fraction))
    (e.getD 0 - fraction.length)
  if x.isInfinite && !x.isNegative then fail else return .float x

/-- The floating-point values that have names. -/
def specialFloat : Scan Value := do
  let negative ← negativeSign
  (do Scan.text "inf"; return .float (.infinity negative))
    <|> (do Scan.text "nan"; return .float (if negative then Binary64.nan.neg else .nan))

/-- An integer, if it fits in 64 bits. -/
def intValue (i : Int) : Scan Value :=
  .int <$> ofOption (int64OfInt? i)

/-- An integer with the digits of another base after a mark. -/
def basedInt (mark : String) (base : Nat) : Scan Value := do
  Scan.text mark
  let value? (c : Char) := (Text.hexDigit? c).filter (· < base)
  let digits ← digitGroups fun c => (value? c).isSome
  intValue ((digits.filterMap value?).foldl (base * · + ·) 0 : Nat)

/-- A decimal integer. -/
def decimalInt : Scan Value := do
  let negative ← negativeSign
  let n := Text.natOfDigits (← wholeDigits)
  intValue (if negative then -n else n)

/-! ## Dates and times -/

/-- Exactly `n` digits. -/
def digits (n : Nat) : Scan (List Char) := fun s =>
  let ds := s.take n
  if ds.length = n ∧ ds.all Char.isDigit then some (ds, s.drop n) else none

/-- A number of two digits within bounds, as it stands. -/
def twoDigits (low high : Nat) : Scan (List Char) := do
  let ds ← digits 2
  let n := Text.natOfDigits ds
  if low ≤ n && n ≤ high then return ds else fail

/-- The days of a month. -/
def daysIn (year month : Nat) : Nat :=
  if month = 2 then if year % 4 = 0 && (year % 100 ≠ 0 || year % 400 = 0) then 29 else 28
  else if [4, 6, 9, 11].contains month then 30
  else 31

/-- A day of the calendar, with its year and month. -/
def date : Scan (List Char) := do
  let year ← digits 4
  let _ ← char '-'
  let month ← twoDigits 1 12
  let _ ← char '-'
  let day ← twoDigits 1 (daysIn (Text.natOfDigits year) (Text.natOfDigits month))
  return year ++ '-' :: month ++ '-' :: day

/-- A time of day. Of a fraction of a second nine digits count, and no zeros at its end. -/
def time : Scan (List Char) := do
  let hour ← twoDigits 0 23
  let _ ← char ':'
  let minute ← twoDigits 0 59
  let _ ← char ':'
  let second ← twoDigits 0 60
  let fraction ← Scan.optional (do let _ ← char '.'; takeSome Char.isDigit)
  let fraction := Text.dropEndWhile (· = '0') ((fraction.getD []).take 9)
  let fraction := if fraction.isEmpty then [] else '.' :: fraction
  return hour ++ ':' :: minute ++ ':' :: second ++ fraction

/-- An offset. That of nothing is written with a plus sign. -/
def offset : Scan (List Char) :=
  (do let _ ← satisfy fun c => c = 'Z' || c = 'z'; return ['Z'])
  <|> (do let sign ← satisfy fun c => c = '+' || c = '-'
          let hour ← twoDigits 0 23
          let _ ← char ':'
          let minute ← twoDigits 0 59
          let sign := if (hour ++ minute).all (· = '0') then '+' else sign
          return sign :: hour ++ ':' :: minute)

/-- A date, a time, or both with or without an offset; it counts as a text. -/
def dateTime : Scan Value := do
  let s ←
    (do let day ← date
        let rest ← Scan.optional (do
          let _ ← satisfy fun c => c = 'T' || c = 't' || c = ' '
          let clock ← time
          let zone ← Scan.optional offset
          return 'T' :: clock ++ zone.getD [])
        return day ++ rest.getD [])
    <|> time
  return .text (String.ofList s)

/-! ## Values and lines -/

/-- A value that is neither a list nor a table. -/
def scalar : Scan Value :=
  (.text <$> (longBasicText <|> basicText <|> longLiteralText <|> literalText))
  <|> (do Scan.text "true"; return .bool true)
  <|> (do Scan.text "false"; return .bool false)
  <|> dateTime <|> decimal <|> specialFloat
  <|> basedInt "0x" 16 <|> basedInt "0o" 8 <|> basedInt "0b" 2 <|> decimalInt

/-- A key and its value, where values are read by `inner`. -/
def entry (inner : Scan Value) : Scan (Key × Value) := do
  let k ← key
  let _ ← char '='
  blanks
  return (k, ← inner)

/-- Values between brackets. A comma may stand after the last. -/
def array (inner : Scan Value) : Scan (List Value) := do
  let _ ← char '['
  space
  let items ← many (do
    let v ← inner
    space
    let comma ← accept (char ',')
    space
    return (v, comma))
  let _ ← char ']'
  -- Only the last value may go without a comma.
  if items.dropLast.all (·.2) then return items.map (·.1) else fail

/-- Entries between braces, on one line. -/
def inlineEntries (inner : Scan Value) : Scan (List (Key × Value)) := do
  let _ ← char '\x7b'
  blanks
  let items ← sepBy (do let e ← entry inner; blanks; return e) (char ',')
  let _ ← char '\x7d'
  return items

/-- A value that nests to the given depth, with a rule for inline tables. -/
def value (tableOf : List (Key × Value) → Option Value) : Nat → Scan Value
  | 0 => scalar
  | depth + 1 =>
    scalar <|> (.list <$> array (value tableOf depth)) <|> (do
      ofOption (tableOf (← inlineEntries (value tableOf depth))))

/-- The header of a table, or of an element of a list of tables. -/
def header : Scan Line :=
  (do Scan.text "[["
      let k ← key
      Scan.text "]]"
      return .item k)
  <|> (do Scan.text "["
          let k ← key
          Scan.text "]"
          return .header k)

/-- One line, if it says something. -/
def line (tableOf : List (Key × Value) → Option Value) : Scan (Option Line) := do
  blanks
  (do let l ← header; lineRest; return some l)
    <|> (do let (k, v) ← entry (value tableOf maxDepth); lineRest; return some (.entry k v))
    <|> (do lineRest; return none)

/-- The lines of a text. -/
def lines? (tableOf : List (Key × Value) → Option Value) (s : List Char) : Option (List Line) :=
  (whole (many (line tableOf)) s).map fun ls => ls.filterMap id

end SourceSig.Settings.Toml
