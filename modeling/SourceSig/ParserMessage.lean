import SourceSig.Text.Digit

/-!
# Parser messages

Parsers say where a fault is in words: `… on line 14`. The first mention of a line counts. The
number goes on for as long as there are decimal digits of any script, but only ASCII digits make a
line number.
-/

namespace SourceSig

/-- What stands in front of a line number. -/
def lineMark : List Char := "on line ".toList

/-- The digits of the first mention of a line. -/
def mentionedLine? : List Char → Option (List Char)
  | [] => none
  | c :: cs =>
    let digits := ((c :: cs).drop lineMark.length).takeWhile Text.isDecimalDigit
    if lineMark.isPrefixOf (c :: cs) && !digits.isEmpty then some digits else mentionedLine? cs

/-- The number of ASCII digits, if it fits in 32 bits. -/
def lineNumber? (digits : List Char) : Option UInt32 :=
  if digits.all Char.isDigit ∧ Text.natOfDigits digits < UInt32.size then
    some (UInt32.ofNat (Text.natOfDigits digits))
  else none

/-- The line that a parser message points at. -/
def lineOfMessage (message : String) : Option UInt32 :=
  (mentionedLine? message.toList).bind lineNumber?

end SourceSig
