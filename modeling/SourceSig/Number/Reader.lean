import SourceSig.Number.Binary64
import SourceSig.Number.Int64
import SourceSig.Text.Digit

/-!
# Reading numbers

Numbers in plain text: integers with an optional sign, and decimals with an optional fraction and
exponent. The whole text has to be the number.
-/

namespace SourceSig

/-- The digits at the front of a text, and the text after them. -/
def splitDigits (s : List Char) : List Char × List Char :=
  (s.takeWhile Char.isDigit, s.dropWhile Char.isDigit)

/-- A sign, if one stands at the front, and the text after it. -/
def splitSign : List Char → Bool × List Char
  | '-' :: rest => (true, rest)
  | '+' :: rest => (false, rest)
  | s => (false, s)

/-- A number without sign. -/
def natOfText? (s : List Char) : Option Nat :=
  if s.isEmpty || !s.all Char.isDigit then none else some (Text.natOfDigits s)

/-- An integer of 64 bits, with or without sign. -/
def int64OfText? (s : String) : Option Int64 := do
  let (negative, digits) := splitSign s.toList
  let n ← natOfText? digits
  let i : Int := if negative then -n else n
  int64OfInt? i

/-- A natural number below `limit`, with or without a plus sign. -/
def boundedOfText? (limit : Nat) (s : String) : Option Nat := do
  let digits := match s.toList with
    | '+' :: rest => rest
    | cs => cs
  let n ← natOfText? digits
  if n < limit then some n else none

namespace Binary64

/-- The exponent at the front of a text, which has to be all of it; none is zero. -/
def exponentOfText? : List Char → Option Int
  | [] => some 0
  | c :: rest =>
    if c = 'e' ∨ c = 'E' then do
      let (negative, digits) := splitSign rest
      let n ← natOfText? digits
      some (if negative then -n else n)
    else none

/-- A decimal without sign. There has to be a digit before or after the point. -/
def decimalOfText? (negative : Bool) (s : List Char) : Option Binary64 := do
  let (whole, rest) := splitDigits s
  let (fraction, rest) := match rest with
    | '.' :: rest => splitDigits rest
    | _ => ([], rest)
  let e ← exponentOfText? rest
  if whole.isEmpty && fraction.isEmpty then none
  else some (ofDecimal negative (Text.natOfDigits (whole ++ fraction)) (e - fraction.length))

/-- A decimal, an infinity or a number that is none, in any case of letters. -/
def ofText? (s : String) : Option Binary64 :=
  let (negative, rest) := splitSign s.toList
  match String.ofList (rest.map Char.toLower) with
  | "inf" | "infinity" => some (infinity negative)
  | "nan" => some (if negative then nan.neg else nan)
  | _ => decimalOfText? negative rest

end Binary64

end SourceSig
