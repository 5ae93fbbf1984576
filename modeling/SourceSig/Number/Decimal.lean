import SourceSig.Number.Binary64

/-!
# Shortest decimals

The decimal digits that a number is written with: the fewest that are read back as the same
number, and among those the nearest to it. `Binary64.shortest` chooses the digits; a `Layout` says
how a format writes them, so two formats of one program differ in a record.
-/

namespace SourceSig

/-- The decimal `digits · 10 ^ exponent`. -/
structure Decimal where
  digits : Nat
  exponent : Int
deriving DecidableEq, Repr

/-- Which of two equally near decimals is taken. -/
inductive Tie where
  | up
  | even
deriving DecidableEq, Repr

namespace Binary64

/-- A positive finite number and the interval of reals that are read as it, over one denominator:
the number is `value / den`, and the interval runs from `low / den` to `high / den`. -/
structure Span where
  low : Nat
  value : Nat
  high : Nat
  den : Nat
  closed : Bool

/-- The reals that are read as `x`: up to half way to its neighbours, the half way points included
exactly when the significand is even. Below a power of two the neighbour is half as far. -/
def span (x : Binary64) : Span :=
  let m := x.significand
  let nearBelow : Bool := m == hiddenBit && x.exponent > -1074
  { low := (4 * m - (if nearBelow then 1 else 2)) <<< x.exponent.toNat
    value := (4 * m) <<< x.exponent.toNat
    high := (4 * m + 2) <<< x.exponent.toNat
    den := 4 <<< (-x.exponent).toNat
    closed := m % 2 == 0 }

/-- Whether the decimal `n · 10 ^ e` is read as the number. -/
def Span.holds (s : Span) (n : Nat) (e : Int) : Bool :=
  let p := n * Nat.pow 10 e.toNat * s.den
  let scale := Nat.pow 10 (-e).toNat
  if s.closed then s.low * scale ≤ p && p ≤ s.high * scale
  else s.low * scale < p && p < s.high * scale

/-- The nearest decimal with exponent `e` that is read as the number, if there is one. Only the two
decimals around the number have to be tried. -/
def Span.onGrid (s : Span) (tie : Tie) (e : Int) : Option Nat :=
  let num := s.value * Nat.pow 10 (-e).toNat
  let den := s.den * Nat.pow 10 e.toNat
  let below := num / den
  let twice := 2 * (num % den)
  match s.holds below e, s.holds (below + 1) e with
  | true, true =>
    if twice < den then some below
    else if den < twice then some (below + 1)
    else
      match tie with
      | .up => some (below + 1)
      | .even => some (below + below % 2)
  | true, false => some below
  | false, true => some (below + 1)
  | false, false => none

/-- The decimal on the coarsest of the grids `e`, `e - 1`, …, `e - n` that has one. -/
def Span.search (s : Span) (tie : Tie) : Nat → Int → Decimal
  | 0, e => ⟨(s.onGrid tie e).getD 0, e⟩
  | n + 1, e =>
    match s.onGrid tie e with
    | some d => if d = 0 then s.search tie n (e - 1) else ⟨d, e⟩
    | none => s.search tie n (e - 1)

/-- The decimal without trailing zeros in its digits. -/
def trimZeros : Nat → Decimal → Decimal
  | 0, d => d
  | n + 1, d =>
    if d.digits % 10 = 0 ∧ d.digits ≠ 0 then trimZeros n ⟨d.digits / 10, d.exponent + 1⟩ else d

/-- The shortest decimal that is read back as `|x|`, for a finite `x`. -/
def shortest (tie : Tie) (x : Binary64) : Decimal :=
  if x.isZero then ⟨0, 0⟩
  else
    let s := x.span
    -- One more than the number of digits before the point, so that the first grid is too coarse.
    let top : Int := (Nat.toDigits 10 (s.value / s.den)).length
    let first : Int :=
      if s.value < s.den then 1 - ((Nat.toDigits 10 (s.den / s.value)).length : Int) else top
    trimZeros 400 (s.search tie 40 (first + 1))

end Binary64

/-- How a format writes the digits of a decimal. -/
structure Layout where
  /-- Decimals whose leading digit stands for `10 ^ k` with `k` in this range have no exponent. -/
  positionalFrom : Int
  positionalBelow : Int
  /-- Whether a decimal without fraction is written with `.0`. -/
  keepsPoint : Bool
  /-- What stands between the exponent mark and an exponent that is not negative. -/
  plus : String
  /-- Which of two equally near shortest decimals is written. -/
  tie : Tie

namespace Layout

/-- A run of `n` zeros. -/
def zeros (n : Nat) : String :=
  String.ofList (List.replicate n '0')

/-- The digits with a point after the first `n` of them. -/
def withPoint (digits : String) (n : Nat) : String :=
  String.ofList (digits.toList.take n) ++ "." ++ String.ofList (digits.toList.drop n)

/-- A decimal without sign in the layout. -/
def write (l : Layout) (d : Decimal) : String :=
  let digits := toString d.digits
  let leading : Int := d.exponent + digits.length - 1
  if d.digits = 0 then if l.keepsPoint then "0.0" else "0"
  else if leading < l.positionalFrom || l.positionalBelow ≤ leading then
    let mantissa := if digits.length = 1 then digits else withPoint digits 1
    mantissa ++ "e" ++ (if 0 ≤ leading then l.plus else "") ++ toString leading
  else if 0 ≤ d.exponent then
    digits ++ zeros d.exponent.toNat ++ (if l.keepsPoint then ".0" else "")
  else if 0 ≤ leading then withPoint digits (leading + 1).toNat
  else "0." ++ zeros (-leading - 1).toNat ++ digits

/-- A finite number in the layout. -/
def writeFinite (l : Layout) (x : Binary64) : String :=
  (if x.isNegative then "-" else "") ++ l.write (x.shortest l.tie)

/-- A number in the layout; what is not finite is written by name. -/
def writeNumber (l : Layout) (x : Binary64) : String :=
  if x.isNaN then "NaN"
  else if x.isInfinite then if x.isNegative then "-inf" else "inf"
  else l.writeFinite x

end Layout

end SourceSig
