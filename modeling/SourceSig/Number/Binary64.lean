/-!
# Binary64 numbers

Double-precision numbers as 64-bit words, with the operations that reading a number needs, each
computed in exact natural-number arithmetic and rounded once. `ofRatio` is the one rounding rule:
to the nearest representable number, and to the even one of two equally near.
-/

namespace SourceSig

/-- A double-precision floating-point number, as its word in the interchange format. -/
structure Binary64 where
  bits : UInt64
deriving DecidableEq, Repr, Inhabited

namespace Binary64

/-- The bit of the sign. -/
def signBit : Nat := 1 <<< 63

/-- The bit above the fraction, which the significand has and the word has not. -/
def hiddenBit : Nat := 1 <<< 52

/-- The word of positive infinity. -/
def infinityWord : Nat := 2047 <<< 52

/-- The number with the given sign and the given word below the sign bit. -/
def ofMagnitude (negative : Bool) (word : Nat) : Binary64 :=
  ⟨UInt64.ofNat (if negative then signBit + word else word)⟩

/-- The zero of the given sign. -/
def zero (negative : Bool) : Binary64 :=
  ofMagnitude negative 0

/-- The infinity of the given sign. -/
def infinity (negative : Bool) : Binary64 :=
  ofMagnitude negative infinityWord

/-- The quiet value that is no number. -/
def nan : Binary64 :=
  ofMagnitude false (infinityWord + 1 <<< 51)

/-- The word without its sign bit. -/
def magnitude (x : Binary64) : Nat :=
  x.bits.toNat % signBit

/-- Whether the sign bit is set. -/
def isNegative (x : Binary64) : Bool :=
  signBit ≤ x.bits.toNat

/-- Whether it is no number. -/
def isNaN (x : Binary64) : Bool :=
  infinityWord < x.magnitude

/-- Whether it is an infinity of either sign. -/
def isInfinite (x : Binary64) : Bool :=
  x.magnitude == infinityWord

/-- Whether it is a number, neither an infinity nor no number at all. -/
def isFinite (x : Binary64) : Bool :=
  x.magnitude < infinityWord

/-- Whether it is a zero of either sign. -/
def isZero (x : Binary64) : Bool :=
  x.magnitude == 0

/-- The number with the other sign. -/
def neg (x : Binary64) : Binary64 :=
  ofMagnitude (!x.isNegative) x.magnitude

/-- The number, negated or not. -/
def withSign (x : Binary64) (negative : Bool) : Binary64 :=
  if negative then x.neg else x

/-- The integer `m` with `|x| = m · 2 ^ exponent x`, for a finite `x`. -/
def significand (x : Binary64) : Nat :=
  if x.magnitude < hiddenBit then x.magnitude else hiddenBit + x.magnitude % hiddenBit

/-- The power of two that the significand is a multiple of, at least `2 ^ (-1074)`. -/
def exponent (x : Binary64) : Int :=
  if x.magnitude < hiddenBit then -1074 else (x.magnitude / hiddenBit : Nat) - 1075

/-- The quotient of two numbers as an integer: the nearest one, and the even one of two. -/
def roundEven (num den : Nat) : Nat :=
  let q := num / den
  let r := num % den
  if 2 * r < den then q else if den < 2 * r then q + 1 else q + q % 2

/-- The power of two whose multiples a quotient is rounded to: 53 significant bits, as far down as
`2 ^ (-1074)`. -/
def gridExponent (num den : Nat) : Int :=
  let guess : Int := (num.log2 : Int) - (den.log2 : Int) - 53
  -- The quotient lies below `2 ^ (guess + 54)`, and may need one bit less.
  let fits (e : Int) : Bool := num <<< (-e).toNat < den <<< (e.toNat + 53)
  max (-1074) (if fits guess then guess else if fits (guess + 1) then guess + 1 else guess + 2)

/-- The nearest number to `num / den`, and the even one of two; infinity beyond the greatest. -/
def ofRatio (negative : Bool) (num den : Nat) : Binary64 :=
  if num = 0 then zero negative
  else
    let e := gridExponent num den
    let m := roundEven (num <<< (-e).toNat) (den <<< e.toNat)
    -- A significand of `2 ^ 53` carries into the exponent field by this sum.
    ofMagnitude negative (min infinityWord ((e + 1074).toNat * hiddenBit + m))

/-- The number nearest to a natural number. -/
def ofNat (n : Nat) : Binary64 :=
  ofRatio false n 1

/-- The product of two finite numbers. -/
def mul (x y : Binary64) : Binary64 :=
  let e := x.exponent + y.exponent
  ofRatio (x.isNegative != y.isNegative) ((x.significand * y.significand) <<< e.toNat)
    (1 <<< (-e).toNat)

/-- The quotient of a finite number by a finite number other than zero. -/
def div (x y : Binary64) : Binary64 :=
  let e := x.exponent - y.exponent
  ofRatio (x.isNegative != y.isNegative) (x.significand <<< e.toNat)
    (y.significand <<< (-e).toNat)

/-- The nearest number to `digits · 10 ^ e`. Decimal exponents far outside the range of the format
are settled without computing the power. -/
def ofDecimal (negative : Bool) (digits : Nat) (e : Int) : Binary64 :=
  let size : Int := (Nat.toDigits 10 digits).length
  if digits = 0 then zero negative
  else if e + size > 400 then infinity negative
  else if e + size < -400 then zero negative
  else ofRatio negative (digits * Nat.pow 10 e.toNat) (Nat.pow 10 (-e).toNat)

/-- The integer nearest to a number, halves away from zero, kept within `0` and `limit`. -/
def toNatClamped (x : Binary64) (limit : Nat) : Nat :=
  if x.isNaN || x.isNegative then 0
  else if x.isInfinite then limit
  else
    let num := x.significand <<< x.exponent.toNat
    let den := 1 <<< (-x.exponent).toNat
    min limit ((2 * num + den) / (2 * den))

end Binary64

end SourceSig
