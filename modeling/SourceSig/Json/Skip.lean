import SourceSig.Json.Reader

/-!
# Skipping JSON

`skipValue` passes over a value nobody asked for. It checks less than reading does: numbers may be
of any size, and strings may hold any bytes and any escapes. It also has fewer words for a fault at
a comma: what follows one is read as an element or a key, whatever it is.
-/

namespace SourceSig.Json

open Text (Bytes)

/-- The input after a string whose opening quote was read. Escapes are checked one by one, and no
surrogate needs its partner. -/
def skipString (s : Bytes) : Except ReadError (Rest s) :=
  match s with
  | [] => .error .endInString
  | b :: rest =>
    if b = 0x22 then .ok (.tail b rest)
    else if b = 0x5C then
      match rest with
      | [] => .error .endInString
      | c :: rest' =>
        if c = 0x75 then do
          let (_, after) ← readHex rest'
          let last ← skipString after.1
          return (Rest.tail b _).then ((Rest.tail c rest').then (after.then last))
        else if (shortEscape c).isSome then do
          let last ← skipString rest'
          return (Rest.tail b _).then ((Rest.tail c rest').then last)
        else .error .badEscape
    else if b < 0x20 then .error .controlCharacter
    else do
      let last ← skipString rest
      return (Rest.tail b rest).then last
termination_by s.length
decreasing_by
  · exact ((Rest.tail b _).then ((Rest.tail c rest').then after)).2
  · exact ((Rest.tail b _).then (Rest.tail c rest')).2
  · exact (Rest.tail b rest).2

/-- The input after digits that cannot be missing. -/
def skipDigits (s : Bytes) : Except ReadError (Rest s) :=
  match s with
  | b :: rest =>
    if isDigit b then .ok ((Rest.tail b rest).thenPart (dropRun isDigit rest))
    else .error .badNumber
  | [] => .error .badNumber

/-- The input after an exponent, if one stands at the front. -/
def skipExponent (s : Bytes) : Except ReadError (Part s) :=
  match s with
  | b :: rest =>
    if isExponentMark b then do
      let (_, unsigned) := takeSign rest
      let after ← skipDigits unsigned.1
      return ((Rest.tail b rest).then (unsigned.then after)).toPart
    else .ok (.all _)
  | [] => .ok (.all _)

/-- The input after a fraction and an exponent, if they stand at the front. -/
def skipFraction (s : Bytes) : Except ReadError (Part s) :=
  match s with
  | b :: rest =>
    if b = 0x2E then do
      let after ← skipDigits rest
      let last ← skipExponent after.1
      return ((Rest.tail b rest).then (after.thenPart last)).toPart
    else skipExponent (b :: rest)
  | [] => .ok (.all _)

/-- The input after a number whose sign, if any, was passed. -/
def skipUnsigned (s : Bytes) : Except ReadError (Rest s) := do
  let whole ← skipDigits s
  -- A leading zero is a number of its own.
  if s.head? = some 0x30 ∧ (s.drop 1).head?.any isDigit then throw .badNumber
  return whole.thenPart (← skipFraction whole.1)

/-- The input after a number that is not kept. -/
def skipNumber (s : Bytes) : Except ReadError (Rest s) :=
  match s with
  | b :: rest =>
    if b = 0x2D then do return (Rest.tail b rest).then (← skipUnsigned rest)
    else skipUnsigned (b :: rest)
  | [] => .error .badNumber

/-- The input after the opening quote of a key. -/
def expectKey (s : Bytes) : Except ReadError (Rest s) :=
  match peek s with
  | none => .error .endInObject
  | some (b, rest) => if b = 0x22 then .ok rest else .error .keyNotString

/-- What comes next in an object that is skipped. The opening quote of a key is read. -/
def nextSkippedKey (first : Bool) (s : Bytes) : Except ReadError (Upcoming s) :=
  match peek s with
  | none => .error .endInObject
  | some (b, rest) =>
    if b = 0x7D then .ok (.done rest)
    else if first then (expectKey s).map fun key => .more key.toPart
    else if b = 0x2C then
      (expectKey rest.1).map fun key => .more (rest.then key).toPart
    else .error .noObjectEnd

mutual

/-- The input after one value, after any blanks. -/
def skipValue (s : Bytes) : Except ReadError (Rest s) :=
  match peek s with
  | none => .error .endInValue
  | some (b, rest) =>
    match readLiteral b rest.1 with
    | some read => do
      let (_, after) ← read
      return rest.thenPart after
    | none =>
      if startsNumber b then do
        let after ← skipNumber (skipSpace s).1
        return (skipSpace s).then after
      else if b = 0x22 then do
        let after ← skipString rest.1
        return rest.then after
      else if b = 0x5B then do
        let after ← skipItems true rest.1
        return rest.then after
      else if b = 0x7B then do
        let after ← skipEntries true rest.1
        return rest.then after
      else .error .noValue
termination_by (s.length, 0)
decreasing_by all_goals exact Prod.Lex.left _ _ rest.2

/-- The input after the elements of a list and its end. -/
def skipItems (first : Bool) (s : Bytes) : Except ReadError (Rest s) :=
  match peek s with
  | none => .error .endInList
  | some (b, rest) =>
    if b = 0x5D then .ok rest
    else if first then do
      let after ← skipValue s
      let last ← skipItems false after.1
      return after.then last
    else if b = 0x2C then do
      let after ← skipValue rest.1
      let last ← skipItems false after.1
      return rest.then (after.then last)
    else .error .noListEnd
termination_by (s.length, 1)
decreasing_by
  · exact Prod.Lex.right _ (by decide)
  · exact Prod.Lex.left _ _ after.2
  · exact Prod.Lex.left _ _ rest.2
  · exact Prod.Lex.left _ _ (rest.then after).2

/-- The input after the entries of an object and its end. -/
def skipEntries (first : Bool) (s : Bytes) : Except ReadError (Rest s) := do
  match ← nextSkippedKey first s with
  | .done rest => return rest
  | .more key =>
    let rest1 ← skipString key.1
    let rest2 ← readColon rest1.1
    let rest3 ← skipValue rest2.1
    let last ← skipEntries false rest3.1
    return key.then (rest1.then (rest2.then (rest3.then last)))
termination_by (s.length, 1)
decreasing_by
  · exact Prod.Lex.left _ _ (key.then (rest1.then rest2)).2
  · exact Prod.Lex.left _ _ (key.then (rest1.then (rest2.then rest3))).2

end

end SourceSig.Json
