import SourceSig.Text.Digit

/-!
# Scanning

A scanner takes a value off the front of a text or refuses it, and a refused choice is undone.
`many` ends because it goes on only where text was read; what is nested is scanned to a given depth,
for which the length of the text is enough.
-/

namespace SourceSig

/-- A reader of a part of a text: what was read and what is left, or nothing if it does not fit. -/
def Scan (α : Type) : Type := List Char → Option (α × List Char)

namespace Scan

variable {α β : Type}

instance : Monad Scan where
  pure a := fun s => some (a, s)
  bind p f := fun s => (p s).bind fun (a, rest) => f a rest

/-- The first scanner or, where it refuses, the second. -/
instance : OrElse (Scan α) where
  orElse p q := fun s =>
    match p s with
    | some r => some r
    | none => q () s

/-- The reader that fits nowhere. -/
def fail : Scan α := fun _ => none

/-- A value that may be missing, in which case the text is refused. -/
def ofOption : Option α → Scan α
  | some a => pure a
  | none => fail

/-- The first character, if it satisfies `p`. -/
def satisfy (p : Char → Bool) : Scan Char
  | [] => none
  | c :: rest => if p c then some (c, rest) else none

/-- The given character. -/
def char (c : Char) : Scan Char := satisfy (· = c)

/-- The given text. -/
def text (t : String) : Scan Unit := fun s =>
  if t.toList.isPrefixOf s then some ((), s.drop t.length) else none

/-- The characters at the front that satisfy `p`, possibly none. -/
def takeWhile (p : Char → Bool) : Scan (List Char) := fun s =>
  some (s.takeWhile p, s.dropWhile p)

/-- A run of at least one character. -/
def takeSome (p : Char → Bool) : Scan (List Char) := do
  let c ← satisfy p
  return c :: (← takeWhile p)

/-- What `p` reads, or nothing where it does not fit. -/
def optional (p : Scan α) : Scan (Option α) :=
  (some <$> p) <|> pure none

/-- Whether the scanner takes something off the front. -/
def accept (p : Scan α) : Scan Bool :=
  ((fun _ => true) <$> p) <|> pure false

/-- The character at the front, which is left there. -/
def peek : Scan (Option Char) := fun s => some (s.head?, s)

/-- The end of the text. -/
def atEnd : Scan Unit := fun s => if s.isEmpty then some ((), s) else none

/-- The values of a scanner, and the text after the last of them. -/
def repeated (p : Scan α) (s : List Char) : List α × List Char :=
  match p s with
  | none => ([], s)
  | some (a, rest) =>
    if rest.length < s.length then
      let (as, rest) := repeated p rest
      (a :: as, rest)
    else ([], s)
termination_by s.length

/-- What `p` reads as often as it fits. -/
def many (p : Scan α) : Scan (List α) := fun s => some (repeated p s)

/-- At least one value. -/
def atLeastOne (p : Scan α) : Scan (List α) := do
  return (← p) :: (← many p)

/-- Values with a separator between each two. -/
def sepBy (p : Scan α) (sep : Scan β) : Scan (List α) :=
  (do return (← p) :: (← many (do let _ ← sep; p))) <|> pure []

/-- A number with the given count of hexadecimal digits. -/
def hexNumber (count : Nat) : Scan Nat := fun s =>
  match (s.take count).mapM Text.hexDigit? with
  | some ds => if ds.length = count then some (ds.foldl (16 * · + ·) 0, s.drop count) else none
  | none => none

/-- The character with a number. -/
def charOfNat? (n : Nat) : Option Char :=
  if n.isValidChar then some (Char.ofNat n) else none

/-- The character with the given count of hexadecimal digits. -/
def codePoint (count : Nat) : Scan Char := do
  ofOption (charOfNat? (← hexNumber count))

/-- The value of a whole text. -/
def whole (p : Scan α) (s : List Char) : Option α :=
  match p s with
  | some (a, []) => some a
  | _ => none

end Scan

end SourceSig
