import SourceSig.Settings.Yaml.Node
import SourceSig.Text.Scan

/-!
# YAML scalars

Blanks, comments and lines of a YAML text, and the scalars in it: plain ones, quoted ones, and
blocks of lines. Lines that go on with a scalar are folded: a line end is a blank, unless empty
lines follow, which are then the line ends that count. Line ends are line feeds here.
-/

namespace SourceSig.Settings.Yaml

open Scan

/-! ## Characters -/

/-- Whether a character is a blank inside a line. -/
def isWhite (c : Char) : Bool := c = ' ' || c = '\t'

/-- Characters that separate parts inside of brackets and braces. -/
def isFlowMark (c : Char) : Bool := [',', '[', ']', '\x7b', '\x7d'].contains c

/-- Characters that a plain scalar does not begin with. -/
def isIndicator (c : Char) : Bool :=
  isFlowMark c ||
    ['-', '?', ':', '#', '&', '*', '!', '|', '>', '\x27', '"', '%', '@', '\x60'].contains c

/-- Whether a blank, a line end or the end of the text comes next. -/
def isGap : Option Char → Bool
  | some c => isWhite c || c = '\n'
  | none => true

/-- Nothing, where a gap comes next. -/
def gapNext : Scan Unit := do
  if isGap (← peek) then return else fail

/-! ## Lines -/

/-- Whether a line begins with a mark between documents. -/
def atMarker (s : List Char) : Bool :=
  (s.take 3 = ['-', '-', '-'] || s.take 3 = ['.', '.', '.']) && isGap (s.drop 3).head?

/-- Nothing, where no mark between documents comes next. -/
def noMarker : Scan Unit := fun s => if atMarker s then none else some ((), s)

/-- The blanks inside a line. -/
def whites : Scan Unit := (fun _ => ()) <$> takeWhile isWhite

/-- A comment up to the end of its line. -/
def comment : Scan Unit := do
  let _ ← char '#'
  let _ ← takeWhile (· ≠ '\n')

/-- The end of a line or of the file. -/
def lineEnd : Scan Unit := (fun _ => ()) <$> char '\n' <|> atEnd

/-- The rest of a line after what counts on it; a comment needs a blank before it. -/
def lineRest : Scan Unit := do
  let blanks ← takeWhile isWhite
  if !blanks.isEmpty then let _ ← accept comment
  lineEnd

/-- A line without anything that counts. -/
def idleLine : Scan Unit := do
  whites
  let _ ← accept comment
  lineEnd

/-- The rest of a line, and the lines after it that do not count. -/
def newLine : Scan Unit := do
  lineRest
  let _ ← many idleLine

/-- The blanks that a line begins with, at least as many as are asked for. -/
def lineStart (indent : Nat) : Scan Unit := do
  let blanks ← takeWhile (· = ' ')
  if blanks.length < indent then fail
  if blanks.isEmpty then noMarker
  whites

/-- Exactly the given number of blanks at the start of a line. -/
def indentation (n : Nat) : Scan Unit := do
  if n = 0 then noMarker
  Scan.text (String.ofList (List.replicate n ' '))

/-- Where a scalar or another node stands. -/
structure Context where
  /-- How far a line that goes on with it has to be indented. -/
  indent : Nat
  /-- Whether it is inside of brackets or braces. -/
  inFlow : Bool
  /-- Whether it has to end on its line. -/
  oneLine : Bool

/-- What separates two parts of a node. -/
def Context.separate (c : Context) : Scan Unit :=
  if c.oneLine then (fun _ => ()) <$> takeSome isWhite
  else (do newLine; lineStart c.indent) <|> (fun _ => ()) <$> takeSome isWhite

/-- The end of a line inside of a scalar: a blank, or the empty lines after it. -/
def Context.fold (c : Context) : Scan (List Char) :=
  if c.oneLine then fail
  else do
    whites
    let _ ← char '\n'
    let empty ← many (do whites; char '\n')
    lineStart c.indent
    return if empty.isEmpty then [' '] else empty

/-! ## Plain scalars -/

/-- Whether a character can stand inside of a plain scalar after a colon. -/
def Context.isSafe (c : Context) : Option Char → Bool
  | some x => !isGap (some x) && !(c.inFlow && isFlowMark x)
  | none => false

/-- Whether a plain scalar ends before a character, with what comes after it. -/
def Context.endsPlain (c : Context) (x : Char) (next : Option Char) : Bool :=
  x = '\n' || x = ':' && !c.isSafe next || c.inFlow && isFlowMark x

/-- The part of a plain scalar on one line, and the text after it. Blanks count only between other
characters, and a comment begins after a blank. -/
def Context.plainRun (c : Context) (blanks : List Char) : List Char → List Char × List Char
  | [] => ([], blanks.reverse)
  | x :: rest =>
    if isWhite x then c.plainRun (x :: blanks) rest
    else if c.endsPlain x rest.head? || x = '#' && !blanks.isEmpty then
      ([], blanks.reverse ++ x :: rest)
    else
      let (run, rest) := c.plainRun [] rest
      (blanks.reverse ++ x :: run, rest)

/-- A line of a plain scalar that begins with a character that `p` accepts. -/
def Context.plainLine (c : Context) (p : Char → Option Char → Bool) : Scan (List Char)
  | [] => none
  | x :: rest =>
    if isWhite x || c.endsPlain x rest.head? || !p x rest.head? then none
    else
      let (run, rest) := c.plainRun [] rest
      some (x :: run, rest)

/-- A text without quotes, folded over its lines. -/
def Context.plain (c : Context) : Scan String := do
  let first ← c.plainLine fun x next =>
    !isIndicator x || ['-', '?', ':'].contains x && c.isSafe next
  let others ← many (do return (← c.fold) ++ (← c.plainLine fun x _ => x ≠ '#'))
  return String.ofList (first ++ others.flatten)

/-! ## Quoted scalars -/

/-- What an escape stands for, after its backslash. A line end that is escaped does not count, nor
do the blanks after it. -/
def Context.escape (c : Context) : Scan (List Char) := do
  match ← satisfy fun _ => true with
  | '0' => return ['\x00']
  | 'a' => return ['\x07']
  | 'b' => return ['\x08']
  | 't' | '\t' => return ['\t']
  | 'n' => return ['\n']
  | 'v' => return ['\x0b']
  | 'f' => return ['\x0c']
  | 'r' => return ['\r']
  | 'e' => return ['\x1b']
  | ' ' => return [' ']
  | '"' => return ['"']
  | '/' => return ['/']
  | '\\' => return ['\\']
  | 'N' => return ['\u0085']
  | '_' => return ['\u00A0']
  | 'L' => return ['\u2028']
  | 'P' => return ['\u2029']
  | 'x' => return [← codePoint 2]
  | 'u' => return [← codePoint 4]
  | 'U' => return [← codePoint 8]
  | '\n' =>
    if c.oneLine then fail
    let empty ← many (do whites; char '\n')
    lineStart c.indent
    return empty
  | _ => fail

/-- A scalar between quotes, where `special` is read before other characters. -/
def Context.quoted (c : Context) (quote : Char) (special : Scan (List Char)) : Scan String := do
  let _ ← char quote
  let parts ← many (c.fold <|> special <|> takeSome isWhite <|>
    takeSome fun x => !isWhite x && x ≠ '\n' && x ≠ quote && x ≠ '\\')
  let _ ← char quote
  return String.ofList parts.flatten

/-- A text in double quotes, with escapes. -/
def Context.doubleQuoted (c : Context) : Scan String :=
  c.quoted '"' (do let _ ← char '\\'; c.escape)

/-- A text in single quotes, where two of them stand for one. -/
def Context.singleQuoted (c : Context) : Scan String :=
  c.quoted '\x27' ((do Scan.text "\x27\x27"; return ['\x27']) <|> (do return [← char '\\']))

/-! ## Blocks of lines -/

/-- What is kept of the line ends at the end of a block. -/
inductive Chomping where
  | strip
  | clip
  | keep
deriving DecidableEq

/-- The first line of a block: whether its lines are folded, how far they are indented, if that is
said, and what is kept of its end. -/
structure BlockHeader where
  folded : Bool
  indent : Option Nat
  chomping : Chomping

/-- The mark that says which line ends at the end of a block count. -/
def chompingMark : Scan Chomping :=
  (fun _ => .strip) <$> char '-' <|> (fun _ => .keep) <$> char '+'

/-- The digit that says how far a block is indented. -/
def indentMark : Scan Nat := do
  let d ← satisfy fun x => '1' ≤ x && x ≤ '9'
  return Text.natOfDigits [d]

/-- The first line of a block: its mark, and its two options in either order. -/
def blockHeader : Scan BlockHeader := do
  let mark ← satisfy fun x => x = '|' || x = '>'
  let (indent, chomping) ←
    (do return (some (← indentMark), ← Scan.optional chompingMark))
    <|> (do let chomping ← chompingMark; return (← Scan.optional indentMark, some chomping))
    <|> pure (none, none)
  lineRest
  return ⟨mark = '>', indent, chomping.getD .clip⟩

/-- A line of a block without its indentation. A line of blanks may be shorter than that. -/
def blockLine (indent : Nat) : Scan (List Char) := fun s =>
  let line := s.takeWhile (· ≠ '\n')
  let rest := (s.dropWhile (· ≠ '\n')).drop 1
  let blanks := (line.takeWhile (· = ' ')).length
  if s.isEmpty || indent = 0 && atMarker s then none
  else if indent ≤ blanks then some (line.drop indent, rest)
  else if blanks = line.length then some ([], rest)
  else none

/-- How far the first line that is not blank is indented. -/
def firstIndent (s : List Char) : Nat :=
  match repeated (do let blanks ← takeWhile (· = ' '); let _ ← char '\n'; return blanks) s with
  | (_, rest) => (rest.takeWhile (· = ' ')).length

/-- Lines folded into one text, after a line that was read before and a number of empty lines. Lines
that begin with a blank are not folded. -/
def foldLines : Option (List Char) → Nat → List (List Char) → List Char
  | _, _, [] => []
  | before, empty, [] :: rest => foldLines before (empty + 1) rest
  | before, empty, (x :: line) :: rest =>
    let isSpaced (l : List Char) : Bool := (l.head?.map isWhite).getD false
    let breaks := match before with
      | none => List.replicate empty '\n'
      | some l =>
        if isSpaced l || isWhite x then List.replicate (empty + 1) '\n'
        else if empty = 0 then [' ']
        else List.replicate empty '\n'
    breaks ++ (x :: line) ++ foldLines (some (x :: line)) 0 rest

/-- The text of a block. The last line may go without a line end. -/
def blockText (header : BlockHeader) (lines : List (List Char)) (ended : Bool) : List Char :=
  let body := Text.dropEndWhile (·.isEmpty) lines
  let trailing := lines.length - body.length
  let text := if header.folded then foldLines none 0 body else List.intercalate ['\n'] body
  let ends := if body.isEmpty then trailing
    else if trailing = 0 && !ended then 0
    else trailing + 1
  text ++ List.replicate (match header.chomping with
    | .strip => 0
    | .clip => if body.isEmpty then 0 else min ends 1
    | .keep => ends) '\n'

/-- A scalar of lines that are indented at least as far as is asked for. -/
def blockScalar (indent : Nat) : Scan String := do
  let header ← blockHeader
  let lines ← fun s =>
    let width := match header.indent with
      | some n => indent - 1 + n
      | none => max indent (firstIndent s)
    let (lines, rest) := repeated (blockLine width) s
    let ended := (s.take (s.length - rest.length)).getLast? = some '\n'
    some (blockText header lines ended, rest)
  let _ ← many idleLine
  return String.ofList lines

end SourceSig.Settings.Yaml
