import SourceSig.Shell.Word
import SourceSig.Text.Lines
import SourceSig.Text.Scan

/-!
# Scripts

The commands of a shell and how their text is read: calls of programs with redirections, pipelines,
lists, groups, `if`, `case` and `for`. A `case` is a chain of choices, so that running a script is
recursion on it.
-/

namespace SourceSig.Shell

/-- Where a stream of a command goes to or comes from. -/
inductive Redirect where
  /-- One stream goes where another goes. -/
  | follow (stream target : Nat)
  | write (stream : Nat) (target : Word)
  | read (source : Word)
  /-- The input is the lines that follow. -/
  | here (content : Word)
deriving DecidableEq, Repr

/-- A command of the shell. -/
inductive Script where
  | nothing
  | call (words : List Word)
  | assign (name : String) (value : Word)
  | redirect (r : Redirect) (body : Script)
  | isolate (body : Script)
  | negate (body : Script)
  | pipe (first second : Script)
  | seq (first second : Script)
  | both (first second : Script)
  | either (first second : Script)
  | branch (condition yes no : Script)
  | choose (subject : Word) (patterns : List Word) (body others : Script)
  | each (name : String) (words : List Word) (body : Script)
deriving DecidableEq, Repr

namespace Script

open Scan

/-! ## Words -/

/-- Whether a character is a blank inside a line. -/
def isBlank (c : Char) : Bool := c = ' ' || c = '\t'

/-- Whether a character ends a word outside of quotes. -/
def isMeta (c : Char) : Bool :=
  isBlank c || [';', '&', '|', '<', '>', '(', ')', '\n'].contains c

/-- Whether the name of a variable can begin with the character. -/
def isNameStart (c : Char) : Bool := c.isAlpha || c = '_'

/-- Whether the name of a variable can go on with the character. -/
def isNamePart (c : Char) : Bool := isNameStart c || c.isDigit

/-- Blanks, broken lines and a comment. -/
def blanks : Scan Unit := do
  let _ ← many ((fun _ => ()) <$> takeSome isBlank <|> Scan.text "\\\n")
  let _ ← Scan.optional (do let _ ← char '#'; takeWhile (· ≠ '\n'))

/-- A name, or a number or sign of a parameter. -/
def parameterOfName (name : List Char) : Option Parameter :=
  match name with
  | ['@'] => some .arguments
  | ['*'] => some .joined
  | ['#'] => some .count
  | ['?'] => some .status
  | ['$'] => some .process
  | _ =>
    if name.all Char.isDigit then some (.position (Text.natOfDigits name))
    else if name.all isNamePart then some (.named (String.ofList name))
    else none

/-- The name of a parameter: a variable, a place among the arguments or a special one. -/
def parameterName : Scan (List Char) :=
  (do let c ← satisfy isNameStart
      return c :: (← takeWhile isNamePart))
  <|> takeSome Char.isDigit
  <|> ((fun c => [c]) <$> satisfy fun c => "@*#?$".toList.contains c)

/-- The text up to the character that closes it, with what is opened and closed inside of it. Quotes
and backslashes hide characters. -/
def balanced (opens closes : Char) (quote : Option Char) (n : Nat) :
    List Char → Option (List Char × List Char)
  | [] => none
  | '\\' :: d :: rest =>
    (balanced opens closes quote n rest).map fun (s, rest) => ('\\' :: d :: s, rest)
  | c :: rest =>
    if quote.isNone && c = closes && n = 0 then some ([], rest)
    else
      let (quote, n) := match quote with
        | some q => (if c = q then none else quote, n)
        | none =>
          if c = '"' || c = '\x27' then (some c, n)
          else (none, if c = closes then n - 1 else if c = opens then n + 1 else n)
      (balanced opens closes quote n rest).map fun (s, rest) => (c :: s, rest)

/-- What is made of a parameter, up to the end of a text. -/
def useOfText? : List Char → Option Use
  | [] => some .value
  | ':' :: '-' :: w => some (.orElse true w)
  | '-' :: w => some (.orElse false w)
  | ':' :: '=' :: w => some (.orAssign true w)
  | '=' :: w => some (.orAssign false w)
  | ':' :: '+' :: w => some (.instead true w)
  | '+' :: w => some (.instead false w)
  | '#' :: '#' :: p => some (.cutFront true p)
  | '#' :: p => some (.cutFront false p)
  | '%' :: '%' :: p => some (.cutBack true p)
  | '%' :: p => some (.cutBack false p)
  | _ => none

/-- A parameter between braces. -/
def bracedParameter (s : List Char) : Option (Parameter × Use) :=
  match s with
  | '#' :: c :: name => (parameterOfName (c :: name)).map (·, .length)
  | _ => do
    let (name, rest) ← parameterName s
    return (← parameterOfName name, ← useOfText? rest)

/-- A parameter after its dollar sign, with or without braces. Without them, a place has one digit.
-/
def parameter : Scan (Parameter × Use) := do
  let _ ← char '$'
  (do let _ ← char '\x7b'
      ofOption (bracedParameter (← balanced '\x7b' '\x7d' none 0)))
    <|> (do let name ← (do let d ← satisfy Char.isDigit; return [d]) <|> parameterName
            ofOption ((parameterOfName name).map (·, .value)))

/-- The text of a script that stands for what it writes. -/
def substitution : Scan (List Char) :=
  (do Scan.text "$("; balanced '(' ')' none 0)
    <|> (do let _ ← char '`'
            let s ← takeWhile (· ≠ '`')
            let _ ← char '`'
            return s)

/-- A piece between double quotes. A backslash there is a character of its own, except before one
that would end the piece. -/
def quotedPiece : Scan Piece :=
  (do let _ ← char '\\'
      let c ← satisfy fun c => "$`\"\\\n".toList.contains c
      return .text (if c = '\n' then [] else [c]) true)
  <|> (.output · true) <$> substitution
  <|> (fun (p, use) => .value p use true) <$> parameter
  <|> (.text · true) <$> takeSome (fun c => !"$`\"\\".toList.contains c)
  <|> (fun c => .text [c] true) <$> satisfy fun c => c = '$' || c = '\\'

/-- The next pieces of a word. -/
def pieces : Scan (List Piece) :=
  (do let _ ← char '\x27'
      let s ← takeWhile (· ≠ '\x27')
      let _ ← char '\x27'
      return [.text s true])
  <|> (do let _ ← char '"'
          let inside ← many quotedPiece
          let _ ← char '"'
          return .text [] true :: inside)
  <|> (do let _ ← char '\\'
          let c ← satisfy fun _ => true
          return [.text (if c = '\n' then [] else [c]) true])
  <|> (do return [.output (← substitution) false])
  <|> (do let (p, use) ← parameter; return [.value p use false])
  <|> (do return [.text (← takeSome fun c => !isMeta c && !"$`\"\x27\\".toList.contains c) false])
  <|> (do return [.text [← char '$'] false])

/-- A word, and the blanks after it. The arguments between quotes are a word only together with
what else stands between them, so an empty text is dropped beside them. -/
def word : Scan Word := do
  let parts ← atLeastOne pieces
  blanks
  let w := parts.flatten
  let all : Piece := .value .arguments .value true
  return if w = [.text [] true, all] then [all] else w

/-- The word of a whole text, in which blanks are like other characters. -/
def looseWord (s : List Char) : Word :=
  let other : Scan (List Piece) := do return [.text [← satisfy fun _ => true] false]
  ((whole (many (pieces <|> other)) s).getD []).flatten

/-! ## Commands -/

/-- The words that no simple command begins with. -/
def reserved : List String :=
  ["case", "do", "done", "elif", "else", "esac", "fi", "for", "if", "in", "then", "until", "while",
    "\x7b", "\x7d", "!"]

/-- A word of the grammar, such as `then`. -/
def keyword (name : String) : Scan Unit := do
  let w ← word
  if w.plain? = some name then pure () else fail

/-- A mark, with the blanks after it. -/
def sign (s : String) : Scan Unit := do
  Scan.text s
  blanks

/-- A line feed or a semicolon, but not two. -/
def separator : Scan Unit := do
  let c ← satisfy fun c => c = '\n' || c = ';'
  if c = ';' && (← peek) = some ';' then fail
  blanks

/-- Line ends and blanks. -/
def newlines : Scan Unit := do
  blanks
  let _ ← many (sign "\n")

/-- The lines up to one that ends them, and the text after that. -/
def linesUpTo (mark : List Char) : List (List Char) → Option (List (List Char) × List (List Char))
  | [] => none
  | line :: rest =>
    if line.filter (· ≠ '\n') = mark then some ([], rest)
    else (linesUpTo mark rest).map fun (lines, rest) => (line :: lines, rest)

/-- A text on the lines after the one that a mark stands on, up to a line that is the mark.
Parameters in it are replaced unless the mark is quoted. -/
def hereText : Scan Redirect := do
  let dropsTabs ← accept (char '-')
  blanks
  let mark ← word
  let end? := mark.plain?
  let marker := (end?.getD (String.ofList (mark.flatMap fun
    | .text s _ => s
    | _ => []))).toList
  fun s => do
    let line := s.takeWhile (· ≠ '\n')
    let rest := (s.drop line.length).drop 1
    let trimmed (l : List Char) := if dropsTabs then l.dropWhile (· = '\t') else l
    let (body, after) ← linesUpTo marker ((Text.lines rest).map trimmed)
    let content : Word :=
      if end?.isSome then
        ((whole (many (quotedPiece <|> (fun c => .text [c] true) <$> satisfy fun _ => true))
          body.flatten).getD [])
      else [.text body.flatten true]
    some (.here content, line ++ '\n' :: after.flatten)

/-- A redirection, with the stream before it if it is named. -/
def redirection : Scan Redirect := do
  let stream ← Scan.optional (satisfy Char.isDigit)
  let number (default : Nat) := (stream.map fun d => d.toNat - '0'.toNat).getD default
  (do Scan.text ">&"
      let d ← satisfy Char.isDigit
      blanks
      return .follow (number 1) (d.toNat - '0'.toNat))
  <|> (do Scan.text ">"
          let _ ← accept (char '>')
          blanks
          return .write (number 1) (← word))
  <|> (do Scan.text "<<"
          hereText)
  <|> (do Scan.text "<"
          blanks
          return .read (← word))

/-- A redirection written first is made first, and so is the outermost. -/
def redirected (rs : List Redirect) (body : Script) : Script :=
  rs.foldr .redirect body

/-- An assignment. Its value may be empty. -/
def assignment : Scan Script := do
  let c ← satisfy isNameStart
  let name := c :: (← takeWhile isNamePart)
  let _ ← char '='
  let value ← word <|> (do blanks; return [])
  return .assign (String.ofList name) value

/-- A simple command: its assignments, words and redirections. -/
def simple : Scan Script := do
  let assigned ← many assignment
  let items ← many ((Sum.inl <$> redirection) <|> (Sum.inr <$> word))
  let words := items.filterMap Sum.getRight?
  let first := (words.head?.bind Word.plain?).getD ""
  if items.isEmpty && assigned.isEmpty || reserved.contains first then fail
  let call := if words.isEmpty then .nothing else .call words
  -- Assignments alone end as the last of them does.
  return match items, assigned.getLast? with
    | [], some last => assigned.dropLast.foldr .seq last
    | _, _ => assigned.foldr .seq (redirected (items.filterMap Sum.getLeft?) call)

/-- The arms of a `case`, up to its `esac`. -/
def arms (inner : Scan Script) (subject : Word) : Scan Script := do
  let arms ← many (do
    let _ ← accept (sign "(")
    let first ← word
    if first.plain? = some "esac" then fail
    let patterns ← many (do sign "|"; word)
    sign ")"
    let body ← inner
    if ← accept (sign ";;") then newlines
    return (first :: patterns, body))
  keyword "esac"
  return arms.foldr (fun (patterns, body) others => .choose subject patterns body others) .nothing

/-- An `if` after its condition. -/
def branches (inner : Scan Script) (condition : Script) : Scan Script := do
  keyword "then"
  let yes ← inner
  let others ← many (do
    keyword "elif"
    let condition ← inner
    keyword "then"
    return (condition, ← inner))
  let no ← Scan.optional (do keyword "else"; inner)
  keyword "fi"
  return .branch condition yes
    (others.foldr (fun (condition, yes) no => .branch condition yes no) (no.getD .nothing))

/-- A `for` after its keyword; without words it goes over the arguments. -/
def loop (inner : Scan Script) : Scan Script := do
  let name ← ofOption (← word).plain?
  let words ← Scan.optional (do
    newlines
    keyword "in"
    many word)
  let _ ← many separator
  newlines
  keyword "do"
  let body ← inner
  keyword "done"
  return .each name (words.getD [[.value .arguments .value true]]) body

/-- A command whose parts are read by `inner`. -/
def command (inner : Scan Script) : Scan Script := do
  let body ←
    (do keyword "case"
        let subject ← word
        newlines
        keyword "in"
        newlines
        arms inner subject)
    <|> (do keyword "if"
            branches inner (← inner))
    <|> (do keyword "for"
            loop inner)
    <|> (do keyword "\x7b"
            let body ← inner
            keyword "\x7d"
            return body)
    <|> (do sign "("
            let body ← inner
            sign ")"
            return .isolate body)
    <|> simple
  return redirected (← many redirection) body

/-- Commands with pipes between them, of which the whole may be negated. -/
def pipeline (inner : Scan Script) : Scan Script := do
  let negated ← accept (keyword "!")
  let first ← command inner
  let others ← many (do
    let _ ← char '|'
    if (← peek) = some '|' then fail
    newlines
    command inner)
  let whole := others.foldl .pipe first
  return if negated then .negate whole else whole

/-- Pipelines that run depending on how those before them ended, from left to right. -/
def chain (inner : Scan Script) : Scan Script := do
  let first ← pipeline inner
  let others ← many (do
    let join ← (do sign "&&"; return Script.both) <|> (do sign "||"; return Script.either)
    newlines
    return (join, ← pipeline inner))
  return others.foldl (fun a (join, b) => join a b) first

/-- Commands to the given depth of nesting. -/
def commands : Nat → Scan Script
  | 0 => fail
  | depth + 1 => do
    let _ ← many (do blanks; separator)
    blanks
    let all ← many (do
      let c ← chain (commands depth)
      let _ ← many separator
      return c)
    return all.foldr (fun c rest => if rest = .nothing then c else .seq c rest) .nothing

/-- The script of a text. Nesting takes at least one character a level. -/
def ofText? (s : String) : Option Script :=
  whole (commands (s.length + 1)) s.toList

end Script

end SourceSig.Shell
