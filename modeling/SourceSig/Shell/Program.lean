import SourceSig.FileTree
import SourceSig.Number.Reader

/-!
# Programs

The programs that a script can call, as functions of their arguments, their input and the directory
they are called in: each writes to two streams, takes some time and ends with a status, which is
zero for success.
-/

namespace SourceSig.Shell

open FileTree (Place)
open Text (Bytes)

/-- What a program did. -/
structure Effect where
  output : Bytes
  errors : Bytes
  status : Nat
  millis : Nat

namespace Effect

/-- A program that writes nothing and ends with the status. -/
def ofStatus (status : Nat) : Effect := ⟨[], [], status, 0⟩

/-- A program that writes an output and ends well. -/
def ofOutput (output : Bytes) : Effect := ⟨output, [], 0, 0⟩

/-- A program that writes a line of errors and ends with the status. -/
def complaint (status : Nat) (message : String) : Effect :=
  ⟨[], Text.encode (message ++ "\n"), status, 0⟩

/-- One effect after another, with the greater status. -/
def append (a b : Effect) : Effect :=
  ⟨a.output ++ b.output, a.errors ++ b.errors, max a.status b.status, a.millis + b.millis⟩

end Effect

/-! ## Files put together -/

namespace Cat

/-- How a cause reads in the message of a program. -/
def causeText : IoError → String
  | .notFound => "No such file or directory"
  | .notADirectory => "Not a directory"
  | .isADirectory => "Is a directory"
  | .permissionDenied => "Permission denied"
  | .nameTooLong => "File name too long"
  | cause => cause.message

/-- The content of a file, or of the input, as `cat` copies it. -/
def copy (place : Place) (input : Bytes) (name : String) : Effect :=
  if name = "-" then .ofOutput input
  else
    match place.contentAt name with
    | .ok content => .ofOutput content
    | .error cause => .complaint 1 ("cat: " ++ name ++ ": " ++ causeText cause)

/-- What is wrong with an option; only the one that changes nothing is known. -/
def optionFault? (arg : String) : Option String :=
  match arg.toList with
  | '-' :: '-' :: _ => some ("unrecognized option '" ++ arg ++ "'")
  | '-' :: letters =>
    (letters.find? (· ≠ 'u')).map fun c => "invalid option -- '" ++ String.ofList [c] ++ "'"
  | _ => none

/-- The contents of files one after another; no file and `-` mean the input. -/
def run (place : Place) (input : Bytes) (args : List String) : Effect :=
  let options := args.takeWhile (· ≠ "--")
  let names := options.filter (fun a => !"-".isPrefixOf a || a = "-")
    ++ args.drop (options.length + 1)
  match options.findSome? optionFault? with
  | some fault =>
    .complaint 1 ("cat: " ++ fault ++ "\nTry 'cat --help' for more information.")
  | none =>
    let names := if names.isEmpty then ["-"] else names
    names.foldl (fun e name => e.append (copy place input name)) (.ofStatus 0)

end Cat

/-! ## Pauses -/

namespace Sleep

/-- The milliseconds of a time in the unit of its last letter, which are seconds if there is none.
-/
def millisOf? (arg : String) : Option Nat := do
  let units : List (Char × Nat) := [('s', 1), ('m', 60), ('h', 3600), ('d', 86400)]
  let spelled := arg.toList
  let unit := spelled.getLast?.bind fun c => units.lookup c
  let number := if unit.isSome then spelled.dropLast else spelled
  let (whole, rest) := splitDigits number
  let fraction ← match rest with
    | '.' :: digits => some digits
    | [] => some []
    | _ => none
  if whole.isEmpty && fraction.isEmpty || !fraction.all Char.isDigit then none
  else
    let thousandths := (fraction ++ ['0', '0', '0']).take 3
    return unit.getD 1 * Text.natOfDigits (whole ++ thousandths)

/-- A pause of all the times together. -/
def run (args : List String) : Effect :=
  let hint := "\nTry 'sleep --help' for more information."
  if args.isEmpty then .complaint 1 ("sleep: missing operand" ++ hint)
  else
    match args.find? fun arg => (millisOf? arg).isNone with
    | some arg => .complaint 1 ("sleep: invalid time interval '" ++ arg ++ "'" ++ hint)
    | none => { Effect.ofStatus 0 with millis := (args.filterMap millisOf?).foldl (· + ·) 0 }

end Sleep

/-! ## Text with escapes -/

/-- The byte that a letter after a backslash stands for. -/
def escapeByte? (c : Char) : Option UInt8 :=
  [('\\', 92), ('a', 7), ('b', 8), ('e', 27), ('f', 12), ('n', 10), ('r', 13), ('t', 9),
    ('v', 11)].lookup c

/-- Whether a character is an octal digit. -/
def isOctal (c : Char) : Bool := '0' ≤ c && c ≤ '7'

/-- The byte of octal digits. -/
def octalByte (digits : List Char) : UInt8 :=
  UInt8.ofNat (digits.foldl (fun n d => 8 * n + (d.toNat - '0'.toNat)) 0)

/-- The octal digits at the front of a text, up to three. -/
def octalDigits (s : List Char) : List Char :=
  (s.take 3).takeWhile isOctal

/-- The text of an argument that may hold escapes. An octal number may have a zero before its three
digits, and `\c` ends the text and all that would follow, which the second part says. -/
def unescape : List Char → Bytes × Bool
  | [] => ([], false)
  | '\\' :: c :: rest =>
    if c = 'c' then ([], true)
    else if isOctal c then
      let digits := octalDigits (if c = '0' then rest else c :: rest)
      let taken := if c = '0' then digits.length else digits.length - 1
      let (bytes, ended) := unescape (rest.drop taken)
      (octalByte digits :: bytes, ended)
    else
      match escapeByte? c with
      | some b => let (bytes, ended) := unescape rest; (b :: bytes, ended)
      | none => let (bytes, ended) := unescape (c :: rest); (92 :: bytes, ended)
  | c :: rest => let (bytes, ended) := unescape rest; (String.utf8EncodeChar c ++ bytes, ended)
termination_by s => s.length
decreasing_by all_goals simp only [List.length_cons, List.length_drop]; omega

/-- Arguments with blanks between them and a line feed after them. -/
def echo (args : List String) : Effect :=
  let (bare, words) := match args with
    | "-n" :: words => (true, words)
    | words => (false, words)
  let (bytes, ended) := unescape (" ".intercalate words).toList
  .ofOutput (if bare || ended then bytes else bytes ++ [10])

namespace Format

/-- A part of a format: bytes that stand for themselves, or a place for an argument. -/
inductive Part where
  | bytes (b : Bytes)
  | slot (kind : Char)

/-- The parts of a format: the bytes that it stands for, and the slots for arguments. -/
def parts : List Char → List Part
  | [] => []
  | '%' :: '%' :: rest => .bytes [37] :: parts rest
  | '%' :: c :: rest => .slot c :: parts rest
  | '\\' :: c :: rest =>
    if isOctal c then
      let digits := octalDigits (c :: rest)
      .bytes [octalByte digits] :: parts ((c :: rest).drop digits.length)
    else
      match escapeByte? c with
      | some b => .bytes [b] :: parts rest
      | none => .bytes (92 :: String.utf8EncodeChar c) :: parts rest
  | c :: rest => .bytes (String.utf8EncodeChar c) :: parts rest
termination_by s => s.length
decreasing_by all_goals simp only [List.length_cons, List.length_drop]; omega

/-- An argument in its place; a number that is none counts as zero. -/
def fill (kind : Char) (arg : String) : Bytes :=
  if kind = 'b' then (unescape arg.toList).1
  else if kind = 'c' then (Text.encode arg).take 1
  else if kind = 's' then Text.encode arg
  else Text.encode (toString (((int64OfText? arg).map Int64.toInt).getD 0))

/-- One pass over the parts, and the arguments that are left. -/
def pass : List Part → List String → Bytes × List String
  | [], args => ([], args)
  | .bytes b :: ps, args => let (bytes, left) := pass ps args; (b ++ bytes, left)
  | .slot kind :: ps, args =>
    let (bytes, left) := pass ps (args.drop 1)
    (fill kind (args.headD "") ++ bytes, left)

/-- Passes over the parts for as long as arguments are taken and some are left. -/
def passes (ps : List Part) (args : List String) : Bytes :=
  let (bytes, left) := pass ps args
  if left.length < args.length ∧ left ≠ [] then bytes ++ passes ps left else bytes
termination_by args.length

end Format

/-- A format with its places filled by the arguments. -/
def printf : List String → Effect
  | [] => .complaint 2 "printf: usage: printf format [arg ...]"
  | "--" :: format :: args => .ofOutput (Format.passes (Format.parts format.toList) args)
  | format :: args => .ofOutput (Format.passes (Format.parts format.toList) args)

/-! ## Conditions -/

namespace Condition

/-- What a test of one argument says, if there is such a test. -/
def unary? (place : Place) (op arg : String) : Option Bool :=
  let found := place.lookup arg
  match op with
  | "-n" => some (arg ≠ "")
  | "-z" => some (arg = "")
  | "-e" | "-r" | "-w" => some found.isOk
  | "-f" => some (found.toOption.any fun p => !p.tree.isDir)
  | "-d" | "-x" => some (found.toOption.any fun p => p.tree.isDir)
  | "-s" => some ((place.contentAt arg).toOption.any (· ≠ []) || found.toOption.any (·.tree.isDir))
  | _ => none

/-- What a test of two arguments says, if there is such a test and they are what it takes. -/
def binary? (a op b : String) : Option Bool :=
  let numbers (p : Int64 → Int64 → Bool) : Option Bool := do
    return p (← int64OfText? a) (← int64OfText? b)
  match op with
  | "=" => some (a = b)
  | "!=" => some (a ≠ b)
  | "-eq" => numbers (· = ·)
  | "-ne" => numbers (· ≠ ·)
  | "-lt" => numbers (· < ·)
  | "-le" => numbers (· ≤ ·)
  | "-gt" => numbers (· > ·)
  | "-ge" => numbers (· ≥ ·)
  | _ => none

/-- Whether a condition holds, if it is one. -/
def eval? (place : Place) : List String → Option Bool
  | [] => some false
  | [a] => some (a ≠ "")
  | [op, a] => if op = "!" then some (a = "") else unary? place op a
  | [a, op, b] =>
    if a = "!" then (unary? place op b).map (!·) else binary? a op b
  | "!" :: rest => (eval? place rest).map (!·)
  | _ => none

end Condition

/-- The program `test`: its status is its answer. -/
def test (place : Place) (args : List String) : Effect :=
  .ofStatus (match Condition.eval? place args with
    | some true => 0
    | some false => 1
    | none => 2)

end SourceSig.Shell
