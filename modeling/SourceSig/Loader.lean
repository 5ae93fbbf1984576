import SourceSig.Extraction
import SourceSig.FileTree
import SourceSig.ParserMessage
import SourceSig.Report
import SourceSig.Tree.Dump

/-!
# Loading

How the statements of a file are obtained: from the dump that the file holds, or from the output of
a parser program that is run on it. Programs are a parameter (`Host.run`), so everything here is a
function of the files and of what a program answers.
-/

namespace SourceSig

open Text (Bytes)

/-- How a program ended, what it wrote, and how many milliseconds it took. -/
structure Completion where
  succeeded : Bool
  output : Bytes
  errors : Bytes
  millis : Nat

/-- Files, and the programs that can be run on them. -/
structure Host where
  files : FileTree
  run : (program : String) → (args : List String) → Except IoError Completion

/-- Where the syntax trees of the files come from. -/
inductive TreeSource where
  /-- The file is a dump. -/
  | dumps
  /-- A parser program writes the dump. -/
  | command (program : String) (args : List String)

namespace TreeSource

/-- What a source is called in the log. -/
def name : TreeSource → String
  | .dumps => "json-dump"
  | .command _ _ => "command"

/-- What stands for the file in the arguments of a program. -/
def placeholder : List Char := ['\x7b', 'f', 'i', 'l', 'e', '\x7d']

/-- The text with every placeholder replaced, from left to right. -/
def fillIn (file : List Char) : List Char → List Char
  | [] => []
  | c :: cs =>
    if placeholder.isPrefixOf (c :: cs) then
      file ++ fillIn file ((c :: cs).drop placeholder.length)
    else c :: fillIn file cs
termination_by s => s.length
decreasing_by
  · simp only [placeholder, List.length_drop, List.length_cons]; omega
  · simp

/-- The arguments for a file. Where no argument mentions the file, it comes last. -/
def arguments (args : List String) (file : String) : List String :=
  let filled := args.map fun arg => String.ofList (fillIn file.toList arg.toList)
  if args.any fun arg => Text.occursIn placeholder arg.toList then filled else filled ++ [file]

/-- The statements in the text of a dump. -/
def parseDump (file : String) (text : String) : Except Failure (List Node) :=
  match readDump (Text.encode text) with
  | .ok statements => .ok statements
  | .error fault =>
    .error (.unparsable file ("invalid syntax tree dump: " ++ fault.message) none)

/-- The failure of a parser program: what it wrote as errors or, failing that, as output. -/
def rejection (file : String) (c : Completion) : Failure :=
  let errors := Text.trim (Text.decodeLossy c.errors)
  let message := if errors = "" then Text.trim (Text.decodeLossy c.output) else errors
  .unparsable file message (lineOfMessage message)

/-- The statements that a program finds in a file. -/
def runParser (host : Host) (program : String) (args : List String) (file : String) :
    Except Failure (List Node) :=
  match host.run program (arguments args file) with
  | .error cause =>
    .error (.unparsable file ("could not run parser `" ++ program ++ "`: " ++ cause.message) none)
  | .ok c =>
    if c.succeeded then parseDump file (stripBanner (Text.decodeLossy c.output))
    else .error (rejection file c)

/-- The statements of the file at a path. -/
def load (host : Host) (source : TreeSource) (path : String) : Except Failure (List Node) :=
  match source with
  | .dumps =>
    match host.files.textAt path with
    | .ok text => parseDump path (stripBanner text)
    | .error cause => .error (.unreadable path cause)
  | .command program args =>
    match host.files.lookup path with
    | .ok _ => runParser host program args path
    | .error cause => .error (.unreadable path cause)

/-- How many milliseconds it takes to load the file at a path; only the time of programs counts. -/
def millis (host : Host) (source : TreeSource) (path : String) : Nat :=
  match source with
  | .dumps => 0
  | .command program args =>
    match host.files.lookup path, host.run program (arguments args path) with
    | .ok _, .ok c => c.millis
    | _, _ => 0

end TreeSource

/-- The outcome for loaded statements. -/
def outcomeOf (loaded : Except Failure (List Node)) : Except Failure String := do
  (signatureText (← loaded)).mapError .unsupported

/-- The report on the file at a path. -/
def reportOn (host : Host) (source : TreeSource) (root path : String) : Report :=
  ⟨Path.normalize root path, outcomeOf (source.load host path)⟩

end SourceSig
