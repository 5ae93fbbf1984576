import SourceSig.Batch
import SourceSig.Discovery
import SourceSig.Settings.Basic
import SourceSig.Settings.EnvFile

/-!
# Command line

What the program is asked to do by its arguments, and what it answers: `read` takes the arguments
from left to right, and the first thing that decides the answer wins, be it a fault, a call for help
or for the version. `run` is the whole program as a function of its arguments, its variables and its
files.
-/

namespace SourceSig.CommandLine

/-- The name that the program is called by. -/
def programName : String := "phpsig"

/-- The version that the program says it has. -/
def programVersion : String := "0.1.0"

/-! ## Options -/

/-- An option by its long name, with the name of its value if it has one. -/
structure Flag where
  long : String
  short : Option Char
  value : Option String
  about : String

namespace Flag

/-- The option that names a file of settings. -/
def config : Flag :=
  ⟨"config", none, some "CONFIG", "Configuration file (defaults to ./phpsig.toml when present)"⟩

/-- The option for the form of the log. -/
def logFormat : Flag :=
  ⟨"log-format", none, some "LOG_FORMAT", "Log output format [possible values: text, json]"⟩

/-- The flag that says that the inputs are dumps. -/
def jsonAst : Flag :=
  ⟨"json-ast", none, none, "Inputs are pre-dumped JSON syntax trees rather than PHP sources"⟩

/-- The option for the size of the pool. -/
def workers : Flag := ⟨"workers", none, some "WORKERS", "Number of files processed concurrently"⟩

/-- The option for the port of the service. -/
def port : Flag := ⟨"port", none, some "PORT", "Port to listen on"⟩

/-- The flag that asks for the page of a topic. -/
def help : Flag := ⟨"help", some 'h', none, "Print help"⟩

/-- The flag that asks for the version. -/
def version : Flag := ⟨"version", some 'V', none, "Print version"⟩

/-- The option as a help page shows it. -/
def usage (f : Flag) : String :=
  let short := match f.short with
    | some c => "-" ++ String.ofList [c] ++ ", "
    | none => "    "
  let value := match f.value with
    | some v => " <" ++ v ++ ">"
    | none => ""
  short ++ "--" ++ f.long ++ value

end Flag

/-! ## Help pages -/

/-- The parts of the program that have a help page. -/
inductive Topic where
  | program
  | scan
  | serve
  | help
deriving DecidableEq, Repr

namespace Topic

/-- The word that a topic is called by. -/
def name : Topic → String
  | .program => programName
  | .scan => "scan"
  | .serve => "serve"
  | .help => "help"

/-- The commands of the program. -/
def commands : List Topic := [.scan, .serve, .help]

/-- What a topic is about, in one line. -/
def about : Topic → String
  | .program => "Structural signatures for PHP sources"
  | .scan => "Print the signature report for a file or directory"
  | .serve => "Serve the signature API over HTTP"
  | .help => "Print this message or the help of the given subcommand(s)"

/-- How a topic is used, in one line. -/
def usage : Topic → String
  | .program => programName ++ " [OPTIONS] <COMMAND>"
  | .scan => programName ++ " scan [OPTIONS] [PATH]"
  | .serve => programName ++ " serve [OPTIONS]"
  | .help => programName ++ " help [COMMAND]..."

/-- The arguments of a topic apart from its options, with what they mean. -/
def arguments : Topic → List (String × String)
  | .scan => [("[PATH]", "File or directory to scan [default: .]")]
  | .help => [("[COMMAND]...", "Print help for the subcommand(s)")]
  | _ => []

/-- The options, in the order in which they are shown. -/
def flags : Topic → List Flag
  | .program => [.config, .logFormat, .help, .version]
  | .scan => [.config, .jsonAst, .logFormat, .workers, .help]
  | .serve => [.config, .port, .logFormat, .help]
  | .help => []

/-- A part of a page, with what its rows are about in one column. -/
def block (title : String) (rows : List (String × String)) : String :=
  let width := (rows.map (·.1.length)).foldl max 0
  let row (r : String × String) : String :=
    "  " ++ r.1 ++ String.ofList (List.replicate (width - r.1.length) ' ') ++ "  " ++ r.2 ++ "\n"
  if rows.isEmpty then "" else "\n" ++ title ++ ":\n" ++ String.join (rows.map row)

/-- The help page. -/
def page (t : Topic) : String :=
  let below := if t = .program then commands.map fun c => (c.name, c.about) else []
  t.about ++ "\n\nUsage: " ++ t.usage ++ "\n" ++ block "Commands" below
    ++ block "Arguments" t.arguments
    ++ block "Options" (t.flags.map fun f => (f.usage, f.about))

end Topic

/-! ## Arguments -/

/-- Why there is nothing to run. -/
inductive Stop where
  | help (topic : Topic)
  | version
  | misuse
deriving DecidableEq, Repr

/-- The options and the other arguments that were read for one topic. -/
structure Matches where
  options : List (String × String)
  paths : List String

namespace Matches

/-- Nothing was given. -/
def empty : Matches := ⟨[], []⟩

/-- The value that was given to an option. -/
def get? (m : Matches) (f : Flag) : Option String := m.options.lookup f.long

/-- Whether an option was given. -/
def has (m : Matches) (f : Flag) : Bool := (m.get? f).isSome

end Matches

/-- The format that an option names; unlike in a file, the case of letters counts. -/
def logFormat? (name : String) : Option LogFormat :=
  [LogFormat.text, LogFormat.json].find? (·.name = name)

/-- Whether an option takes a value. -/
def Flag.allows (f : Flag) (value : String) : Bool :=
  match f.long with
  | "config" => value ≠ ""
  | "log-format" => (logFormat? value).isSome
  | "workers" => (boundedOfText? UInt64.size value).isSome
  | "port" => (boundedOfText? UInt16.size value).isSome
  | _ => true

/-- The matches with an option, which may be given once. -/
def Matches.add (m : Matches) (f : Flag) (value : String) : Except Stop Matches :=
  if m.has f || !f.allows value then .error .misuse
  else .ok { m with options := (f.long, value) :: m.options }

/-- An argument by its form. -/
inductive Argument where
  | long (name : String) (value : Option String)
  | short (c : Char)
  | rest
  | plain

/-- What an argument is, by the dashes that it begins with. -/
def Argument.ofText (arg : String) : Argument :=
  match arg.toList with
  | ['-', '-'] => .rest
  | '-' :: '-' :: s =>
    let name := String.ofList (s.takeWhile (· ≠ '='))
    match s.dropWhile (· ≠ '=') with
    | _ :: value => .long name (some (String.ofList value))
    | [] => .long name none
  | '-' :: c :: _ => .short c
  | _ => .plain

/-- Whether an argument can be the value of the option before it. -/
def Argument.isPlain : Argument → Bool
  | .plain => true
  | _ => false

/-- What an option without value stands for. -/
def Topic.switch (t : Topic) (f : Flag) (m : Matches) : Except Stop Matches :=
  match f.long with
  | "help" => .error (.help t)
  | "version" => .error .version
  | _ => m.add f ""

/-- How many paths a topic takes. -/
def Topic.pathLimit : Topic → Nat
  | .scan => 1
  | _ => 0

/-- More paths, as long as none of them is empty and the topic takes that many. -/
def Topic.addPaths (t : Topic) (m : Matches) (paths : List String) : Except Stop Matches :=
  let all := m.paths ++ paths
  if all.contains "" || t.pathLimit < all.length then .error .misuse
  else .ok { m with paths := all }

/-- The options and paths of a topic. The program itself stops at the name of a command, which it
leaves with the arguments after it. -/
def Topic.read (t : Topic) (m : Matches) : List String → Except Stop (Matches × List String)
  | [] => .ok (m, [])
  | arg :: args =>
    match Argument.ofText arg with
    | .rest => do return (← t.addPaths m args, [])
    | .plain =>
      if t = .program then .ok (m, arg :: args) else do t.read (← t.addPaths m [arg]) args
    | .short c =>
      match t.flags.find? (·.short = some c) with
      | some f => do t.read (← t.switch f m) args
      | none => .error .misuse
    | .long name given =>
      match t.flags.find? (·.long = name) with
      | none => .error .misuse
      | some f =>
        match f.value, given with
        | none, none => do t.read (← t.switch f m) args
        | none, some _ => .error .misuse
        | some _, some v => do t.read (← m.add f v) args
        | some _, none =>
          match args with
          | [] => .error .misuse
          | v :: args =>
            if (Argument.ofText v).isPlain then do t.read (← m.add f v) args else .error .misuse

/-! ## Requests -/

/-- What the program is asked to do. -/
inductive Action where
  | scan (path : String) (dumps : Bool) (workers : Option Nat)
  | serve (port : Option UInt16)
deriving DecidableEq, Repr

/-- What the program is to do. -/
structure Request where
  config : Option String
  logFormat : Option LogFormat
  action : Action
deriving DecidableEq, Repr

/-- The topic that the words after `help` lead to. -/
def helpTopic : List String → Except Stop Topic
  | [] => .ok .program
  | [name] =>
    match Topic.commands.find? (·.name = name) with
    | some t => .ok t
    | none => .error .misuse
  | _ => .error .misuse

/-- The request of an action. The options of all commands may stand before the command and after
it, where they win. -/
def request (before after : Matches) (action : Action) : Request :=
  let get (f : Flag) := (after.get? f).orElse fun _ => before.get? f
  ⟨get .config, (get .logFormat).bind logFormat?, action⟩

/-- What the arguments ask for. -/
def read (args : List String) : Except Stop Request := do
  let (before, args) ← Topic.program.read .empty args
  match args with
  | "scan" :: args =>
    let (m, _) ← Topic.scan.read .empty args
    let workers := (m.get? .workers).bind (boundedOfText? UInt64.size)
    return request before m (.scan (m.paths.headD ".") (m.has .jsonAst) workers)
  | "serve" :: args =>
    let (m, _) ← Topic.serve.read .empty args
    let port := (m.get? .port).bind (boundedOfText? UInt16.size)
    return request before m (.serve (port.map UInt16.ofNat))
  | "help" :: args => throw (.help (← helpTopic args))
  | _ => throw .misuse

/-! ## Answers -/

/-- How the program ends: its status, its output, and its complaint. -/
structure Answer where
  status : Nat
  output : String
  complaint : Option String
deriving DecidableEq, Repr

/-- The first line of the complaint. -/
def Answer.complaintLine (a : Answer) : Option String :=
  a.complaint.map fun text =>
    let line := text.toList.takeWhile (· ≠ '\n')
    String.ofList (if line.length < text.length ∧ line.getLast? = some '\r' then line.dropLast
      else line)

/-- An answer that went well. -/
def Answer.ok (output : String) : Answer := ⟨0, output, none⟩

/-- An answer that complains. -/
def Answer.failed (message : String) : Answer := ⟨1, "", some ("Error: " ++ message)⟩

/-- The end of a run that breaks off. -/
def Answer.brokenOff : Answer := ⟨101, "", none⟩

/-- The answer to a command line that asks for no action: a page, the version or a complaint. -/
def Stop.answer : Stop → Answer
  | .help topic => .ok topic.page
  | .version => .ok (programName ++ " " ++ programVersion ++ "\n")
  | .misuse => ⟨2, "", some ("Usage: " ++ Topic.program.usage)⟩

/-- The extension of files that are dumps. -/
def dumpExtension : String := "json"

/-- The report on a target. -/
def scan (host : Host) (s : Settings) (path : String) (dumps : Bool) : Answer :=
  let rules : DiscoveryRules := ⟨if dumps then dumpExtension else s.fileExtension, s.ignoreFileName⟩
  let source : TreeSource := if dumps then .dumps else .command s.parserCommand s.parserArgs
  match discover rules host.files path with
  | .error _ => .failed ("Cannot scan " ++ path)
  | .ok found =>
    .ok (Report.listText (Batch.run host source found.root (1000 * s.fileTimeoutSecs)
      found.files).reports)

/-- What the program does: it answers, or it serves with the given settings. -/
inductive Course where
  | answers (a : Answer)
  | serves (s : Settings)

/-- The settings of a request. -/
def Request.settings (r : Request) (defaults : Settings) (files : FileTree)
    (vars : List (String × String)) : Except Settings.LoadError Settings := do
  let s ← Settings.load defaults files vars r.config
  let s := { s with logFormat := r.logFormat.getD s.logFormat }
  return match r.action with
    | .scan _ _ workers => (workers.map s.withWorkers).getD s
    | .serve port => { s with port := port.getD s.port }

/-- The variables together with those of the file of variables, if they can be set. -/
def allVariables? (files : FileTree) (vars : List (String × String)) :
    Option (List (String × String)) :=
  match files.contentAt ".env" with
  | .ok content => Settings.EnvFile.extend? vars content
  | .error _ => some vars

/-- How a run ends that has no settings. -/
def refusal : Settings.LoadError → Answer
  | .misplaced => .brokenOff
  | e => .failed e.message

/-- What the program does once its variables are set. -/
def runWith (defaults : Settings) (host : Host) (vars : List (String × String))
    (args : List String) : Course :=
  match read args with
  | .error stop => .answers stop.answer
  | .ok r =>
    match r.settings defaults host.files vars with
    | .error e => .answers (refusal e)
    | .ok s =>
      match r.action with
      | .scan path dumps _ => .answers (scan host s path dumps)
      | .serve _ => .serves s

/-- The whole program, on files and with the programs that there are for given variables. -/
def run (defaults : Settings) (host : List (String × String) → Host) (files : FileTree)
    (vars : List (String × String)) (args : List String) : Course :=
  match allVariables? files vars with
  | some vars => runWith defaults (host vars) vars args
  | none => .answers .brokenOff

end SourceSig.CommandLine
