import SourceSig.FileTree
import SourceSig.Json.Reader
import SourceSig.Settings.Ini
import SourceSig.Settings.Json5
import SourceSig.Settings.KeyPath
import SourceSig.Settings.Ron
import SourceSig.Settings.TomlDocument
import SourceSig.Settings.Yaml.Document

/-!
# Settings

What a run is told: which parser to call, which files to take, how many at a time, and where to
serve. Settings come from variables, then from a configuration file, then from the defaults, and the
first of these that has a setting decides it. `load` fails on a file that cannot be read and on a
value of the wrong kind or out of range.
-/

namespace SourceSig

/-- The form of the log. -/
inductive LogFormat where
  | text
  | json
deriving DecidableEq, Repr

/-- The word that a form of the log is set by. -/
def LogFormat.name : LogFormat → String
  | .text => "text"
  | .json => "json"

/-- The settings of the program. -/
structure Settings where
  parserCommand : String
  parserArgs : List String
  fileExtension : String
  ignoreFileName : String
  /-- How many files are processed at a time. -/
  maxWorkers : Nat
  fileTimeoutSecs : Nat
  port : UInt16
  logFormat : LogFormat
deriving DecidableEq, Repr

namespace Settings

/-- The settings of a machine with the given number of workers. -/
def defaults (workers : Nat) : Settings where
  parserCommand := "php-parse"
  parserArgs := ["--json-dump", "\x7bfile\x7d"]
  fileExtension := "php"
  ignoreFileName := ".php-stat"
  maxWorkers := workers
  fileTimeoutSecs := 30
  port := 3017
  logFormat := .text

/-- The settings with a number of workers, of which there is at least one. -/
def withWorkers (s : Settings) (workers : Nat) : Settings :=
  { s with maxWorkers := max workers 1 }

/-! ## Values -/

/-- A log format by its name, in any case of letters. -/
def logFormatOfName? (name : String) : Option LogFormat :=
  [LogFormat.text, LogFormat.json].find? fun f => f.name = Value.lowercase name

/-- A log format by its name, or by a table whose only key is its name. -/
def logFormatOfValue? : Value → Option LogFormat
  | .text name => logFormatOfName? name
  | .table [(name, _)] => logFormatOfName? name
  | _ => none

/-- The settings with the given values in place of the defaults. Keys without a meaning are left
aside. -/
def ofValues? (defaults : Settings) (get : String → Option Value) : Option Settings := do
  let setting {α : Type} (key : String) (read : Value → Option α) (default : α) : Option α :=
    match get key with
    | some v => read v
    | none => some default
  return {
    parserCommand := ← setting "parser_command" Value.toText? defaults.parserCommand
    parserArgs := ← setting "parser_args" Value.toTexts? defaults.parserArgs
    fileExtension := ← setting "file_extension" Value.toText? defaults.fileExtension
    ignoreFileName := ← setting "ignore_file_name" Value.toText? defaults.ignoreFileName
    maxWorkers := ← setting "max_workers" Value.toNat? defaults.maxWorkers
    fileTimeoutSecs := ← setting "file_timeout_secs" Value.toNat? defaults.fileTimeoutSecs
    port := ← setting "port" (fun v => UInt16.ofNat <$> v.toBounded? UInt16.size) defaults.port
    logFormat := ← setting "log_format" logFormatOfValue? defaults.logFormat }

/-! ## Files -/

/-- The notations of settings files. -/
inductive FileFormat where
  | toml
  | json
  | yaml
  | ini
  | ron
  | json5
deriving DecidableEq, Repr

/-- The extensions of the names of files, with the format that each of them stands for. -/
def FileFormat.extensions : List (String × FileFormat) :=
  [("toml", .toml), ("json", .json), ("yaml", .yaml), ("yml", .yaml), ("ini", .ini), ("ron", .ron),
    ("json5", .json5)]

/-- The entries of a value that has to be a table. -/
def tableEntries : Option Value → Except LoadError Entries
  | some (.table entries) => .ok entries
  | _ => .error .unreadable

/-- How deep a JSON document nests, at most. -/
def maxJsonDepth : Nat := 127

/-- The value of a JSON text. -/
def valueOfJson? (text : String) : Option Value :=
  match Json.parse (Text.encode text) with
  | .ok j => if j.depth ≤ maxJsonDepth then some (.ofJson j) else none
  | .error _ => none

/-- The entries of a text in a format; the whole text has to be a table. -/
def FileFormat.parse (text : String) : FileFormat → Except LoadError Entries
  | .toml => tableEntries ((Toml.parse? text).map .table)
  | .json => tableEntries (valueOfJson? text)
  | .yaml => Yaml.parse text
  | .ini => tableEntries ((Ini.parse? text).map .table)
  | .ron => tableEntries (Ron.parse? text)
  | .json5 => tableEntries (Json5.parse? text)

/-- The format that the name of a file calls for. -/
def formatOf? (path : String) : Option FileFormat := do
  let name := (← Path.fileName? path).toList
  let parts := Text.splitOn '.' name
  -- A name that only begins with a dot has no extension.
  if parts.length < 2 ∨ parts.length = 2 ∧ parts.head? = some [] then none
  else FileFormat.extensions.lookup (String.ofList (← parts.getLast?))

/-- The file at a path, if there is one. -/
def fileAt? (files : FileTree) (path : String) : Option FileTree :=
  match files.lookup path with
  | .ok place => if place.tree.isDir then none else some place.tree
  | .error _ => none

/-- The configuration file with a name, and its format: the file itself, or one with the extension
of a format after the name. -/
def findFile? (files : FileTree) (name : String) : Option (FileTree × FileFormat) :=
  match fileAt? files name with
  | some file => (formatOf? name).map (file, ·)
  | none => do
    let base ← Path.withoutEnd? name
    FileFormat.extensions.findSome? fun (extension, format) =>
      (fileAt? files (base ++ "." ++ extension)).map (·, format)

/-- The configuration file that is read where no other is named. -/
def defaultFile : String := "phpsig.toml"

/-- The entries of the configuration file. Only a file that was asked for has to be there and to be
a text. -/
def fileEntries (files : FileTree) (file : Option String) : Except LoadError Entries :=
  let missing := if file.isSome then .error .unreadable else .ok []
  match findFile? files (file.getD defaultFile) with
  | some (tree, format) =>
    match tree.text with
    | .ok text => format.parse text
    | .error _ => missing
  | none => missing

/-! ## Variables -/

/-- What the names of variables for settings begin with, in lower case. -/
def variableStart : String := "phpsig_"

/-- The key of the setting that a variable is for. -/
def keyOfVariable? (name : String) : Option String :=
  let name := (Value.lowercase name).toList
  if variableStart.toList.isPrefixOf name then
    some (String.ofList (name.drop variableStart.length))
  else none

/-- The value of a variable: what its text can be read as, from the narrowest kind to the widest. -/
def valueOfVariable (key text : String) : Value :=
  match Value.lowercase text with
  | "true" => .bool true
  | "false" => .bool false
  | _ =>
    match int64OfText? text, Binary64.ofText? text with
    | some i, _ => .int i
    | none, some x => .float x
    | none, none =>
      if key = "parser_args" then
        .list ((Text.splitOn ' ' text.toList).map fun part => .text (String.ofList part))
      else .text text

/-- The entries that variables give. -/
def variableEntries (vars : List (String × String)) : Entries :=
  vars.foldl (fun entries (name, text) =>
    match keyOfVariable? name with
    | some key => entries.put key (valueOfVariable key text)
    | none => entries) []

/-! ## All together -/

/-- Entries with others given after them, whose keys may be paths. -/
def assignAll (entries given : Entries) : Except LoadError Entries :=
  given.foldlM (fun es (key, v) =>
    match assign? es key v with
    | some es => .ok es
    | none => .error .misplaced) entries

/-- The settings from variables, a configuration file and defaults. -/
def load (defaults : Settings) (files : FileTree) (vars : List (String × String))
    (file : Option String) : Except LoadError Settings := do
  let entries ← assignAll (← assignAll [] (← fileEntries files file)) (variableEntries vars)
  match ofValues? defaults fun key => entries.lookup key with
  | some s => return s.withWorkers s.maxWorkers
  | none => throw .invalid

end Settings

end SourceSig
