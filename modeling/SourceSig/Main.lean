import SourceSig.CommandLine
import SourceSig.Shell.Run

/-!
# The program

The files of the working directory are read, the rest is `CommandLine.run`. Parsers are run by the
library's own shell, so no process is started, and there is no network to serve on.
-/

namespace SourceSig

/-- The files under an entry of a directory. What cannot be read is left out. -/
partial def readEntry (entry : IO.FS.DirEntry) : IO (Option (String × FileTree)) := do
  try
    if (← entry.path.symlinkMetadata).type == .dir then
      let entries ← (← entry.path.readDir).toList.filterMapM readEntry
      return some (entry.fileName, .dir entries)
    else
      let content ← IO.FS.readBinFile entry.path
      return some (entry.fileName, .file content.toList)
  catch _ => return none

/-- The names of the variables that settings are taken from. -/
def variableNames : List String :=
  ["PARSER_COMMAND", "PARSER_ARGS", "FILE_EXTENSION", "IGNORE_FILE_NAME", "MAX_WORKERS",
    "FILE_TIMEOUT_SECS", "PORT", "LOG_FORMAT"].map ("PHPSIG_" ++ ·)

/-- The number of workers where nothing says how many. -/
def defaultWorkers : Nat := 4

end SourceSig

open SourceSig in
/-- The program: it reads the tree of files and the variables, and does what the command line says.
-/
def main (args : List String) : IO UInt32 := do
  let files := (← readEntry ⟨← IO.currentDir, "."⟩).elim FileTree.empty (·.2)
  let vars ← variableNames.filterMapM fun name => do
    return (← IO.getEnv name).map (name, ·)
  match CommandLine.run (.defaults defaultWorkers) (Shell.host files) files vars args with
  | .answers a =>
    IO.print a.output
    if let some complaint := a.complaint then IO.eprintln complaint
    return UInt32.ofNat a.status
  | .serves _ =>
    IO.eprintln "Error: there is no network to serve on"
    return 1
