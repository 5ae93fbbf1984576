import SourceSig.Unsupported

/-!
# Failures

Why a file has no signature. A failure is that of one file and never of a whole run.
-/

namespace SourceSig

/-- Why a file could not be read. -/
inductive IoError where
  | notFound
  | notADirectory
  | isADirectory
  | permissionDenied
  | nameTooLong
  | nulInName
  | nulInArgument
  | notUtf8
  | other (text : String)
deriving DecidableEq, Repr

/-- The words of the operating system for a fault. -/
def IoError.message : IoError → String
  | .notFound => "No such file or directory (os error 2)"
  | .notADirectory => "Not a directory (os error 20)"
  | .isADirectory => "Is a directory (os error 21)"
  | .permissionDenied => "Permission denied (os error 13)"
  | .nameTooLong => "File name too long (os error 36)"
  | .nulInName => "file name contained an unexpected NUL byte"
  | .nulInArgument => "nul byte found in provided data"
  | .notUtf8 => "stream did not contain valid UTF-8"
  | .other text => text

/-- Why a file has no signature. -/
inductive Failure where
  /-- The file is missing or cannot be read. -/
  | unreadable (path : String) (cause : IoError)
  /-- The file has no syntax tree. -/
  | unparsable (file message : String) (line : Option UInt32)
  | unsupported (fault : Unsupported)
  /-- The file was given up after its time was over. -/
  | timedOut (file : String) (seconds : Nat)
  /-- The worker of the file ended without an answer. -/
  | workerLost (file message : String)
deriving DecidableEq, Repr

namespace Failure

/-- What is said about a failure. -/
def message : Failure → String
  | .unreadable path cause => "File " ++ path ++ " is not readable: " ++ cause.message
  | .unparsable file message _ => "Failed to parse file: " ++ file ++ ": " ++ message
  | .unsupported fault => fault.message
  | .timedOut file seconds =>
    "Timed out after " ++ toString seconds ++ "s processing " ++ file
  | .workerLost file message => "Worker failed processing " ++ file ++ ": " ++ message

/-- The line of the source that the failure points at. -/
def line : Failure → Option UInt32
  | .unparsable _ _ line => line
  | .unsupported fault => fault.line
  | _ => none

end Failure

end SourceSig
