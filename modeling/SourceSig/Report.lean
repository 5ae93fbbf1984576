import SourceSig.Failure

/-!
# Reports

The outcome of one file, and the text of a whole run: one section for each file.
-/

namespace SourceSig

/-- The path of a file with its signature, or with why it has none. -/
structure Report where
  path : String
  outcome : Except Failure String

namespace Report

/-- Whether the file has a signature. -/
def isOk (r : Report) : Bool :=
  match r.outcome with
  | .ok _ => true
  | .error _ => false

/-- A heading and the signature, or one message with the line it points at. -/
def text (r : Report) : String :=
  match r.outcome with
  | .ok signature => "# " ++ r.path ++ "\n\n" ++ signature ++ "\n"
  | .error failure =>
    "ERROR: " ++ failure.message ++ " IN " ++ r.path ++ "#" ++
      toString ((failure.line.map UInt32.toNat).getD 0)

/-- The sections of several files, each ended by a line feed. -/
def listText (reports : List Report) : String :=
  String.join (reports.map fun r => r.text ++ "\n")

end Report

end SourceSig
