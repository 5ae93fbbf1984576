/-!
# Why there are no settings
-/

namespace SourceSig.Settings

/-- Why settings cannot be loaded. -/
inductive LoadError where
  /-- The file is missing, has no known format or is not written in it. -/
  | unreadable
  /-- A value is of the wrong kind or out of range. -/
  | invalid
  /-- A key has no place in a table or a list, on which the whole run breaks off. -/
  | misplaced
deriving DecidableEq, Repr

/-- What is said about settings that cannot be loaded. -/
def LoadError.message : LoadError → String
  | .unreadable => "Failed to read configuration"
  | .invalid => "Invalid configuration"
  | .misplaced => "Misplaced configuration"

end SourceSig.Settings
