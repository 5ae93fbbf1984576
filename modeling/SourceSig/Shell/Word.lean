/-!
# Words of a script

A word is made of pieces: text, parameters that are replaced by their values, and scripts that are
replaced by what they write. Once that is done the word consists of parts. What was quoted stays in
one field and stands for itself in a pattern; a value outside of quotes is cut into fields at its
blanks.
-/

namespace SourceSig.Shell

/-- What a dollar sign can stand for. -/
inductive Parameter where
  /-- `0` is the name of the script, and its arguments are counted from `1`. -/
  | position (n : Nat)
  | arguments
  /-- The arguments as one text. -/
  | joined
  | count
  | status
  | process
  | named (name : String)
deriving DecidableEq, Repr

/-- What is made of the value of a parameter. Words and patterns in it are kept as they are
written. -/
inductive Use where
  | value
  | length
  /-- The value, or a word where it is not set or, if asked for, empty. -/
  | orElse (orEmpty : Bool) (word : List Char)
  /-- As `orElse`, and the word becomes the value. -/
  | orAssign (orEmpty : Bool) (word : List Char)
  /-- A word, where the value is set and, if asked for, not empty. -/
  | instead (orEmpty : Bool) (word : List Char)
  /-- The value without the shortest or the longest front that a pattern describes. -/
  | cutFront (longest : Bool) (pattern : List Char)
  | cutBack (longest : Bool) (pattern : List Char)
deriving DecidableEq, Repr

/-- A piece of a word: a text, the value of a parameter or the output of a script. -/
inductive Piece where
  | text (s : List Char) (quoted : Bool)
  | value (p : Parameter) (use : Use) (quoted : Bool)
  | output (script : List Char) (quoted : Bool)
deriving DecidableEq, Repr

/-- A word before it is expanded. -/
abbrev Word := List Piece

namespace Word

/-- The word, if no piece of it is quoted or is to be replaced. -/
def plain? (w : Word) : Option String :=
  let parts := w.mapM fun
    | Piece.text s false => some s
    | _ => none
  parts.map fun parts => String.ofList parts.flatten

/-- Whether a piece of the word is the output of a script. -/
def hasOutput (w : Word) : Bool :=
  w.any fun
    | .output _ _ => true
    | _ => false

end Word

/-! ## Parameters -/

/-- What the parameters of a script stand for. -/
structure Bindings where
  name : String
  args : List String
  status : Nat
  vars : List (String × String)

/-- The number that stands for the process that runs a script. -/
def processNumber : String := "2"

namespace Bindings

/-- The value of a parameter, if it is set. All arguments are one text here. -/
def value? (b : Bindings) : Parameter → Option String
  | .position 0 => some b.name
  | .position (n + 1) => b.args[n]?
  | .arguments | .joined => if b.args.isEmpty then none else some (" ".intercalate b.args)
  | .count => some (toString b.args.length)
  | .status => some (toString b.status)
  | .process => some processNumber
  | .named name => b.vars.lookup name

/-- The values of a parameter; all but the arguments have one. -/
def values (b : Bindings) (quoted : Bool) : Parameter → List String
  | .arguments => b.args
  | .joined => if quoted then [" ".intercalate b.args] else b.args
  | p => [(b.value? p).getD ""]

end Bindings

/-! ## Parts -/

/-- A part of a word in which nothing is to be replaced. -/
inductive Part where
  | text (s : List Char) (quoted : Bool)
  | values (vs : List String) (quoted : Bool)
deriving DecidableEq, Repr

/-- Fields that are done, and the one that is being put together, if one was begun. -/
structure Fields where
  done : List (List Char)
  current : Option (List Char)

namespace Fields

/-- The fields with a text added to the current one. -/
def add (f : Fields) (s : List Char) : Fields :=
  { f with current := some (f.current.getD [] ++ s) }

/-- The fields with the current one ended. -/
def cut (f : Fields) : Fields :=
  ⟨f.done ++ f.current.toList, none⟩

/-- Text that is cut at its blanks. -/
def addSplit (f : Fields) (s : List Char) : Fields :=
  s.foldl (fun f c => if c = ' ' ∨ c = '\t' ∨ c = '\n' then f.cut else f.add [c]) f

/-- One value after another, each begun in a field of its own but the first. -/
def addEach (add : Fields → List Char → Fields) (f : Fields) : List String → Fields
  | [] => f
  | s :: rest => rest.foldl (fun f t => add f.cut t.toList) (add f s.toList)

/-- The fields with a part added. Values that are not quoted are split at blanks. -/
def addPart (f : Fields) : Part → Fields
  | .text s _ => f.add s
  | .values vs true => addEach add f vs
  | .values vs false => addEach addSplit f vs

end Fields

namespace Part

/-- The fields that parts of a word stand for. -/
def fields (parts : List Part) : List String :=
  (parts.foldl Fields.addPart ⟨[], none⟩).cut.done.map String.ofList

/-- The characters of a word, each with whether it stands for itself in a pattern. -/
def marked (parts : List Part) : List (Char × Bool) :=
  parts.flatMap fun
    | .text s quoted => s.map (·, quoted)
    | .values vs quoted => (" ".intercalate vs).toList.map (·, quoted)

/-- The word as one text. -/
def oneText (parts : List Part) : String :=
  String.ofList ((marked parts).map (·.1))

end Part

end SourceSig.Shell
