import SourceSig.Text.Alphanumeric
import SourceSig.Text.Lines
import SourceSig.Text.Utf8

/-!
# Files of variables

A text of lines `NAME=value`. A value may be quoted, go on over lines while a quote is open, and
refer to other variables. The first faulty line ends the text; what stands before it counts, and a
variable that is set already keeps its value. No variable can hold a null character: where a line
would set one to it, there is no result (`extend?`).
-/

namespace SourceSig.Settings.EnvFile

/-! ## Lines -/

/-- What is open at a point of a text. -/
inductive Quoting where
  | clear
  | blank
  | escape
  | single
  | singleEscape
  | double
  | doubleEscape
deriving DecidableEq

/-- What is open after one more character. -/
def Quoting.next (q : Quoting) (c : Char) : Quoting :=
  let outside : Quoting :=
    if c = '\\' then .escape
    else if c = '"' then .double
    else if c = '\x27' then .single
    else .clear
  match q with
  | .clear => if Text.isBlank c && c ≠ '\n' && c ≠ '\r' then .blank else outside
  | .blank => outside
  | .escape => .clear
  | .single => if c = '\\' then .singleEscape else if c = '\x27' then .clear else .single
  | .singleEscape => .single
  | .double => if c = '\\' then .doubleEscape else if c = '"' then .clear else .double
  | .doubleEscape => .double

/-- The part of a line before a comment, and what is open at its end; nothing is after a comment. -/
def beforeComment (q : Quoting) : List Char → List Char × Option Quoting
  | [] => ([], some q)
  | c :: cs =>
    if q = .blank ∧ c = '#' then ([], none)
    else
      let (kept, last) := beforeComment (q.next c) cs
      (c :: kept, last)

/-- A line without the characters that end it. -/
def dropLineEnd (s : List Char) : List Char :=
  match s.reverse with
  | '\n' :: '\r' :: rest => rest.reverse
  | '\n' :: rest => rest.reverse
  | _ => s

/-- Lines put together while something is open. A line that is no text is a fault, and so is an end
of the text with something open; a fault is the last element then. -/
def joinLines (begun : List Char) (q : Quoting) :
    List (Option (List Char)) → List (Option (List Char))
  | [] => if q = .clear then [] else [none]
  | none :: _ => [none]
  | some line :: rest =>
    if (Text.trimStart (begun ++ line)).head? = some '#' then some [] :: joinLines [] .clear rest
    else
      match beforeComment q line with
      | (kept, none) => some (begun ++ kept) :: joinLines [] .clear rest
      | (_, some .clear) => some (dropLineEnd (begun ++ line)) :: joinLines [] .clear rest
      | (_, some q) => joinLines (begun ++ line) q rest

/-! ## Values -/

/-- Where a value is being read. -/
inductive Mode where
  | plain
  | single
  | double
  | escape (inDouble : Bool)
  /-- After a dollar sign, and after a brace behind it. -/
  | name (braced : Bool) (soFar : List Char) (inDouble : Bool)
  /-- After a blank that ends the value. -/
  | ending
deriving DecidableEq

/-- The mode outside of escapes and names. -/
def Mode.ground (inDouble : Bool) : Mode := if inDouble then .double else .plain

/-- The character that an escape stands for. -/
def unescape? (c : Char) : Option Char :=
  if c = 'n' then some '\n'
  else if ['\\', '\x27', '"', '$', ' '].contains c then some c
  else none

/-- The text of a value, with variables looked up. -/
def value? (get : List Char → List Char) : Mode → List Char → Option (List Char)
  | .single, [] | .double, [] | .name true _ _, [] | .name _ _ true, [] | .escape true, [] => none
  | .name false soFar false, [] => some (get soFar)
  | _, [] => some []
  | .ending, c :: cs =>
    if c = ' ' ∨ c = '\t' then value? get .ending cs else if c = '#' then some [] else none
  | .escape inDouble, c :: cs => do
    return (← unescape? c) :: (← value? get (Mode.ground inDouble) cs)
  | .single, c :: cs =>
    if c = '\x27' then value? get .plain cs else (c :: ·) <$> value? get .single cs
  | .name braced soFar inDouble, c :: cs =>
    if Text.isAlphanumeric c then value? get (.name braced (soFar ++ [c]) inDouble) cs
    else if braced then
      if c = '\x7d' then (get soFar ++ ·) <$> value? get (Mode.ground inDouble) cs
      else value? get (.name true (soFar ++ [c]) inDouble) cs
    else if c = '\x7b' ∧ soFar = [] then value? get (.name true [] inDouble) cs
    else if c = '$' then (get soFar ++ ·) <$> value? get (.name false [] inDouble) cs
    else (get soFar ++ c :: ·) <$> value? get (Mode.ground inDouble) cs
  | .double, c :: cs =>
    if c = '$' then value? get (.name false [] true) cs
    else if c = '"' then value? get .plain cs
    else if c = '\\' then value? get (.escape true) cs
    else (c :: ·) <$> value? get .double cs
  | .plain, c :: cs =>
    if c = '$' then value? get (.name false [] false) cs
    else if c = '\x27' then value? get .single cs
    else if c = '"' then value? get .double cs
    else if c = '\\' then value? get (.escape false) cs
    else if c = ' ' ∨ c = '\t' then value? get .ending cs
    else (c :: ·) <$> value? get .plain cs

/-! ## Variables -/

/-- Whether the name of a variable can begin with the character. -/
def isNameStart (c : Char) : Bool := c.isAlpha || c = '_'

/-- Whether the name of a variable can go on with the character. -/
def isNamePart (c : Char) : Bool := c.isAlphanum || c = '_' || c = '.'

/-- A name at the front of a text, and the text after it and its blanks. -/
def splitName? (s : List Char) : Option (List Char × List Char) :=
  if (s.head?.map isNameStart).getD false then
    some (s.takeWhile isNamePart, Text.trimStart (s.dropWhile isNamePart))
  else none

/-- The text after an equals sign at the front. -/
def afterEquals? : List Char → Option (List Char)
  | '=' :: rest => some (Text.trimStart rest)
  | _ => none

/-- The name and the value of a line; a line may say that its variable is exported. -/
def assignment? (get : List Char → List Char) (line : List Char) :
    Option (List Char × List Char) := do
  let (name, rest) ← splitName? line
  let (name, rest) ← match afterEquals? rest with
    | some rest => some (name, rest)
    | none =>
      if name = "export".toList then do
        let (name, rest) ← splitName? rest
        return (name, ← afterEquals? rest)
      else none
  if rest = [] ∨ rest.head? = some '#' then return (name, [])
  else return (name, ← value? get .plain rest)

/-- Variables, and the values that lines gave to names, the last one first. -/
structure Progress where
  vars : List (String × String)
  given : List (String × String)

/-- The text that a name refers to: a variable, or else what a line gave it. -/
def Progress.get (p : Progress) (name : List Char) : List Char :=
  let name := String.ofList name
  (((p.vars.lookup name).orElse fun _ => p.given.lookup name).getD "").toList

/-- The variables after a line that gives a value to a name, if they can hold it. -/
def Progress.give? (p : Progress) (name value : String) : Option Progress :=
  let given := (name, value) :: p.given
  if (p.vars.lookup name).isSome then some ⟨p.vars, given⟩
  else if value.contains '\x00' then none
  else some ⟨p.vars ++ [(name, value)], given⟩

/-- The variables after the lines of a text, up to the first faulty one. -/
def Progress.read? (p : Progress) : List (Option (List Char)) → Option Progress
  | [] | none :: _ => some p
  | some line :: rest =>
    match Text.trimStart (Text.dropEndWhile Text.isBlank line) with
    | [] | '#' :: _ => p.read? rest
    | text =>
      match assignment? p.get text with
      | none => some p
      | some (name, value) =>
        match p.give? (String.ofList name) (String.ofList value) with
        | some p => p.read? rest
        | none => none

/-- The lines of a file, where a line that is no text is missing. A mark of the byte order at the
front is dropped. -/
def linesOf (content : Text.Bytes) : List (Option (List Char)) :=
  let content := match content with
    | 0xEF :: 0xBB :: 0xBF :: rest => rest
    | _ => content
  (Text.linesBy (· = 10) content).map fun line => (Text.decode? line).map String.toList

/-- The variables with those of a file added. -/
def extend? (vars : List (String × String)) (content : Text.Bytes) :
    Option (List (String × String)) :=
  (Progress.read? ⟨vars, []⟩ (joinLines [] .clear (linesOf content))).map (·.vars)

end SourceSig.Settings.EnvFile
