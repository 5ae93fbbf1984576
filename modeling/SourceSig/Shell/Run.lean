import SourceSig.Loader
import SourceSig.Shell.Pattern
import SourceSig.Shell.State

/-!
# Running scripts

Scripts run on a tree of files without a process being started. Words may hold scripts, so a script
is run to a depth of nesting, for which the length of its text is enough. `host` is the host whose
programs are the shell and those that it knows; every other program is missing.
-/

namespace SourceSig.Shell

open Text (Bytes)

/-! ## Programs -/

/-- The name of a program without the directory that programs are looked for in. -/
def bareName (invoked : String) : String :=
  match ["/bin/", "/usr/bin/"].find? fun dir => dir.toList.isPrefixOf invoked.toList with
  | some dir => String.ofList (invoked.toList.drop dir.length)
  | none => invoked

/-- Whether a program can be found by a name. A name without directory is looked for in those that a
variable lists, if there is one. -/
def isFindable (vars : List (String × String)) (name : String) : Bool :=
  name.contains '/' ||
    match vars.lookup "PATH" with
    | some dirs =>
      (Text.splitOn ':' dirs.toList).any fun dir =>
        ["/bin", "/usr/bin", "/bin/", "/usr/bin/"].contains (String.ofList dir)
    | none => true

/-- The effect of a program that is no command of the shell itself. -/
def external (s : Setting) (σ : State) (name : String) (args : List String) : Effect :=
  match if isFindable σ.vars name then bareName name else "" with
  | "cat" => Cat.run σ.place s.input args
  | "sleep" => Sleep.run args
  | _ =>
    if name.contains '/' && (σ.place.lookup name).isOk then
      .complaint 126 (s.message (name ++ ": Permission denied"))
    else .complaint 127 (s.message (name ++ ": not found"))

/-! ## Commands of the shell -/

/-- The state after a fault in a command of the shell. -/
def fault (s : Setting) (σ : State) (status : Nat) (text : String) : State :=
  σ.after s (.complaint status (s.message text))

/-- The command `exit`, by default with the last status. -/
def exitCommand (s : Setting) (σ : State) : List String → State
  | [] => σ.exit σ.status
  | n :: _ =>
    match natOfText? n.toList with
    | some status => σ.exit status
    | none => (fault s σ 2 ("exit: Illegal number: " ++ n)).exit 2

/-- The command `shift`, by default by one argument. -/
def shiftCommand (s : Setting) (σ : State) (args : List String) : State :=
  let n := (args.head?.bind fun n => natOfText? n.toList).getD 1
  if σ.args.length < n then (fault s σ 2 "shift: can't shift that many").exit 2
  else { σ with args := σ.args.drop n, status := 0 }

/-- Options of the shell, and new arguments. -/
def setCommand (σ : State) : List String → State
  | [] => σ.withStatus 0
  | "--" :: args => { σ with args := args, status := 0 }
  | "-e" :: rest => setCommand { σ with strict := true } rest
  | "+e" :: rest => setCommand { σ with strict := false } rest
  | arg :: rest =>
    if arg.toList.head? = some '-' then setCommand σ rest
    else { σ with args := arg :: rest, status := 0 }

/-- The command `cd`, which does nothing unless it has exactly one argument. -/
def cdCommand (s : Setting) (σ : State) (args : List String) : State :=
  match args with
  | [dir] =>
    match σ.place.lookup dir with
    | .ok place =>
      if place.tree.isDir then { σ with place := place, status := 0 }
      else fault s σ 2 ("cd: can't cd to " ++ dir)
    | .error _ => fault s σ 2 ("cd: can't cd to " ++ dir)
  | _ => σ.withStatus 0

/-- Variables with values, or without any, which changes nothing. -/
def exportCommand (σ : State) (args : List String) : State :=
  (args.foldl (fun σ arg =>
    match arg.toList.dropWhile (· ≠ '=') with
    | _ :: value => σ.assign (String.ofList (arg.toList.takeWhile (· ≠ '='))) (String.ofList value)
    | [] => σ) σ).withStatus 0

/-- The command `kill`, which knows no other process than the script itself. -/
def killCommand (σ : State) (args : List String) : State :=
  if !args.contains processNumber then σ.withStatus 1
  else if args.contains "-0" then σ.withStatus 0
  -- A script that is killed ends with the number of the signal and 128.
  else σ.exit 137

/-- A call of a program or of a command of the shell. -/
def call (s : Setting) (σ : State) : List String → State
  | [] => σ.withStatus 0
  | name :: args =>
    match name with
    | "exit" => exitCommand s σ args
    | ":" | "true" => σ.withStatus 0
    | "false" => σ.withStatus 1
    | "echo" => σ.after s (echo args)
    | "printf" => σ.after s (printf args)
    | "test" => σ.after s (test σ.place args)
    | "[" =>
      if args.getLast? = some "]" then σ.after s (test σ.place args.dropLast)
      else fault s σ 2 "[: missing ]"
    | "kill" => killCommand σ args
    | "shift" => shiftCommand s σ args
    | "set" => setCommand σ args
    | "cd" => cdCommand s σ args
    | "export" => exportCommand σ args
    | "unset" => { σ with vars := σ.vars.filter fun v => !args.contains v.1, status := 0 }
    | _ => σ.after s (external s σ name args)

/-- A call, where `exec` makes it the last one. -/
def callLast (s : Setting) (σ : State) : List String → State
  | "exec" :: words =>
    if words.isEmpty then σ.withStatus 0
    else let τ := call s σ words; τ.exit τ.status
  | "command" :: words => call s σ words
  | words => call s σ words

/-! ## Words -/

/-- How what is written inside of a word is replaced: a script by what it writes, and a word by its
parts. -/
structure Inside where
  script : Setting → List Char → State → List Char × State
  word : Setting → List Char → State → List Part × State

/-- The parts of a word that takes the place of a value. -/
def Part.inPlace (quoted : Bool) (parts : List Part) : List Part :=
  if quoted then [.text (oneText parts).toList true]
  else
    parts.map fun
      | .text s false => .values [String.ofList s] false
      | part => part

/-- A value without a front that a pattern describes. -/
def cutFront (longest : Bool) (pattern : List Glob) (s : List Char) : List Char :=
  let lengths := List.range (s.length + 1)
  let lengths := if longest then lengths.reverse else lengths
  s.drop ((lengths.find? fun n => Glob.accepts pattern (s.take n)).getD 0)

/-- A value without an end that a pattern describes. -/
def cutBack (longest : Bool) (pattern : List Glob) (s : List Char) : List Char :=
  let lengths := List.range (s.length + 1)
  let lengths := if longest then lengths else lengths.reverse
  s.take ((lengths.find? fun n => Glob.accepts pattern (s.drop n)).getD s.length)

/-- Whether a value is missing, where an empty one may count as missing. -/
def isMissing (orEmpty : Bool) : Option String → Bool
  | some v => orEmpty && v = ""
  | none => true

/-- The parts of a parameter that is used in some way. -/
def valueParts (inside : Inside) (s : Setting) (σ : State) (p : Parameter) (quoted : Bool) :
    Use → List Part × State
  | .value => ([.values ((σ.bindings s).values quoted p) quoted], σ)
  | .length => ([.text (toString (value.getD "").utf8ByteSize).toList quoted], σ)
  | .orElse orEmpty word =>
    if isMissing orEmpty value then
      let (parts, σ) := inside.word s word σ
      (Part.inPlace quoted parts, σ)
    else whole
  | .orAssign orEmpty word =>
    if isMissing orEmpty value then
      let (parts, σ) := inside.word s word σ
      let σ := match p with
        | .named name => σ.assign name (Part.oneText parts)
        | _ => σ
      (Part.inPlace quoted parts, σ)
    else whole
  | .instead orEmpty word =>
    if isMissing orEmpty value then ([.values [""] quoted], σ)
    else
      let (parts, σ) := inside.word s word σ
      (Part.inPlace quoted parts, σ)
  | .cutFront longest pattern => cut (cutFront longest) pattern
  | .cutBack longest pattern => cut (cutBack longest) pattern
where
  value : Option String := (σ.bindings s).value? p
  whole : List Part × State := ([.values ((σ.bindings s).values quoted p) quoted], σ)
  cut (f : List Glob → List Char → List Char) (pattern : List Char) : List Part × State :=
    let (parts, σ) := inside.word s pattern σ
    let left := f (Glob.ofMarked (Part.marked parts)) (value.getD "").toList
    ([.values [String.ofList left] quoted], σ)

/-- The parts that a piece of a word expands to. -/
def pieceParts (inside : Inside) (s : Setting) (σ : State) : Piece → List Part × State
  | .text t quoted => ([.text t quoted], σ)
  | .value p use quoted => valueParts inside s σ p quoted use
  | .output script quoted =>
    let (written, σ) := inside.script s script σ
    ([.values [String.ofList written] quoted], σ)

/-- The parts of a word. -/
def wordParts (inside : Inside) (s : Setting) (w : Word) (σ : State) : List Part × State :=
  w.foldl (fun (parts, σ) piece =>
    let (more, σ) := pieceParts inside s σ piece
    (parts ++ more, σ)) ([], σ)

/-- The fields of words, one word after another. -/
def wordFields (inside : Inside) (s : Setting) (words : List Word) (σ : State) :
    List String × State :=
  words.foldl (fun (fields, σ) w =>
    let (parts, σ) := wordParts inside s w σ
    (fields ++ Part.fields parts, σ)) ([], σ)

/-! ## Scripts -/

/-- The setting inside a redirection. Only the input can come from a file. -/
def redirected (inside : Inside) (s : Setting) (σ : State) :
    Redirect → Except String Setting × State
  | .follow stream target => (.ok (s.withSink stream (s.sink target)), σ)
  | .write stream target =>
    let (parts, σ) := wordParts inside s target σ
    (.ok (s.withSink stream (match Part.oneText parts with
      | "/dev/stdout" => s.output
      | "/dev/stderr" => s.errors
      | _ => .nowhere)), σ)
  | .here content =>
    let (parts, σ) := wordParts inside s content σ
    (.ok { s with input := Text.encode (Part.oneText parts) }, σ)
  | .read source =>
    let (parts, σ) := wordParts inside s source σ
    let name := Part.oneText parts
    if name = "/dev/null" then (.ok { s with input := [] }, σ)
    else
      match σ.place.contentAt name with
      | .ok content => (.ok { s with input := content }, σ)
      | .error .isADirectory => (.ok { s with input := [] }, σ)
      | .error _ => (.error (s.message ("cannot open " ++ name ++ ": No such file")), σ)

/-- Whether one of the patterns describes the subject of a choice. -/
def isChosen (inside : Inside) (s : Setting) (σ : State) (subject : Word) (patterns : List Word) :
    Bool :=
  let text := (Part.oneText (wordParts inside s subject σ).1).toList
  patterns.any fun p => Glob.accepts (Glob.ofMarked (Part.marked (wordParts inside s p σ).1)) text

/-- The state after a script. A script that has ended does nothing more. -/
def run (inside : Inside) (s : Setting) : Script → State → State
  | .nothing, σ => σ.withStatus 0
  | .call words, σ =>
    let (fields, σ) := wordFields inside s words σ
    (callLast s σ fields).checked s
  | .assign name value, σ =>
    let (parts, τ) := wordParts inside s value σ
    let status := if value.hasOutput then τ.status else 0
    ((τ.assign name (Part.oneText parts)).withStatus status).checked s
  | .redirect r body, σ =>
    match redirected inside s σ r with
    | (.ok inner, σ) => run inside inner body σ
    | (.error message, σ) => (σ.after s (.complaint 2 message)).checked s
  | .isolate body, σ => ((run inside s body σ).leave σ).checked s
  | .negate body, σ =>
    let τ := run inside { s with tested := true } body σ
    if τ.ended then τ else τ.withStatus (if τ.status = 0 then 1 else 0)
  | .pipe first second, σ =>
    let τ := run inside { s with output := .pipe, tested := true } first { σ with piped := [] }
    -- Both parts run at the same time.
    let υ := run inside { s with input := τ.piped } second
      { τ.leave σ with piped := σ.piped, millis := σ.millis }
    ({ υ.leave σ with millis := max τ.millis υ.millis }).checked s
  | .seq first second, σ =>
    let τ := run inside s first σ
    if τ.ended then τ else run inside s second τ
  | .both first second, σ =>
    let τ := run inside { s with tested := true } first σ
    if τ.ended || τ.status ≠ 0 then τ else run inside s second τ
  | .either first second, σ =>
    let τ := run inside { s with tested := true } first σ
    if τ.ended || τ.status = 0 then τ else run inside s second τ
  | .branch condition yes no, σ =>
    let τ := run inside { s with tested := true } condition σ
    if τ.ended then τ else if τ.status = 0 then run inside s yes τ else run inside s no τ
  | .choose subject patterns body others, σ =>
    if isChosen inside s σ subject patterns then run inside s body σ else run inside s others σ
  | .each name words body, σ =>
    let (fields, σ) := wordFields inside s words σ
    fields.foldl (fun σ field => if σ.ended then σ else run inside s body (σ.assign name field))
      (σ.withStatus 0)

/-- What a script inside of a word wrote, without the line ends at its end. -/
def captured (inside : Inside) (s : Setting) (text : List Char) (σ : State) : List Char × State :=
  match Script.ofText? (String.ofList text) with
  | some script =>
    let τ := run inside { s with output := .pipe } script { σ with piped := [] }
    (Text.dropEndWhile (· = '\n') (Text.decodeLossy τ.piped).toList,
      { τ.leave σ with piped := σ.piped })
  | none => ([], fault s σ 2 "Syntax error")

/-- The replacement inside of words to a depth of nesting. -/
def insideAt : Nat → Inside
  | 0 => ⟨fun _ _ σ => ([], σ), fun _ _ σ => ([], σ)⟩
  | depth + 1 =>
    ⟨captured (insideAt depth),
      fun s text σ => wordParts (insideAt depth) s (Script.looseWord text) σ⟩

/-! ## The host -/

/-- How the script of a text ends, for a script with a name and arguments. -/
def runText (files : FileTree) (vars : List (String × String)) (name : String)
    (args : List String) (text : String) : Effect :=
  let s : Setting := ⟨name, [], .output, .errors, false⟩
  match Script.ofText? text with
  | some script =>
    let σ := run (insideAt text.length) s script (.start files vars args)
    ⟨σ.output, σ.errors, σ.status, σ.millis⟩
  | none => .complaint 2 (s.message "Syntax error")

/-- The shell: a script as an argument, or the name of a file that holds one. -/
def shell (files : FileTree) (vars : List (String × String)) (invoked : String) :
    List String → Effect
  | ["-c"] => .complaint 2 (invoked ++ ": 0: -c requires an argument")
  | "-c" :: text :: words => runText files vars (words.headD invoked) (words.drop 1) text
  | [] => .ofStatus 0
  | file :: args =>
    match files.contentAt file with
    | .ok content => runText files vars file args (Text.decodeLossy content)
    | .error _ => .complaint 2 (invoked ++ ": 0: cannot open " ++ file ++ ": No such file")

/-- The programs that are found by their names. -/
def program? (files : FileTree) (vars : List (String × String)) (invoked : String) :
    Option (List String → Effect) :=
  match if isFindable vars invoked then bareName invoked else "" with
  | "sh" | "dash" => some (shell files vars invoked)
  | "cat" => some (Cat.run ⟨files, []⟩ [])
  | "sleep" => some Sleep.run
  | "true" => some fun _ => .ofStatus 0
  | "false" => some fun _ => .ofStatus 1
  | "echo" => some fun args => .ofOutput (Text.encode (" ".intercalate args ++ "\n"))
  | "printf" => some printf
  | _ => none

/-- Why a program that is not known cannot be run: a file of the tree holds none. -/
def refusal (files : FileTree) (program : String) : IoError :=
  if program.contains '/' then
    match files.lookup program with
    | .ok _ => .permissionDenied
    | .error cause => cause
  else if program = "." ∨ program = ".." then .permissionDenied
  else FileTree.missingCause program

/-- How many milliseconds it takes at least to run a program. -/
def startMillis : Nat := 1

/-- The host with the given files and variables, on which no process is started. -/
def host (files : FileTree) (vars : List (String × String)) : Host where
  files := files
  run program args :=
    if (program :: args).any (·.contains '\x00') then .error .nulInArgument
    else
      match program? files vars program with
      | some f =>
        let e := f args
        .ok ⟨e.status = 0, e.output, e.errors, startMillis + e.millis⟩
      | none => .error (refusal files program)

end SourceSig.Shell
