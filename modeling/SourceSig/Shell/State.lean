import SourceSig.Shell.Program
import SourceSig.Shell.Script

/-!
# The state of a script

What a script has written, and what its commands change: variables, arguments, the directory and the
time. Streams and other things that hold for a part of a script are its `Setting`.
-/

namespace SourceSig.Shell

open FileTree (Place)
open Text (Bytes)

/-- Where what is written to a stream goes. -/
inductive Sink where
  | output
  | errors
  | pipe
  | nowhere
deriving DecidableEq

/-- What a command is run with. -/
structure Setting where
  name : String
  input : Bytes
  output : Sink
  errors : Sink
  /-- Whether the status of a command decides what is done next. -/
  tested : Bool

/-- What has been written, how the last command ended, and what commands have changed. -/
structure State where
  output : Bytes
  errors : Bytes
  piped : Bytes
  status : Nat
  ended : Bool
  vars : List (String × String)
  args : List String
  place : Place
  /-- Whether a failure ends the script where its status decides nothing. -/
  strict : Bool
  /-- How many milliseconds have passed. -/
  millis : Nat

namespace State

/-- The state in which a script starts. -/
def start (files : FileTree) (vars : List (String × String)) (args : List String) : State where
  output := []
  errors := []
  piped := []
  status := 0
  ended := false
  vars := vars
  args := args
  place := ⟨files, []⟩
  strict := false
  millis := 0

/-- The state after some bytes were written to a sink. -/
def write (σ : State) (bytes : Bytes) : Sink → State
  | .output => { σ with output := σ.output ++ bytes }
  | .errors => { σ with errors := σ.errors ++ bytes }
  | .pipe => { σ with piped := σ.piped ++ bytes }
  | .nowhere => σ

/-- What the parameters of a word stand for in a state. -/
def bindings (σ : State) (s : Setting) : Bindings := ⟨s.name, σ.args, σ.status, σ.vars⟩

/-- The state with a new value of a variable. -/
def assign (σ : State) (name value : String) : State :=
  { σ with vars := (name, value) :: σ.vars.filter (·.1 ≠ name) }

/-- The state after the effect of a program. -/
def after (σ : State) (s : Setting) (e : Effect) : State :=
  { (σ.write e.output s.output).write e.errors s.errors with
    status := e.status
    millis := σ.millis + e.millis }

/-- The state with the status of the last command. -/
def withStatus (σ : State) (status : Nat) : State := { σ with status := status }

/-- The state after the script has ended with a status. -/
def exit (σ : State) (status : Nat) : State := { σ with status := status % 256, ended := true }

/-- The state after a command, which ends a strict script by a failure. -/
def checked (σ : State) (s : Setting) : State :=
  if σ.strict && !s.tested && σ.status ≠ 0 && !σ.ended then σ.exit σ.status else σ

/-- The state after something that ran apart: what it wrote and the time it took are kept, and how
it ended. -/
def leave (inner outer : State) : State :=
  { outer with
    output := inner.output
    errors := inner.errors
    piped := inner.piped
    status := inner.status
    millis := inner.millis }

end State

namespace Setting

/-- The sink of a stream by its number. -/
def sink (s : Setting) (stream : Nat) : Sink :=
  if stream = 1 then s.output else if stream = 2 then s.errors else .nowhere

/-- The setting in which a stream goes to the sink. Other streams than the output and the errors are
not followed. -/
def withSink (s : Setting) (stream : Nat) (sink : Sink) : Setting :=
  if stream = 1 then { s with output := sink }
  else if stream = 2 then { s with errors := sink }
  else s

/-- A message of the shell about its script. -/
def message (s : Setting) (text : String) : String := s.name ++ ": 1: " ++ text

end Setting

end SourceSig.Shell
