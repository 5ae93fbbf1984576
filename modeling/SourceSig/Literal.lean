import SourceSig.Digest
import SourceSig.Json.Basic
import SourceSig.Scope

/-!
# Literals

The text of a constant expression. Scalars, constants and class constants are spelled out, and
every other expression is an opaque token with its tag and its digest.
-/

namespace SourceSig

/-- The token of an expression that is not spelled out. -/
def Node.opaqueToken (n : Node) : String :=
  "<" ++ n.tag ++ " " ++ (Digest.ofNode n).hex ++ ">"

/-- A scalar as JSON has it; anything but a scalar is `null`. -/
def scalarText : Option Value → String
  | some (.int i) => toString i.toInt
  | some (.float x) => Json.writeFloat x
  | some (.str s) => Text.quote s
  | some (.bool b) => if b then "true" else "false"
  | _ => "null"

/-- The parts of a constant's name, divided by a mark that no namespace contains. -/
def constantText (n : Node) : String :=
  "??".intercalate (((n.child "name").map Node.nameParts).getD [])

/-- The text of a class in front of one of its constants; an absent class has none. -/
def Scope.classPrefix (scope : Scope) : Option Node → Except Unsupported String
  | some cls => scope.classReference cls
  | none => .ok ""

/-- Whether a constant expression is spelled out, and not an opaque token. -/
def Kind.isSpelledOut : Kind → Bool
  | .intLiteral | .floatLiteral | .stringLiteral | .constFetch | .classConstFetch => true
  | _ => false

/-- The text of a constant expression. -/
def Scope.literal (scope : Scope) (n : Node) : Except Unsupported String :=
  match n.kind with
  | .intLiteral | .floatLiteral | .stringLiteral => .ok (scalarText (n.field "value"))
  | .constFetch => .ok (constantText n)
  | .classConstFetch => do
    let cls ← scope.classPrefix (n.child "class")
    return cls ++ "::" ++ (n.identifier? "name").getD ""
  | _ => .ok n.opaqueToken

/-- The text of an expression that may be absent, which is then empty. -/
def Scope.literal? (scope : Scope) : Option Node → Except Unsupported String
  | some n => scope.literal n
  | none => .ok ""

end SourceSig
