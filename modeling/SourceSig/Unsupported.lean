import SourceSig.Tree.Basic

/-!
# Unsupported constructs

A declaration whose shape a signature cannot express. The fault names what was being read and the
node that stood in its way.
-/

namespace SourceSig

/-- What was being read when an unexpected node was met. -/
inductive Construct where
  | parameter
  | parameterVariable
  | parameterWithoutName
  | parameterType
  | nullableType
  | classReference
  | variableClassReference
  | methodName
  | constantName
  | propertyName
  | classMember
deriving DecidableEq, Repr

/-- What a construct is called in messages. -/
def Construct.describe : Construct → String
  | .parameter => "parameter"
  | .parameterVariable => "parameter variable"
  | .parameterWithoutName => "parameter without name"
  | .parameterType => "parameter type"
  | .nullableType => "nullable type"
  | .classReference => "class reference"
  | .variableClassReference => "variable class reference"
  | .methodName => "method name"
  | .constantName => "constant name"
  | .propertyName => "property name"
  | .classMember => "class member"

/-- A construct, with the tag and the line of the node that it could not be read from. -/
structure Unsupported where
  construct : Construct
  tag : String
  line : Option UInt32
deriving DecidableEq, Repr

namespace Unsupported

/-- The fault of finding `n` in place of a construct. -/
def of (construct : Construct) (n : Node) : Unsupported :=
  ⟨construct, n.tag, n.line⟩

/-- What is said about a node that no signature expresses. -/
def message (u : Unsupported) : String :=
  "Unsupported " ++ u.construct.describe ++ ": " ++ u.tag

end Unsupported

end SourceSig
