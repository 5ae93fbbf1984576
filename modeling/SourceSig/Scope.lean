import SourceSig.Unsupported

/-!
# Namespace scopes

The namespace that a declaration stands in, and how names are qualified by it.
-/

namespace SourceSig

/-- A namespace; `none` is the global one. -/
structure Scope where
  name : Option String
deriving DecidableEq, Repr

namespace Scope

/-- The scope outside all namespaces. -/
def global : Scope := ⟨none⟩

/-- The namespace of that name. The empty name is the global namespace. -/
def named (name : String) : Scope :=
  if name = "" then global else ⟨some name⟩

/-- The scope inside a namespace statement. -/
def ofNamespace (n : Node) : Scope :=
  match n.child "name" with
  | some name => named name.joinedName
  | none => global

/-- The absolute form of a name that is relative to the scope. -/
def qualify (scope : Scope) (name : String) : String :=
  match scope.name with
  | some ns => "\\" ++ ns ++ "\\" ++ name
  | none => "\\" ++ name

/-- The text of a reference to a class. Plain and relative names are qualified, a fully qualified
name is kept, and a variable is shown by its name. -/
def classReference (scope : Scope) (n : Node) : Except Unsupported String :=
  match n.kind with
  | .name | .relativeName => .ok (scope.qualify n.joinedName)
  | .fullyQualifiedName => .ok ("\\" ++ n.joinedName)
  | .variableExpr =>
    match n.text "name" with
    | some name => .ok ("$" ++ name)
    | none => .error (.of .variableClassReference n)
  | _ => .error (.of .classReference n)

end Scope

end SourceSig
