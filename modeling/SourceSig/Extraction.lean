import SourceSig.Signature

/-!
# Extraction

The walk over the statements of a file that builds its signature. Declarations are found at any
block depth, but never inside the bodies of functions and methods. The scope is passed down, so a
namespace ends where its statement ends. The first construct that is not supported ends the walk.
-/

namespace SourceSig

/-- The modifiers of a node, from `flags` or, in older dumps, from `type`. -/
def Node.modifiers (n : Node) : Modifiers :=
  ⟨((n.int "flags").or (n.int "type")).getD 0⟩

/-- The name that a node declares, if it declares one. -/
def Node.declaredName? (n : Node) : Option String :=
  (n.identifier? "name").bind nonEmpty

/-- The identifier in the field `name`, which a member cannot do without. -/
def Node.memberName (n : Node) (construct : Construct) : Except Unsupported String :=
  match n.identifier? "name" with
  | some name => .ok name
  | none => .error (.of construct n)

/-- The arguments of a call. -/
def Node.arguments (n : Node) : List Node :=
  (n.children "args").filter (·.kind = .arg)

/-- Whether a call is a call of `define`, in any case of letters. -/
def Node.callsDefine (n : Node) : Bool :=
  match n.child "name" with
  | some callee =>
    callee.kind.isName &&
      match callee.nameParts with
      | [part] => part.toList.map Char.toLower == "define".toList
      | _ => false
  | none => false

/-- The name that a call of `define` introduces, if its first argument is a string. -/
def Node.definedName? (call : Node) : Option String :=
  match call.arguments with
  | [] => none
  | arg :: _ =>
    match arg.child "value" with
    | some v => if v.kind = .stringLiteral then v.text "value" else none
    | none => none

namespace Scope

/-! ## Members -/

/-- The class-like with the method that a node declares. -/
def addMethod (scope : Scope) (n : Node) (c : ClassLike) : Except Unsupported ClassLike := do
  let name ← n.memberName .methodName
  let params ← Parameter.ofItems scope (n.items "params")
  let body := (n.field "stmts").map fun v => Digest.ofValue (some v)
  return c.addMethod n.modifiers name params body

/-- The class-like with the constant that a node declares. -/
def addConstant (scope : Scope) (c : ClassLike) (n : Node) : Except Unsupported ClassLike := do
  let name ← n.memberName .constantName
  let value ← scope.literal? (n.child "value")
  return c.addConstant name value

/-- The class-like with the property that a node declares, under the modifiers of the statement
around it. -/
def addProperty (scope : Scope) (modifiers : Modifiers) (c : ClassLike) (n : Node) :
    Except Unsupported ClassLike := do
  let name ← n.memberName .propertyName
  let default ← scope.literal? (n.child "default")
  return c.addProperty modifiers name (some default)

/-- Adds what one statement in the body of a class-like declares. -/
def addMember (scope : Scope) (c : ClassLike) (n : Node) : Except Unsupported ClassLike :=
  match n.kind with
  | .method => scope.addMethod n c
  | .classConst => (n.children "consts").foldlM scope.addConstant c
  | .property => (n.children "props").foldlM (scope.addProperty n.modifiers) c
  | .nop => .ok c
  | _ => .error (.of .classMember n)

/-! ## Declarations -/

/-- The function that a node declares; a function without name declares nothing. -/
def function? (scope : Scope) (n : Node) : Except Unsupported (Option Function) :=
  match n.declaredName? with
  | none => .ok none
  | some name => do
    let params ← Parameter.ofItems scope (n.items "params")
    return some ⟨scope.qualify name, params, Digest.ofValue (n.field "stmts")⟩

/-- The class-like with the given header and the members in the body of a node. -/
def classLike (scope : Scope) (n : Node) (flavour : Flavour) (name : String)
    (parents interfaces : List Node) : Except Unsupported ClassLike := do
  let parents ← parents.mapM scope.classReference
  let interfaces ← interfaces.mapM scope.classReference
  (n.children "stmts").foldlM scope.addMember
    (ClassLike.empty flavour (scope.qualify name) parents interfaces)

/-- The interface that a node declares. -/
def interface? (scope : Scope) (n : Node) : Except Unsupported (Option ClassLike) :=
  match n.declaredName? with
  | none => .ok none
  | some name => do
    return some (← scope.classLike n .interface name (n.children "extends") [])

/-- The class that a node declares; an anonymous class declares nothing. -/
def class? (scope : Scope) (n : Node) : Except Unsupported (Option ClassLike) :=
  match n.declaredName? with
  | none => .ok none
  | some name => do
    let flavour : Flavour := if n.modifiers.isAbstract then .abstractClass else .concreteClass
    let parents := (n.child "extends").toList
    return some (← scope.classLike n flavour name parents (n.children "implements"))

/-- The trait that a node declares. -/
def trait? (scope : Scope) (n : Node) : Except Unsupported (Option ClassLike) :=
  match n.declaredName? with
  | none => .ok none
  | some name => do return some (← scope.classLike n .traitDecl name [] [])

/-- The constant that a call introduces. -/
def define? (scope : Scope) (n : Node) : Except Unsupported (Option Define) :=
  match n.callsDefine, n.definedName? with
  | true, some name => do
    let value ← scope.literal? ((n.arguments.drop 1).head?.bind (·.child "value"))
    return some ⟨name, value⟩
  | _, _ => .ok none

end Scope

/-! ## The walk -/

namespace Signature

/-- The signature with a function added, if there is one. -/
def addFunction? (s : Signature) : Option Function → Signature
  | some f => s.addFunction f
  | none => s

/-- The signature with a class-like added, if there is one. -/
def addClassLike? (s : Signature) : Option ClassLike → Signature
  | some c => s.addClassLike c
  | none => s

/-- The signature with a constant added, if there is one. -/
def addDefine? (s : Signature) : Option Define → Signature
  | some d => s.addDefine d
  | none => s

/-- Whether a child in a field is searched for declarations. -/
def isSearched (field : String) (n : Node) : Bool :=
  field == "stmts" || "Stmt_".toList.isPrefixOf n.tag.toList

mutual

/-- The signature with the declarations of one statement added. -/
def visit (scope : Scope) (s : Signature) : Node → Except Unsupported Signature
  | ⟨tag, fields, lines⟩ =>
    let n : Node := ⟨tag, fields, lines⟩
    match n.kind with
    | .namespaceStmt => visitFields (.ofNamespace n) s fields
    | .function => return s.addFunction? (← scope.function? n)
    | .interface => return s.addClassLike? (← scope.interface? n)
    | .classStmt => return s.addClassLike? (← scope.class? n)
    | .traitStmt => return s.addClassLike? (← scope.trait? n)
    | .expression =>
      match n.child "expr" with
      | some e => if e.kind = .call then return s.addDefine? (← scope.define? e) else .ok s
      | none => .ok s
    | .call => return s.addDefine? (← scope.define? n)
    | .method => .ok s
    | _ => visitFields scope s fields

/-- The signature with the declarations nested in the fields of a node added. -/
def visitFields (scope : Scope) (s : Signature) :
    List (String × Value) → Except Unsupported Signature
  | [] => .ok s
  | (field, v) :: rest => do visitFields scope (← visitValue scope field s v) rest

/-- Visit the nodes in a field that stand as statements there. -/
def visitValue (scope : Scope) (field : String) (s : Signature) :
    Value → Except Unsupported Signature
  | .node n => if isSearched field n then visit scope s n else .ok s
  | .list items => visitItems scope field s items
  | _ => .ok s

/-- Visit the nodes among the items of a list that stand as statements in the field of the list. -/
def visitItems (scope : Scope) (field : String) (s : Signature) :
    List Value → Except Unsupported Signature
  | [] => .ok s
  | .node n :: rest => do
    visitItems scope field (← if isSearched field n then visit scope s n else .ok s) rest
  | _ :: rest => visitItems scope field s rest

end

/-- The signature of a list of statements. -/
def extract (statements : List Node) : Except Unsupported Signature :=
  statements.foldlM (visit .global) .empty

end Signature

/-- The text of the signature of a list of statements. -/
def signatureText (statements : List Node) : Except Unsupported String :=
  (Signature.extract statements).map Signature.text

end SourceSig
