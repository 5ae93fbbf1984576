import SourceSig.Proofs.VisitOrder

/-!
# Assembly

A class-like is put together from members, one after the other. `ClassLike.addAll_eq` says what
comes out without the steps: the members by their sort, each sort in its order.

A body declares its members statement by statement, and a statement may declare several. `Entry` is
one of them, and `Scope.classLike_eq` says that the members of a class-like are those of the entries
of its body, each of them built on its own.
-/

namespace SourceSig

/-! ## Class-likes from members -/

namespace Member

/-- The constant that a member is. -/
def constant? : Member → Option Constant
  | .constant c => some c
  | _ => none

/-- The property as a class-like keeps it: an empty default is none. -/
def property? : Member → Option Property
  | .property p => some { p with default := p.default.bind nonEmpty }
  | _ => none

/-- The method as a class-like of the flavour keeps it: interfaces and abstract methods have no
bodies. -/
def method? (flavour : Flavour) : Member → Option Method
  | .method m =>
    let keepsBody := flavour ≠ .interface ∧ m.modifiers.isAbstract = false
    some { m with body := if keepsBody then m.body else none }
  | _ => none

end Member

namespace ClassLike

/-- The class-like with a member added, by its sort. -/
def add (c : ClassLike) : Member → ClassLike
  | .constant k => c.addConstant k.name k.value
  | .property p => c.addProperty p.modifiers p.name p.default
  | .method m => c.addMethod m.modifiers m.name m.params m.body

/-- The class-like with some members added, one after the other. -/
def addAll (c : ClassLike) (ms : List Member) : ClassLike :=
  ms.foldl add c

/-- Adding members one by one leaves each list of a class-like longer by the members of its sort, in
the form in which the flavour keeps them. -/
theorem addAll_eq (c : ClassLike) : ∀ ms : List Member,
    c.addAll ms =
      { c with
        constants := c.constants ++ ms.filterMap Member.constant?
        properties := c.properties ++ ms.filterMap Member.property?
        methods := c.methods ++ ms.filterMap (Member.method? c.flavour) } := by
  intro ms
  induction ms generalizing c with
  | nil => simp [addAll]
  | cons m ms ih =>
    have hcons : c.addAll (m :: ms) = (c.add m).addAll ms := rfl
    rw [hcons, ih]
    cases m <;> simp [List.filterMap_cons, add, addConstant, addProperty, addMethod,
      Member.constant?, Member.property?, Member.method?]

end ClassLike

/-! ## Bodies -/

/-- One declaration in the body of a class-like. -/
inductive Entry where
  | method (n : Node)
  | constant (n : Node)
  | property (modifiers : Modifiers) (n : Node)
  /-- A statement that is no member. -/
  | stray (n : Node)

/-- What a statement in the body of a class-like declares. -/
def Node.entries (n : Node) : List Entry :=
  match n.kind with
  | .method => [.method n]
  | .classConst => (n.children "consts").map .constant
  | .property => (n.children "props").map (.property n.modifiers)
  | .nop => []
  | _ => [.stray n]

namespace Scope

variable (scope : Scope)

/-- The member that an entry declares. -/
def member : Entry → Except Unsupported Member
  | .method n => do
    let name ← n.memberName .methodName
    let params ← Parameter.ofItems scope (n.items "params")
    let body := (n.field "stmts").map fun v => Digest.ofValue (some v)
    return .method ⟨n.modifiers, name, params, body⟩
  | .constant n => do
    let name ← n.memberName .constantName
    let value ← scope.literal? (n.child "value")
    return .constant ⟨name, value⟩
  | .property modifiers n => do
    let name ← n.memberName .propertyName
    let default ← scope.literal? (n.child "default")
    return .property ⟨modifiers, name, some default⟩
  | .stray n => .error (.of .classMember n)

/-- The members that the statements of a body declare, or the first fault. -/
def members (body : List Node) : Except Unsupported (List Member) :=
  (body.flatMap Node.entries).mapM scope.member

/-- Adding what each element gives is adding all that they give. -/
theorem foldlM_add_eq {α : Type} (build : α → Except Unsupported Member) :
    ∀ (xs : List α) (c : ClassLike),
      xs.foldlM (fun c x => c.add <$> build x) c = c.addAll <$> xs.mapM build
  | [], _ => rfl
  | x :: xs, c => by
    rw [List.foldlM_cons, List.mapM_cons]
    cases build x with
    | error u => rfl
    | ok m =>
      have ih := foldlM_add_eq build xs (c.add m)
      change xs.foldlM _ (c.add m) = _
      rw [ih]
      cases xs.mapM build <;> rfl

theorem addMethod_eq (n : Node) (c : ClassLike) :
    scope.addMethod n c = c.add <$> scope.member (.method n) := by
  simp only [addMethod, member, map_bind, map_pure]
  rfl

theorem addConstant_eq (c : ClassLike) (n : Node) :
    scope.addConstant c n = c.add <$> scope.member (.constant n) := by
  simp only [addConstant, member, map_bind, map_pure]
  rfl

theorem addProperty_eq (modifiers : Modifiers) (c : ClassLike) (n : Node) :
    scope.addProperty modifiers c n = c.add <$> scope.member (.property modifiers n) := by
  simp only [addProperty, member, map_bind, map_pure]
  rfl

theorem addMember_eq (c : ClassLike) (n : Node) :
    scope.addMember c n = n.entries.foldlM (fun c e => c.add <$> scope.member e) c := by
  unfold addMember Node.entries
  cases n.kind with
  | method => simp only [List.foldlM_cons, List.foldlM_nil, bind_pure, addMethod_eq]
  | classConst => simp only [List.foldlM_map, ← addConstant_eq]
  | property => simp only [List.foldlM_map, ← addProperty_eq]
  | nop => rfl
  | _ => rfl

/-- Going through a body statement by statement adds the members that its entries declare. -/
theorem foldlM_addMember_eq (c : ClassLike) (body : List Node) :
    body.foldlM scope.addMember c = c.addAll <$> scope.members body := by
  rw [members, ← foldlM_add_eq]
  induction body generalizing c with
  | nil => rfl
  | cons n body ih =>
    rw [List.foldlM_cons, List.flatMap_cons, List.foldlM_append, addMember_eq]
    congr 1
    funext d
    exact ih d

/-- A class-like has its header and the members of its body, each of them built on its own. -/
theorem classLike_eq (n : Node) (flavour : Flavour) (name : String)
    (parents interfaces : List Node) :
    scope.classLike n flavour name parents interfaces =
      (do
        let parents ← parents.mapM scope.classReference
        let interfaces ← interfaces.mapM scope.classReference
        let members ← scope.members (n.children "stmts")
        let header := ClassLike.empty flavour (scope.qualify name) parents interfaces
        return header.addAll members) := by
  unfold classLike
  simp only [foldlM_addMember_eq, map_eq_pure_bind]

end Scope

end SourceSig
