import SourceSig.Proofs.PositionInvariance
import SourceSig.Proofs.Rewriting
import Mathlib.Data.List.Forall2

/-!
# Readings

What of a value matters for a signature depends on where the value stands: nothing of a return type,
the text of an identifier, the parts of a name, everything of a body. A `Reading` is one such way to
look at a value. `Reading.field` and `Reading.item` say how the fields of a node and the elements of
a list are read in turn, so they are the table of what the extraction looks at.

`Reading.Same r v w` : the same is read in `v` and `w`. It follows from what is read in the fields
(`Reading.SameField`), by one lemma for each thing that the extraction makes of them.
-/

namespace SourceSig

/-- A way to look at a value. -/
inductive Reading where
  /-- Nothing matters. -/
  | unread
  /-- Everything matters. -/
  | digested
  /-- A text, a number or a truth value. -/
  | plain
  /-- The identifier that something is called by. -/
  | named
  /-- A parameter type. -/
  | typed
  /-- A reference to a class. -/
  | reference
  /-- What a call calls. -/
  | callee
  /-- A name of whatever kind, by its parts. -/
  | spelled
  /-- The variable of a parameter. -/
  | boundVariable
  /-- A constant expression. -/
  | literal
  /-- The text of a string literal. -/
  | quoted
  /-- The argument that names a constant. -/
  | firstArgument
  /-- The argument that a constant stands for. -/
  | secondArgument
  /-- The arguments of a call of `define`; the second matters if the first names a constant. -/
  | arguments (introduces : Bool)
  | parameter
  /-- One of the constants that a member declares. -/
  | constant
  /-- One of the properties that a member declares. -/
  | property
  /-- A statement in the body of a class-like. -/
  | member
  /-- The expression of an expression statement, which declares something if it is a call. -/
  | call
  /-- A statement that the walk may reach, in a list in a field. -/
  | statement (field : String)
  /-- A field that is searched for statements. -/
  | searched (field : String)
  /-- A list of values, each read in one way. -/
  | items (r : Reading)
  /-- The name of a namespace, which is spelled and searched. -/
  | namespaceName

namespace Reading

/-! ## The table -/

/-- The fields of a list are read as it says, and no others. -/
def only (fields : List (String × Reading)) (name : String) : Reading :=
  (fields.lookup name).getD .unread

/-- The two layouts of a name. -/
def nameFields : List (String × Reading) :=
  [("parts", .items .plain), ("name", .plain)]

/-- The fields of a call that are read. The arguments are read only where the callee is `define`. -/
def callFields (n : Node) : List (String × Reading) :=
  ("name", .callee) ::
    if n.callsDefine then [("args", .arguments n.definedName?.isSome)] else []

/-- A declaration without name declares nothing, whatever else it has. -/
def declarationFields (n : Node) (fields : List (String × Reading)) : List (String × Reading) :=
  ("name", .named) :: if n.declaredName?.isSome then fields else []

/-- How the fields of a statement that the walk reaches are read. -/
def statementField (n : Node) : String → Reading :=
  match n.kind with
  | .function =>
    only (declarationFields n [("params", .items .parameter), ("stmts", .digested)])
  | .interface =>
    only (declarationFields n [("extends", .items .reference), ("stmts", .items .member)])
  | .classStmt =>
    only (declarationFields n [("flags", .plain), ("type", .plain), ("extends", .reference),
      ("implements", .items .reference), ("stmts", .items .member)])
  | .traitStmt => only (declarationFields n [("stmts", .items .member)])
  | .expression => only [("expr", .call)]
  | .call => only (callFields n)
  | .method => only []
  | .namespaceStmt => fun name =>
    if name = "name" then .namespaceName else .searched name
  | _ => .searched

/-- How the fields of a statement in the body of a class-like are read. -/
def memberField (n : Node) : String → Reading :=
  match n.kind with
  | .method =>
    only [("flags", .plain), ("type", .plain), ("name", .named), ("params", .items .parameter),
      ("stmts", .digested)]
  | .classConst => only [("consts", .items .constant)]
  | .property => only [("flags", .plain), ("type", .plain), ("props", .items .property)]
  | _ => only []

/-- How the fields of a type are read. -/
def typeField (n : Node) : String → Reading :=
  match n.kind with
  | .identifier => only [("name", .plain)]
  | .name | .fullyQualifiedName | .relativeName => only nameFields
  | .nullableType | .param => only [("type", .typed)]
  | .unionType | .intersectionType => only [("types", .items .typed)]
  | _ => only []

/-- How the fields of a constant expression are read; one that is not spelled out is digested. -/
def literalField (n : Node) : String → Reading :=
  match n.kind with
  | .intLiteral | .floatLiteral | .stringLiteral => only [("value", .plain)]
  | .constFetch => only [("name", .spelled)]
  | .classConstFetch => only [("class", .reference), ("name", .named)]
  | _ => fun _ => .digested

/-- How a field of a node is read where the node is read. -/
def field (r : Reading) (n : Node) : String → Reading :=
  match r with
  | .digested | .namespaceName => fun _ => .digested
  | .named =>
    if n.kind = .identifier then only [("name", .plain)]
    else if n.kind.isName then only nameFields
    else only []
  | .typed => typeField n
  | .reference =>
    if n.kind.isName then only nameFields
    else if n.kind = .variableExpr then only [("name", .plain)]
    else only []
  | .callee => if n.kind.isName then only nameFields else only []
  | .spelled => only nameFields
  | .boundVariable => only [("name", .plain)]
  | .literal => literalField n
  | .quoted => if n.kind = .stringLiteral then only [("value", .plain)] else only []
  | .firstArgument => if n.kind = .arg then only [("value", .quoted)] else only []
  | .secondArgument => if n.kind = .arg then only [("value", .literal)] else only []
  | .parameter =>
    if n.kind = .param then
      only [("var", .boundVariable), ("name", .plain), ("type", .typed), ("default", .literal),
        ("byRef", .plain), ("variadic", .plain)]
    else only []
  | .constant => only [("name", .named), ("value", .literal)]
  | .property => only [("name", .named), ("default", .literal)]
  | .member => memberField n
  | .call => if n.kind = .call then only (callFields n) else only []
  | .statement field | .searched field =>
    if StandsAsStatement field n then statementField n else only []
  | .unread | .plain | .arguments _ | .items _ => only []

/-- How an element of a list is read where the list is read and the given elements stand before. -/
def item (r : Reading) (before : List Value) : Reading :=
  match r with
  | .digested | .namespaceName => .digested
  | .items s => s
  | .searched field => .statement field
  | .arguments introduces =>
    match (before.filterMap Value.asNode?).countP (·.kind = .arg) with
    | 0 => .firstArgument
    | 1 => if introduces then .secondArgument else .unread
    | _ => .unread
  | _ => .unread

end Reading

/-! ## What is read -/

/-- A text, a number or a truth value. -/
def Value.scalar? : Value → Option Value
  | .node _ | .list _ | .map _ => none
  | v => some v

/-- The elements of a list value. -/
def Value.asList? : Value → Option (List Value)
  | .list items => some items
  | _ => none

/-- The integer that a value is. -/
def Value.asInt? : Value → Option Int64
  | .int i => some i
  | _ => none

/-- Whether a value is the truth value true. -/
def Value.isTrue : Value → Bool
  | .bool b => b
  | _ => false

/-- The arguments in the list of a call. -/
def Value.argumentNodes (v : Value) : List Node :=
  ((v.asList?.getD []).filterMap Value.asNode?).filter (·.kind = .arg)

/-- What a node refers to as a class, in each scope. -/
def Node.asReference (n : Node) (scope : Scope) : Except Unsupported String :=
  scope.classReference n

/-- The text of a node as a constant expression, in each scope. -/
def Node.asLiteral (n : Node) (scope : Scope) : Except Unsupported String :=
  scope.literal n

/-- The text of a string literal. -/
def Node.quotedText? (n : Node) : Option String :=
  if n.kind = .stringLiteral then n.text "value" else none

/-- Whether the parts of a name are those of `define`, in any case of letters. -/
def spellsDefine : List String → Bool
  | [part] => part.toList.map Char.toLower == "define".toList
  | _ => false

/-- The record that a call declares. -/
def Node.callRecord (n : Node) (scope : Scope) : Option (Except Unsupported Declaration) :=
  if n.kind = .call then scope.defineOf? n else none

/-- The name of an entry and the text of its value, which is in a field. -/
def Node.entryView (value : String) (n : Node) :
    (Construct → Except Unsupported String) × (Scope → Except Unsupported String) :=
  (n.memberName, fun scope => scope.literal? (n.child value))

/-- The records of the statements that the walk reaches from those of some nodes in a field that it
searches. -/
def recordsFrom (field : String) (around : List Node) (ns : List Node) :
    List (Except Unsupported Declaration) :=
  seenAt id id ((ns.filter fun n => StandsAsStatement field n).flatMap (Node.sites around))

/-- Two values are no nodes, or two nodes with the same view. -/
def SameNode {α : Type} (view : Node → α) (v w : Value) : Prop :=
  w.asNode?.map view = v.asNode?.map view

namespace Reading

/-- The same is read in two values. -/
def Same : Reading → Value → Value → Prop
  | .unread => fun _ _ => True
  | .digested => fun v w => w = v
  | .plain => fun v w => w.scalar? = v.scalar?
  | .named => fun v w => w.identifier? = v.identifier?
  | .typed => fun v w => w.typeText = v.typeText
  | .reference => SameNode Node.asReference
  | .callee => SameNode fun n => if n.kind.isName then n.nameParts else []
  | .spelled => SameNode Node.nameParts
  | .boundVariable => SameNode fun n => (n.text "name", Unsupported.of .parameterVariable n)
  | .literal => SameNode Node.asLiteral
  | .quoted => SameNode Node.quotedText?
  | .firstArgument => SameNode fun n =>
    if n.kind = .arg then some ((n.child "value").bind Node.quotedText?) else none
  | .secondArgument => SameNode fun n =>
    if n.kind = .arg then some fun scope : Scope => scope.literal? (n.child "value") else none
  | .arguments introduces => fun v w =>
    w.argumentNodes.head?.bind (fun n => (n.child "value").bind Node.quotedText?) =
        v.argumentNodes.head?.bind (fun n => (n.child "value").bind Node.quotedText?) ∧
      (introduces → ∀ scope : Scope,
        scope.literal? ((w.argumentNodes.drop 1).head?.bind (·.child "value")) =
          scope.literal? ((v.argumentNodes.drop 1).head?.bind (·.child "value")))
  | .parameter => SameNode fun n (scope : Scope) => Parameter.ofNode scope n
  | .constant => SameNode (Node.entryView "value")
  | .property => SameNode (Node.entryView "default")
  | .member => SameNode fun n (scope : Scope) => n.entries.map scope.member
  | .call => SameNode Node.callRecord
  | .statement field => fun v w => ∀ around,
    recordsFrom field around w.asNode?.toList = recordsFrom field around v.asNode?.toList
  | .searched field => fun v w => ∀ around,
    recordsFrom field around w.nodes = recordsFrom field around v.nodes
  | .items r => fun v w => Option.Rel (List.Forall₂ r.Same) v.asList? w.asList?
  | .namespaceName => fun v w => SameNode Node.nameParts v w ∧ ∀ around,
    recordsFrom "name" around w.nodes = recordsFrom "name" around v.nodes

/-- In one value the same is read, in whatever way. -/
theorem Same.refl : ∀ (r : Reading) (v : Value), r.Same v v
  | .unread, _ => trivial
  | .arguments _, _ => ⟨rfl, fun _ _ => rfl⟩
  | .statement _, _ | .searched _, _ => fun _ => rfl
  | .items r, v => by
    change Option.Rel _ v.asList? v.asList?
    cases v.asList? with
    | none => exact .none
    | some xs => exact .some (List.forall₂_same.mpr fun x _ => Same.refl r x)
  | .namespaceName, _ => ⟨rfl, fun _ => rfl⟩
  | .digested, _ | .plain, _ | .named, _ | .typed, _ | .reference, _ | .callee, _ | .spelled, _
  | .boundVariable, _ | .literal, _ | .quoted, _ | .firstArgument, _ | .secondArgument, _
  | .parameter, _ | .constant, _ | .property, _ | .member, _ | .call, _ => rfl

/-- The same is read in two fields that may be absent. -/
def SameField (r : Reading) (x y : Option Value) : Prop :=
  r ≠ .unread → y = x ∨ ∃ v w, x = some v ∧ y = some w ∧ r.Same v w

end Reading

open Reading (Same SameField)

/-! ## Views -/

/-- What is plain is the same, unless neither value is. -/
theorem eq_or_of_scalar?_eq {v w : Value} (h : w.scalar? = v.scalar?) :
    w = v ∨ w.scalar? = none ∧ v.scalar? = none := by
  have hself : ∀ u : Value, u.scalar? = none ∨ u.scalar? = some u := by
    intro u
    cases u <;> simp [Value.scalar?]
  rcases hself v with hv | hv
  · exact .inr ⟨h.trans hv, hv⟩
  · rcases hself w with hw | hw
    · exact .inr ⟨hw, h.symm.trans hw⟩
    · exact .inl (Option.some.inj (hw.symm.trans (h.trans hv)))

theorem filterMap_asText?_eq {xs ys : List Value} (h : List.Forall₂ (Same .plain) xs ys) :
    ys.filterMap Value.asText? = xs.filterMap Value.asText? := by
  have hscalar (v : Value) : v.asText? = v.scalar?.bind Value.asText? := by cases v <;> rfl
  induction h with
  | nil => rfl
  | @cons x y xs ys hxy _ ih =>
    have htext : y.asText? = x.asText? := by
      rw [hscalar y, hscalar x]
      exact congrArg (·.bind Value.asText?) hxy
    rw [List.filterMap_cons, List.filterMap_cons, htext, ih]

theorem typeTextsOf_eq {xs ys : List Value} (h : List.Forall₂ (Same .typed) xs ys) :
    Value.typeTextsOf ys = Value.typeTextsOf xs := by
  induction h with
  | nil => rfl
  | @cons x y xs ys hxy _ ih =>
    have htext : y.typeText = x.typeText := hxy
    rw [Value.typeTextsOf, Value.typeTextsOf, htext, ih]

/-- Lists whose elements have the same view have nodes with the same views. -/
theorem map_nodes_eq {α : Type} {view : Node → α} {xs ys : List Value}
    (h : List.Forall₂ (SameNode view) xs ys) :
    (ys.filterMap Value.asNode?).map view = (xs.filterMap Value.asNode?).map view := by
  induction h with
  | nil => rfl
  | @cons x y xs ys hxy _ ih =>
    cases hx : x.asNode? with
    | none =>
      have hy : y.asNode? = none := by simpa [SameNode, hx] using hxy
      simp [hx, hy, ih]
    | some a =>
      obtain ⟨b, hy, hab⟩ : ∃ b, y.asNode? = some b ∧ view b = view a := by
        simpa [SameNode, hx] using hxy
      simp [hx, hy, hab, ih]

/-- What is made of each node by its view alone is the same for nodes with the same views. -/
theorem map_eq_of_view {α β : Type} {view : Node → α} {f : Node → β} {xs ys : List Node}
    (g : α → β) (hf : ∀ n, f n = g (view n)) (h : ys.map view = xs.map view) :
    ys.map f = xs.map f := by
  have hcomp : f = g ∘ view := funext hf
  rw [hcomp, ← List.map_map, ← List.map_map, h]

/-- A function that looks at nodes through a view does not tell nodes of one view apart. -/
theorem mapM_eq_of_view {α β : Type} {view : Node → α} {f : Node → Except Unsupported β}
    {xs ys : List Node} (g : α → Except Unsupported β) (hf : ∀ n, f n = g (view n))
    (h : ys.map view = xs.map view) : ys.mapM f = xs.mapM f := by
  have hid (zs : List Node) : zs.mapM f = (zs.map f).mapM id := by
    rw [List.mapM_map]
    rfl
  rw [hid, hid, map_eq_of_view g hf h]

/-- The class before a constant is looked at as a reference. -/
theorem Scope.classPrefix_eq_of_view {x y : Option Node} (scope : Scope)
    (h : y.map Node.asReference = x.map Node.asReference) :
    scope.classPrefix y = scope.classPrefix x := by
  have hmap (x : Option Node) : scope.classPrefix x =
      (x.map Node.asReference).elim (.ok "") (· scope) := by
    cases x <;> rfl
  rw [hmap, hmap, h]

/-- A constant expression is looked at as a literal. -/
theorem Scope.literal?_eq_of_view {x y : Option Node} (scope : Scope)
    (h : y.map Node.asLiteral = x.map Node.asLiteral) :
    scope.literal? y = scope.literal? x := by
  have hmap (x : Option Node) : scope.literal? x =
      (x.map Node.asLiteral).elim (.ok "") (· scope) := by
    cases x <;> rfl
  rw [hmap, hmap, h]

theorem Node.int_eq_bind (n : Node) (name : String) :
    n.int name = (n.field name).bind Value.asInt? := by
  unfold Node.int
  cases n.field name with
  | none => rfl
  | some v => cases v <;> rfl

theorem Node.flag_eq_any (n : Node) (name : String) :
    n.flag name = (n.field name).any Value.isTrue := by
  unfold Node.flag
  cases n.field name with
  | none => rfl
  | some v => cases v <;> rfl

theorem Node.arguments_eq (n : Node) :
    n.arguments = ((n.field "args").map Value.argumentNodes).getD [] := by
  unfold Node.arguments Node.children Node.items
  cases n.field "args" with
  | none => rfl
  | some v => cases v <;> rfl

theorem Node.definedName?_eq_bind (n : Node) : n.definedName? =
    n.arguments.head?.bind fun a => (a.child "value").bind Node.quotedText? := by
  unfold Node.definedName?
  cases n.arguments with
  | nil => rfl
  | cons a rest =>
    simp only [List.head?_cons, Option.bind_some]
    cases a.child "value" <;> rfl

/-- The records from a single node are those of its sites, if it stands as a statement. -/
theorem recordsFrom_singleton (field : String) (around : List Node) (n : Node) :
    recordsFrom field around [n] =
      if StandsAsStatement field n then seenAt id id (n.sites around) else [] := by
  unfold recordsFrom
  split_ifs with hstands
  · simp [hstands]
  · simp [hstands, seenAt]

/-! ## Fields that are read the same -/

namespace Reading.SameField

variable {n m : Node} {name : String} {r : Reading}

/-- What is made of a field that is read depends on what is read in it. -/
theorem apply_eq {α : Type} {x y : Option Value} (h : SameField r x y)
    (hr : r ≠ .unread) (view : Option Value → α)
    (hview : ∀ v w, r.Same v w → view (some w) = view (some v)) : view y = view x := by
  rcases h hr with rfl | ⟨v, w, rfl, rfl, hsame⟩
  · rfl
  · exact hview v w hsame

/-- A view of what is plain, in which everything else looks alike. -/
theorem plain_eq {α : Type} {x y : Option Value} (h : SameField .plain x y)
    (view : Option Value → α) {other : α}
    (hview : ∀ v : Value, v.scalar? = none → view (some v) = other) : view y = view x := by
  refine h.apply_eq nofun view fun v w hsame => ?_
  rcases eq_or_of_scalar?_eq hsame with rfl | ⟨hw, hv⟩
  · rfl
  · rw [hview w hw, hview v hv]

theorem text_eq (h : SameField .plain (n.field name) (m.field name)) :
    m.text name = n.text name :=
  h.plain_eq (·.bind Value.asText?) fun v hv => by cases v <;> first | rfl | cases hv

theorem int_eq (h : SameField .plain (n.field name) (m.field name)) :
    m.int name = n.int name := by
  rw [Node.int_eq_bind, Node.int_eq_bind]
  exact h.plain_eq (·.bind Value.asInt?) fun v hv => by cases v <;> first | rfl | cases hv

theorem flag_eq (h : SameField .plain (n.field name) (m.field name)) :
    m.flag name = n.flag name := by
  rw [Node.flag_eq_any, Node.flag_eq_any]
  exact h.plain_eq (·.any Value.isTrue) fun v hv => by cases v <;> first | rfl | cases hv

theorem scalarText_eq (h : SameField .plain (n.field name) (m.field name)) :
    scalarText (m.field name) = scalarText (n.field name) :=
  h.plain_eq scalarText fun v hv => by cases v <;> first | rfl | cases hv

theorem identifier?_eq (h : SameField .named (n.field name) (m.field name)) :
    m.identifier? name = n.identifier? name :=
  h.apply_eq nofun (·.bind Value.identifier?) fun _ _ hsame => hsame

theorem typeText?_eq (h : SameField .typed (n.field name) (m.field name)) :
    typeText? (m.field name) = typeText? (n.field name) :=
  h.apply_eq nofun typeText? fun _ _ hsame => hsame

theorem digested_eq (h : SameField .digested (n.field name) (m.field name)) :
    m.field name = n.field name :=
  h.apply_eq nofun id fun _ _ hsame => congrArg some hsame

/-- A node that is read by a view. -/
theorem child_eq {α : Type} {view : Node → α}
    (h : SameField r (n.field name) (m.field name)) (hr : r ≠ .unread)
    (hview : r.Same = SameNode view) : (m.child name).map view = (n.child name).map view := by
  refine h.apply_eq hr (fun x => (x.bind Value.asNode?).map view) fun v w hsame => ?_
  rw [hview] at hsame
  exact hsame

/-- The elements of a list field are read one by one. -/
theorem items_rel (h : SameField (.items r) (n.field name) (m.field name)) :
    List.Forall₂ r.Same (n.items name) (m.items name) := by
  have hrefl (xs : List Value) : List.Forall₂ r.Same xs xs :=
    List.forall₂_same.mpr fun x _ => Same.refl r x
  unfold Node.items
  rcases h nofun with heq | ⟨v, w, hn, hm, hsame⟩
  · rw [heq]
    exact hrefl _
  · rw [hn, hm]
    change Option.Rel _ v.asList? w.asList? at hsame
    cases v <;> cases w <;> cases hsame <;> first | assumption | exact .nil

/-- The nodes of a list, each of them read by a view. -/
theorem children_eq {α : Type} {view : Node → α}
    (h : SameField (.items r) (n.field name) (m.field name)) (hview : r.Same = SameNode view) :
    (m.children name).map view = (n.children name).map view := by
  have hrel := h.items_rel
  rw [hview] at hrel
  exact map_nodes_eq hrel

/-! ### Declarations from fields -/

/-- The name of a parameter comes from its variable, or from its own field. -/
theorem nameOf_eq (hvar : SameField .boundVariable (n.field "var") (m.field "var"))
    (hname : SameField .plain (n.field "name") (m.field "name"))
    (hof : Unsupported.of .parameterWithoutName m = Unsupported.of .parameterWithoutName n) :
    Parameter.nameOf m = Parameter.nameOf n := by
  have hchild := hvar.child_eq nofun rfl
  unfold Parameter.nameOf
  rw [hname.text_eq, hof]
  cases hx : n.child "var" with
  | none =>
    rw [hx, Option.map_none, Option.map_eq_none_iff] at hchild
    rw [hchild]
  | some a =>
    rw [hx, Option.map_some, Option.map_eq_some_iff] at hchild
    obtain ⟨b, hb, hab⟩ := hchild
    obtain ⟨htext, hfault⟩ := Prod.mk.inj hab
    rw [hb]
    dsimp only
    rw [htext, hfault]

/-- Modifiers come from one of two fields. -/
theorem modifiers_eq (hflags : SameField .plain (n.field "flags") (m.field "flags"))
    (htype : SameField .plain (n.field "type") (m.field "type")) : m.modifiers = n.modifiers := by
  rw [Node.modifiers, Node.modifiers, hflags.int_eq, htype.int_eq]

theorem ofItems_eq (scope : Scope)
    (h : SameField (.items .parameter) (n.field "params") (m.field "params")) :
    Parameter.ofItems scope (m.items "params") = Parameter.ofItems scope (n.items "params") :=
  mapM_eq_of_view (fun view => view scope) (fun _ => rfl) (h.children_eq rfl)

/-- What a declaration gives depends on its name, and on the rest only if it has one. -/
theorem declaredName?_map_eq {α : Type} {f g : String → α}
    (hname : SameField .named (n.field "name") (m.field "name"))
    (hfg : ∀ name, n.declaredName? = some name → f name = g name) :
    m.declaredName?.map f = n.declaredName?.map g := by
  rw [Node.declaredName?, hname.identifier?_eq, ← Node.declaredName?]
  cases hdeclared : n.declaredName? with
  | none => rfl
  | some name => exact congrArg some (hfg name hdeclared)

/-- The members of a class-like depend on what is read in the statements of its body. -/
theorem members_eq (scope : Scope)
    (h : SameField (.items .member) (n.field "stmts") (m.field "stmts")) :
    scope.members (m.children "stmts") = scope.members (n.children "stmts") := by
  have hmembers (k : Node) : scope.members (k.children "stmts") =
      (((k.children "stmts").map fun x (scope : Scope) => x.entries.map scope.member).flatMap
        (· scope)).mapM id := by
    rw [Scope.members, List.flatMap_map, ← List.map_flatMap, List.mapM_map]
    rfl
  rw [hmembers, hmembers, h.children_eq rfl]

/-- A class-like depends on its references and its members. -/
theorem classLike_eq (scope : Scope) (flavour : Flavour) (name : String)
    {parents others interfaces interfaces' : List Node}
    (hparents : parents.map Node.asReference = others.map Node.asReference)
    (hinterfaces : interfaces.map Node.asReference = interfaces'.map Node.asReference)
    (hstmts : SameField (.items .member) (n.field "stmts") (m.field "stmts")) :
    scope.classLike m flavour name parents interfaces =
      scope.classLike n flavour name others interfaces' := by
  have hreferences {xs ys : List Node} (h : ys.map Node.asReference = xs.map Node.asReference) :
      ys.mapM scope.classReference = xs.mapM scope.classReference :=
    mapM_eq_of_view (· scope) (fun _ => rfl) h
  rw [Scope.classLike_eq, Scope.classLike_eq, members_eq scope hstmts, hreferences hparents,
    hreferences hinterfaces]

/-- Whether a call is one of `define` depends on its callee. -/
theorem callsDefine_eq (h : SameField .callee (n.field "name") (m.field "name")) :
    m.callsDefine = n.callsDefine := by
  have hview (k : Node) : k.callsDefine =
      ((k.child "name").map fun c => if c.kind.isName then c.nameParts else []).elim false
        spellsDefine := by
    unfold Node.callsDefine
    cases k.child "name" with
    | none => rfl
    | some callee =>
      cases hname : callee.kind.isName with
      | false => simp [hname, spellsDefine]
      | true =>
        dsimp only [Option.map_some, Option.elim_some]
        rw [hname]
        rfl
  rw [hview, hview, h.child_eq (by simp) rfl]

/-- The constant that a call introduces depends on its first argument. -/
theorem definedName?_eq {introduces : Bool}
    (h : SameField (.arguments introduces) (n.field "args") (m.field "args")) :
    m.definedName? = n.definedName? := by
  rw [Node.definedName?_eq_bind, Node.definedName?_eq_bind, Node.arguments_eq, Node.arguments_eq]
  exact h.apply_eq nofun (fun x => ((x.map Value.argumentNodes).getD []).head?.bind
    fun a => (a.child "value").bind Node.quotedText?) fun _ _ hsame => hsame.1

/-- The record of a call depends on its callee, and on the arguments if the callee is `define`. -/
theorem defineOf?_eq (scope : Scope) (hname : SameField .callee (n.field "name") (m.field "name"))
    (hargs : n.callsDefine →
      SameField (.arguments n.definedName?.isSome) (n.field "args") (m.field "args")) :
    scope.defineOf? m = scope.defineOf? n := by
  unfold Scope.defineOf?
  rw [callsDefine_eq hname]
  split_ifs with hdefine
  · have hargs := hargs hdefine
    rw [definedName?_eq hargs]
    cases hdefined : n.definedName? with
    | none => rfl
    | some name =>
      rw [hdefined] at hargs
      have hvalue : scope.literal? ((m.arguments.drop 1).head?.bind (·.child "value")) =
          scope.literal? ((n.arguments.drop 1).head?.bind (·.child "value")) := by
        rw [Node.arguments_eq, Node.arguments_eq]
        exact hargs.apply_eq nofun (fun x => scope.literal?
          ((((x.map Value.argumentNodes).getD []).drop 1).head?.bind (·.child "value")))
          fun _ _ hsame => hsame.2 rfl scope
      simp only [Option.map_some, hvalue]
  · rfl

end Reading.SameField

end SourceSig
