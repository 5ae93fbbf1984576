import SourceSig.Proofs.PositionErasure

/-!
# Positions do not matter

`signatureText_unplaced` : a list of statements without positions has the same signature text, or
the same fault up to its line.

Two documents that differ in positions only are the same without them, so they decode alike and have
one signature or one fault (`decode_and_signatureText_eq_of_unplaced_eq`).
-/

namespace SourceSig

/-! ## Faults without their lines -/

/-- A result whose fault has lost its line. -/
def withoutLine {α : Type} (r : Except Unsupported α) : Except Unsupported α :=
  r.mapError Unsupported.unplaced

section Faults

variable {α β : Type}

@[simp] theorem withoutLine_ok (a : α) : withoutLine (.ok a) = .ok a :=
  rfl

@[simp] theorem withoutLine_pure (a : α) : withoutLine (pure a) = pure a :=
  rfl

@[simp] theorem withoutLine_error (u : Unsupported) :
    withoutLine (.error u : Except Unsupported α) = .error u.unplaced :=
  rfl

/-- Dropping the line of a fault goes through each step of a computation. -/
@[simp] theorem withoutLine_bind (r : Except Unsupported α) (f : α → Except Unsupported β) :
    withoutLine (r >>= f) = withoutLine r >>= fun a => withoutLine (f a) := by
  cases r <;> rfl

@[simp] theorem withoutLine_map (f : α → β) (r : Except Unsupported α) :
    withoutLine (f <$> r) = f <$> withoutLine r := by
  cases r <;> rfl

/-- A reader that sees no positions sees none in a list. -/
theorem mapM_unplaced {read : Node → Except Unsupported α}
    (h : ∀ n, read n.unplaced = withoutLine (read n)) : ∀ ns : List Node,
      (ns.map Node.unplaced).mapM read = withoutLine (ns.mapM read)
  | [] => rfl
  | n :: ns => by
    rw [List.map_cons, List.mapM_cons, List.mapM_cons, h, mapM_unplaced h ns]
    simp only [withoutLine_bind, withoutLine_pure]

/-- A run of steps that look at no line looks at none. -/
theorem foldlM_unplaced {step : α → Node → Except Unsupported α}
    (h : ∀ a n, step a n.unplaced = withoutLine (step a n)) : ∀ (ns : List Node) (a : α),
      (ns.map Node.unplaced).foldlM step a = withoutLine (ns.foldlM step a)
  | [], _ => rfl
  | n :: ns, a => by
    rw [List.map_cons, List.foldlM_cons, List.foldlM_cons, h]
    simp only [withoutLine_bind, foldlM_unplaced h ns]

end Faults

/-! ## Literals and types -/

namespace Scope

variable (scope : Scope)

/-- The scope of a namespace does not depend on lines. -/
theorem ofNamespace_unplaced (n : Node) : ofNamespace n.unplaced = ofNamespace n := by
  unfold ofNamespace
  rw [Node.child_unplaced]
  cases n.child "name" with
  | none => rfl
  | some name => simp

/-- A reference to a class does not depend on lines, and its fault differs by its line only. -/
theorem classReference_unplaced (n : Node) :
    scope.classReference n.unplaced = withoutLine (scope.classReference n) := by
  unfold classReference
  rw [Node.kind_unplaced, Node.text_unplaced, Node.joinedName_unplaced]
  cases n.kind with
  | variableExpr => cases n.text "name" <;> simp
  | _ => simp

theorem classPrefix_unplaced (cls : Option Node) :
    scope.classPrefix (cls.map Node.unplaced) = withoutLine (scope.classPrefix cls) := by
  cases cls with
  | none => rfl
  | some cls => exact scope.classReference_unplaced cls

end Scope

theorem scalarText_unplaced (v : Option Value) : scalarText (v.map Value.unplaced) = scalarText v := by
  cases v with
  | none => rfl
  | some v => cases v <;> rfl

/-- The text of a constant does not depend on lines. -/
theorem constantText_unplaced (n : Node) : constantText n.unplaced = constantText n := by
  unfold constantText
  rw [Node.child_unplaced]
  cases n.child "name" with
  | none => rfl
  | some name => simp

/-- A token has a digest, which leaves lines out. -/
theorem Node.opaqueToken_unplaced (n : Node) : n.unplaced.opaqueToken = n.opaqueToken := by
  simp [Node.opaqueToken]

/-- The text of a constant expression does not depend on lines. -/
theorem Scope.literal_unplaced (scope : Scope) (n : Node) :
    scope.literal n.unplaced = withoutLine (scope.literal n) := by
  unfold Scope.literal
  rw [Node.kind_unplaced, Node.field_unplaced, scalarText_unplaced, constantText_unplaced,
    Node.child_unplaced, scope.classPrefix_unplaced, Node.identifier?_unplaced,
    Node.opaqueToken_unplaced]
  cases n.kind <;> simp

theorem Scope.literal?_unplaced (scope : Scope) (n : Option Node) :
    scope.literal? (n.map Node.unplaced) = withoutLine (scope.literal? n) := by
  cases n with
  | none => rfl
  | some n => exact scope.literal_unplaced n

mutual

theorem Value.typeText_unplaced : ∀ v : Value, v.unplaced.typeText = withoutLine v.typeText
  | .null | .bool _ | .int _ | .float _ | .str _ | .map _ | .list _ => rfl
  | .node n => n.typeText_unplaced

/-- The text of a type does not depend on lines. The recursion is that of `Node.typeText`. -/
theorem Node.typeText_unplaced : ∀ n : Node, n.unplaced.typeText = withoutLine n.typeText
  | ⟨tag, fields, lines⟩ => by
    have htype := Node.typeField_unplaced fields
    have htypes := Node.typesField_unplaced fields
    rw [Node.typeText_eq, Node.typeText_eq, Node.kind_unplaced, Node.fields_unplaced,
      Node.text_unplaced, Node.joinedName_unplaced, htype, htypes]
    cases Node.kind ⟨tag, fields, lines⟩ with
    | nullableType =>
      dsimp only
      cases Node.typeField fields with
      | error u => rfl
      | ok inner => cases inner <;> rfl
    | _ => simp

theorem Node.typeField_unplaced : ∀ fields : List (String × Value),
    Node.typeField (Value.entriesUnplaced fields) = withoutLine (Node.typeField fields)
  | [] => rfl
  | (name, v) :: rest => by
    rw [Value.entriesUnplaced, Node.typeField, Node.typeField, Value.typeText_unplaced v,
      Node.typeField_unplaced rest]
    split <;> rfl

theorem Node.typesField_unplaced : ∀ fields : List (String × Value),
    Node.typesField (Value.entriesUnplaced fields) = withoutLine (Node.typesField fields)
  | [] => rfl
  | (name, v) :: rest => by
    rw [Value.entriesUnplaced, Node.typesField, Node.typesField, Value.typeTexts_unplaced v,
      Node.typesField_unplaced rest]
    split <;> rfl

theorem Value.typeTexts_unplaced : ∀ v : Value, v.unplaced.typeTexts = withoutLine v.typeTexts
  | .null | .bool _ | .int _ | .float _ | .str _ | .map _ | .node _ => rfl
  | .list items => Value.typeTextsOf_unplaced items

theorem Value.typeTextsOf_unplaced : ∀ vs : List Value,
    Value.typeTextsOf (Value.itemsUnplaced vs) = withoutLine (Value.typeTextsOf vs)
  | [] => rfl
  | v :: vs => by
    rw [Value.itemsUnplaced, Value.typeTextsOf, Value.typeTextsOf, Value.typeText_unplaced v,
      Value.typeTextsOf_unplaced vs]
    simp only [withoutLine_bind, withoutLine_pure]

end

theorem typeText?_unplaced (v : Option Value) :
    typeText? (v.map Value.unplaced) = withoutLine (typeText? v) := by
  cases v with
  | none => rfl
  | some v => exact v.typeText_unplaced

/-! ## Parameters and members -/

namespace Parameter

/-- The name of a parameter does not depend on lines. -/
theorem nameOf_unplaced (n : Node) : nameOf n.unplaced = withoutLine (nameOf n) := by
  unfold nameOf
  rw [Node.child_unplaced, Node.text_unplaced]
  cases n.child "var" with
  | none => cases n.text "name" <;> simp
  | some var =>
    simp only [Option.map_some, Node.text_unplaced]
    cases var.text "name" <;> simp

/-- A parameter does not depend on lines. -/
theorem ofNode_unplaced (scope : Scope) (n : Node) :
    ofNode scope n.unplaced = withoutLine (ofNode scope n) := by
  unfold ofNode
  rw [Node.kind_unplaced, nameOf_unplaced, Node.field_unplaced, typeText?_unplaced,
    Node.child_unplaced, scope.literal?_unplaced, Node.flag_unplaced, Node.flag_unplaced]
  split <;> simp

/-- A list of parameters does not depend on lines, and fails at the same place. -/
theorem ofItems_unplaced (scope : Scope) (items : List Value) :
    ofItems scope (items.map Value.unplaced) = withoutLine (ofItems scope items) := by
  unfold ofItems
  rw [Value.filterMap_asNode?_unplaced]
  exact mapM_unplaced (ofNode_unplaced scope) _

end Parameter

theorem Node.memberName_unplaced (n : Node) (construct : Construct) :
    n.unplaced.memberName construct = withoutLine (n.memberName construct) := by
  unfold Node.memberName
  rw [Node.identifier?_unplaced]
  cases n.identifier? "name" <;> simp

namespace Scope

variable (scope : Scope)

theorem addMethod_unplaced (n : Node) (c : ClassLike) :
    scope.addMethod n.unplaced c = withoutLine (scope.addMethod n c) := by
  have hbody : ((n.field "stmts").map Value.unplaced).map (fun v => Digest.ofValue (some v)) =
      (n.field "stmts").map fun v => Digest.ofValue (some v) := by
    rw [Option.map_map]
    congr 1
    funext v
    exact Digest.ofValue_unplaced (some v)
  unfold addMethod
  rw [Node.memberName_unplaced, Node.items_unplaced, Parameter.ofItems_unplaced,
    Node.field_unplaced, hbody, Node.modifiers_unplaced]
  simp

theorem addConstant_unplaced (c : ClassLike) (n : Node) :
    scope.addConstant c n.unplaced = withoutLine (scope.addConstant c n) := by
  unfold addConstant
  rw [Node.memberName_unplaced, Node.child_unplaced, scope.literal?_unplaced]
  simp

theorem addProperty_unplaced (modifiers : Modifiers) (c : ClassLike) (n : Node) :
    scope.addProperty modifiers c n.unplaced = withoutLine (scope.addProperty modifiers c n) := by
  unfold addProperty
  rw [Node.memberName_unplaced, Node.child_unplaced, scope.literal?_unplaced]
  simp

/-- What a statement adds to a class-like does not depend on lines. -/
theorem addMember_unplaced (c : ClassLike) (n : Node) :
    scope.addMember c n.unplaced = withoutLine (scope.addMember c n) := by
  unfold addMember
  rw [Node.kind_unplaced, scope.addMethod_unplaced, Node.children_unplaced, Node.children_unplaced,
    foldlM_unplaced scope.addConstant_unplaced, Node.modifiers_unplaced,
    foldlM_unplaced (scope.addProperty_unplaced n.modifiers)]
  cases n.kind <;> simp

/-- A class-like does not depend on lines. -/
theorem classLike_unplaced (n : Node) (flavour : Flavour) (name : String)
    (parents interfaces : List Node) :
    scope.classLike n.unplaced flavour name (parents.map Node.unplaced)
        (interfaces.map Node.unplaced) =
      withoutLine (scope.classLike n flavour name parents interfaces) := by
  unfold classLike
  rw [mapM_unplaced scope.classReference_unplaced, mapM_unplaced scope.classReference_unplaced,
    Node.children_unplaced]
  simp only [withoutLine_bind, foldlM_unplaced scope.addMember_unplaced]

/-- The value of a `define` is the value of its second argument. -/
theorem defineOf?_unplaced (call : Node) :
    scope.defineOf? call.unplaced = (scope.defineOf? call).map withoutLine := by
  have hvalue : ((call.arguments.map Node.unplaced).drop 1).head?.bind (·.child "value") =
      ((call.arguments.drop 1).head?.bind (·.child "value")).map Node.unplaced := by
    rw [← List.map_drop, List.head?_map]
    cases (call.arguments.drop 1).head? <;> simp
  unfold defineOf?
  rw [Node.callsDefine_unplaced, Node.definedName?_unplaced, Node.arguments_unplaced, hvalue,
    scope.literal?_unplaced]
  split
  · cases call.definedName? <;> simp
  · rfl

end Scope

/-! ## Sites -/

/-- The site without the lines of its node and of the nodes around it. -/
def Site.unplaced (site : Site) : Site :=
  ⟨site.around.map Node.unplaced, site.node.unplaced⟩

theorem Value.searchedNodes_unplaced (field : String) (v : Value) :
    v.unplaced.searchedNodes field = (v.searchedNodes field).map Node.unplaced := by
  unfold Value.searchedNodes
  rw [Value.nodes_unplaced, List.filter_map]
  congr 2
  funext m
  rw [Function.comp_apply, decide_eq_decide, StandsAsStatement, StandsAsStatement, Node.tag_unplaced]

theorem searchedIn_unplaced (fields : List (String × Value)) :
    searchedIn (Value.entriesUnplaced fields) = (searchedIn fields).map Node.unplaced := by
  unfold searchedIn
  rw [Value.entriesUnplaced_eq_map, List.flatMap_map, List.map_flatMap]
  congr 1
  funext f
  exact Value.searchedNodes_unplaced f.1 f.2

/-- The same nodes are searched, whatever their lines are. -/
theorem Node.searchedNodes_unplaced (n : Node) :
    n.unplaced.searchedNodes = n.searchedNodes.map Node.unplaced := by
  unfold Node.searchedNodes
  rw [Node.kind_unplaced, Node.fields_unplaced, searchedIn_unplaced]
  split <;> rfl

/-- The walk goes the same way. The induction follows the descent of `Node.sites`. -/
theorem Node.sites_unplaced (around : List Node) (n : Node) :
    n.unplaced.sites (around.map Node.unplaced) = (n.sites around).map Site.unplaced := by
  rw [Node.sites_eq, Node.sites_eq around, Node.searchedNodes_unplaced, List.map_cons,
    List.flatMap_map, List.map_flatMap]
  congr 1
  rw [List.flatMap_def, List.flatMap_def]
  congr 1
  exact List.map_congr_left fun m hm => m.sites_unplaced (n :: around)
termination_by sizeOf n
decreasing_by exact n.sizeOf_lt_of_mem_searchedNodes hm

/-- The scope at a site does not depend on lines. -/
theorem scopeWithin_unplaced (around : List Node) :
    scopeWithin (around.map Node.unplaced) = scopeWithin around := by
  have hfind : (around.map Node.unplaced).find? (·.kind = .namespaceStmt) =
      (around.find? (·.kind = .namespaceStmt)).map Node.unplaced := by
    rw [List.find?_map]
    congr 2
    funext m
    simp
  unfold scopeWithin
  rw [hfind]
  cases around.find? (·.kind = .namespaceStmt) with
  | none => rfl
  | some n => exact Scope.ofNamespace_unplaced n

/-- The record of a site does not depend on lines. -/
theorem Site.declaration?_unplaced (site : Site) :
    site.unplaced.declaration? = site.declaration?.map withoutLine := by
  obtain ⟨around, n⟩ := site
  unfold Site.declaration? Site.unplaced
  dsimp only
  rw [scopeWithin_unplaced, Node.kind_unplaced]
  generalize scopeWithin around = scope
  cases n.kind with
  | function =>
    simp only [Node.declaredName?_unplaced, Node.items_unplaced, Parameter.ofItems_unplaced,
      Node.field_unplaced, Digest.ofValue_unplaced]
    cases n.declaredName? with
    | none => rfl
    | some name => simp only [Option.map_some, withoutLine_bind, withoutLine_pure]
  | interface =>
    simp only [Node.declaredName?_unplaced, Node.children_unplaced]
    cases n.declaredName? with
    | none => rfl
    | some name =>
      have hclass := scope.classLike_unplaced n .interface name (n.children "extends") []
      rw [List.map_nil] at hclass
      simp only [Option.map_some, hclass, withoutLine_map]
  | classStmt =>
    have hparents : (n.unplaced.child "extends").toList =
        (n.child "extends").toList.map Node.unplaced := by
      rw [Node.child_unplaced]
      cases n.child "extends" <;> rfl
    simp only [Node.declaredName?_unplaced, Node.modifiers_unplaced, Node.children_unplaced, hparents]
    cases n.declaredName? with
    | none => rfl
    | some name => simp only [Option.map_some, scope.classLike_unplaced, withoutLine_map]
  | traitStmt =>
    simp only [Node.declaredName?_unplaced]
    cases n.declaredName? with
    | none => rfl
    | some name =>
      have hclass := scope.classLike_unplaced n .traitDecl name [] []
      rw [List.map_nil] at hclass
      simp only [Option.map_some, hclass, withoutLine_map]
  | expression =>
    simp only [Node.child_unplaced]
    cases n.child "expr" with
    | none => rfl
    | some e =>
      by_cases he : e.kind = .call
      · simpa [Option.filter, he] using scope.defineOf?_unplaced e
      · simp [Option.filter, he]
  | call => exact scope.defineOf?_unplaced n
  | _ => rfl

/-! ## Signatures -/

theorem mapM_id_map_withoutLine {α : Type} : ∀ rs : List (Except Unsupported α),
    (rs.map withoutLine).mapM id = withoutLine (rs.mapM id)
  | [] => rfl
  | r :: rs => by
    rw [List.map_cons, List.mapM_cons, List.mapM_cons, mapM_id_map_withoutLine rs]
    simp

/-- The records of some sites do not depend on lines, and the first fault is that of the same site.
-/
theorem declarationsAt_unplaced (sites : List Site) :
    declarationsAt (sites.map Site.unplaced) = withoutLine (declarationsAt sites) := by
  have hrecords : (sites.map Site.unplaced).filterMap Site.declaration? =
      (sites.filterMap Site.declaration?).map withoutLine := by
    rw [List.filterMap_map, List.map_filterMap]
    congr 1
    funext site
    exact site.declaration?_unplaced
  rw [declarationsAt, hrecords, mapM_id_map_withoutLine, declarationsAt]

/-- The walk reaches the same sites, whatever the lines are. -/
theorem flatMap_sites_unplaced (ns : List Node) :
    (ns.map Node.unplaced).flatMap (Node.sites []) =
      (ns.flatMap (Node.sites [])).map Site.unplaced := by
  rw [List.flatMap_map, List.map_flatMap]
  congr 1
  funext n
  exact n.sites_unplaced []

/-- Statements without positions have the same signature text, or the same fault up to its line. -/
theorem signatureText_unplaced (ns : List Node) :
    signatureText (ns.map Node.unplaced) = withoutLine (signatureText ns) := by
  unfold signatureText
  rw [Signature.extract_eq_addSites, Signature.extract_eq_addSites, flatMap_sites_unplaced,
    Signature.addSites, Signature.addSites, declarationsAt_unplaced]
  cases declarationsAt (ns.flatMap (Node.sites [])) <;> rfl

/-- Statements that are the same without positions have one signature text, or faults of one
construct and one tag. -/
theorem signatureText_congr {ms ns : List Node}
    (h : ms.map Node.unplaced = ns.map Node.unplaced) :
    (∃ text, signatureText ms = .ok text ∧ signatureText ns = .ok text) ∨
      ∃ u v, signatureText ms = .error u ∧ signatureText ns = .error v ∧
        u.construct = v.construct ∧ u.tag = v.tag := by
  have heq : withoutLine (signatureText ms) = withoutLine (signatureText ns) := by
    rw [← signatureText_unplaced, ← signatureText_unplaced, h]
  cases hm : signatureText ms with
  | ok text =>
    cases hn : signatureText ns with
    | ok other =>
      rw [hm, hn, withoutLine_ok, withoutLine_ok, Except.ok.injEq] at heq
      exact .inl ⟨text, rfl, by rw [heq]⟩
    | error v => simp [hm, hn] at heq
  | error u =>
    cases hn : signatureText ns with
    | ok text => simp [hm, hn] at heq
    | error v =>
      rw [hm, hn, withoutLine_error, withoutLine_error, Except.error.injEq, Unsupported.unplaced,
        Unsupported.unplaced, Unsupported.mk.injEq] at heq
      exact .inr ⟨u, v, rfl, rfl, heq.1, heq.2.1⟩

/-- Two documents that differ in the positions of their nodes only, whatever stands there, fail to
decode with one fault, or decode both; then both have one signature text, or both hold a construct
of one sort, with one tag, that a signature cannot express. -/
theorem decode_and_signatureText_eq_of_unplaced_eq {xs ys : List Json}
    (h : xs.map Json.unplaced = ys.map Json.unplaced) :
    (∃ e, xs.mapM Node.ofJson = .error e ∧ ys.mapM Node.ofJson = .error e) ∨
      ∃ ms ns, xs.mapM Node.ofJson = .ok ms ∧ ys.mapM Node.ofJson = .ok ns ∧
        ((∃ text, signatureText ms = .ok text ∧ signatureText ns = .ok text) ∨
          ∃ u v, signatureText ms = .error u ∧ signatureText ns = .error v ∧
            u.construct = v.construct ∧ u.tag = v.tag) := by
  have heq : (xs.mapM Node.ofJson).map (List.map Node.unplaced) =
      (ys.mapM Node.ofJson).map (List.map Node.unplaced) := by
    rw [← Node.mapM_ofJson_unplaced, ← Node.mapM_ofJson_unplaced, h]
  cases hx : xs.mapM Node.ofJson with
  | error e =>
    cases hy : ys.mapM Node.ofJson with
    | error f =>
      rw [hx, hy] at heq
      injection heq with hef
      exact .inl ⟨e, rfl, by rw [hef]⟩
    | ok ns =>
      rw [hx, hy] at heq
      cases heq
  | ok ms =>
    cases hy : ys.mapM Node.ofJson with
    | error f =>
      rw [hx, hy] at heq
      cases heq
    | ok ns =>
      rw [hx, hy] at heq
      injection heq with hmn
      exact .inr ⟨ms, ns, rfl, rfl, signatureText_congr hmn⟩

/-- A class with a member that no signature expresses: the member is on line 3 in one document and on
no line in the other, where its position is no object and comes before the tag. -/
theorem decode_and_signatureText_eq_of_unplaced_eq_member :
    let member (entries : List (String × Json)) : Json :=
      .obj [("nodeType", .str "Stmt_Class"), ("name", .str "A"), ("stmts", .arr [.obj entries])]
    let placed := [member [("nodeType", .str "Stmt_TraitUse"),
      ("attributes", .obj [("startLine", .num (.int 3))])]]
    let moved := [member [("attributes", .bool true), ("nodeType", .str "Stmt_TraitUse")]]
    placed.map Json.unplaced = moved.map Json.unplaced ∧
      ((∃ e, placed.mapM Node.ofJson = .error e ∧ moved.mapM Node.ofJson = .error e) ∨
        ∃ ms ns, placed.mapM Node.ofJson = .ok ms ∧ moved.mapM Node.ofJson = .ok ns ∧
          ((∃ text, signatureText ms = .ok text ∧ signatureText ns = .ok text) ∨
            ∃ u v, signatureText ms = .error u ∧ signatureText ns = .error v ∧
              u.construct = v.construct ∧ u.tag = v.tag)) := by
  intro member placed moved
  have h : placed.map Json.unplaced = moved.map Json.unplaced := by
    rfl
  exact ⟨h, decode_and_signatureText_eq_of_unplaced_eq h⟩

end SourceSig
