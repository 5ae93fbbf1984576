import SourceSig.Proofs.Rewriting

/-!
# Bodies are opaque

Of the body of a function or a method a signature holds a digest and nothing else. Whatever stands
in the bodies (declarations, calls of `define`, constructs that no signature expresses), it is not
searched, and it can neither add a record nor be a fault.

`Signature.extract_withoutBodies_eq` : statements that differ in such bodies only have the same
fault, or signatures that are the same without the digests of bodies.
-/

namespace SourceSig

/-! ## Signatures without bodies -/

/-- The digest in the place of those that do not matter. -/
def Digest.blank : Digest :=
  ⟨List.replicate 32 0, rfl⟩

/-- The function without the digest of its body. -/
def Function.withoutBody (f : Function) : Function :=
  { f with body := .blank }

/-- The method without the digest of its body. Whether it has a body is left. -/
def Method.withoutBody (m : Method) : Method :=
  { m with body := m.body.map fun _ => .blank }

/-- The member without the digest of its body, if it is a method. -/
def Member.withoutBody : Member → Member
  | .method m => .method m.withoutBody
  | m => m

/-- The class-like without the digests of the bodies of its methods. -/
def ClassLike.withoutBodies (c : ClassLike) : ClassLike :=
  { c with methods := c.methods.map Method.withoutBody }

/-- The record without the digests of bodies in it. -/
def Declaration.withoutBodies : Declaration → Declaration
  | .define d => .define d
  | .function f => .function f.withoutBody
  | .classLike c => .classLike c.withoutBodies

/-- The signature without the digests of bodies in it. -/
def Signature.withoutBodies (s : Signature) : Signature where
  defines := s.defines
  functions := s.functions.map Function.withoutBody
  classLikes := s.classLikes.map ClassLike.withoutBodies

theorem Signature.withoutBodies_ofDeclarations (ds : List Declaration) :
    (ofDeclarations ds).withoutBodies = ofDeclarations (ds.map Declaration.withoutBodies) := by
  have hdefine : Declaration.define? ∘ Declaration.withoutBodies = Declaration.define? := by
    funext d
    cases d <;> rfl
  have hfunction : Declaration.function? ∘ Declaration.withoutBodies =
      fun d => d.function?.map Function.withoutBody := by
    funext d
    cases d <;> rfl
  have hclassLike : Declaration.classLike? ∘ Declaration.withoutBodies =
      fun d => d.classLike?.map ClassLike.withoutBodies := by
    funext d
    cases d <;> rfl
  simp only [ofDeclarations_eq, withoutBodies, List.map_filterMap, List.filterMap_map, hdefine,
    hfunction, hclassLike]

theorem Member.method?_withoutBody (flavour : Flavour) (m : Member) :
    m.withoutBody.method? flavour = (m.method? flavour).map Method.withoutBody := by
  cases m with
  | method m =>
    unfold method? withoutBody Method.withoutBody
    dsimp only [Option.map_some]
    split <;> rfl
  | _ => rfl

theorem ClassLike.withoutBodies_addAll (c : ClassLike) (ms : List Member) :
    (c.addAll ms).withoutBodies = c.withoutBodies.addAll (ms.map Member.withoutBody) := by
  have hconstant : Member.constant? ∘ Member.withoutBody = Member.constant? := by
    funext m
    cases m <;> rfl
  have hproperty : Member.property? ∘ Member.withoutBody = Member.property? := by
    funext m
    cases m <;> rfl
  have hmethod : Member.method? c.flavour ∘ Member.withoutBody =
      fun m => (m.method? c.flavour).map Method.withoutBody :=
    funext (Member.method?_withoutBody c.flavour)
  simp only [addAll_eq, withoutBodies, List.map_append, List.map_filterMap, List.filterMap_map,
    hconstant, hproperty, hmethod]

/-! ## Changes to bodies -/

/-- A method with one body in the place of another. -/
inductive MethodBodyReplaced : Node → Node → Prop
  | intro {n m : Node} {v w : Value} : n.kind = .method → v.isNull = false → w.isNull = false →
      Node.Replaces "stmts" v w n m → MethodBodyReplaced n m

/-- A change to one body: that of a function or a method that the walk reaches, or that of a method
right in the body of an interface, a class or a trait. -/
inductive BodyReplaced : Node → Node → Prop
  | function {n m : Node} {v w : Value} : n.kind = .function →
      Node.Replaces "stmts" v w n m → BodyReplaced n m
  | method {n m : Node} : MethodBodyReplaced n m → BodyReplaced n m
  | member {n m p q : Node} (before after : List Value) : n.kind.isClassLike →
      MethodBodyReplaced p q →
        Node.Replaces "stmts" (.list (before ++ .node p :: after))
          (.list (before ++ .node q :: after)) n m → BodyReplaced n m

theorem BodyReplaced.exists_replaces {n m : Node} (h : BodyReplaced n m) :
    ∃ v w, Node.Replaces "stmts" v w n m := by
  cases h with
  | function _ hreplaces => exact ⟨_, _, hreplaces⟩
  | method hmethod =>
    obtain ⟨_, _, _, hreplaces⟩ := hmethod
    exact ⟨_, _, hreplaces⟩
  | member before after _ _ hreplaces => exact ⟨_, _, hreplaces⟩

section Records

variable {n m : Node}

/-- A method has a body under the one value as under the other. -/
theorem MethodBodyReplaced.member_eq (h : MethodBodyReplaced n m) (scope : Scope) :
    seen Member.withoutBody id (scope.member (.method m)) =
      seen Member.withoutBody id (scope.member (.method n)) := by
  obtain ⟨-, hv, hw, hreplaces⟩ := h
  have hbody : ((m.field "stmts").map fun v => Digest.ofValue (some v)).map (fun _ => .blank) =
      ((n.field "stmts").map fun v => Digest.ofValue (some v)).map fun _ => Digest.blank := by
    rw [Option.map_map, Option.map_map]
    rcases hreplaces.field_self with heq | ⟨hn, hm⟩
    · rw [heq]
    · rw [hn, hm]
      simp [Option.filter, hv, hw]
  simp only [Scope.member, hreplaces.memberName_of_stmts, hreplaces.modifiers_of_stmts,
    hreplaces.items_of_ne (by decide : "params" ≠ "stmts")]
  -- The digests themselves are of no account.
  generalize (m.field "stmts").map (fun v => Digest.ofValue (some v)) = bodyOfM at hbody
  generalize (n.field "stmts").map (fun v => Digest.ofValue (some v)) = bodyOfN at hbody
  cases n.memberName .methodName with
  | error u => rfl
  | ok name =>
    cases Parameter.ofItems scope (n.items "params") with
    | error u => rfl
    | ok params =>
      refine congrArg Except.ok ?_
      rw [Member.withoutBody, Member.withoutBody, Method.withoutBody, Method.withoutBody, hbody]

theorem MethodBodyReplaced.kind_eq (h : MethodBodyReplaced n m) :
    n.kind = .method ∧ m.kind = .method := by
  obtain ⟨hkind, -, -, hreplaces⟩ := h
  exact ⟨hkind, hreplaces.kind_eq.trans hkind⟩

/-- The members of a body are the same up to the digest of the one method. -/
theorem MethodBodyReplaced.members_eq {p q : Node} (h : MethodBodyReplaced p q) (scope : Scope)
    (before after : List Node) :
    seen (List.map Member.withoutBody) id (scope.members (before ++ q :: after)) =
      seen (List.map Member.withoutBody) id (scope.members (before ++ p :: after)) := by
  have hp : p.entries = [.method p] := by simp only [Node.entries, h.kind_eq.1]
  have hq : q.entries = [.method q] := by simp only [Node.entries, h.kind_eq.2]
  unfold Scope.members
  rw [seen_mapM, seen_mapM]
  simp only [List.flatMap_append, List.flatMap_cons, hp, hq, List.mapM_append, List.mapM_cons,
    List.singleton_append, h.member_eq]

/-- Nothing but a digest depends on the body of a function. -/
theorem record_eq_of_function {v w : Value} (hkind : n.kind = .function)
    (h : Node.Replaces "stmts" v w n m) (around : List Node) :
    (Site.declaration? ⟨around, m⟩).map (seen Declaration.withoutBodies id) =
      (Site.declaration? ⟨around, n⟩).map (seen Declaration.withoutBodies id) := by
  simp only [Site.declaration?, h.kind_eq, hkind, h.declaredName?_of_stmts,
    h.items_of_ne (by decide : "params" ≠ "stmts"), Option.map_map, Function.comp_def,
    seen_bind_pure, Declaration.withoutBodies, Function.withoutBody]

/-- A class-like without bodies is made of its members without theirs. -/
theorem record_eq_of_member {p q : Node} {before after : List Value} (hkind : n.kind.isClassLike)
    (hpq : MethodBodyReplaced p q)
    (h : Node.Replaces "stmts" (.list (before ++ .node p :: after))
      (.list (before ++ .node q :: after)) n m) (around : List Node) :
    (Site.declaration? ⟨around, m⟩).map (seen Declaration.withoutBodies id) =
      (Site.declaration? ⟨around, n⟩).map (seen Declaration.withoutBodies id) := by
  have hview : ∀ (c : ClassLike) {xs ys : List Member},
      ys.map Member.withoutBody = xs.map Member.withoutBody →
        Declaration.withoutBodies (.classLike (c.addAll ys)) =
          Declaration.withoutBodies (.classLike (c.addAll xs)) := by
    intro c xs ys heq
    simp only [Declaration.withoutBodies, ClassLike.withoutBodies_addAll, heq]
  refine record_eq_of_members h hkind hview (fun scope => ?_) around
  rcases h.children_stmts with heq | ⟨hn, hm⟩
  · rw [heq]
  · rw [hn, hm, List.filterMap_append, List.filterMap_append]
    exact hpq.members_eq scope _ _

end Records

/-- A change of a body keeps what is seen of records without bodies, and every fault. -/
theorem BodyReplaced.keeps : Keeps Declaration.withoutBodies id BodyReplaced where
  isContainer := by
    intro n m h
    cases h with
    | function hkind _ => rw [hkind]; rfl
    | method hmethod => rw [hmethod.kind_eq.1]; rfl
    | member before after hkind _ _ => exact Kind.isContainer_of_isClassLike hkind
  tag := by
    intro n m h
    obtain ⟨v, w, hreplaces⟩ := h.exists_replaces
    exact hreplaces.tag_eq
  joinedName := by
    intro n m h
    obtain ⟨v, w, hreplaces⟩ := h.exists_replaces
    exact hreplaces.joinedName_of_stmts
  record := by
    intro n m h around
    cases h with
    | function hkind hreplaces => exact record_eq_of_function hkind hreplaces around
    | method hmethod => simp only [Site.declaration?, hmethod.kind_eq.1, hmethod.kind_eq.2]
    | member before after hkind hmethod hreplaces =>
      exact record_eq_of_member hkind hmethod hreplaces around

/-- Statements that differ in the bodies of functions and methods have the same fault, or signatures
that are the same up to the digests of these bodies. -/
theorem Signature.extract_withoutBodies_eq {ns ms : List Node}
    (h : Relation.ReflTransGen (RewritesIn BodyReplaced) ns ms) :
    (extract ms).map withoutBodies = (extract ns).map withoutBodies := by
  have hseen : ∀ statements : List Node, (extract statements).map withoutBodies =
      ofDeclarations <$> seen (List.map Declaration.withoutBodies) id
        (declarationsAt (statements.flatMap (Node.sites []))) := by
    intro statements
    rw [extract_eq_addSites, addSites]
    cases declarationsAt (statements.flatMap (Node.sites [])) with
    | error u => rfl
    | ok ds => exact congrArg Except.ok (withoutBodies_ofDeclarations ds)
  rw [hseen, hseen, seen_declarationsAt_eq_of_rewrites BodyReplaced.keeps h]

/-- A function, a method of a class and a method of an enumeration: their bodies are empty, or
declare a function each. -/
theorem Signature.extract_withoutBodies_eq_nested :
    let named (tag name : String) (stmts : Value) : Node :=
      ⟨tag, [("name", .str name), ("stmts", stmts)], {}⟩
    let method (body : Value) : Node := named "Stmt_ClassMethod" "m" body
    let file (v w x : Value) : List Node :=
      [named "Stmt_Function" "f" v, named "Stmt_Class" "A" (.list [.node (method w)]),
        named "Stmt_Enum" "E" (.list [.node (method x)])]
    let empty : Value := .list []
    let nested : Value := .list [.node (named "Stmt_Function" "g" empty)]
    Relation.ReflTransGen (RewritesIn BodyReplaced) (file empty empty empty)
        (file nested nested nested) ∧
      (extract (file nested nested nested)).map withoutBodies =
        (extract (file empty empty empty)).map withoutBodies := by
  intro named method file empty nested
  have hmethod : MethodBodyReplaced (method empty) (method nested) :=
    .intro rfl rfl rfl (.intro _ [_] [] _)
  have hfirst : RewritesIn BodyReplaced (file empty empty empty) (file nested empty empty) :=
    .intro [] _ (.here (.function rfl (.intro _ [_] [] _)))
  have hsecond : RewritesIn BodyReplaced (file nested empty empty) (file nested nested empty) :=
    .intro [_] [_] (.here (.member [] [] rfl hmethod (.intro _ [_] [] _)))
  have hthird : RewritesIn BodyReplaced (file nested nested empty) (file nested nested nested) :=
    .intro [_, _] []
      (.inside rfl (.inl rfl) (.here (.method hmethod)) (.item [] []) (.intro _ [_] [] _))
  have h := ((Relation.ReflTransGen.single hfirst).tail hsecond).tail hthird
  exact ⟨h, extract_withoutBodies_eq h⟩

end SourceSig
