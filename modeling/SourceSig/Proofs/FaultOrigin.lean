import SourceSig.Proofs.SiteRecords
import SourceSig.Proofs.TypeFaults
import Mathlib.Logic.Relation

/-!
# Where faults come from

A fault names a construct, a tag and a line. The three belong together: the tag and the line are
those of one node of the source, and the construct is what could not be read from that node
(`Node.Blocks`). The node stands inside a declaration that the walk has reached, among its members,
parameters, types, parents and values.

Each reader of a node is followed once. `Unsupported.ArisesIn` is what a reader promises of its
faults, and a reader that calls another on a child passes the promise on
(`ArisesInside.arisesIn`).

`Signature.fault_of_extract` : every fault of an extraction arises inside a named function or
class-like or a call of `define`, and without such declarations there is no fault.
-/

namespace SourceSig

open Relation (ReflTransGen TransGen)

/-! ## Nodes inside nodes -/

/-- A node that is the value of a field, or stands in the list of one. -/
def Node.HasChild (n m : Node) : Prop :=
  ∃ f ∈ n.fields, m ∈ f.2.nodes

/-- A node occurs in some statements if it is one of them or stands inside one. -/
def OccursIn (statements : List Node) (m : Node) : Prop :=
  ∃ n ∈ statements, ReflTransGen Node.HasChild n m

/-- The node is reached by the walk, or is the call of an expression statement that is reached. -/
def Walked (statements : List Node) (d : Node) : Prop :=
  ∃ site ∈ statements.flatMap (Node.sites []), d = site.node ∨ site.call? = some d

/-- A function, an interface, a class or a trait with a name, or a call of `define`. -/
def Node.IsDeclaration (n : Node) : Prop :=
  n.kind ∈ [.function, .interface, .classStmt, .traitStmt] ∧ n.declaredName?.isSome ∨
    n.kind = .call ∧ n.callsDefine

instance (n : Node) : Decidable n.IsDeclaration :=
  inferInstanceAs (Decidable (_ ∨ _))

namespace Node

variable {n m : Node} {name : String}

/-- The node in a field is inside its node. -/
theorem hasChild_of_child (h : n.child name = some m) : n.HasChild m := by
  obtain ⟨v, hfield, hnode⟩ := Option.bind_eq_some_iff.mp h
  refine ⟨(name, v), mem_fields_of_field hfield, ?_⟩
  cases v with
  | node c =>
    obtain rfl := Option.some.inj hnode
    exact List.mem_singleton_self c
  | _ => cases hnode

theorem hasChild_of_mem_children (h : m ∈ n.children name) : n.HasChild m := by
  unfold children items at h
  split at h
  · next items hfield => exact ⟨_, mem_fields_of_field hfield, h⟩
  · simp at h

/-- The arguments of a call are inside it. -/
theorem hasChild_of_mem_arguments (h : m ∈ n.arguments) : n.HasChild m :=
  hasChild_of_mem_children (List.mem_filter.mp h).1

theorem hasChild_of_mem_searchedNodes (h : m ∈ n.searchedNodes) : n.HasChild m := by
  unfold searchedNodes at h
  split at h
  · obtain ⟨f, hf, hm⟩ := List.mem_flatMap.mp h
    exact ⟨f, hf, (List.mem_filter.mp hm).1⟩
  · simp at h

theorem hasChild_of_mem_typeParts (h : .node m ∈ n.typeParts) : n.HasChild m := by
  have hfield : .node m ∈ (n.field "type").toList → n.HasChild m := by
    intro h
    have hchild : n.child "type" = some m := by
      rw [child, Option.mem_toList.mp h]
      rfl
    exact hasChild_of_child hchild
  have hitems : .node m ∈ n.items "types" → n.HasChild m := fun h =>
    hasChild_of_mem_children (List.mem_filterMap.mpr ⟨_, h, rfl⟩)
  unfold typeParts at h
  split at h
  · exact hfield h
  · exact hfield h
  · exact hitems h
  · exact hitems h
  · simp at h

/-- The nodes of a type stand inside the type. -/
theorem reaches_of_mem_typeNodes (h : m ∈ (Value.node n).typeNodes) :
    ReflTransGen HasChild n m := by
  suffices ∀ v : Value, ∀ n, v = .node n → m ∈ v.typeNodes → ReflTransGen HasChild n m from
    this _ n rfl h
  intro v
  induction v using Value.type_induction with
  | plain v hv =>
    rintro n rfl
    cases hv
  | node n ih =>
    rintro _ ⟨⟩ hm
    rw [Value.typeNodes_node, List.mem_append, List.mem_singleton] at hm
    rcases hm with hm | rfl
    · obtain ⟨v, hv, hm⟩ := List.mem_flatMap.mp hm
      cases v with
      | node c => exact .head (hasChild_of_mem_typeParts hv) (ih _ hv c rfl hm)
      | _ => simp [Value.typeNodes] at hm
    · exact .refl

/-- What the walk reaches from a node stands inside it. -/
theorem reaches_of_mem_sites (n : Node) (around : List Node) {site : Site}
    (h : site ∈ n.sites around) : ReflTransGen HasChild n site.node := by
  rw [sites_eq, List.mem_cons] at h
  rcases h with rfl | h
  · exact .refl
  · obtain ⟨c, hc, hsite⟩ := List.mem_flatMap.mp h
    exact .head (hasChild_of_mem_searchedNodes hc) (reaches_of_mem_sites c (n :: around) hsite)
termination_by sizeOf n
decreasing_by exact n.sizeOf_lt_of_mem_searchedNodes hc

end Node

/-- The call of a site is its node, or inside it. -/
theorem Site.reaches_of_call {site : Site} {call : Node} (h : site.call? = some call) :
    ReflTransGen Node.HasChild site.node call := by
  unfold Site.call? at h
  split at h
  · obtain rfl := Option.some.inj h
    exact .refl
  · exact .single (Node.hasChild_of_child (Option.filter_eq_some_iff.mp h).1)
  · cases h

/-- What the walk reaches occurs among the statements. -/
theorem Walked.occursIn {statements : List Node} {d : Node} (h : Walked statements d) :
    OccursIn statements d := by
  obtain ⟨site, hsite, hd⟩ := h
  obtain ⟨n, hn, hsite⟩ := List.mem_flatMap.mp hsite
  have hreaches := n.reaches_of_mem_sites [] hsite
  rcases hd with rfl | hcall
  · exact ⟨n, hn, hreaches⟩
  · exact ⟨n, hn, hreaches.trans (Site.reaches_of_call hcall)⟩

/-! ## Faults of one node -/

/-- The construct cannot be read from the node. -/
def Node.Blocks (n : Node) : Construct → Prop
  | .parameter => n.kind ≠ .param
  | .parameterVariable => n.text "name" = none
  | .parameterWithoutName => n.kind = .param ∧ n.child "var" = none ∧ n.text "name" = none
  | .parameterType => n.kind ∉ typeKinds
  | .nullableType => n.kind = .nullableType ∧ ∀ v ∈ n.field "type", v.Typeless
  | .classReference => n.kind.isName = false ∧ n.kind ≠ .variableExpr
  | .variableClassReference => n.kind = .variableExpr ∧ n.text "name" = none
  | .methodName => n.kind = .method ∧ n.identifier? "name" = none
  | .constantName => n.identifier? "name" = none
  | .propertyName => n.identifier? "name" = none
  | .classMember => n.kind ∉ [.method, .classConst, .property, .nop]

namespace Unsupported

variable {u : Unsupported} {n : Node}

/-- The fault is that of a node which is `n` or stands inside it. -/
def ArisesIn (u : Unsupported) (n : Node) : Prop :=
  ∃ m, ReflTransGen Node.HasChild n m ∧ m.Blocks u.construct ∧ u.tag = m.tag ∧ u.line = m.line

/-- The fault is that of a node inside `n`. -/
def ArisesInside (u : Unsupported) (n : Node) : Prop :=
  ∃ c, n.HasChild c ∧ u.ArisesIn c

theorem arisesIn_of_blocks {construct : Construct} (h : n.Blocks construct) :
    (of construct n).ArisesIn n :=
  ⟨n, .refl, h, rfl, rfl⟩

/-- What arises strictly inside a node arises in it. -/
theorem ArisesInside.arisesIn (h : u.ArisesInside n) : u.ArisesIn n := by
  obtain ⟨c, hc, m, hm, hblocks⟩ := h
  exact ⟨m, .head hc hm, hblocks⟩

end Unsupported

/-- The faults of a reader are those of nodes inside `n`, so they arise in `n`. -/
theorem OnError.arisesIn {α : Type} {r : Except Unsupported α} {n : Node}
    (h : OnError (·.ArisesInside n) r) : OnError (·.ArisesIn n) r :=
  h.mono fun _ => Unsupported.ArisesInside.arisesIn

/-- A fault that arises in a child arises strictly inside. -/
theorem OnError.of_hasChild {α : Type} {r : Except Unsupported α} {n c : Node} (hc : n.HasChild c)
    (h : OnError (·.ArisesIn c) r) : OnError (·.ArisesInside n) r :=
  h.mono fun _ hu => ⟨c, hc, hu⟩

/-- A reader that goes through children has their faults. -/
theorem OnError.mapM_of_hasChild {α : Type} {read : Node → Except Unsupported α} {n : Node}
    {cs : List Node} (hcs : ∀ c ∈ cs, n.HasChild c)
    (h : ∀ c ∈ cs, OnError (·.ArisesIn c) (read c)) : OnError (·.ArisesInside n) (cs.mapM read) :=
  OnError.mapM fun c hc => (h c hc).of_hasChild (hcs c hc)

/-! ## References and literals -/

namespace Scope

variable (scope : Scope)

/-- A reference to a class fails at its own node. -/
theorem onError_classReference (n : Node) : OnError (·.ArisesIn n) (scope.classReference n) := by
  unfold classReference
  split
  · exact onError_ok _
  · exact onError_ok _
  · exact onError_ok _
  · next hkind =>
    split
    · exact onError_ok _
    · next hname => exact onError_error (Unsupported.arisesIn_of_blocks ⟨hkind, hname⟩)
  · next hname hrelative hqualified hvariable =>
    refine onError_error (Unsupported.arisesIn_of_blocks ⟨?_, hvariable⟩)
    cases hkind : n.kind <;> simp_all [Kind.isName]

/-- A constant expression fails in a node of its own. -/
theorem onError_literal (n : Node) : OnError (·.ArisesIn n) (scope.literal n) := by
  unfold literal
  split
  · exact onError_ok _
  · exact onError_ok _
  · exact onError_ok _
  · exact onError_ok _
  · refine OnError.bind ?_ fun cls => onError_ok _
    cases hclass : n.child "class" with
    | none => exact onError_ok ""
    | some c =>
      have hfaults := (scope.onError_classReference c).of_hasChild (Node.hasChild_of_child hclass)
      exact hfaults.arisesIn
  · exact onError_ok _

theorem onError_literal? {n : Node} {x : Option Node} (hx : ∀ c ∈ x, n.HasChild c) :
    OnError (·.ArisesInside n) (scope.literal? x) := by
  cases x with
  | none => exact onError_ok ""
  | some c => exact (scope.onError_literal c).of_hasChild (hx c rfl)

theorem onError_literal?_child (n : Node) (name : String) :
    OnError (·.ArisesInside n) (scope.literal? (n.child name)) :=
  scope.onError_literal? fun _ hc => Node.hasChild_of_child hc

end Scope

/-! ## Types and parameters -/

/-- A node that is no type blocks the construct that its fault names. -/
theorem Node.BlocksType.blocks {n : Node} (h : n.BlocksType) : n.Blocks n.typeFault.construct := by
  unfold typeFault Unsupported.of
  rcases h with hkind | ⟨hkind, hinner⟩
  · have hne : n.kind ≠ .nullableType := by
      intro heq
      simp [heq, typeKinds] at hkind
    rw [if_neg hne]
    exact hkind
  · rw [if_pos hkind]
    exact ⟨hkind, (typeText?_eq_ok_none_iff _).mp hinner⟩

/-- A type fails at a node inside the one that it is a field of. -/
theorem Node.onError_typeText? (n : Node) :
    OnError (·.ArisesInside n) (typeText? (n.field "type")) := by
  intro u hu
  have hfault := faultOf_typeText? (n.field "type")
  rw [faultOf_eq_some_iff.mpr hu] at hfault
  obtain ⟨m, hfind, rfl⟩ := Option.map_eq_some_iff.mp hfault.symm
  have hblocks : m.BlocksType := by simpa using List.find?_some hfind
  obtain ⟨v, hv, hm⟩ := List.mem_flatMap.mp (List.mem_of_find?_eq_some hfind)
  cases v with
  | node c =>
    have hc : n.child "type" = some c := by
      rw [child, Option.mem_toList.mp hv]
      rfl
    exact ⟨c, hasChild_of_child hc, m, reaches_of_mem_typeNodes hm, hblocks.blocks, rfl, rfl⟩
  | _ => simp [Value.typeNodes] at hm

namespace Parameter

/-- The name of a parameter fails at the parameter, or at its variable. -/
theorem onError_nameOf {n : Node} (hkind : n.kind = .param) :
    OnError (·.ArisesIn n) (nameOf n) := by
  unfold nameOf
  split
  · next var hvar =>
    split
    · exact onError_ok _
    · next hname =>
      have hfault : OnError (·.ArisesIn var)
          (.error (.of .parameterVariable var) : Except Unsupported String) :=
        onError_error (Unsupported.arisesIn_of_blocks hname)
      exact (hfault.of_hasChild (Node.hasChild_of_child hvar)).arisesIn
  · next hvar =>
    split
    · exact onError_ok _
    · next hname => exact onError_error (Unsupported.arisesIn_of_blocks ⟨hkind, hvar, hname⟩)

/-- A parameter fails in its own node. -/
theorem onError_ofNode (scope : Scope) (n : Node) : OnError (·.ArisesIn n) (ofNode scope n) := by
  unfold ofNode
  split
  · next hkind =>
    refine (onError_nameOf hkind).bind fun name => ?_
    refine n.onError_typeText?.arisesIn.bind fun type => ?_
    exact (scope.onError_literal?_child n "default").arisesIn.bind fun default => onError_ok _
  · next hkind => exact onError_error (Unsupported.arisesIn_of_blocks hkind)

/-- The parameters of a node fail inside it. -/
theorem onError_ofItems (scope : Scope) (n : Node) :
    OnError (·.ArisesInside n) (ofItems scope (n.items "params")) :=
  OnError.mapM_of_hasChild (fun _ hc => Node.hasChild_of_mem_children hc)
    fun c _ => onError_ofNode scope c

end Parameter

/-! ## Members -/

theorem Node.onError_memberName {n : Node} {construct : Construct}
    (h : n.identifier? "name" = none → n.Blocks construct) :
    OnError (·.ArisesIn n) (n.memberName construct) := by
  unfold memberName
  split
  · exact onError_ok _
  · next hname => exact onError_error (Unsupported.arisesIn_of_blocks (h hname))

/-- A constant or a property has a name and an expression of its own. -/
theorem Scope.onError_entry (scope : Scope) (c : Node) (construct : Construct) (field : String)
    (h : c.identifier? "name" = none → c.Blocks construct) (build : String → String → Member) :
    OnError (·.ArisesIn c) (do
      let name ← c.memberName construct
      let value ← scope.literal? (c.child field)
      return build name value) := by
  refine (Node.onError_memberName h).bind fun name => ?_
  exact (scope.onError_literal?_child c field).arisesIn.bind fun value => onError_ok _

/-- What a statement in a body declares has its faults in the statement. -/
theorem Scope.onError_member (scope : Scope) {n : Node} {e : Entry} (he : e ∈ n.entries) :
    OnError (·.ArisesIn n) (scope.member e) := by
  unfold Node.entries at he
  split at he
  · next hkind =>
    obtain rfl := List.mem_singleton.mp he
    have hname : n.identifier? "name" = none → n.Blocks .methodName := fun h => ⟨hkind, h⟩
    refine (Node.onError_memberName hname).bind fun name => ?_
    exact (Parameter.onError_ofItems scope n).arisesIn.bind fun params => onError_ok _
  · obtain ⟨c, hc, rfl⟩ := List.mem_map.mp he
    have hfaults := scope.onError_entry c .constantName "value" id
      fun name value => .constant ⟨name, value⟩
    exact (hfaults.of_hasChild (Node.hasChild_of_mem_children hc)).arisesIn
  · obtain ⟨c, hc, rfl⟩ := List.mem_map.mp he
    have hfaults := scope.onError_entry c .propertyName "default" id
      fun name value => .property ⟨n.modifiers, name, some value⟩
    exact (hfaults.of_hasChild (Node.hasChild_of_mem_children hc)).arisesIn
  · simp at he
  · next hmethod hconst hproperty hnop =>
    obtain rfl := List.mem_singleton.mp he
    refine onError_error (Unsupported.arisesIn_of_blocks ?_)
    simpa [Node.Blocks] using ⟨hmethod, hconst, hproperty, hnop⟩

/-- The members of a class-like fail inside it. -/
theorem Scope.onError_members (scope : Scope) (n : Node) :
    OnError (·.ArisesInside n) (scope.members (n.children "stmts")) := by
  refine OnError.mapM fun e he => ?_
  obtain ⟨c, hc, he⟩ := List.mem_flatMap.mp he
  exact (scope.onError_member he).of_hasChild (Node.hasChild_of_mem_children hc)

/-! ## Declarations -/

theorem Node.hasChild_of_header? {n : Node} {flavour : Flavour} {parents interfaces : List Node}
    (h : n.header? = some (flavour, parents, interfaces)) :
    (∀ c ∈ parents, n.HasChild c) ∧ ∀ c ∈ interfaces, n.HasChild c := by
  have hchildren (name : String) : ∀ c ∈ n.children name, n.HasChild c :=
    fun _ hc => hasChild_of_mem_children hc
  unfold header? at h
  split at h
  · cases h
    exact ⟨hchildren "extends", by simp⟩
  · cases h
    refine ⟨fun c hc => ?_, hchildren "implements"⟩
    exact hasChild_of_child (Option.mem_toList.mp hc)
  · cases h
    exact ⟨by simp, by simp⟩
  · cases h

/-- A class-like fails strictly inside its own node: its header and its members are children. -/
theorem Scope.onError_classLike (scope : Scope) {n : Node} {flavour : Flavour}
    {parents interfaces : List Node} (h : n.header? = some (flavour, parents, interfaces))
    (name : String) :
    OnError (·.ArisesInside n) (scope.classLike n flavour name parents interfaces) := by
  obtain ⟨hparents, hinterfaces⟩ := Node.hasChild_of_header? h
  have hreference {cs : List Node} (hcs : ∀ c ∈ cs, n.HasChild c) :
      OnError (·.ArisesInside n) (cs.mapM scope.classReference) :=
    OnError.mapM_of_hasChild hcs fun c _ => scope.onError_classReference c
  rw [classLike_eq]
  refine (hreference hparents).bind fun parents => ?_
  refine (hreference hinterfaces).bind fun interfaces => ?_
  exact (scope.onError_members n).bind fun members => onError_ok _

/-- The value of a constant is the text of the second argument. -/
theorem Scope.onError_literal?_argument (scope : Scope) (call : Node) :
    OnError (·.ArisesInside call)
      (scope.literal? ((call.arguments.drop 1).head?.bind (·.child "value"))) := by
  cases harg : (call.arguments.drop 1).head? with
  | none => exact onError_ok ""
  | some arg =>
    have hmem : arg ∈ call.arguments := List.mem_of_mem_drop (List.mem_of_mem_head? harg)
    have hfaults := (scope.onError_literal?_child arg "value").arisesIn
    exact hfaults.of_hasChild (Node.hasChild_of_mem_arguments hmem)

/-- The record of a site is that of a declaration, and its faults arise inside the declaration. -/
theorem Site.Declares.onError {site : Site} {r : Except Unsupported Declaration}
    (h : site.Declares r) : ∃ d, (d = site.node ∨ site.call? = some d) ∧ d.IsDeclaration ∧
      OnError (·.ArisesInside d) r := by
  cases h with
  | function hkind hname =>
    refine ⟨site.node, .inl rfl, .inl ⟨by simp [hkind], by simp [hname]⟩, ?_⟩
    exact (Parameter.onError_ofItems _ site.node).bind fun params => onError_ok _
  | classLike hheader hname =>
    have hkind := List.mem_cons_of_mem Kind.function (Node.kind_of_header? hheader)
    refine ⟨site.node, .inl rfl, .inl ⟨hkind, by simp [hname]⟩, ?_⟩
    exact (Scope.onError_classLike _ hheader _).map
  | @define call name hcall hdefine _ =>
    refine ⟨call, .inr hcall, .inr ⟨Site.kind_of_call hcall, hdefine⟩, ?_⟩
    exact (Scope.onError_literal?_argument _ call).bind fun value => onError_ok _

/-! ## Extraction -/

namespace Signature

/-- The walk fails strictly inside a declaration that it reached. -/
theorem onError_extract (statements : List Node) :
    OnError (fun u => ∃ d, Walked statements d ∧ d.IsDeclaration ∧ u.ArisesInside d)
      (extract statements) := by
  rw [extract_eq_addSites]
  refine OnError.map (OnError.mapM fun r hr => ?_)
  obtain ⟨site, hsite, hr⟩ := List.mem_filterMap.mp hr
  obtain ⟨d, hd, hdeclaration, hfaults⟩ := (Site.declares_of_declaration? hr).onError
  exact hfaults.mono fun u hu => ⟨d, ⟨site, hsite, hd⟩, hdeclaration, hu⟩

/-- A fault of an extraction has the tag and the line of one node of the source that its construct
cannot be read from, and this node stands inside a function or a class-like with a name or a call of
`define` that the walk reaches. If the walk reaches none of these, the signature is empty. -/
theorem fault_of_extract (statements : List Node) :
    (∀ u, extract statements = .error u →
      ∃ d m, Walked statements d ∧ d.IsDeclaration ∧ TransGen Node.HasChild d m ∧
        OccursIn statements m ∧ m.Blocks u.construct ∧ u.tag = m.tag ∧ u.line = m.lines.first) ∧
      ((∀ d, Walked statements d → ¬d.IsDeclaration) → extract statements = .ok empty) := by
  constructor
  · intro u hu
    obtain ⟨d, hd, hdeclaration, c, hc, m, hm, hblocks, htag, hline⟩ := onError_extract _ u hu
    obtain ⟨n, hn, hreaches⟩ := hd.occursIn
    have hoccurs : OccursIn statements m := ⟨n, hn, (hreaches.tail hc).trans hm⟩
    exact ⟨d, m, hd, hdeclaration, .head' hc hm, hoccurs, hblocks, htag, hline⟩
  · intro hnone
    have hsites : (statements.flatMap (Node.sites [])).filterMap Site.declaration? = [] := by
      rw [List.filterMap_eq_nil_iff]
      intro site hsite
      rw [Option.eq_none_iff_forall_not_mem]
      intro r hr
      obtain ⟨d, hd, hdeclaration, -⟩ := (Site.declares_of_declaration? hr).onError
      exact hnone d ⟨site, hsite, hd⟩ hdeclaration
    rw [extract_eq_addSites, addSites, declarationsAt, hsites]
    rfl

/-- A closure among the types of a parameter, in a method of a class in a block; and a block with
nothing but a class without name, whose body is not looked at. -/
theorem fault_of_extract_in_block :
    let closure : Node := ⟨"Expr_Closure", [], ⟨some 7, some 9⟩⟩
    let type : Node :=
      ⟨"UnionType", [("types", .list [.str "int", .node closure])], ⟨some 6, some 9⟩⟩
    let parameter : Node := ⟨"Param", [("name", .str "x"), ("type", .node type)], ⟨some 6, some 9⟩⟩
    let method : Node := ⟨"Stmt_ClassMethod",
      [("name", .str "m"), ("params", .list [.node parameter])], ⟨some 5, some 9⟩⟩
    let cls (fields : List (String × Value)) : Node :=
      ⟨"Stmt_Class", fields ++ [("stmts", .list [.node method])], ⟨some 4, some 9⟩⟩
    let block (n : Node) : Node := ⟨"Stmt_If", [("stmts", .list [.node n])], ⟨some 3, some 10⟩⟩
    let named := [block (cls [("name", .str "A")])]
    let anonymous := [block (cls [])]
    extract named = .error ⟨.parameterType, "Expr_Closure", some 7⟩ ∧
      (∃ d m, Walked named d ∧ d.IsDeclaration ∧ TransGen Node.HasChild d m ∧ OccursIn named m ∧
        m.Blocks .parameterType ∧ "Expr_Closure" = m.tag ∧ some 7 = m.lines.first) ∧
      (∀ d, Walked anonymous d → ¬d.IsDeclaration) ∧ extract anonymous = .ok empty := by
  intro closure type parameter method cls block named anonymous
  have hfault : extract named = .error ⟨.parameterType, "Expr_Closure", some 7⟩ := rfl
  have hblock : (block (cls [])).searchedNodes = [cls []] := rfl
  have hcls : (cls []).searchedNodes = [] := rfl
  have hnone : ∀ d, Walked anonymous d → ¬d.IsDeclaration := by
    rintro d ⟨site, hsite, hd⟩
    have hsites : site ∈ [⟨[], block (cls [])⟩, ⟨[block (cls [])], cls []⟩] := by
      simpa [anonymous, Node.sites_eq, hblock, hcls] using hsite
    rcases List.mem_pair.mp hsites with rfl | rfl
    · rcases hd with rfl | ⟨⟨⟩⟩
      decide
    · rcases hd with rfl | ⟨⟨⟩⟩
      decide
  exact ⟨hfault, (fault_of_extract named).1 _ hfault, hnone, (fault_of_extract anonymous).2 hnone⟩

end Signature

end SourceSig
