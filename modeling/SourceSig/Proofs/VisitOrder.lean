import SourceSig.Extraction

/-!
# What the walk finds

`Signature.extract` passes an unfinished signature from node to node. This file says what it amounts
to without the walk. `Node.sites` lists the nodes that are reached from a statement, in pre-order,
each with the nodes around it; the scope at a site is that of the innermost namespace around it
(`scopeWithin`). `Site.declaration?` is the record that a site calls for, if it declares something.

`Signature.extract_eq_ofDeclarations` : the signature of a list of statements has three lists, the
constants, the functions and the class-likes among the records of its sites, each of them in their
order, and the first record that cannot be built is the fault of the whole.
-/

namespace SourceSig

/-! ## Sites -/

/-- Whether the statements inside a node of the kind are searched for declarations. -/
def Kind.isContainer : Kind → Bool
  | .function | .interface | .classStmt | .traitStmt | .expression | .call | .method => false
  | _ => true

/-- A node stands as a statement in a field called `stmts`, and by its tag in any field. -/
def StandsAsStatement (field : String) (m : Node) : Prop :=
  field = "stmts" ∨ "Stmt_".toList <+: m.tag.toList

instance (field : String) (m : Node) : Decidable (StandsAsStatement field m) :=
  inferInstanceAs (Decidable (_ ∨ _))

/-- The nodes in a field that are searched. -/
def Value.searchedNodes (field : String) (v : Value) : List Node :=
  v.nodes.filter fun m => StandsAsStatement field m

/-- The nodes in some fields that are searched, by field and then by place in a list. -/
def searchedIn (fields : List (String × Value)) : List Node :=
  fields.flatMap fun f => f.2.searchedNodes f.1

/-- The nodes right inside a node that are searched. -/
def Node.searchedNodes (n : Node) : List Node :=
  if n.kind.isContainer then searchedIn n.fields else []

theorem Value.sizeOf_lt_of_mem_nodes {v : Value} {m : Node} (h : m ∈ v.nodes) :
    sizeOf m < sizeOf v := by
  cases v with
  | node n =>
    obtain rfl : m = n := by simpa [Value.nodes, Value.asNode?] using h
    simp
  | list items =>
    obtain ⟨v, hv, hm⟩ := List.mem_filterMap.mp h
    have hlt := List.sizeOf_lt_of_mem hv
    cases v with
    | node n =>
      obtain rfl : n = m := by simpa [Value.asNode?] using hm
      simp at hlt ⊢
      omega
    | _ => simp [Value.asNode?] at hm
  | _ => simp [Value.nodes, Value.asNode?] at h

/-- What is searched inside a node is smaller than it, so the descent ends. -/
theorem Node.sizeOf_lt_of_mem_searchedNodes {n m : Node} (h : m ∈ n.searchedNodes) :
    sizeOf m < sizeOf n := by
  unfold searchedNodes at h
  split at h
  · obtain ⟨f, hf, hm⟩ := List.mem_flatMap.mp h
    have hlt := Value.sizeOf_lt_of_mem_nodes (List.mem_filter.mp hm).1
    have hfields := List.sizeOf_lt_of_mem hf
    obtain ⟨name, v⟩ := f
    obtain ⟨tag, fields, lines⟩ := n
    simp at hlt hfields ⊢
    omega
  · simp at h

/-- A node with the nodes around it, from the inside out. -/
structure Site where
  around : List Node
  node : Node

/-- A node and the nodes that are reached from it, in pre-order. -/
def Node.sites (around : List Node) (n : Node) : List Site :=
  ⟨around, n⟩ :: n.searchedNodes.attach.flatMap fun m => m.1.sites (n :: around)
termination_by sizeOf n
decreasing_by exact n.sizeOf_lt_of_mem_searchedNodes m.2

/-- The sites reached from a node are its own and, in order, those of the nodes searched inside it.
-/
theorem Node.sites_eq (around : List Node) (n : Node) :
    n.sites around = ⟨around, n⟩ :: n.searchedNodes.flatMap (Node.sites (n :: around)) := by
  rw [sites, List.flatMap_subtype (g := Node.sites (n :: around)) (by intros; rfl),
    List.unattach_attach]

/-- The scope inside the given nodes: that of the innermost namespace among them. -/
def scopeWithin (around : List Node) : Scope :=
  match around.find? (·.kind = .namespaceStmt) with
  | some n => .ofNamespace n
  | none => .global

/-! ## Records -/

/-- A record of a signature. -/
inductive Declaration where
  | define (d : Define)
  | function (f : Function)
  | classLike (c : ClassLike)

namespace Declaration

/-- The constant that a record is of. -/
def define? : Declaration → Option Define
  | .define d => some d
  | _ => none

/-- The function that a record is of. -/
def function? : Declaration → Option Function
  | .function f => some f
  | _ => none

/-- The class-like that a record is of. -/
def classLike? : Declaration → Option ClassLike
  | .classLike c => some c
  | _ => none

end Declaration

/-- The constant that a call introduces, if it is a call of `define` with the name as a string. -/
def Scope.defineOf? (scope : Scope) (call : Node) : Option (Except Unsupported Declaration) :=
  if call.callsDefine then
    call.definedName?.map fun name => do
      let value ← scope.literal? ((call.arguments.drop 1).head?.bind (·.child "value"))
      return .define ⟨name, value⟩
  else none

/-- The record that a site calls for: a function, an interface, a class or a trait with a name, and a
call of `define`, bare or as an expression statement. Every other node declares nothing. -/
def Site.declaration? (site : Site) : Option (Except Unsupported Declaration) :=
  let scope := scopeWithin site.around
  let n := site.node
  match n.kind with
  | .function => n.declaredName?.map fun name => do
    let params ← Parameter.ofItems scope (n.items "params")
    return .function ⟨scope.qualify name, params, Digest.ofValue (n.field "stmts")⟩
  | .interface => n.declaredName?.map fun name =>
    .classLike <$> scope.classLike n .interface name (n.children "extends") []
  | .classStmt => n.declaredName?.map fun name =>
    let flavour := if n.modifiers.isAbstract then .abstractClass else .concreteClass
    .classLike <$>
      scope.classLike n flavour name (n.child "extends").toList (n.children "implements")
  | .traitStmt => n.declaredName?.map fun name =>
    .classLike <$> scope.classLike n .traitDecl name [] []
  | .call => scope.defineOf? n
  | .expression => ((n.child "expr").filter (·.kind = .call)).bind scope.defineOf?
  | _ => none

/-- The records of some sites in order, or the first fault. -/
def declarationsAt (sites : List Site) : Except Unsupported (List Declaration) :=
  (sites.filterMap Site.declaration?).mapM id

namespace Signature

/-- The signature with a record added, by its sort. -/
def add (s : Signature) : Declaration → Signature
  | .define d => s.addDefine d
  | .function f => s.addFunction f
  | .classLike c => s.addClassLike c

/-- The signature with some records added, one after the other. -/
def addAll (s : Signature) (ds : List Declaration) : Signature :=
  ds.foldl add s

/-- The signature with the given records, in their order. -/
def ofDeclarations (ds : List Declaration) : Signature :=
  empty.addAll ds

/-- Adding records one by one leaves each list of a signature longer by the records of its sort:
none is dropped, and they keep their order. -/
theorem addAll_eq (s : Signature) : ∀ ds : List Declaration,
    s.addAll ds = ⟨s.defines ++ ds.filterMap Declaration.define?,
      s.functions ++ ds.filterMap Declaration.function?,
      s.classLikes ++ ds.filterMap Declaration.classLike?⟩ := by
  intro ds
  induction ds generalizing s with
  | nil => simp [addAll]
  | cons d ds ih =>
    have hcons : s.addAll (d :: ds) = (s.add d).addAll ds := rfl
    rw [hcons, ih]
    cases d <;> simp [List.filterMap_cons, add, addDefine, addFunction, addClassLike,
      Declaration.define?, Declaration.function?, Declaration.classLike?]

/-- The signature of some records has the constants, the functions and the class-likes among them.
-/
theorem ofDeclarations_eq (ds : List Declaration) :
    ofDeclarations ds = ⟨ds.filterMap Declaration.define?, ds.filterMap Declaration.function?,
      ds.filterMap Declaration.classLike?⟩ := by
  simp [ofDeclarations, addAll_eq, empty]

/-! ## The walk as a run over nodes -/

theorem isSearched_eq (field : String) (m : Node) :
    isSearched field m = decide (StandsAsStatement field m) := by
  rw [Bool.eq_iff_iff, decide_eq_true_iff]
  simp [isSearched, StandsAsStatement]

variable {scope : Scope}

/-- A single node is visited if it stands as a statement. -/
theorem foldlM_visit_singleton (field : String) (s : Signature) (m : Node) :
    ([m].filter fun m => StandsAsStatement field m).foldlM (visit scope) s =
      if isSearched field m then visit scope s m else .ok s := by
  rw [isSearched_eq]
  by_cases h : StandsAsStatement field m
  · rw [List.filter_cons_of_pos (by simpa using h), if_pos (by simpa using h)]
    simp
  · rw [List.filter_cons_of_neg (by simpa using h), if_neg (by simpa using h)]
    rfl

theorem visitItems_cons (field : String) (s : Signature) (v : Value) (items : List Value) :
    visitItems scope field s (v :: items) =
      ((v.asNode?.toList.filter fun m => StandsAsStatement field m).foldlM (visit scope) s) >>=
        fun t => visitItems scope field t items := by
  cases v with
  | node m =>
    rw [visitItems, Value.asNode?, Option.toList_some, foldlM_visit_singleton]
    split <;> rfl
  | _ => simp [visitItems, Value.asNode?]

/-- The items of a list are visited by visiting the nodes among them that are searched. -/
theorem visitItems_eq_foldlM (field : String) : ∀ (items : List Value) (s : Signature),
    visitItems scope field s items =
      ((Value.list items).searchedNodes field).foldlM (visit scope) s
  | [], _ => by rw [visitItems]; rfl
  | v :: items, s => by
    have hnodes : (Value.list (v :: items)).nodes = v.asNode?.toList ++ (Value.list items).nodes := by
      cases h : v.asNode? <;> simp [Value.nodes, h]
    rw [visitItems_cons, Value.searchedNodes, hnodes, List.filter_append, List.foldlM_append]
    simp only [visitItems_eq_foldlM field items]
    rfl

theorem visitValue_eq_foldlM (field : String) (s : Signature) (v : Value) :
    visitValue scope field s v = (v.searchedNodes field).foldlM (visit scope) s := by
  cases v with
  | node m =>
    rw [visitValue]
    exact (foldlM_visit_singleton field s m).symm
  | list items => rw [visitValue, visitItems_eq_foldlM]
  | _ => simp [visitValue, Value.searchedNodes, Value.nodes, Value.asNode?]; rfl

/-- The fields of a node are visited by visiting the nodes in them that are searched. -/
theorem visitFields_eq_foldlM : ∀ (fields : List (String × Value)) (s : Signature),
    visitFields scope s fields = (searchedIn fields).foldlM (visit scope) s
  | [], _ => by rw [visitFields]; rfl
  | (field, v) :: rest, s => by
    rw [visitFields, searchedIn, List.flatMap_cons, List.foldlM_append, visitValue_eq_foldlM]
    simp only [visitFields_eq_foldlM rest]
    rfl

/-- The signature with the records of some sites added. -/
def addSites (s : Signature) (sites : List Site) : Except Unsupported Signature :=
  s.addAll <$> declarationsAt sites

/-- Sites may be added in two runs, where a fault in the first ends both. -/
theorem addSites_append (s : Signature) (a b : List Site) :
    s.addSites (a ++ b) = s.addSites a >>= fun t => t.addSites b := by
  simp only [addSites, declarationsAt, List.filterMap_append, List.mapM_append, addAll,
    map_eq_pure_bind, bind_assoc, pure_bind, List.foldl_append]

/-- The signature with a record added, if there is one. -/
def addRecord (s : Signature) :
    Option (Except Unsupported Declaration) → Except Unsupported Signature
  | some d => s.add <$> d
  | none => .ok s

theorem addSites_singleton (s : Signature) (site : Site) :
    s.addSites [site] = s.addRecord site.declaration? := by
  cases h : site.declaration? with
  | none => simp [addSites, declarationsAt, h, addAll, addRecord]; rfl
  | some d => simp [addSites, declarationsAt, h, addAll, addRecord]

/-! ## One step -/

/-- What a visit does, by the kind of the node. -/
theorem visit_eq (s : Signature) (n : Node) :
    visit scope s n =
      match n.kind with
      | .namespaceStmt => visitFields (.ofNamespace n) s n.fields
      | .function => s.addFunction? <$> scope.function? n
      | .interface => s.addClassLike? <$> scope.interface? n
      | .classStmt => s.addClassLike? <$> scope.class? n
      | .traitStmt => s.addClassLike? <$> scope.trait? n
      | .expression =>
        match n.child "expr" with
        | some e => if e.kind = .call then s.addDefine? <$> scope.define? e else .ok s
        | none => .ok s
      | .call => s.addDefine? <$> scope.define? n
      | .method => .ok s
      | _ => visitFields scope s n.fields := by
  cases n
  rw [visit]
  rfl

/-- A call adds the record that it introduces, or nothing. -/
theorem addDefine?_map_eq (s : Signature) (call : Node) :
    s.addDefine? <$> scope.define? call = s.addRecord (scope.defineOf? call) := by
  unfold Scope.define? Scope.defineOf?
  cases call.callsDefine with
  | false => rfl
  | true =>
    cases call.definedName? with
    | none => rfl
    | some name =>
      simp only [if_true, Option.map_some, addRecord]
      cases scope.literal? _ <;> rfl

/-- Interfaces, classes and traits differ in their headers only. -/
theorem addClassLike?_map_eq (s : Signature) (name? : Option String)
    (build : String → Except Unsupported ClassLike) :
    s.addClassLike? <$> (match name? with
      | none => .ok none
      | some name => do return some (← build name)) =
      s.addRecord (name?.map fun name => .classLike <$> build name) := by
  cases name? with
  | none => rfl
  | some name =>
    simp only [Option.map_some, addRecord]
    cases build name <;> rfl

variable {n : Node} {around : List Node}

/-- A node whose statements are not searched adds the record of its own site. -/
theorem visit_of_not_isContainer (h : n.kind.isContainer = false) (s : Signature) :
    visit (scopeWithin around) s n = s.addSites [⟨around, n⟩] := by
  rw [addSites_singleton, visit_eq]
  generalize hscope : scopeWithin around = scope
  cases hk : n.kind with
  | function =>
    simp only [Site.declaration?, hk, hscope, Scope.function?]
    cases n.declaredName? with
    | none => rfl
    | some name =>
      simp only [Option.map_some, addRecord]
      cases Parameter.ofItems scope (n.items "params") <;> rfl
  | interface =>
    simp only [Site.declaration?, hk, hscope]
    exact addClassLike?_map_eq s n.declaredName? _
  | classStmt =>
    simp only [Site.declaration?, hk, hscope]
    exact addClassLike?_map_eq s n.declaredName? _
  | traitStmt =>
    simp only [Site.declaration?, hk, hscope]
    exact addClassLike?_map_eq s n.declaredName? _
  | expression =>
    simp only [Site.declaration?, hk, hscope]
    cases n.child "expr" with
    | none => rfl
    | some e =>
      by_cases he : e.kind = .call
      · simpa [he, Option.filter] using addDefine?_map_eq s e
      · simp [he, Option.filter, addRecord]
  | call =>
    simp only [Site.declaration?, hk, hscope]
    exact addDefine?_map_eq s n
  | method =>
    simp only [Site.declaration?, hk]
    rfl
  | _ =>
    rw [hk] at h
    cases h

theorem scopeWithin_cons_of_namespace (h : n.kind = .namespaceStmt) :
    scopeWithin (n :: around) = .ofNamespace n := by
  simp [scopeWithin, h]

theorem scopeWithin_cons_of_ne (h : n.kind ≠ .namespaceStmt) :
    scopeWithin (n :: around) = scopeWithin around := by
  simp [scopeWithin, h]

/-- A node whose statements are searched passes on to them, in the scope that is around them. -/
theorem visit_of_isContainer (h : n.kind.isContainer) (s : Signature) :
    visit (scopeWithin around) s n =
      n.searchedNodes.foldlM (visit (scopeWithin (n :: around))) s := by
  rw [visit_eq, Node.searchedNodes, if_pos h, ← visitFields_eq_foldlM]
  by_cases hns : n.kind = .namespaceStmt
  · rw [hns, scopeWithin_cons_of_namespace hns]
  · rw [scopeWithin_cons_of_ne hns]
    split <;> rename_i hk <;> simp_all [Kind.isContainer]

/-- A node that is searched declares nothing itself. -/
theorem declaration?_of_isContainer (h : n.kind.isContainer) :
    Site.declaration? ⟨around, n⟩ = none := by
  unfold Site.declaration?
  dsimp only
  split <;> rename_i hk <;> simp_all [Kind.isContainer]

/-- One step of the walk: the record of the site itself, then the nodes right inside it. -/
theorem visit_step (s : Signature) (n : Node) (around : List Node) :
    visit (scopeWithin around) s n =
      s.addSites [⟨around, n⟩] >>=
        fun t => n.searchedNodes.foldlM (visit (scopeWithin (n :: around))) t := by
  cases h : n.kind.isContainer with
  | false =>
    rw [visit_of_not_isContainer h]
    simp [Node.searchedNodes, h]
  | true =>
    rw [visit_of_isContainer h, addSites_singleton, declaration?_of_isContainer h]
    rfl

/-! ## The whole walk -/

/-- If visiting each node of a list adds the records of its sites, then visiting all of them adds
all the records. The induction is on the list. -/
theorem foldlM_visit_eq_addSites : ∀ (ms : List Node) (s : Signature),
    (∀ m ∈ ms, ∀ s, visit scope s m = s.addSites (m.sites around)) →
      ms.foldlM (visit scope) s = s.addSites (ms.flatMap (Node.sites around))
  | [], s, _ => by simp [addSites, declarationsAt, addAll]
  | m :: ms, s, h => by
    rw [List.foldlM_cons, List.flatMap_cons, addSites_append, h m List.mem_cons_self]
    congr 1
    funext t
    exact foldlM_visit_eq_addSites ms t fun m hm => h m (List.mem_cons_of_mem _ hm)

/-- Visiting a node adds the records of the sites that are reached from it. The induction follows
the descent of `Node.sites`. -/
theorem visit_eq_addSites (around : List Node) (n : Node) (s : Signature) :
    visit (scopeWithin around) s n = s.addSites (n.sites around) := by
  rw [visit_step, Node.sites_eq]
  refine Eq.trans ?_ (addSites_append s [⟨around, n⟩] _).symm
  congr 1
  funext t
  exact foldlM_visit_eq_addSites n.searchedNodes t fun m hm s =>
    visit_eq_addSites (n :: around) m s
termination_by sizeOf n
decreasing_by exact n.sizeOf_lt_of_mem_searchedNodes hm

/-- The walk over some statements adds the records of their sites to the empty signature. -/
theorem extract_eq_addSites (statements : List Node) :
    extract statements = empty.addSites (statements.flatMap (Node.sites [])) :=
  foldlM_visit_eq_addSites statements empty fun m _ s => visit_eq_addSites [] m s

/-- The signature of a list of statements holds the records of the sites that are reached from them:
the constants, the functions and the class-likes among them, each sort in pre-order. The first
record that cannot be built is the fault of the whole. -/
theorem extract_eq_ofDeclarations (statements : List Node) :
    extract statements = (do
      let ds ← declarationsAt (statements.flatMap (Node.sites []))
      return ⟨ds.filterMap Declaration.define?, ds.filterMap Declaration.function?,
        ds.filterMap Declaration.classLike?⟩) := by
  rw [extract_eq_addSites, addSites, map_eq_pure_bind]
  congr 1
  funext ds
  exact congrArg pure (ofDeclarations_eq ds)

end Signature

end SourceSig
