import SourceSig.Proofs.Assembly
import Mathlib.Logic.Relation

/-!
# Rewriting statements

Two lists of statements may differ in what stands at some of the nodes that the walk reaches.
`RewritesIn R` says that they differ at one such node, as the relation `R` allows it, and any number
of changes is a chain of these.

What is seen of a list of statements is a view of each of its records and of its faults. If `R`
changes nothing that is seen of the record of a single node (`Keeps`), then a chain of changes keeps
what is seen of the whole (`seen_declarationsAt_eq_of_rewrites`). So a claim about two trees comes
down to one about two nodes.
-/

namespace SourceSig

/-! ## One value in place of another -/

/-- Two nodes are the same but for one field, which is `v` in the one and `w` in the other. -/
inductive Node.Replaces (name : String) (v w : Value) : Node → Node → Prop
  | intro (tag : String) (before after : List (String × Value)) (lines : Lines) :
      Replaces name v w ⟨tag, before ++ (name, v) :: after, lines⟩
        ⟨tag, before ++ (name, w) :: after, lines⟩

namespace Node.Replaces

variable {name : String} {v w : Value} {n m : Node}

theorem tag_eq (h : Replaces name v w n m) : m.tag = n.tag := by
  cases h
  rfl

theorem kind_eq (h : Replaces name v w n m) : m.kind = n.kind := by
  rw [kind, kind, h.tag_eq]

/-- The fault at a node does not depend on a field of it. -/
theorem of_eq (h : Replaces name v w n m) (construct : Construct) :
    Unsupported.of construct m = Unsupported.of construct n := by
  cases h
  rfl

/-- The other fields are left as they are. -/
theorem field_of_ne (h : Replaces name v w n m) {other : String} (hne : other ≠ name) :
    m.field other = n.field other := by
  cases h
  simp [field, hne.symm]

/-- The field itself has the one value and the other, unless a field before it has its name. -/
theorem field_self (h : Replaces name v w n m) : m.field name = n.field name ∨
    n.field name = (some v).filter (!·.isNull) ∧ m.field name = (some w).filter (!·.isNull) := by
  obtain ⟨tag, before, after, lines⟩ := h
  simp only [field, List.find?_append, List.find?_cons, BEq.rfl]
  cases before.find? (·.1 == name) with
  | some f => exact .inl rfl
  | none => exact .inr ⟨rfl, rfl⟩

end Node.Replaces

/-- Two values are the same but for one node, which is the value itself or an element of it. -/
inductive Value.Swaps (a b : Node) : Value → Value → Prop
  | node : Swaps a b (.node a) (.node b)
  | item (before after : List Value) :
      Swaps a b (.list (before ++ .node a :: after)) (.list (before ++ .node b :: after))

/-! ## Contexts -/

/-- Two statements are the same but for one node that the walk reaches in them, where they differ as
`R` allows it. -/
inductive Node.Rewrites (R : Node → Node → Prop) : Node → Node → Prop
  | here {n m : Node} : R n m → Rewrites R n m
  | inside {n m a b : Node} {field : String} {v w : Value} :
      n.kind.isContainer → StandsAsStatement field a → Rewrites R a b → Value.Swaps a b v w →
        Replaces field v w n m → Rewrites R n m

/-- Two lists of statements are the same but for one node that the walk reaches in them. -/
inductive RewritesIn (R : Node → Node → Prop) : List Node → List Node → Prop
  | intro (before after : List Node) {n m : Node} :
      n.Rewrites R m → RewritesIn R (before ++ n :: after) (before ++ m :: after)

/-! ## What is seen -/

section Seen

variable {α β ε : Type}

/-- A view of a result and of a fault. -/
def seen (view : α → β) (fault : Unsupported → ε) (r : Except Unsupported α) : Except ε β :=
  (view <$> r).mapError fault

/-- Two results of which the same is seen are two faults or two answers. -/
theorem cases_of_seen_eq {view : α → β} {fault : Unsupported → ε} {r s : Except Unsupported α}
    (h : seen view fault r = seen view fault s) :
    (∃ u v, r = .error u ∧ s = .error v ∧ fault u = fault v) ∨
      ∃ a b, r = .ok a ∧ s = .ok b ∧ view a = view b := by
  cases r with
  | error u =>
    cases s with
    | error v => exact .inl ⟨u, v, rfl, rfl, Except.error.inj h⟩
    | ok b => cases h
  | ok a =>
    cases s with
    | error v => cases h
    | ok b => exact .inr ⟨a, b, rfl, rfl, Except.ok.inj h⟩

theorem seen_bind_pure {γ : Type} (view : β → γ) (fault : Unsupported → ε) (f : α → β)
    (r : Except Unsupported α) :
    seen view fault (r >>= fun a => pure (f a)) = seen (fun a => view (f a)) fault r := by
  cases r <;> rfl

/-- What is seen of a list of results is what is seen of each of them, up to the first fault. -/
theorem seen_mapM {γ : Type} (view : α → β) (fault : Unsupported → ε)
    (build : γ → Except Unsupported α) : ∀ xs : List γ,
      seen (List.map view) fault (xs.mapM build) = xs.mapM fun x => seen view fault (build x)
  | [] => rfl
  | x :: xs => by
    rw [List.mapM_cons, List.mapM_cons, ← seen_mapM view fault build xs]
    cases build x with
    | error u => rfl
    | ok a => cases xs.mapM build <;> rfl

variable (view : Declaration → β) (fault : Unsupported → ε)

/-- What is seen of the records of some sites, each of them on its own. -/
def seenAt (sites : List Site) : List (Except ε β) :=
  (sites.filterMap Site.declaration?).map (seen view fault)

/-- What is seen at some sites is seen site by site. -/
theorem seenAt_append (xs ys : List Site) :
    seenAt view fault (xs ++ ys) = seenAt view fault xs ++ seenAt view fault ys := by
  simp [seenAt]

/-- What is seen of all the records is seen record by record. -/
theorem seen_declarationsAt (sites : List Site) :
    seen (List.map view) fault (declarationsAt sites) = (seenAt view fault sites).mapM id := by
  rw [declarationsAt, seen_mapM, seenAt, List.mapM_map]
  rfl

/-- A relation between nodes that keeps what is seen: it holds of nodes that the walk does not
enter, and keeps their tags, the names that they spell and what is seen of their records. -/
structure Keeps (R : Node → Node → Prop) : Prop where
  isContainer : ∀ {n m : Node}, R n m → n.kind.isContainer = false
  tag : ∀ {n m : Node}, R n m → m.tag = n.tag
  joinedName : ∀ {n m : Node}, R n m → m.joinedName = n.joinedName
  record : ∀ {n m : Node}, R n m → ∀ around : List Node,
    (Site.declaration? ⟨around, m⟩).map (seen view fault) =
      (Site.declaration? ⟨around, n⟩).map (seen view fault)

end Seen

/-! ## Names and scopes -/

section Swaps

variable {n m a b : Node} {field : String} {v w : Value}

/-- Where a node stands for another, every field is as it was, or there the nodes are. -/
theorem Node.Replaces.field_of_swaps (h : Replaces field v w n m) (hswaps : Value.Swaps a b v w)
    (name : String) : m.field name = n.field name ∨
      ∃ x y, Value.Swaps a b x y ∧ n.field name = some x ∧ m.field name = some y := by
  by_cases hname : name = field
  · subst hname
    refine h.field_self.imp_right fun ⟨hn, hm⟩ => ⟨v, w, hswaps, ?_, ?_⟩
    · cases hswaps <;> exact hn
    · cases hswaps <;> exact hm
  · exact .inl (h.field_of_ne hname)

/-- A field in which a node is exchanged has a text neither before nor afterwards. -/
theorem Node.Replaces.text_of_swaps (h : Replaces field v w n m) (hswaps : Value.Swaps a b v w)
    (name : String) : m.text name = n.text name := by
  unfold text
  rcases h.field_of_swaps hswaps name with heq | ⟨x, y, hxy, hn, hm⟩
  · rw [heq]
  · rw [hn, hm]
    cases hxy <;> rfl

/-- A name is spelled by texts, and no text changes where a node does. -/
theorem Node.Replaces.joinedName_of_swaps (h : Replaces field v w n m)
    (hswaps : Value.Swaps a b v w) : m.joinedName = n.joinedName := by
  unfold joinedName nameParts
  rw [h.text_of_swaps hswaps]
  rcases h.field_of_swaps hswaps "parts" with heq | ⟨x, y, hxy, hn, hm⟩
  · rw [heq]
  · rw [hn, hm]
    cases hxy with
    | node => rfl
    | item before after => simp [List.filterMap_cons, Value.asText?]

/-- Exchanging a node for one of the same name keeps the scope of a namespace. -/
theorem Node.Replaces.ofNamespace_of_swaps (h : Replaces field v w n m)
    (hswaps : Value.Swaps a b v w) (hname : b.joinedName = a.joinedName) :
    Scope.ofNamespace m = Scope.ofNamespace n := by
  unfold Scope.ofNamespace child
  rcases h.field_of_swaps hswaps "name" with heq | ⟨x, y, hxy, hn, hm⟩
  · rw [heq]
  · rw [hn, hm]
    cases hxy with
    | node => exact congrArg Scope.named hname
    | item before after => rfl

/-- Exchanging a statement for another leaves the nodes around it as they are. -/
theorem Value.Swaps.searchedNodes_eq (h : Value.Swaps a b v w) (ha : StandsAsStatement field a)
    (hb : StandsAsStatement field b) :
    ∃ before after, v.searchedNodes field = before ++ a :: after ∧
      w.searchedNodes field = before ++ b :: after := by
  cases h with
  | node =>
    exact ⟨[], [], by simp [searchedNodes, nodes, asNode?, ha],
      by simp [searchedNodes, nodes, asNode?, hb]⟩
  | item before after =>
    refine ⟨(Value.list before).searchedNodes field, (Value.list after).searchedNodes field, ?_, ?_⟩
    · simp [searchedNodes, nodes, asNode?, ha]
    · simp [searchedNodes, nodes, asNode?, hb]

/-- The nodes that are searched are the same but for the one. -/
theorem Node.Replaces.searchedNodes_of_swaps (h : Replaces field v w n m)
    (hswaps : Value.Swaps a b v w) (hn : n.kind.isContainer) (ha : StandsAsStatement field a)
    (hb : StandsAsStatement field b) :
    ∃ before after, n.searchedNodes = before ++ a :: after ∧
      m.searchedNodes = before ++ b :: after := by
  obtain ⟨front, back, hv, hw⟩ := hswaps.searchedNodes_eq ha hb
  have hm : m.kind.isContainer := by
    rw [h.kind_eq]
    exact hn
  rw [searchedNodes, if_pos hn, searchedNodes, if_pos hm]
  obtain ⟨tag, before, after, lines⟩ := h
  refine ⟨searchedIn before ++ front, back ++ searchedIn after, ?_, ?_⟩
  · simp [searchedIn, hv]
  · simp [searchedIn, hw]

end Swaps

/-- The scope at a site depends on the kinds and the names of the nodes around it. -/
theorem scopeWithin_cons_congr {n m : Node} {around other : List Node} (hkind : m.kind = n.kind)
    (hname : Scope.ofNamespace m = Scope.ofNamespace n)
    (h : scopeWithin other = scopeWithin around) :
    scopeWithin (m :: other) = scopeWithin (n :: around) := by
  by_cases hns : n.kind = .namespaceStmt
  · rw [Signature.scopeWithin_cons_of_namespace hns,
      Signature.scopeWithin_cons_of_namespace (hkind.trans hns), hname]
  · rw [Signature.scopeWithin_cons_of_ne hns, Signature.scopeWithin_cons_of_ne (hkind ▸ hns), h]

/-! ## The walk -/

section Walk

variable {β ε : Type} {view : Declaration → β} {fault : Unsupported → ε}

theorem seenAt_cons (site : Site) (sites : List Site) :
    seenAt view fault (site :: sites) =
      (site.declaration?.map (seen view fault)).toList ++ seenAt view fault sites := by
  cases h : site.declaration? <;> simp [seenAt, h]

theorem seenAt_flatMap (sites : Node → List Site) (ns : List Node) :
    seenAt view fault (ns.flatMap sites) = ns.flatMap fun n => seenAt view fault (sites n) := by
  simp [seenAt, List.filterMap_flatMap, List.map_flatMap]

/-- The nodes around a site matter by their scope alone. -/
theorem seenAt_sites_congr (n : Node) {around other : List Node}
    (h : scopeWithin other = scopeWithin around) :
    seenAt view fault (n.sites other) = seenAt view fault (n.sites around) := by
  have hsite : Site.declaration? ⟨other, n⟩ = Site.declaration? ⟨around, n⟩ := by
    simp only [Site.declaration?, h]
  rw [Node.sites_eq, Node.sites_eq, seenAt_cons, seenAt_cons, hsite, seenAt_flatMap,
    seenAt_flatMap, List.flatMap_def, List.flatMap_def]
  congr 2
  exact List.map_congr_left fun m hm =>
    seenAt_sites_congr m (scopeWithin_cons_congr rfl rfl h)
termination_by sizeOf n
decreasing_by exact n.sizeOf_lt_of_mem_searchedNodes hm

variable {R : Node → Node → Prop} {n m : Node}

/-- A change inside a node leaves its tag. -/
theorem Node.Rewrites.tag_eq (hR : Keeps view fault R) (h : n.Rewrites R m) : m.tag = n.tag := by
  cases h with
  | here hnm => exact hR.tag hnm
  | inside _ _ _ _ hreplaces => exact hreplaces.tag_eq

/-- A change inside a node leaves the name that it spells. -/
theorem Node.Rewrites.joinedName_eq (hR : Keeps view fault R) (h : n.Rewrites R m) :
    m.joinedName = n.joinedName := by
  cases h with
  | here hnm => exact hR.joinedName hnm
  | inside _ _ _ hswaps hreplaces => exact hreplaces.joinedName_of_swaps hswaps

/-- One change keeps what is seen of the sites that are reached from a statement. The induction is
on the way down to the node that changes; the nodes beside that way are the same. -/
theorem Node.Rewrites.seenAt_sites_eq (hR : Keeps view fault R) (h : n.Rewrites R m) :
    ∀ {around other : List Node}, scopeWithin other = scopeWithin around →
      seenAt view fault (m.sites other) = seenAt view fault (n.sites around) := by
  induction h with
  | @here n m hnm =>
    intro around other hscope
    have hn : n.kind.isContainer = false := hR.isContainer hnm
    have hm : m.kind.isContainer = false := by rw [kind, hR.tag hnm]; exact hn
    rw [seenAt_sites_congr m hscope, sites_eq, sites_eq, seenAt_cons, seenAt_cons,
      hR.record hnm, searchedNodes, searchedNodes, hn, hm]
    rfl
  | @inside n m a b field v w hn ha hab hswaps hreplaces ih =>
    intro around other hscope
    have hb : StandsAsStatement field b := by
      rw [StandsAsStatement, hab.tag_eq hR]
      exact ha
    have hm : m.kind.isContainer := by
      rw [hreplaces.kind_eq]
      exact hn
    have hinner : scopeWithin (m :: other) = scopeWithin (n :: around) :=
      scopeWithin_cons_congr hreplaces.kind_eq
        (hreplaces.ofNamespace_of_swaps hswaps (hab.joinedName_eq hR)) hscope
    obtain ⟨before, after, hsn, hsm⟩ := hreplaces.searchedNodes_of_swaps hswaps hn ha hb
    have hsame : ∀ ns : List Node, (ns.flatMap fun x => seenAt view fault (x.sites (m :: other))) =
        ns.flatMap fun x => seenAt view fault (x.sites (n :: around)) := by
      intro ns
      congr 1
      funext x
      exact seenAt_sites_congr x hinner
    rw [sites_eq, sites_eq, seenAt_cons, seenAt_cons, Signature.declaration?_of_isContainer hn,
      Signature.declaration?_of_isContainer hm, seenAt_flatMap, seenAt_flatMap, hsn, hsm,
      List.flatMap_append, List.flatMap_append, List.flatMap_cons, List.flatMap_cons, hsame, hsame,
      ih hinner]

/-- A change of the kind `R` somewhere among some statements is not seen in their records. -/
theorem RewritesIn.seenAt_eq (hR : Keeps view fault R) {ns ms : List Node}
    (h : RewritesIn R ns ms) : seenAt view fault (ms.flatMap (Node.sites [])) =
      seenAt view fault (ns.flatMap (Node.sites [])) := by
  obtain ⟨before, after, hnm⟩ := h
  simp only [List.flatMap_append, List.flatMap_cons, seenAt_append, hnm.seenAt_sites_eq hR rfl]

/-- Any number of changes keeps what is seen of the records of a list of statements. -/
theorem seen_declarationsAt_eq_of_rewrites (hR : Keeps view fault R) {ns ms : List Node}
    (h : Relation.ReflTransGen (RewritesIn R) ns ms) :
    seen (List.map view) fault (declarationsAt (ms.flatMap (Node.sites []))) =
      seen (List.map view) fault (declarationsAt (ns.flatMap (Node.sites []))) := by
  rw [seen_declarationsAt, seen_declarationsAt]
  congr 1
  induction h with
  | refl => rfl
  | tail _ hstep ih => rw [hstep.seenAt_eq hR, ih]

end Walk

/-! ## Bodies -/

/-- Whether the kind is that of an interface, a class or a trait. -/
def Kind.isClassLike : Kind → Bool
  | .interface | .classStmt | .traitStmt => true
  | _ => false

/-- The bodies of class-likes are not searched. -/
theorem Kind.isContainer_of_isClassLike {k : Kind} (h : k.isClassLike) : k.isContainer = false := by
  cases k <;> simp_all [isClassLike, isContainer]

section Bodies

variable {v w : Value} {n m : Node}

namespace Node.Replaces

theorem child_of_ne {field name : String} (h : Replaces field v w n m) (hne : name ≠ field) :
    m.child name = n.child name := by
  rw [child, child, h.field_of_ne hne]

theorem items_of_ne {field name : String} (h : Replaces field v w n m) (hne : name ≠ field) :
    m.items name = n.items name := by
  rw [items, items, h.field_of_ne hne]

theorem children_of_ne {field name : String} (h : Replaces field v w n m) (hne : name ≠ field) :
    m.children name = n.children name := by
  rw [children, children, h.items_of_ne hne]

theorem joinedName_of_stmts (h : Replaces "stmts" v w n m) : m.joinedName = n.joinedName := by
  rw [joinedName, joinedName, nameParts, nameParts, text, text, h.field_of_ne (by decide),
    h.field_of_ne (by decide)]

/-- A change in a body leaves the name of what is declared. -/
theorem declaredName?_of_stmts (h : Replaces "stmts" v w n m) :
    m.declaredName? = n.declaredName? := by
  rw [declaredName?, declaredName?, identifier?, identifier?, h.field_of_ne (by decide)]

theorem memberName_of_stmts (h : Replaces "stmts" v w n m) (construct : Construct) :
    m.memberName construct = n.memberName construct := by
  rw [memberName, memberName, identifier?, identifier?, h.field_of_ne (by decide), h.of_eq]

theorem modifiers_of_stmts (h : Replaces "stmts" v w n m) : m.modifiers = n.modifiers := by
  rw [modifiers, modifiers, int, int, int, int, h.field_of_ne (by decide),
    h.field_of_ne (by decide)]

/-- A list in the place of another is the body, unless a field before it has the name. -/
theorem children_stmts {xs ys : List Value} (h : Replaces "stmts" (.list xs) (.list ys) n m) :
    m.children "stmts" = n.children "stmts" ∨
      n.children "stmts" = xs.filterMap Value.asNode? ∧
        m.children "stmts" = ys.filterMap Value.asNode? := by
  unfold children items
  rcases h.field_self with heq | ⟨hn, hm⟩
  · exact .inl (by rw [heq])
  · exact .inr ⟨by rw [hn]; rfl, by rw [hm]; rfl⟩

end Node.Replaces

variable {β γ ε : Type} {view : Declaration → β} {fault : Unsupported → ε}
variable {look : List Member → γ}

/-- Two bodies of which the same is seen make two class-likes of which the same is seen, if no more
is seen of a class-like than of its members. -/
theorem seen_classLike_eq
    (hview : ∀ (c : ClassLike) {xs ys : List Member}, look ys = look xs →
      view (.classLike (c.addAll ys)) = view (.classLike (c.addAll xs)))
    {scope : Scope} (hmembers : seen look fault (scope.members (m.children "stmts")) =
      seen look fault (scope.members (n.children "stmts")))
    (flavour : Flavour) (name : String) (parents interfaces : List Node) :
    seen view fault (.classLike <$> scope.classLike m flavour name parents interfaces) =
      seen view fault (.classLike <$> scope.classLike n flavour name parents interfaces) := by
  rw [Scope.classLike_eq, Scope.classLike_eq]
  cases parents.mapM scope.classReference with
  | error u => rfl
  | ok parents =>
    cases interfaces.mapM scope.classReference with
    | error u => rfl
    | ok interfaces =>
      rcases cases_of_seen_eq hmembers with ⟨u, u', hm, hn, hfault⟩ | ⟨ys, xs, hm, hn, hlook⟩
      · rw [hm, hn]
        exact congrArg Except.error hfault
      · rw [hm, hn]
        exact congrArg Except.ok (hview _ hlook)

/-- Nothing that is seen of the record of a class-like changes with its body, if nothing that is
seen of its members does. -/
theorem record_eq_of_members (h : Node.Replaces "stmts" v w n m) (hkind : n.kind.isClassLike)
    (hview : ∀ (c : ClassLike) {xs ys : List Member}, look ys = look xs →
      view (.classLike (c.addAll ys)) = view (.classLike (c.addAll xs)))
    (hmembers : ∀ scope : Scope, seen look fault (scope.members (m.children "stmts")) =
      seen look fault (scope.members (n.children "stmts")))
    (around : List Node) :
    (Site.declaration? ⟨around, m⟩).map (seen view fault) =
      (Site.declaration? ⟨around, n⟩).map (seen view fault) := by
  have hclass := fun scope => seen_classLike_eq hview (hmembers scope)
  unfold Site.declaration?
  dsimp only
  rw [h.kind_eq, h.declaredName?_of_stmts, h.modifiers_of_stmts, h.child_of_ne (by decide),
    h.children_of_ne (by decide), h.children_of_ne (by decide)]
  cases hk : n.kind with
  | interface => cases n.declaredName? <;> simp [hclass]
  | classStmt => cases n.declaredName? <;> simp [hclass]
  | traitStmt => cases n.declaredName? <;> simp [hclass]
  | _ => simp [hk, Kind.isClassLike] at hkind

end Bodies

end SourceSig
