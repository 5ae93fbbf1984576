import SourceSig.Parameter
import SourceSig.Proofs.Outcomes
import SourceSig.Proofs.UniqueReading

/-!
# Where the reading of a type fails

A type is read through the field `type` of nullable types and parameters and through the list
`types` of unions and intersections, and through nothing else. `Value.typeNodes` lists the nodes
that are reached, each after the nodes inside it. A node blocks the type (`Node.BlocksType`) if it
is none of a type, or if it is nullable and what it stands around has no text.

* `Value.faultOf_typeText` : the fault of a type is that of the first node that blocks it.
* `Value.typeText_eq_ok_none_iff` : a type has neither a text nor a fault exactly if it is
  `Typeless`, which is a matter of its shape.

Both are inductions over the parts of a node (`Value.type_induction`). They need each other only
through what blocks: that a type has no text is a fault for a nullable type, is passed on by a
parameter, and is left out by a union.
-/

namespace SourceSig

/-! ## The nodes of a type -/

/-- The values that the type of a node is put together from. -/
def Node.typeParts (n : Node) : List Value :=
  match n.kind with
  | .nullableType | .param => (n.field "type").toList
  | .unionType | .intersectionType => n.items "types"
  | _ => []

theorem Node.mem_fields_of_field {n : Node} {name : String} {v : Value}
    (h : n.field name = some v) : (name, v) ∈ n.fields := by
  obtain ⟨e, he, rfl⟩ := Option.map_eq_some_iff.mp (Option.filter_eq_some_iff.mp h).1
  have hname : e.1 = name := by simpa using List.find?_some he
  exact hname ▸ List.mem_of_find?_eq_some he

theorem Node.sizeOf_lt_of_field {n : Node} {name : String} {v : Value} (h : n.field name = some v) :
    sizeOf v < sizeOf n := by
  have hmem := List.sizeOf_lt_of_mem (Node.mem_fields_of_field h)
  obtain ⟨tag, fields, lines⟩ := n
  simp at hmem ⊢
  omega

theorem Node.sizeOf_lt_of_mem_items {n : Node} {name : String} {v : Value} (h : v ∈ n.items name) :
    sizeOf v < sizeOf n := by
  unfold Node.items at h
  split at h
  · have hfield := Node.sizeOf_lt_of_field ‹_›
    have hmem := List.sizeOf_lt_of_mem h
    simp at hfield
    omega
  · simp at h

/-- The parts of a type are smaller than it, so going into them ends. -/
theorem Node.sizeOf_lt_of_mem_typeParts {n : Node} {v : Value} (h : v ∈ n.typeParts) :
    sizeOf v < sizeOf n := by
  unfold typeParts at h
  split at h
  · exact Node.sizeOf_lt_of_field (by simpa using h)
  · exact Node.sizeOf_lt_of_field (by simpa using h)
  · exact Node.sizeOf_lt_of_mem_items h
  · exact Node.sizeOf_lt_of_mem_items h
  · simp at h

/-- The nodes of a type, in the order of the source, each after the nodes inside it. -/
def Value.typeNodes : Value → List Node
  | .node n => (n.typeParts.attach.flatMap fun v => v.1.typeNodes) ++ [n]
  | _ => []
termination_by v => sizeOf v
decreasing_by
  have hlt := Node.sizeOf_lt_of_mem_typeParts v.2
  simp
  omega

/-- The nodes of a type in post-order: those of its parts, then its own. -/
theorem Value.typeNodes_node (n : Node) :
    (Value.node n).typeNodes = n.typeParts.flatMap Value.typeNodes ++ [n] := by
  rw [typeNodes, List.flatMap_subtype (g := Value.typeNodes) (by intros; rfl), List.unattach_attach]

/-- The kinds of nodes that a type is read from. -/
def typeKinds : List Kind :=
  [.identifier, .name, .fullyQualifiedName, .relativeName, .nullableType, .unionType,
    .intersectionType, .param]

/-- No type can be read from the node: it is of another kind, or a nullable type of nothing. -/
def Node.BlocksType (n : Node) : Prop :=
  n.kind ∉ typeKinds ∨ n.kind = .nullableType ∧ typeText? (n.field "type") = .ok none

instance (n : Node) : Decidable n.BlocksType :=
  inferInstanceAs (Decidable (_ ∨ _))

/-- The fault of a node that blocks a type. -/
def Node.typeFault (n : Node) : Unsupported :=
  .of (if n.kind = .nullableType then .nullableType else .parameterType) n

/-- A value without text for a type: no text, an empty one, an empty name, or a node whose parts are
all without text. -/
inductive Value.Typeless : Value → Prop
  | plain {v : Value} : v.asNode? = none → v.asText?.getD "" = "" → Typeless v
  | identifier {n : Node} : n.kind = .identifier → (n.text "name").getD "" = "" → Typeless (.node n)
  | name {n : Node} : n.kind = .name → n.joinedName = "" → Typeless (.node n)
  | inside {n : Node} : n.kind ∈ [.unionType, .intersectionType, .param] →
      (∀ v ∈ n.typeParts, Typeless v) → Typeless (.node n)

/-- A fact about types holds of a node because it holds of its parts. -/
@[elab_as_elim]
theorem Value.type_induction {motive : Value → Prop} (plain : ∀ v, v.asNode? = none → motive v)
    (node : ∀ n, (∀ v ∈ n.typeParts, motive v) → motive (.node n)) (v : Value) : motive v :=
  match v with
  | .node n => node n fun w _ => Value.type_induction plain node w
  | .null | .bool _ | .int _ | .float _ | .str _ | .list _ | .map _ => plain _ rfl
termination_by sizeOf v
decreasing_by
  have hlt := Node.sizeOf_lt_of_mem_typeParts ‹w ∈ n.typeParts›
  simp
  omega

/-! ## Faults -/

/-- The fault of a reading that failed. -/
def faultOf {α : Type} : Except Unsupported α → Option Unsupported
  | .error u => some u
  | .ok _ => none

@[simp] theorem faultOf_map {α β : Type} (f : α → β) (x : Except Unsupported α) :
    faultOf (f <$> x) = faultOf x := by
  cases x <;> rfl

theorem faultOf_eq_some_iff {α : Type} {x : Except Unsupported α} {u : Unsupported} :
    faultOf x = some u ↔ x = .error u := by
  cases x <;> simp [faultOf]

/-- The fault of the first of some nodes that blocks a type. -/
def firstFault (ns : List Node) : Option Unsupported :=
  (ns.find? (·.BlocksType)).map Node.typeFault

/-- The first fault of two runs is that of the first one, if it has one. -/
theorem firstFault_append (ms ns : List Node) :
    firstFault (ms ++ ns) = (firstFault ms).or (firstFault ns) := by
  unfold firstFault
  rw [List.find?_append, Option.map_or]

theorem firstFault_singleton (n : Node) :
    firstFault [n] = if n.BlocksType then some n.typeFault else none := by
  unfold firstFault
  rw [List.find?_singleton]
  split <;> simp_all

namespace Value

theorem typeText_of_plain {v : Value} (h : v.asNode? = none) :
    v.typeText = .ok (nonEmpty (v.asText?.getD "")) := by
  cases v with
  | node n => cases h
  | str s => simp [typeText, asText?]
  | _ => simp [typeText, asText?, nonEmpty]

theorem typeNodes_of_plain {v : Value} (h : v.asNode? = none) : v.typeNodes = [] := by
  cases v with
  | node n => cases h
  | _ => simp [typeNodes]

/-- The types of a list fail as the first of them that does. -/
theorem faultOf_typeTextsOf_cons (v : Value) (vs : List Value) :
    faultOf (typeTextsOf (v :: vs)) = (faultOf v.typeText).or (faultOf (typeTextsOf vs)) := by
  rw [typeTextsOf]
  cases v.typeText with
  | error u => rfl
  | ok text => cases typeTextsOf vs <;> rfl

/-- The types of a list are read in their order. -/
theorem faultOf_typeTextsOf {vs : List Value}
    (h : ∀ v ∈ vs, faultOf v.typeText = firstFault v.typeNodes) :
    faultOf (typeTextsOf vs) = firstFault (vs.flatMap typeNodes) := by
  induction vs with
  | nil => rfl
  | cons v vs ih =>
    obtain ⟨hv, hvs⟩ := List.forall_mem_cons.mp h
    rw [faultOf_typeTextsOf_cons, List.flatMap_cons, firstFault_append, hv, ih hvs]

/-- An optional type as a list of at most one. -/
theorem typeTextsOf_toList (x : Option Value) :
    typeTextsOf x.toList = Option.toList <$> typeText? x := by
  cases x with
  | none => rfl
  | some v =>
    rw [Option.toList_some, typeTextsOf, typeText?, typeTextsOf]
    cases v.typeText with
    | error u => rfl
    | ok text => exact congrArg Except.ok (List.append_nil _)

end Value

/-- The fault of a node: that of its parts, or its own. -/
theorem Node.faultOf_typeText (n : Node) : faultOf n.typeText =
    (faultOf (Value.typeTextsOf n.typeParts)).or
      (if n.BlocksType then some n.typeFault else none) := by
  rw [Node.typeText_eq, Node.typeField_eq, Node.typesField_eq, typeParts]
  cases hkind : n.kind with
  | nullableType =>
    simp only [Value.typeTextsOf_toList, faultOf_map]
    cases hinner : typeText? (n.field "type") with
    | error u => rfl
    | ok inner =>
      cases inner <;>
        simp [faultOf, bind, Except.bind, BlocksType, typeFault, typeKinds, hkind, hinner]
  | param => simp [Value.typeTextsOf_toList, BlocksType, typeKinds, hkind]
  | unionType | intersectionType => simp [BlocksType, typeKinds, hkind]
  | identifier | name | fullyQualifiedName | relativeName =>
    simp [faultOf, Value.typeTextsOf, BlocksType, typeKinds, hkind]
  | _ => simp [faultOf, Value.typeTextsOf, BlocksType, typeFault, typeKinds, hkind]

/-- The fault of a type is that of the first node that blocks it. -/
theorem Value.faultOf_typeText (v : Value) : faultOf v.typeText = firstFault v.typeNodes := by
  induction v using Value.type_induction with
  | plain v hv =>
    rw [typeText_of_plain hv, typeNodes_of_plain hv]
    rfl
  | node n ih =>
    rw [typeText, Node.faultOf_typeText, typeNodes_node, firstFault_append, firstFault_singleton,
      faultOf_typeTextsOf ih]

/-! ## Types without text -/

namespace Value

theorem typeTextsOf_eq_ok_cons_iff {v : Value} {vs : List Value} {texts : List String} :
    typeTextsOf (v :: vs) = .ok texts ↔ ∃ text rest, v.typeText = .ok text ∧
      typeTextsOf vs = .ok rest ∧ text.toList ++ rest = texts := by
  simp only [typeTextsOf, bind_eq_ok_iff, pure_eq_ok_iff]
  grind

/-- The texts of several types are those that the types have. -/
theorem exists_typeText_of_mem_typeTextsOf {vs : List Value} {texts : List String} {s : String}
    (h : typeTextsOf vs = .ok texts) (hs : s ∈ texts) : ∃ v ∈ vs, v.typeText = .ok (some s) := by
  induction vs generalizing texts with
  | nil =>
    rw [typeTextsOf, Except.ok.injEq] at h
    simp [← h] at hs
  | cons v vs ih =>
    obtain ⟨text, rest, hv, hvs, rfl⟩ := typeTextsOf_eq_ok_cons_iff.mp h
    rcases List.mem_append.mp hs with hs | hs
    · exact ⟨v, List.mem_cons_self, by rw [hv, Option.mem_toList.mp hs]⟩
    · obtain ⟨w, hw, htext⟩ := ih hvs hs
      exact ⟨w, List.mem_cons_of_mem v hw, htext⟩

/-- A list of types has no texts if each of them has none. -/
theorem typeTextsOf_eq_ok_nil_iff {vs : List Value} :
    typeTextsOf vs = .ok [] ↔ ∀ v ∈ vs, v.typeText = .ok none := by
  induction vs with
  | nil => simp [typeTextsOf]
  | cons v vs ih =>
    rw [typeTextsOf_eq_ok_cons_iff, List.forall_mem_cons, ← ih]
    simp

/-- A text that a type has is not empty. -/
theorem ne_of_typeText {v : Value} {s : String} (h : v.typeText = .ok (some s)) : s ≠ "" := by
  induction v using Value.type_induction with
  | plain v hv =>
    rw [typeText_of_plain hv, Except.ok.injEq] at h
    exact ne_of_nonEmpty h
  | node n ih =>
    obtain ⟨kind, hkind⟩ : ∃ kind, n.kind = kind := ⟨_, rfl⟩
    rw [typeText, Node.typeText_eq, Node.typeField_eq, hkind] at h
    rw [Node.typeParts, hkind] at ih
    cases kind with
    | identifier | name | fullyQualifiedName | relativeName =>
      exact ne_of_nonEmpty (Except.ok.inj h)
    | nullableType =>
      obtain ⟨inner, -, h⟩ := bind_eq_ok_iff.mp h
      cases inner with
      | none => cases h
      | some text =>
        rw [← Option.some.inj (Except.ok.inj h)]
        simp
    | unionType | intersectionType =>
      obtain ⟨texts, -, h⟩ := map_eq_ok_iff.mp h
      exact ne_of_nonEmpty h
    | param =>
      cases hfield : n.field "type" with
      | none => simp [hfield, typeText?] at h
      | some v =>
        rw [hfield] at h
        exact ih v (by simp [hfield]) h
    | _ => cases h

/-- Types with a mark between them have no text if none of them has any. -/
theorem map_typeTextsOf_eq_ok_none_iff {vs : List Value} (sep : String) :
    (nonEmpty ∘ sep.intercalate) <$> typeTextsOf vs = .ok none ↔
      ∀ v ∈ vs, v.typeText = .ok none := by
  rw [← typeTextsOf_eq_ok_nil_iff, map_eq_ok_iff]
  constructor
  · rintro ⟨texts, htexts, hnone⟩
    cases texts with
    | nil => exact htexts
    | cons s ss =>
      obtain ⟨v, -, hv⟩ := exists_typeText_of_mem_typeTextsOf htexts List.mem_cons_self
      have hjoined := Text.intercalate_cons_ne (ne_of_typeText hv) sep ss
      exact absurd (nonEmpty_eq_none_iff.mp hnone) hjoined
  · intro hnil
    exact ⟨[], hnil, rfl⟩

end Value

/-- A node has no text for a type if its name is empty or if nothing inside it has any. -/
theorem Node.typeText_eq_ok_none_iff (n : Node) : n.typeText = .ok none ↔
    n.kind = .identifier ∧ (n.text "name").getD "" = "" ∨ n.kind = .name ∧ n.joinedName = "" ∨
      n.kind ∈ [.unionType, .intersectionType, .param] ∧
        ∀ v ∈ n.typeParts, v.typeText = .ok none := by
  rw [Node.typeText_eq, Node.typeField_eq, Node.typesField_eq, typeParts]
  cases hkind : n.kind with
  | unionType | intersectionType => simp [Value.map_typeTextsOf_eq_ok_none_iff]
  | param => cases n.field "type" <;> simp [typeText?]
  | nullableType =>
    -- What is nullable has a mark or a fault.
    rcases typeText? (n.field "type") with u | _ | inner <;> simp [bind, Except.bind]
  | _ => simp

/-- What it takes for a node to be a type without text. -/
theorem Value.typeless_node_iff (n : Node) : (Value.node n).Typeless ↔
    n.kind = .identifier ∧ (n.text "name").getD "" = "" ∨ n.kind = .name ∧ n.joinedName = "" ∨
      n.kind ∈ [.unionType, .intersectionType, .param] ∧ ∀ v ∈ n.typeParts, v.Typeless := by
  constructor
  · rintro (⟨hplain, -⟩ | ⟨hkind, hname⟩ | ⟨hkind, hname⟩ | ⟨hkind, hparts⟩)
    · cases hplain
    · exact .inl ⟨hkind, hname⟩
    · exact .inr (.inl ⟨hkind, hname⟩)
    · exact .inr (.inr ⟨hkind, hparts⟩)
  · rintro (⟨hkind, hname⟩ | ⟨hkind, hname⟩ | ⟨hkind, hparts⟩)
    · exact .identifier hkind hname
    · exact .name hkind hname
    · exact .inside hkind hparts

/-- A type has no text, and no fault either, exactly if its shape says so. -/
theorem Value.typeText_eq_ok_none_iff (v : Value) : v.typeText = .ok none ↔ v.Typeless := by
  induction v using Value.type_induction with
  | plain v hv =>
    rw [typeText_of_plain hv, Except.ok.injEq, nonEmpty_eq_none_iff]
    refine ⟨.plain hv, fun h => ?_⟩
    cases h with
    | plain _ htext => exact htext
    | _ => cases hv
  | node n ih =>
    rw [typeText, Node.typeText_eq_ok_none_iff, typeless_node_iff, forall₂_congr ih]

/-! ## Failing types -/

/-- A type fails at the first of its nodes, in post-order, that blocks it. -/
theorem faultOf_typeText? (x : Option Value) :
    faultOf (typeText? x) = firstFault (x.toList.flatMap Value.typeNodes) := by
  rw [← Value.faultOf_typeTextsOf fun v _ => v.faultOf_typeText, Value.typeTextsOf_toList,
    faultOf_map]

/-- A type has no text exactly if its shape gives it none. -/
theorem typeText?_eq_ok_none_iff (x : Option Value) :
    typeText? x = .ok none ↔ ∀ v ∈ x, v.Typeless := by
  cases x with
  | none => simp [typeText?]
  | some v => simp [typeText?, Value.typeText_eq_ok_none_iff]

theorem exists_firstFault_eq_some_iff {ns : List Node} :
    (∃ u, firstFault ns = some u) ↔ ∃ n ∈ ns, n.BlocksType := by
  unfold firstFault
  rw [← Option.isSome_iff_exists, Option.isSome_map, List.find?_isSome]
  simp

/-- The reading of a type fails exactly if it reaches a node that blocks the type, and then with the
fault of the first one. Whether a nullable node blocks is a matter of shape: what it stands around
has no text exactly if it is typeless. -/
theorem typeText_eq_error_iff_blocksType (x : Option Value) :
    ((∃ u, typeText? x = .error u) ↔ ∃ n ∈ x.toList.flatMap Value.typeNodes, n.BlocksType) ∧
      (∀ u, typeText? x = .error u ↔
        ∃ n, (x.toList.flatMap Value.typeNodes).find? (·.BlocksType) = some n ∧ n.typeFault = u) ∧
      (typeText? x = .ok none ↔ ∀ v ∈ x, v.Typeless) := by
  have hfault : ∀ u, typeText? x = .error u ↔
      firstFault (x.toList.flatMap Value.typeNodes) = some u := by
    intro u
    rw [← faultOf_typeText?, faultOf_eq_some_iff]
  refine ⟨?_, fun u => ?_, typeText?_eq_ok_none_iff x⟩
  · rw [exists_congr hfault, exists_firstFault_eq_some_iff]
  · rw [hfault, firstFault, Option.map_eq_some_iff]

end SourceSig
