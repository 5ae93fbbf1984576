import SourceSig.Proofs.SiteRecords

/-!
# What a class-like keeps

A class-like is made of a header and of members that are added to it one by one, in any order and
with anything for their parts. It keeps them all, group by group and in the order in which they were
given, and drops what has no place in it: parents and interfaces that its flavour does not allow, an
empty default, and the body of a method that is abstract or stands in an interface.

`ClassLike.Keeps` is that invariant. It holds of a class-like without members (`keeps_empty`), each
member that is added preserves it (`Keeps.add`), and so does any number of them (`Keeps.addAll`).
`Signature.keeps_of_extract` says the same of the class-likes of a signature, where what is given is
what the body of a node declares; there all names are absolute, and so are the parents, unless they
are variables.
-/

namespace SourceSig

/-! ## The invariant -/

/-- The property that was given, with the default that it was given. -/
def Member.givenProperty? : Member → Option Property
  | .property p => some p
  | _ => none

/-- The method that was given, with the body that it was given. -/
def Member.givenMethod? : Member → Option Method
  | .method m => some m
  | _ => none

/-- The property `p` is kept as `q`. -/
structure Property.KeptAs (p q : Property) : Prop where
  modifiers : q.modifiers = p.modifiers
  name : q.name = p.name
  default : ∀ text, q.default = some text ↔ p.default = some text ∧ text ≠ ""

/-- The method `m` is kept as `k` in a class-like of the flavour. The bit with the value 16 is the
one for `abstract`. -/
structure Method.KeptAs (flavour : Flavour) (m k : Method) : Prop where
  modifiers : k.modifiers = m.modifiers
  name : k.name = m.name
  params : k.params = m.params
  body : ∀ digest, k.body = some digest ↔ m.body = some digest ∧ flavour ≠ .interface ∧
    m.modifiers.code.toBitVec.getLsbD 4 = false

/-- The class-like keeps the members that it was given, each group in the order of giving. -/
structure ClassLike.Keeps (c : ClassLike) (given : List Member) : Prop where
  interfaces_of_interface : c.flavour = .interface → c.interfaces = []
  header_of_trait : c.flavour = .traitDecl → c.parents = [] ∧ c.interfaces = []
  members : c.members = (given.filterMap Member.constant?).map .constant ++
    c.properties.map .property ++ c.methods.map .method
  properties : List.Forall₂ Property.KeptAs (given.filterMap Member.givenProperty?) c.properties
  methods : List.Forall₂ (Method.KeptAs c.flavour) (given.filterMap Member.givenMethod?) c.methods
  default_ne : ∀ p ∈ c.properties, p.default ≠ some ""

/-! ## One member -/

theorem Modifiers.isAbstract_eq_getLsbD (m : Modifiers) :
    m.isAbstract = m.code.toBitVec.getLsbD 4 := by
  have hand : (m.code &&& 16).toBitVec = m.code.toBitVec &&& BitVec.twoPow 64 4 := rfl
  have hne : BitVec.twoPow 64 4 ≠ 0#64 := by decide
  have hzero : m.code &&& 16 = 0 ↔ m.code.toBitVec.getLsbD 4 = false := by
    rw [← Int64.toBitVec_inj, hand, BitVec.and_twoPow]
    cases m.code.toBitVec.getLsbD 4 <;> simp [hne]
  rw [isAbstract, Bool.eq_iff_iff, bne_iff_ne, ne_eq, hzero, Bool.not_eq_false]

theorem nonEmpty_bind_eq_some_iff {x : Option String} {s : String} :
    x.bind nonEmpty = some s ↔ x = some s ∧ s ≠ "" := by
  cases x with
  | none => simp
  | some t =>
    simp only [Option.bind_some, nonEmpty, Option.ite_none_left_eq_some, Option.some.injEq]
    grind

namespace ClassLike

variable {c : ClassLike} {given : List Member}

theorem keeps_empty (flavour : Flavour) (name : String) (parents interfaces : List String) :
    (empty flavour name parents interfaces).Keeps [] where
  interfaces_of_interface := by
    rintro rfl
    rfl
  header_of_trait := by
    rintro rfl
    exact ⟨rfl, rfl⟩
  members := rfl
  properties := .nil
  methods := .nil
  default_ne := by simp [empty]

theorem parents_empty_subset {flavour : Flavour} {name : String}
    {parents interfaces : List String} :
    (empty flavour name parents interfaces).parents ⊆ parents := by
  unfold empty
  dsimp only
  split <;> simp

theorem interfaces_empty_subset {flavour : Flavour} {name : String}
    {parents interfaces : List String} :
    (empty flavour name parents interfaces).interfaces ⊆ interfaces := by
  unfold empty
  dsimp only
  split <;> simp

/-- Members leave the header as it is. -/
theorem header_addAll (c : ClassLike) (ms : List Member) : (c.addAll ms).flavour = c.flavour ∧
    (c.addAll ms).name = c.name ∧ (c.addAll ms).parents = c.parents ∧
      (c.addAll ms).interfaces = c.interfaces := by
  rw [addAll_eq]
  exact ⟨rfl, rfl, rfl, rfl⟩

theorem Keeps.map_constants (h : c.Keeps given) :
    c.constants.map Member.constant = (given.filterMap Member.constant?).map .constant :=
  List.append_cancel_right (List.append_cancel_right h.members)

theorem keptAs_addProperty (p : Property) :
    p.KeptAs { p with default := p.default.bind nonEmpty } :=
  ⟨rfl, rfl, fun _ => nonEmpty_bind_eq_some_iff⟩

theorem keptAs_addMethod (flavour : Flavour) (m : Method) :
    let keepsBody := flavour ≠ .interface ∧ m.modifiers.isAbstract = false
    m.KeptAs flavour { m with body := if keepsBody then m.body else none } := by
  refine ⟨rfl, rfl, rfl, fun digest => ?_⟩
  rw [← Modifiers.isAbstract_eq_getLsbD]
  dsimp only
  split
  · next hkeeps => exact ⟨fun h => ⟨h, hkeeps⟩, fun h => h.1⟩
  · next hkeeps => exact iff_of_false nofun fun h => hkeeps h.2

/-- A member that is added goes to the end of its group and leaves all else as it is. -/
theorem Keeps.add (h : c.Keeps given) (m : Member) : (c.add m).Keeps (given ++ [m]) := by
  have hconstants := h.map_constants
  have hothers {α : Type} {f : Member → Option α} (hf : f m = none) :
      (given ++ [m]).filterMap f = given.filterMap f := by
    simp [hf]
  cases m with
  | constant k =>
    refine ⟨h.interfaces_of_interface, h.header_of_trait, ?_, ?_, ?_, h.default_ne⟩
    · simp [ClassLike.add, addConstant, ClassLike.members, hconstants, Member.constant?]
    · rw [hothers rfl]
      exact h.properties
    · rw [hothers rfl]
      exact h.methods
  | property p =>
    refine ⟨h.interfaces_of_interface, h.header_of_trait, ?_, ?_, ?_, ?_⟩
    · simp [ClassLike.add, addProperty, ClassLike.members, hconstants, Member.constant?]
    · rw [List.filterMap_append]
      exact List.rel_append h.properties (.cons (keptAs_addProperty p) .nil)
    · rw [hothers rfl]
      exact h.methods
    · intro q hq
      rcases List.mem_append.mp hq with hq | hq
      · exact h.default_ne q hq
      · obtain rfl := List.mem_singleton.mp hq
        intro hempty
        exact (nonEmpty_bind_eq_some_iff.mp hempty).2 rfl
  | method m =>
    refine ⟨h.interfaces_of_interface, h.header_of_trait, ?_, ?_, ?_, h.default_ne⟩
    · simp [ClassLike.add, addMethod, ClassLike.members, hconstants, Member.constant?]
    · rw [hothers rfl]
      exact h.properties
    · rw [List.filterMap_append]
      exact List.rel_append h.methods (.cons (keptAs_addMethod c.flavour m) .nil)

/-- A class-like that keeps what it was given also keeps what it is given next. -/
theorem Keeps.addAll (h : c.Keeps given) (ms : List Member) :
    (c.addAll ms).Keeps (given ++ ms) := by
  induction ms generalizing c given with
  | nil => rwa [List.append_nil]
  | cons m ms ih =>
    have hrest := ih (h.add m)
    rwa [List.append_assoc, List.singleton_append] at hrest

end ClassLike

/-! ## Extracted declarations -/

namespace Scope

variable {scope : Scope}

/-- A name that is qualified is absolute. -/
theorem head?_qualify (scope : Scope) (name : String) :
    (scope.qualify name).toList.head? = some '\\' := by
  unfold qualify
  split <;> simp

theorem head?_of_classReference {n : Node} {t : String} (h : scope.classReference n = .ok t) :
    t.toList.head? = some '\\' ∨ t.toList.head? = some '$' := by
  unfold classReference at h
  split at h
  · exact .inl (Except.ok.inj h ▸ scope.head?_qualify _)
  · exact .inl (Except.ok.inj h ▸ scope.head?_qualify _)
  · rw [← Except.ok.inj h]
    simp
  · split at h
    · rw [← Except.ok.inj h]
      simp
    · cases h
  · cases h

theorem head?_of_mapM_classReference {ns : List Node} {ts : List String}
    (h : ns.mapM scope.classReference = .ok ts) :
    ∀ t ∈ ts, t.toList.head? = some '\\' ∨ t.toList.head? = some '$' := by
  intro t ht
  obtain ⟨n, -, hn⟩ := exists_mem_of_forall₂ (mapM_eq_ok_iff.mp h) t ht
  exact head?_of_classReference hn

/-- A class-like that is built from a node keeps what the body of the node declares. -/
theorem keeps_of_classLike {n : Node} {flavour : Flavour} {name : String}
    {parents interfaces : List Node} {c : ClassLike}
    (h : scope.classLike n flavour name parents interfaces = .ok c) :
    c.name = scope.qualify name ∧
      (∀ t ∈ c.parents ++ c.interfaces, t.toList.head? = some '\\' ∨ t.toList.head? = some '$') ∧
        ∃ given, scope.members (n.children "stmts") = .ok given ∧ c.Keeps given := by
  rw [classLike_eq] at h
  obtain ⟨ps, hps, h⟩ := bind_eq_ok_iff.mp h
  obtain ⟨is, his, h⟩ := bind_eq_ok_iff.mp h
  obtain ⟨given, hgiven, h⟩ := bind_eq_ok_iff.mp h
  obtain rfl := pure_eq_ok_iff.mp h
  have hkeeps := (ClassLike.keeps_empty flavour (scope.qualify name) ps is).addAll given
  obtain ⟨-, hname, hparents, hinterfaces⟩ := ClassLike.header_addAll
    (ClassLike.empty flavour (scope.qualify name) ps is) given
  refine ⟨hname, ?_, given, hgiven, hkeeps⟩
  rw [hparents, hinterfaces]
  intro t ht
  rcases List.mem_append.mp ht with ht | ht
  · exact head?_of_mapM_classReference hps t (ClassLike.parents_empty_subset ht)
  · exact head?_of_mapM_classReference his t (ClassLike.interfaces_empty_subset ht)

end Scope

namespace Signature

/-- A class-like keeps what it is given, whatever that is and however often. In a signature, every
class-like keeps what the body of a node declares, functions and class-likes have absolute names,
and parents are absolute names or variables. -/
theorem keeps_of_extract :
    (∀ (flavour : Flavour) (name : String) (parents interfaces : List String) (given : List Member),
      let c := (ClassLike.empty flavour name parents interfaces).addAll given
      c.flavour = flavour ∧ c.name = name ∧ (flavour ≠ .traitDecl → c.parents = parents) ∧
        (flavour.isClass → c.interfaces = interfaces) ∧ c.Keeps given) ∧
    ∀ (statements : List Node) (s : Signature), extract statements = .ok s →
      (∀ f ∈ s.functions, f.name.toList.head? = some '\\') ∧
      ∀ c ∈ s.classLikes, c.name.toList.head? = some '\\' ∧
        (∀ t ∈ c.parents ++ c.interfaces,
          t.toList.head? = some '\\' ∨ t.toList.head? = some '$') ∧
        ∃ site ∈ statements.flatMap (Node.sites []),
          site.node.kind ∈ [.interface, .classStmt, .traitStmt] ∧
          ∃ given, (scopeWithin site.around).members (site.node.children "stmts") = .ok given ∧
            c.Keeps given := by
  refine ⟨fun flavour name parents interfaces given => ?_, fun statements s h => ?_⟩
  · have hkeeps := (ClassLike.keeps_empty flavour name parents interfaces).addAll given
    obtain ⟨hflavour, hname, hparents, hinterfaces⟩ :=
      ClassLike.header_addAll (ClassLike.empty flavour name parents interfaces) given
    exact ⟨hflavour, hname, fun hne => hparents.trans (if_neg hne),
      fun hclass => hinterfaces.trans (if_pos hclass), hkeeps⟩
  · obtain ⟨hfunctions, hclassLikes⟩ := exists_declares_of_extract h
    refine ⟨fun f hf => ?_, fun c hc => ?_⟩
    · obtain ⟨site, -, hdeclares⟩ := hfunctions f hf
      obtain ⟨name, hname⟩ := hdeclares.exists_name_eq
      exact hname ▸ Scope.head?_qualify _ name
    · obtain ⟨site, hsite, hdeclares⟩ := hclassLikes c hc
      obtain ⟨flavour, name, parents, interfaces, hheader, hbuild⟩ := hdeclares.exists_classLike_eq
      obtain ⟨hname, hparents, given, hgiven, hkeeps⟩ := Scope.keeps_of_classLike hbuild
      exact ⟨hname ▸ Scope.head?_qualify _ name, hparents, site, hsite,
        Node.kind_of_header? hheader, given, hgiven, hkeeps⟩

/-- An interface in a namespace, with a parent and a method that has a body in the source. The body
is given to the interface and not kept. -/
theorem keeps_of_extract_interface :
    let method : Node :=
      ⟨"Stmt_ClassMethod", [("name", .str "m"), ("flags", .int 1), ("stmts", .list [])], {}⟩
    let parent : Node := ⟨"Name", [("parts", .list [.str "J"])], {}⟩
    let statement : Node := ⟨"Stmt_Interface", [("name", .str "I"),
      ("extends", .list [.node parent]), ("stmts", .list [.node method])], {}⟩
    let file : List Node := [⟨"Stmt_Namespace", [("name", .node ⟨"Name", [("parts",
      .list [.str "App"])], {}⟩), ("stmts", .list [.node statement])], {}⟩]
    let c : ClassLike := ⟨.interface, "\\App\\I", ["\\App\\J"], [], [], [], [⟨⟨1⟩, "m", [], none⟩]⟩
    extract file = .ok ⟨[], [], [c]⟩ ∧ c.name.toList.head? = some '\\' ∧
      (∀ t ∈ c.parents ++ c.interfaces, t.toList.head? = some '\\' ∨ t.toList.head? = some '$') ∧
      ∃ site ∈ file.flatMap (Node.sites []),
        site.node.kind ∈ [.interface, .classStmt, .traitStmt] ∧
        ∃ given, (scopeWithin site.around).members (site.node.children "stmts") = .ok given ∧
          c.Keeps given := by
  intro method parent statement file c
  have h : extract file = .ok ⟨[], [], [c]⟩ := rfl
  exact ⟨h, (keeps_of_extract.2 file _ h).2 c List.mem_cons_self⟩

end Signature

end SourceSig
