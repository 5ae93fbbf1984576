import SourceSig.Proofs.Assembly
import SourceSig.Proofs.Outcomes
import SourceSig.Proofs.SignatureText

/-!
# The order of declarations across categories

The text of a signature has its declarations by category: constants, functions, interfaces, traits,
classes. Inside a category they stand in the order of the source, and where they stand among
declarations of other categories is not shown.

* `Signature.declarations_ofDeclarations` : the text goes through the categories one by one and
  takes the declarations of each in their order.
* `signatureText_swap` : two statements next to each other may change places if what is declared
  under the one is of other categories than what is declared under the other.
-/

namespace SourceSig

/-! ## Categories -/

/-- The sorts of records that the text of a signature keeps together. -/
inductive Category where
  | define
  | function
  | interface
  | traitDecl
  | classDecl
deriving DecidableEq, Repr

/-- The categories in the order of the text. -/
def Category.all : List Category :=
  [.define, .function, .interface, .traitDecl, .classDecl]

theorem Category.mem_all (k : Category) : k ∈ all := by
  cases k <;> decide

/-- The category of the class-likes of a flavour. Abstract classes stand among the others. -/
def Flavour.category : Flavour → Category
  | .interface => .interface
  | .traitDecl => .traitDecl
  | .concreteClass | .abstractClass => .classDecl

theorem Flavour.category_ne (flavour : Flavour) :
    flavour.category ≠ .define ∧ flavour.category ≠ .function := by
  cases flavour <;> decide

/-- The category of a record. -/
def Declaration.category : Declaration → Category
  | .define _ => .define
  | .function _ => .function
  | .classLike c => c.flavour.category

/-- The declarations of a category, in their order. -/
def ofCategory (k : Category) (ds : List Declaration) : List Declaration :=
  ds.filter (·.category = k)

theorem ofCategory_append (k : Category) (xs ys : List Declaration) :
    ofCategory k (xs ++ ys) = ofCategory k xs ++ ofCategory k ys :=
  List.filter_append xs ys

theorem ofCategory_eq_nil_iff {k : Category} {ds : List Declaration} :
    ofCategory k ds = [] ↔ ∀ d ∈ ds, d.category ≠ k := by
  simp [ofCategory, List.filter_eq_nil_iff]

namespace Signature

/-- The declarations that a part of a signature is made of are picked out by their category. -/
theorem map_filterMap_eq_ofCategory {α : Type} {pick : Declaration → Option α}
    {wrap : α → Declaration} {k : Category}
    (h : ∀ d, (pick d).map wrap = if d.category = k then some d else none)
    (ds : List Declaration) : (ds.filterMap pick).map wrap = ofCategory k ds := by
  rw [List.map_filterMap, ofCategory, ← List.filterMap_eq_filter]
  congr 1
  funext d
  rw [h]
  simp [Option.guard]

theorem map_ofFlavours_eq_ofCategory {p : Flavour → Bool} {k : Category}
    (h : ∀ flavour : Flavour, p flavour ↔ flavour.category = k) (hk : k ≠ .define ∧ k ≠ .function)
    (ds : List Declaration) :
    ((ofDeclarations ds).ofFlavours p).map .classLike = ofCategory k ds := by
  rw [ofFlavours, ofDeclarations_eq, List.filter_filterMap]
  refine map_filterMap_eq_ofCategory (fun d => ?_) ds
  cases d with
  | define x => simp [Declaration.classLike?, Declaration.category, hk.1.symm]
  | function f => simp [Declaration.classLike?, Declaration.category, hk.2.symm]
  | classLike c =>
    by_cases hc : p c.flavour <;>
      simp_all [Declaration.classLike?, Declaration.category, Option.filter]

/-- The text shows the declarations category by category, each in their order. -/
theorem declarations_ofDeclarations (ds : List Declaration) :
    (ofDeclarations ds).declarations = Category.all.flatMap fun k => ofCategory k ds := by
  have hdefines : (ofDeclarations ds).defines.map .define = ofCategory .define ds := by
    rw [ofDeclarations_eq]
    refine map_filterMap_eq_ofCategory (fun d => ?_) ds
    cases d with
    | classLike c => exact (if_neg c.flavour.category_ne.1).symm
    | _ => rfl
  have hfunctions : (ofDeclarations ds).functions.map .function = ofCategory .function ds := by
    rw [ofDeclarations_eq]
    refine map_filterMap_eq_ofCategory (fun d => ?_) ds
    cases d with
    | classLike c => exact (if_neg c.flavour.category_ne.2).symm
    | _ => rfl
  have hinterfaces := map_ofFlavours_eq_ofCategory (p := (· = .interface)) (k := .interface)
    (by rintro ⟨⟩ <;> decide) (by decide) ds
  have htraits := map_ofFlavours_eq_ofCategory (p := (· = .traitDecl)) (k := .traitDecl)
    (by rintro ⟨⟩ <;> decide) (by decide) ds
  have hclasses := map_ofFlavours_eq_ofCategory (p := Flavour.isClass) (k := .classDecl)
    (by rintro ⟨⟩ <;> decide) (by decide) ds
  rw [declarations, hdefines, hfunctions, hinterfaces, htraits, hclasses]
  simp [Category.all]

theorem mem_declarations_ofDeclarations {ds : List Declaration} {d : Declaration} :
    d ∈ (ofDeclarations ds).declarations ↔ d ∈ ds := by
  rw [declarations_ofDeclarations]
  simp [ofCategory, Category.mem_all]

theorem text_eq_of_declarations_eq {s t : Signature} (h : s.declarations = t.declarations) :
    s.text = t.text := by
  rw [← String.toList_inj, toList_text, toList_text, h]

/-- Only the order within each category matters to the text. -/
theorem text_eq_of_ofCategory_eq {xs ys : List Declaration}
    (h : ∀ k, ofCategory k xs = ofCategory k ys) :
    (ofDeclarations xs).text = (ofDeclarations ys).text := by
  apply text_eq_of_declarations_eq
  simp only [declarations_ofDeclarations, h]

end Signature

/-- Declarations of other categories may come before or after. -/
theorem ofCategory_append_comm {xs ys : List Declaration}
    (h : ∀ d ∈ xs, ∀ e ∈ ys, d.category ≠ e.category) (k : Category) :
    ofCategory k (xs ++ ys) = ofCategory k (ys ++ xs) := by
  rw [ofCategory_append, ofCategory_append]
  by_cases hxs : ∃ d ∈ xs, d.category = k
  · obtain ⟨d, hd, rfl⟩ := hxs
    have hys : ofCategory d.category ys = [] :=
      ofCategory_eq_nil_iff.mpr fun e he => (h d hd e he).symm
    rw [hys, List.append_nil, List.nil_append]
  · have hnone : ofCategory k xs = [] :=
      ofCategory_eq_nil_iff.mpr fun d hd hk => hxs ⟨d, hd, hk⟩
    rw [hnone, List.append_nil, List.nil_append]

/-! ## Statements -/

/-- The records of some statements, in the order of the walk. -/
def declarationsIn (statements : List Node) : Except Unsupported (List Declaration) :=
  declarationsAt (statements.flatMap (Node.sites []))

theorem declarationsIn_append_eq_ok_iff {xs ys : List Node} {ds : List Declaration} :
    declarationsIn (xs ++ ys) = .ok ds ↔
      ∃ d e, declarationsIn xs = .ok d ∧ declarationsIn ys = .ok e ∧ d ++ e = ds := by
  simp only [declarationsIn, declarationsAt, List.flatMap_append, List.filterMap_append,
    List.mapM_append, bind_eq_ok_iff, pure_eq_ok_iff]
  grind

/-- A text is that of the records of the statements, if all of them can be built. -/
theorem signatureText_eq_ok_iff {statements : List Node} {text : String} :
    signatureText statements = .ok text ↔
      ∃ ds, declarationsIn statements = .ok ds ∧ (Signature.ofDeclarations ds).text = text := by
  have htext : signatureText statements =
      (fun ds => (Signature.ofDeclarations ds).text) <$> declarationsIn statements := by
    rw [signatureText, Signature.extract_eq_addSites, Signature.addSites]
    change Except.map _ (Except.map _ (declarationsIn statements)) = _
    cases declarationsIn statements <;> rfl
  rw [htext, map_eq_ok_iff]

theorem extract_eq_ok_of_declarationsIn {statements : List Node} {ds : List Declaration}
    (h : declarationsIn statements = .ok ds) :
    Signature.extract statements = .ok (Signature.ofDeclarations ds) := by
  rw [Signature.extract_eq_addSites]
  exact map_eq_ok_iff.mpr ⟨ds, h, rfl⟩

/-- Two statements next to each other may change places, if no category has declarations under both
of them. -/
theorem signatureText_swap {xs ys : List Node} {a b : Node} {text : String}
    (h : signatureText (xs ++ [a, b] ++ ys) = .ok text)
    (hdisjoint : ∀ s t, Signature.extract [a] = .ok s → Signature.extract [b] = .ok t →
      ∀ d ∈ s.declarations, ∀ e ∈ t.declarations, d.category ≠ e.category) :
    signatureText (xs ++ [b, a] ++ ys) = .ok text := by
  obtain ⟨ds, hds, rfl⟩ := signatureText_eq_ok_iff.mp h
  obtain ⟨front, back, hfront, hback, rfl⟩ := declarationsIn_append_eq_ok_iff.mp hds
  obtain ⟨before, between, hbefore, hbetween, rfl⟩ := declarationsIn_append_eq_ok_iff.mp hfront
  replace hbetween : declarationsIn ([a] ++ [b]) = .ok between := hbetween
  obtain ⟨da, db, ha, hb, rfl⟩ := declarationsIn_append_eq_ok_iff.mp hbetween
  have hcategories : ∀ d ∈ da, ∀ e ∈ db, d.category ≠ e.category := by
    intro d hd e he
    exact hdisjoint _ _ (extract_eq_ok_of_declarationsIn ha) (extract_eq_ok_of_declarationsIn hb)
      d (Signature.mem_declarations_ofDeclarations.mpr hd)
      e (Signature.mem_declarations_ofDeclarations.mpr he)
  have hba : declarationsIn ([b] ++ [a]) = .ok (db ++ da) :=
    declarationsIn_append_eq_ok_iff.mpr ⟨db, da, hb, ha, rfl⟩
  have hswapped : declarationsIn (xs ++ [b, a] ++ ys) = .ok (before ++ (db ++ da) ++ back) := by
    refine declarationsIn_append_eq_ok_iff.mpr ⟨_, back, ?_, hback, rfl⟩
    exact declarationsIn_append_eq_ok_iff.mpr ⟨before, _, hbefore, hba, rfl⟩
  refine signatureText_eq_ok_iff.mpr ⟨_, hswapped, Signature.text_eq_of_ofCategory_eq fun k => ?_⟩
  rw [ofCategory_append, ofCategory_append, ofCategory_append k (_ ++ _),
    ofCategory_append k before, ofCategory_append_comm hcategories]

/-- A constant in a namespace and an interface in a block, between two classes. -/
theorem signatureText_swap_in_blocks :
    let cls (name : String) : Node := ⟨"Stmt_Class", [("name", .str name)], {}⟩
    let argument (value : Node) : Value := .node ⟨"Arg", [("value", .node value)], {}⟩
    let call : Node := ⟨"Expr_FuncCall", [("name", .node ⟨"Name", [("name", .str "define")], {}⟩),
      ("args", .list [argument ⟨"Scalar_String", [("value", .str "X")], {}⟩,
        argument ⟨"Scalar_Int", [("value", .int 1)], {}⟩])], {}⟩
    let a : Node := ⟨"Stmt_Namespace", [("stmts", .list [.node call])], {}⟩
    let b : Node := ⟨"Stmt_If", [("stmts", .list [.node ⟨"Stmt_Interface",
      [("name", .str "I")], {}⟩])], {}⟩
    (∀ s t, Signature.extract [a] = .ok s → Signature.extract [b] = .ok t →
      ∀ d ∈ s.declarations, ∀ e ∈ t.declarations, d.category ≠ e.category) ∧
    ∃ text, signatureText ([cls "A"] ++ [a, b] ++ [cls "B"]) = .ok text ∧
      signatureText ([cls "A"] ++ [b, a] ++ [cls "B"]) = .ok text := by
  intro cls argument call a b
  have hdisjoint : ∀ s t, Signature.extract [a] = .ok s → Signature.extract [b] = .ok t →
      ∀ d ∈ s.declarations, ∀ e ∈ t.declarations, d.category ≠ e.category := by
    rintro s t ⟨⟩ ⟨⟩ d hd e he
    obtain rfl := List.mem_singleton.mp hd
    obtain rfl := List.mem_singleton.mp he
    decide
  exact ⟨hdisjoint, _, rfl, signatureText_swap rfl hdisjoint⟩

end SourceSig
