import SourceSig.Proofs.Rewriting
import SourceSig.Proofs.SignatureText

/-!
# The layout of bodies does not matter

The text of a signature says which members a class-like has, and not in which order or by how many
statements its body declares them.

The entries of a body (`Node.entries`) are built each on its own, so a body has members or a fault
whatever the order of its entries; and the text of a class-like depends on its members up to their
order. Moving, splitting and merging statements rearranges the entries (`Relaid.perm_entries`), so
it changes no text (`Signature.extract_isOk_and_text_of_relaid`).
-/

namespace SourceSig

/-! ## Changes to the layout -/

/-- The entries of a statement for constants or properties are declared by several statements of its
kind with its modifiers. -/
inductive Splits : Node → List Node → Prop
  | constants {n : Node} {parts : List Node} : n.kind = .classConst →
      (∀ p ∈ parts, p.kind = .classConst ∧ p.modifiers = n.modifiers) →
        parts.flatMap (·.children "consts") = n.children "consts" → Splits n parts
  | properties {n : Node} {parts : List Node} : n.kind = .property →
      (∀ p ∈ parts, p.kind = .property ∧ p.modifiers = n.modifiers) →
        parts.flatMap (·.children "props") = n.children "props" → Splits n parts

/-- A change to the layout of a body: its statements are put in another order, or one of them is
split, or several of them are merged. -/
inductive Relaid : List Value → List Value → Prop
  | permute {xs ys : List Value} : xs.Perm ys → Relaid xs ys
  | split {n : Node} {parts : List Node} (before after : List Value) : Splits n parts →
      Relaid (before ++ .node n :: after) (before ++ (parts.map .node ++ after))
  | merge {n : Node} {parts : List Node} (before after : List Value) : Splits n parts →
      Relaid (before ++ (parts.map .node ++ after)) (before ++ .node n :: after)

/-- A change to the layout of the body of an interface, a class or a trait. -/
inductive BodyRelaid : Node → Node → Prop
  | intro {n m : Node} {xs ys : List Value} : n.kind.isClassLike → Relaid xs ys →
      Node.Replaces "stmts" (.list xs) (.list ys) n m → BodyRelaid n m

theorem Splits.entries_eq {n : Node} {parts : List Node} (h : Splits n parts) :
    parts.flatMap Node.entries = n.entries := by
  cases h with
  | constants hkind hparts hentries =>
    have hpart : ∀ p ∈ parts, p.entries = (p.children "consts").map .constant := by
      intro p hp
      simp only [Node.entries, (hparts p hp).1]
    simp only [Node.entries, hkind]
    rw [← hentries, List.map_flatMap, List.flatMap_def, List.flatMap_def, List.map_congr_left hpart]
  | properties hkind hparts hentries =>
    have hpart : ∀ p ∈ parts, p.entries = (p.children "props").map (.property n.modifiers) := by
      intro p hp
      simp only [Node.entries, (hparts p hp).1, (hparts p hp).2]
    simp only [Node.entries, hkind]
    rw [← hentries, List.map_flatMap, List.flatMap_def, List.flatMap_def, List.map_congr_left hpart]

/-- The entries of a body, in the order of its statements. -/
def entriesOf (body : List Value) : List Entry :=
  (body.filterMap Value.asNode?).flatMap Node.entries

theorem entriesOf_split {n : Node} {parts : List Node} (h : Splits n parts)
    (before after : List Value) :
    entriesOf (before ++ (parts.map .node ++ after)) = entriesOf (before ++ .node n :: after) := by
  have hparts : (parts.map Value.node).filterMap Value.asNode? = parts := by
    simp [List.filterMap_map, Function.comp_def, Value.asNode?]
  simp [entriesOf, hparts, h.entries_eq, Value.asNode?]

/-- A change to the layout puts the entries in another order, if that. -/
theorem Relaid.perm_entries {xs ys : List Value} (h : Relaid xs ys) :
    (entriesOf ys).Perm (entriesOf xs) := by
  cases h with
  | permute hperm => exact ((hperm.filterMap Value.asNode?).flatMap_right Node.entries).symm
  | split before after hsplits => exact .of_eq (entriesOf_split hsplits before after)
  | merge before after hsplits => exact .of_eq (entriesOf_split hsplits before after).symm

/-! ## Members in any order -/

/-- The members that are built one by one are the same in any order, if all of them are built. -/
theorem seen_mapM_perm {α : Type} (build : α → Except Unsupported Member) {xs ys : List α}
    (h : ys.Perm xs) :
    seen Multiset.ofList (fun _ => ()) (ys.mapM build) =
      seen Multiset.ofList (fun _ => ()) (xs.mapM build) := by
  have hcons : ∀ (x : α) (xs : List α), seen Multiset.ofList (fun _ => ()) ((x :: xs).mapM build) =
      (do
        let m ← seen id (fun _ => ()) (build x)
        let ms ← seen Multiset.ofList (fun _ => ()) (xs.mapM build)
        return m ::ₘ ms) := by
    intro x xs
    rw [List.mapM_cons]
    cases build x with
    | error u => rfl
    | ok m => cases xs.mapM build <;> rfl
  induction h with
  | nil => rfl
  | cons x _ ih => rw [hcons, hcons, ih]
  | swap x y xs =>
    rw [hcons, hcons, hcons, hcons]
    cases build x with
    | error u => cases build y <;> rfl
    | ok m =>
      cases build y with
      | error u => rfl
      | ok m' =>
        cases xs.mapM build with
        | error u => rfl
        | ok ms => exact congrArg Except.ok (Multiset.cons_swap _ _ _)
  | trans _ _ ih₁ ih₂ => rw [ih₁, ih₂]

/-- What the text of a class-like shows depends on its members up to their order. -/
theorem ClassLike.shown_addAll_eq (c : ClassLike) {xs ys : List Member}
    (h : Multiset.ofList ys = Multiset.ofList xs) : (c.addAll ys).shown = (c.addAll xs).shown := by
  have hperm : ys.Perm xs := Multiset.coe_eq_coe.mp h
  rw [addAll_eq, addAll_eq]
  ext1
  · rfl
  · rfl
  · rfl
  · rfl
  · exact Multiset.coe_eq_coe.mpr ((hperm.filterMap _).append_left _)
  · exact Multiset.coe_eq_coe.mpr (((hperm.filterMap _).append_left _).map _)
  · exact Multiset.coe_eq_coe.mpr (((hperm.filterMap _).append_left _).map _)

theorem BodyRelaid.keeps : Keeps Declaration.shown (fun _ => ()) BodyRelaid where
  isContainer := by
    rintro n m ⟨hkind, -, -⟩
    exact Kind.isContainer_of_isClassLike hkind
  tag := by
    rintro n m ⟨-, -, hreplaces⟩
    exact hreplaces.tag_eq
  joinedName := by
    rintro n m ⟨-, -, hreplaces⟩
    exact hreplaces.joinedName_of_stmts
  record := by
    rintro n m ⟨hkind, hrelaid, hreplaces⟩
    refine record_eq_of_members hreplaces hkind
      (fun c _ _ h => congrArg Declaration.Shown.classLike (c.shown_addAll_eq h)) fun scope => ?_
    rcases hreplaces.children_stmts with heq | ⟨hn, hm⟩
    · rw [heq]
    · rw [hn, hm]
      exact seen_mapM_perm scope.member hrelaid.perm_entries

namespace Signature

/-! ## The text -/

theorem map_shown_ofFlavours_ofDeclarations (p : Flavour → Bool) (ds : List Declaration) :
    ((ofDeclarations ds).ofFlavours p).map ClassLike.shown =
      (ds.map Declaration.shown).filterMap (Declaration.Shown.classLike? p) := by
  rw [ofDeclarations_eq, ofFlavours, List.filter_filterMap, List.map_filterMap, List.filterMap_map]
  congr 1
  funext d
  cases d with
  | classLike c =>
    by_cases hp : p c.flavour <;>
      simp [Declaration.classLike?, Declaration.shown, Declaration.Shown.classLike?,
        ClassLike.shown, hp]
  | _ => rfl

/-- The text of a signature depends on what is shown of its records. -/
theorem text_ofDeclarations_eq {xs ys : List Declaration}
    (h : ys.map Declaration.shown = xs.map Declaration.shown) :
    (ofDeclarations ys).text = (ofDeclarations xs).text := by
  have hshown : ∀ ds : List Declaration, (ofDeclarations ds).shown =
      let records := ds.map Declaration.shown
      { defines := records.filterMap Declaration.Shown.define?
        functions := records.filterMap Declaration.Shown.function?
        interfaces := records.filterMap (Declaration.Shown.classLike? (· = .interface))
        traits := records.filterMap (Declaration.Shown.classLike? (· = .traitDecl))
        classes := records.filterMap (Declaration.Shown.classLike? Flavour.isClass) } := by
    intro ds
    ext1
    · simp only [shown, ofDeclarations_eq, List.filterMap_map]
      exact List.filterMap_congr fun d _ => by cases d <;> rfl
    · simp only [shown, ofDeclarations_eq, List.filterMap_map]
      exact List.filterMap_congr fun d _ => by cases d <;> rfl
    · exact map_shown_ofFlavours_ofDeclarations _ ds
    · exact map_shown_ofFlavours_ofDeclarations _ ds
    · exact map_shown_ofFlavours_ofDeclarations _ ds
  exact text_eq_of_shown_eq (by rw [hshown, hshown, h])

/-- Statements that differ in the layout of the bodies of interfaces, classes and traits have
signatures, or have none, and their signatures have the same text. -/
theorem extract_isOk_and_text_of_relaid {ns ms : List Node}
    (h : Relation.ReflTransGen (RewritesIn BodyRelaid) ns ms) :
    (extract ms).isOk = (extract ns).isOk ∧
      ∀ text, signatureText ms = .ok text ↔ signatureText ns = .ok text := by
  rw [signatureText, signatureText, extract_eq_addSites, extract_eq_addSites, addSites, addSites]
  rcases cases_of_seen_eq (seen_declarationsAt_eq_of_rewrites BodyRelaid.keeps h) with
    ⟨u, u', hms, hns, -⟩ | ⟨ys, xs, hms, hns, hshown⟩
  · rw [hms, hns]
    refine ⟨rfl, fun text => ⟨fun heq => ?_, fun heq => ?_⟩⟩
    · cases heq
    · cases heq
  · rw [hms, hns]
    refine ⟨rfl, fun text => ?_⟩
    change Except.ok (ofDeclarations ys).text = Except.ok text ↔
      Except.ok (ofDeclarations xs).text = Except.ok text
    rw [text_ofDeclarations_eq hshown]

/-- A class in a block, with two constants in one statement before a method, or in two after it. -/
theorem extract_isOk_and_text_of_relaid_split :
    let value (i : Int64) : Value := .node ⟨"Scalar_Int", [("value", .int i)], {}⟩
    let constants (entries : List (String × Int64)) : Node :=
      ⟨"Stmt_ClassConst", [("flags", .int 1), ("consts", .list (entries.map fun (name, i) =>
        .node ⟨"Const", [("name", .str name), ("value", value i)], {}⟩))], {}⟩
    let method : Value := .node ⟨"Stmt_ClassMethod", [("name", .str "m"), ("stmts", .list [])], {}⟩
    let file (body : List Value) : List Node :=
      [⟨"Stmt_If", [("cond", .bool true), ("stmts", .list [.node ⟨"Stmt_Class",
        [("name", .str "A"), ("stmts", .list body)], {}⟩])], {}⟩]
    let together := file [.node (constants [("X", 1), ("Y", 2)]), method]
    let apart := file [method, .node (constants [("Y", 2)]), .node (constants [("X", 1)])]
    Relation.ReflTransGen (RewritesIn BodyRelaid) together apart ∧
      (extract apart).isOk = (extract together).isOk ∧
        ∀ text, signatureText apart = .ok text ↔ signatureText together = .ok text := by
  intro value constants method file together apart
  have hstep {xs ys : List Value} (hrelaid : Relaid xs ys) :
      RewritesIn BodyRelaid (file xs) (file ys) := by
    refine .intro [] [] (.inside rfl (.inl rfl) (.here ?_) (.item [] []) (.intro _ [_] [] _))
    exact .intro rfl hrelaid (.intro _ [_] [] _)
  have hmodifiers : ∀ p ∈ [constants [("X", 1)], constants [("Y", 2)]],
      p.kind = .classConst ∧ p.modifiers = (constants [("X", 1), ("Y", 2)]).modifiers := by
    intro p hp
    rcases List.mem_pair.mp hp with rfl | rfl
    · exact ⟨rfl, rfl⟩
    · exact ⟨rfl, rfl⟩
  have hsplits : Splits (constants [("X", 1), ("Y", 2)])
      [constants [("X", 1)], constants [("Y", 2)]] :=
    .constants rfl hmodifiers rfl
  have h : Relation.ReflTransGen (RewritesIn BodyRelaid) together apart :=
    (Relation.ReflTransGen.single (hstep (.split [] [method] hsplits))).tail
      (hstep (.permute (List.reverse_perm [method, _, _])))
  exact ⟨h, extract_isOk_and_text_of_relaid h⟩

end Signature

end SourceSig
