import SourceSig.Proofs.Assembly
import SourceSig.Proofs.NameParts
import Mathlib.Data.List.Forall2

/-!
# Which calls introduce constants

The constants of a signature come from calls of `define`. `DefinesConstant` says what such a call
is: the callee is a name of one of some kinds, with the single part `define` in any case of letters
and in either layout, and the first argument is a string. `Recorded` goes through the calls that the
walk visits and takes one record for each call that defines a constant, and none for any other.

`Signature.recorded_of_extract` : the constants of a signature are recorded from the calls that were
visited, by names of all three kinds. A name that is relative to the namespace is one of them, so
`namespace\define` counts as `define` (`Signature.not_forall_recorded_of_extract`), though it is the
name of another function; without such calls only plain and fully qualified names count.
-/

namespace SourceSig

/-! ## Calls of `define` -/

/-- Two texts are the same up to the case of ASCII letters. -/
def EqualIgnoringCase (s t : String) : Prop :=
  List.Forall₂ (fun c d => c.toLower = d.toLower) s.toList t.toList

/-- A call that defines the constant `name`, by a callee that is a name of one of the kinds. -/
inductive DefinesConstant (kinds : List Kind) (call : Node) (name : String) : Prop
  | intro {callee first literal : Node} {rest : List Node} {part : String} :
      call.child "name" = some callee → callee.kind ∈ kinds → callee.HasOnlyPart part →
        EqualIgnoringCase part "define" → call.arguments = first :: rest →
          first.child "value" = some literal → literal.kind = .stringLiteral →
            literal.text "value" = some name → DefinesConstant kinds call name

/-- The constants that some calls define, each call in its scope and in their order: one for each
call that defines a constant, with the text of its second argument as the value. -/
inductive Recorded (kinds : List Kind) : List (Scope × Node) → List Define → Prop
  | nil : Recorded kinds [] []
  | defining {scope : Scope} {call : Node} {d : Define} {calls : List (Scope × Node)}
      {ds : List Define} : DefinesConstant kinds call d.name →
        scope.literal? ((call.arguments.drop 1).head?.bind (·.child "value")) = .ok d.value →
          Recorded kinds calls ds → Recorded kinds ((scope, call) :: calls) (d :: ds)
  | other {scope : Scope} {call : Node} {calls : List (Scope × Node)} {ds : List Define} :
      (∀ name, ¬DefinesConstant kinds call name) → Recorded kinds calls ds →
        Recorded kinds ((scope, call) :: calls) ds

/-- The call at a site, bare or as an expression statement. -/
def Site.call? (site : Site) : Option Node :=
  match site.node.kind with
  | .call => some site.node
  | .expression => (site.node.child "expr").filter (·.kind = .call)
  | _ => none

/-- The calls at some sites, each with the scope around it. -/
def callsAt (sites : List Site) : List (Scope × Node) :=
  sites.filterMap fun site => site.call?.map fun call => (scopeWithin site.around, call)

/-- The calls that the walk over some statements visits, in its order. -/
def visitedCalls (statements : List Node) : List (Scope × Node) :=
  callsAt (statements.flatMap (Node.sites []))

/-! ## One call -/

theorem equalIgnoringCase_define_iff (part : String) :
    EqualIgnoringCase part "define" ↔ part.toList.map Char.toLower = "define".toList := by
  have hlower : "define".toList.map Char.toLower = "define".toList := by
    decide
  rw [← hlower, ← List.forall₂_eq_eq_eq, List.forall₂_map_left_iff, List.forall₂_map_right_iff]
  rfl

theorem Kind.isName_iff_mem {k : Kind} :
    k.isName ↔ k ∈ [Kind.name, .fullyQualifiedName, .relativeName] := by
  cases k <;> simp [isName]

/-- The test for `define` looks at the kind of the callee and at its only part. -/
theorem Node.callsDefine_iff {call : Node} : call.callsDefine ↔
    ∃ callee part, call.child "name" = some callee ∧ callee.kind.isName ∧
      callee.HasOnlyPart part ∧ EqualIgnoringCase part "define" := by
  unfold Node.callsDefine
  cases call.child "name" with
  | none => simp
  | some callee =>
    simp only [Bool.and_eq_true, Option.some.injEq, exists_eq_left',
      ← Node.nameParts_eq_singleton_iff, exists_and_left, equalIgnoringCase_define_iff]
    refine and_congr_right fun _ => ?_
    split
    · next part hparts => simp [hparts]
    · next hparts =>
      refine iff_of_false (by simp) ?_
      rintro ⟨part, heq, -⟩
      exact hparts part heq

theorem Node.definedName?_eq_some_iff {call : Node} {name : String} :
    call.definedName? = some name ↔ ∃ first rest literal, call.arguments = first :: rest ∧
      first.child "value" = some literal ∧ literal.kind = .stringLiteral ∧
        literal.text "value" = some name := by
  unfold Node.definedName?
  cases call.arguments with
  | nil => simp
  | cons first rest =>
    cases hvalue : first.child "value" with
    | none => simp [hvalue]
    | some literal => by_cases hkind : literal.kind = .stringLiteral <;> simp [hvalue, hkind]

/-- A call by a name of another kind defines no constant. -/
theorem not_definesConstant_of_kind {kinds : List Kind} {call callee : Node}
    (hcallee : call.child "name" = some callee) (hkind : callee.kind ∉ kinds) (name : String) :
    ¬DefinesConstant kinds call name := by
  rintro ⟨hname, hmem, -⟩
  rw [hcallee, Option.some.injEq] at hname
  exact hkind (hname ▸ hmem)

/-- The names that count are those of the three kinds. -/
theorem definesConstant_iff {call : Node} {name : String} :
    DefinesConstant [.name, .fullyQualifiedName, .relativeName] call name ↔
      call.callsDefine ∧ call.definedName? = some name := by
  rw [Node.callsDefine_iff, Node.definedName?_eq_some_iff]
  constructor
  · rintro ⟨hcallee, hkind, hpart, hdefine, harguments, hvalue, hliteral, hname⟩
    exact ⟨⟨_, _, hcallee, Kind.isName_iff_mem.mpr hkind, hpart, hdefine⟩,
      _, _, _, harguments, hvalue, hliteral, hname⟩
  · rintro ⟨⟨callee, part, hcallee, hkind, hpart, hdefine⟩,
      first, rest, literal, harguments, hvalue, hliteral, hname⟩
    exact ⟨hcallee, Kind.isName_iff_mem.mp hkind, hpart, hdefine, harguments, hvalue, hliteral,
      hname⟩

namespace Scope

variable {scope : Scope} {call : Node}

theorem defineOf?_of_definesConstant {name : String}
    (h : DefinesConstant [.name, .fullyQualifiedName, .relativeName] call name) :
    scope.defineOf? call = some (do
      let value ← scope.literal? ((call.arguments.drop 1).head?.bind (·.child "value"))
      return .define ⟨name, value⟩) := by
  obtain ⟨hcalls, hname⟩ := definesConstant_iff.mp h
  rw [defineOf?, if_pos hcalls, hname]
  rfl

theorem defineOf?_eq_none (h : ∀ name,
    ¬DefinesConstant [.name, .fullyQualifiedName, .relativeName] call name) :
    scope.defineOf? call = none := by
  unfold defineOf?
  split
  · next hcalls =>
    cases hname : call.definedName? with
    | none => rfl
    | some name => exact absurd (definesConstant_iff.mpr ⟨hcalls, hname⟩) (h name)
  · rfl

end Scope

/-! ## One site -/

section Sites

variable {site : Site} {sites : List Site} {ds : List Declaration}

theorem callsAt_cons (site : Site) (sites : List Site) : callsAt (site :: sites) =
    (site.call?.map fun call => (scopeWithin site.around, call)).toList ++ callsAt sites := by
  cases h : site.call? <;> simp [callsAt, h]

theorem Site.declaration?_of_call {call : Node} (h : site.call? = some call) :
    site.declaration? = (scopeWithin site.around).defineOf? call := by
  unfold Site.call? at h
  unfold Site.declaration?
  cases hkind : site.node.kind with
  | call =>
    simp only [hkind, Option.some.injEq] at h
    simp only [hkind, ← h]
  | expression =>
    simp only [hkind] at h
    simp only [hkind, h, Option.bind_some]
  | _ => simp [hkind] at h

/-- A site without a call has no constant for a record. -/
theorem Site.define?_of_not_call (h : site.call? = none) {d : Declaration}
    (hd : site.declaration? = some (.ok d)) : d.define? = none := by
  have hclass : ∀ {name? : Option String} {build : String → Except Unsupported ClassLike},
      name?.map (fun name => Declaration.classLike <$> build name) = some (.ok d) →
        d.define? = none := by
    intro name? build hmap
    obtain ⟨name, -, hbuild⟩ := Option.map_eq_some_iff.mp hmap
    cases hc : build name with
    | error u => rw [hc] at hbuild; cases hbuild
    | ok c => rw [hc] at hbuild; cases hbuild; rfl
  unfold Site.call? at h
  unfold Site.declaration? at hd
  cases hkind : site.node.kind with
  | function =>
    simp only [hkind] at hd
    obtain ⟨name, -, hbuild⟩ := Option.map_eq_some_iff.mp hd
    cases hparams : Parameter.ofItems (scopeWithin site.around) (site.node.items "params") with
    | error u => rw [hparams] at hbuild; cases hbuild
    | ok params => rw [hparams] at hbuild; cases hbuild; rfl
  | interface => exact hclass (by simpa only [hkind] using hd)
  | classStmt => exact hclass (by simpa only [hkind] using hd)
  | traitStmt => exact hclass (by simpa only [hkind] using hd)
  | call => simp [hkind] at h
  | expression =>
    simp only [hkind] at h hd
    rw [h] at hd
    cases hd
  | _ => simp [hkind] at hd

/-- A site of which records are made has none, or a record that comes first. -/
theorem declarationsAt_cons_eq_ok (h : declarationsAt (site :: sites) = .ok ds) :
    site.declaration? = none ∧ declarationsAt sites = .ok ds ∨
      ∃ d rest, site.declaration? = some (.ok d) ∧ ds = d :: rest ∧
        declarationsAt sites = .ok rest := by
  unfold declarationsAt at h ⊢
  cases hsite : site.declaration? with
  | none =>
    rw [List.filterMap_cons_none hsite] at h
    exact .inl ⟨rfl, h⟩
  | some r =>
    rw [List.filterMap_cons_some hsite, List.mapM_cons, id_eq] at h
    cases r with
    | error u => cases h
    | ok d =>
      cases hrest : (sites.filterMap Site.declaration?).mapM id with
      | error u => rw [hrest] at h; cases h
      | ok rest => rw [hrest] at h; cases h; exact .inr ⟨d, rest, rfl, rfl, rfl⟩

/-- The constants among the records of some sites are recorded from the calls there. The induction
goes from site to site. -/
theorem recorded_of_declarationsAt : ∀ {sites : List Site} {ds : List Declaration},
    declarationsAt sites = .ok ds →
      Recorded [.name, .fullyQualifiedName, .relativeName] (callsAt sites)
        (ds.filterMap Declaration.define?)
  | [], ds, h => by
    cases h
    exact .nil
  | site :: sites, ds, h => by
    rw [callsAt_cons]
    cases hcall : site.call? with
    | none =>
      rcases declarationsAt_cons_eq_ok h with ⟨-, hrest⟩ | ⟨d, rest, hd, rfl, hrest⟩
      · exact recorded_of_declarationsAt hrest
      · rw [List.filterMap_cons_none (Site.define?_of_not_call hcall hd)]
        exact recorded_of_declarationsAt hrest
    | some call =>
      have hdeclaration := Site.declaration?_of_call hcall
      by_cases hdefines : ∃ name,
          DefinesConstant [.name, .fullyQualifiedName, .relativeName] call name
      · obtain ⟨name, hname⟩ := hdefines
        rw [Scope.defineOf?_of_definesConstant hname] at hdeclaration
        rcases declarationsAt_cons_eq_ok h with ⟨hnone, -⟩ | ⟨d, rest, hd, rfl, hrest⟩
        · rw [hdeclaration] at hnone
          cases hnone
        · rw [hdeclaration, Option.some.injEq] at hd
          cases hvalue : (scopeWithin site.around).literal?
              ((call.arguments.drop 1).head?.bind (·.child "value")) with
          | error u => rw [hvalue] at hd; cases hd
          | ok value =>
            rw [hvalue] at hd
            cases hd
            exact .defining hname hvalue (recorded_of_declarationsAt hrest)
      · rw [not_exists] at hdefines
        rw [Scope.defineOf?_eq_none hdefines] at hdeclaration
        rcases declarationsAt_cons_eq_ok h with ⟨-, hrest⟩ | ⟨d, rest, hd, -, -⟩
        · exact .other hdefines (recorded_of_declarationsAt hrest)
        · rw [hdeclaration] at hd
          cases hd

end Sites

/-! ## Signatures -/

/-- A callee of one of several kinds is of one kind or of another. -/
theorem definesConstant_append_iff {kinds others : List Kind} {call : Node} {name : String} :
    DefinesConstant (kinds ++ others) call name ↔
      DefinesConstant kinds call name ∨ DefinesConstant others call name := by
  constructor
  · rintro ⟨hcallee, hkind, hpart, hdefine, harguments, hvalue, hliteral, hname⟩
    rcases List.mem_append.mp hkind with hkind | hkind
    · exact .inl ⟨hcallee, hkind, hpart, hdefine, harguments, hvalue, hliteral, hname⟩
    · exact .inr ⟨hcallee, hkind, hpart, hdefine, harguments, hvalue, hliteral, hname⟩
  · rintro (⟨hcallee, hkind, hpart, hdefine, harguments, hvalue, hliteral, hname⟩ |
      ⟨hcallee, hkind, hpart, hdefine, harguments, hvalue, hliteral, hname⟩)
    · exact ⟨hcallee, List.mem_append_left _ hkind, hpart, hdefine, harguments, hvalue, hliteral,
        hname⟩
    · exact ⟨hcallee, List.mem_append_right _ hkind, hpart, hdefine, harguments, hvalue, hliteral,
        hname⟩

/-- Kinds that no call is a call by may be left out. -/
theorem Recorded.of_not_definesConstant {kinds others : List Kind} {calls : List (Scope × Node)}
    {ds : List Define} (h : Recorded (kinds ++ others) calls ds)
    (hothers : ∀ c ∈ calls, ∀ name, ¬DefinesConstant others c.2 name) :
    Recorded kinds calls ds := by
  induction h with
  | nil => exact .nil
  | @defining scope call d calls ds hdefines hvalue _ ih =>
    have hrest := ih fun c hc => hothers c (List.mem_cons_of_mem _ hc)
    have hcall := hothers (scope, call) List.mem_cons_self d.name
    exact .defining ((definesConstant_append_iff.mp hdefines).resolve_right hcall) hvalue hrest
  | other hnone _ ih =>
    refine .other (fun name hdefines => ?_) (ih fun c hc => hothers c (List.mem_cons_of_mem _ hc))
    exact hnone name (definesConstant_append_iff.mpr (.inl hdefines))

namespace Signature

/-- The constants of a signature are those that the visited calls define, one for each such call and
in the order of the walk, where names of all three kinds count. Where no call is one of
`namespace\define`, they are those that calls by plain and fully qualified names define. -/
theorem recorded_of_extract {statements : List Node} {s : Signature}
    (h : extract statements = .ok s) :
    Recorded [.name, .fullyQualifiedName, .relativeName] (visitedCalls statements) s.defines ∧
      ((∀ c ∈ visitedCalls statements, ∀ name, ¬DefinesConstant [.relativeName] c.2 name) →
        Recorded [.name, .fullyQualifiedName] (visitedCalls statements) s.defines) := by
  rw [extract_eq_addSites, addSites] at h
  cases hds : declarationsAt (statements.flatMap (Node.sites [])) with
  | error u => rw [hds] at h; cases h
  | ok ds =>
    have hs : ofDeclarations ds = s := by
      rw [hds] at h
      exact Except.ok.inj h
    rw [ofDeclarations_eq] at hs
    have hrecorded := recorded_of_declarationsAt hds
    rw [← hs]
    exact ⟨hrecorded, hrecorded.of_not_definesConstant⟩

/-- A call by a fully qualified name with the part as a text, inside a namespace and a block, and a
call of a function that is no `define`. Neither is a call of `namespace\define`. -/
theorem recorded_of_extract_in_block :
    let argument (value : Node) : Value := .node ⟨"Arg", [("value", .node value)], {}⟩
    let call (callee : Node) : Node := ⟨"Expr_FuncCall", [("name", .node callee),
      ("args", .list [argument ⟨"Scalar_String", [("value", .str "A")], {}⟩,
        argument ⟨"Scalar_Int", [("value", .int 1)], {}⟩])], {}⟩
    let define := call ⟨"Name_FullyQualified", [("name", .str "\\DEFINE")], {}⟩
    let other := call ⟨"Name", [("parts", .list [.str "defined"])], {}⟩
    let statement : Node := ⟨"Stmt_Expression", [("expr", .node define)], {}⟩
    let block : Node := ⟨"Stmt_If", [("stmts", .list [.node statement, .node other])], {}⟩
    let app : Node := ⟨"Stmt_Namespace",
      [("name", .node ⟨"Name", [("parts", .list [.str "App"])], {}⟩),
        ("stmts", .list [.node block])], {}⟩
    let file := [app]
    extract file = .ok ⟨[⟨"A", "1"⟩], [], []⟩ ∧
      visitedCalls file = [(.ofNamespace app, define), (.ofNamespace app, other)] ∧
      (∀ c ∈ visitedCalls file, ∀ name, ¬DefinesConstant [.relativeName] c.2 name) ∧
        Recorded [.name, .fullyQualifiedName, .relativeName] (visitedCalls file) [⟨"A", "1"⟩] ∧
          Recorded [.name, .fullyQualifiedName] (visitedCalls file) [⟨"A", "1"⟩] := by
  intro argument call define other statement block app file
  have hextract : extract file = .ok ⟨[⟨"A", "1"⟩], [], []⟩ := by
    rfl
  have hcalls : visitedCalls file = [(.ofNamespace app, define), (.ofNamespace app, other)] := by
    have happ : app.searchedNodes = [block] := rfl
    have hblock : block.searchedNodes = [statement, other] := rfl
    have hstatement : statement.searchedNodes = [] := rfl
    have hother : other.searchedNodes = [] := rfl
    simp only [visitedCalls, file, List.flatMap_cons, List.flatMap_nil, List.append_nil,
      Node.sites_eq, happ, hblock, hstatement, hother]
    rfl
  have hothers : ∀ c ∈ visitedCalls file, ∀ name, ¬DefinesConstant [.relativeName] c.2 name := by
    rw [hcalls]
    intro c hc
    rcases List.mem_pair.mp hc with rfl | rfl
    · exact not_definesConstant_of_kind rfl (by decide)
    · exact not_definesConstant_of_kind rfl (by decide)
  obtain ⟨hall, hnarrow⟩ := recorded_of_extract hextract
  exact ⟨hextract, hcalls, hothers, hall, hnarrow hothers⟩

/-- A call of `namespace\define` inside a namespace adds a constant, though its callee is neither a
plain nor a fully qualified name. -/
theorem not_forall_recorded_of_extract :
    ¬∀ (statements : List Node) (s : Signature), extract statements = .ok s →
      Recorded [.name, .fullyQualifiedName] (visitedCalls statements) s.defines := by
  intro h
  let argument (value : Node) : Value := .node ⟨"Arg", [("value", .node value)], {}⟩
  let call : Node := ⟨"Expr_FuncCall",
    [("name", .node ⟨"Name_Relative", [("parts", .list [.str "define"])], {}⟩),
      ("args", .list [argument ⟨"Scalar_String", [("value", .str "A")], {}⟩,
        argument ⟨"Scalar_Int", [("value", .int 1)], {}⟩])], {}⟩
  let statement : Node := ⟨"Stmt_Expression", [("expr", .node call)], {}⟩
  let app : Node := ⟨"Stmt_Namespace",
    [("name", .node ⟨"Name", [("parts", .list [.str "App"])], {}⟩),
      ("stmts", .list [.node statement])], {}⟩
  have hextract : extract [app] = .ok ⟨[⟨"A", "1"⟩], [], []⟩ := by
    rfl
  have hcalls : visitedCalls [app] = [(.ofNamespace app, call)] := by
    have happ : app.searchedNodes = [statement] := rfl
    have hstatement : statement.searchedNodes = [] := rfl
    simp only [visitedCalls, List.flatMap_cons, List.flatMap_nil, List.append_nil, Node.sites_eq,
      happ, hstatement]
    rfl
  have hrecorded := h [app] _ hextract
  rw [hcalls] at hrecorded
  cases hrecorded with
  | defining hdefines _ _ =>
    exact not_definesConstant_of_kind rfl (by decide) _ hdefines
  | other _ hnil => cases hnil

end Signature

end SourceSig
