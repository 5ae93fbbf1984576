import SourceSig.Proofs.DefineCalls
import SourceSig.Proofs.Outcomes

/-!
# The records of sites

`Site.declaration?` goes through the kinds of nodes, the names they have and the arguments of calls.
`Site.Declares` says once what comes out: a site calls for the record of a function with a name, of
a class-like with a name, or of a call of `define`, and for nothing else. Facts about records are
proved by its three cases.

`Signature.exists_declares_of_extract` : the functions and class-likes of a signature are records
that sites of its statements have called for.
-/

namespace SourceSig

/-- The flavour of the class-like that a node declares, and the nodes for what it extends and
implements. -/
def Node.header? (n : Node) : Option (Flavour × List Node × List Node) :=
  match n.kind with
  | .interface => some (.interface, n.children "extends", [])
  | .classStmt =>
    let flavour := if n.modifiers.isAbstract then .abstractClass else .concreteClass
    some (flavour, (n.child "extends").toList, n.children "implements")
  | .traitStmt => some (.traitDecl, [], [])
  | _ => none

/-- The record that a site calls for, or the fault that it has. -/
inductive Site.Declares (site : Site) : Except Unsupported Declaration → Prop
  | function {name : String} : site.node.kind = .function → site.node.declaredName? = some name →
      Declares site (do
        let params ← Parameter.ofItems (scopeWithin site.around) (site.node.items "params")
        return .function ⟨(scopeWithin site.around).qualify name, params,
          Digest.ofValue (site.node.field "stmts")⟩)
  | classLike {name : String} {flavour : Flavour} {parents interfaces : List Node} :
      site.node.header? = some (flavour, parents, interfaces) →
        site.node.declaredName? = some name →
          Declares site (.classLike <$>
            (scopeWithin site.around).classLike site.node flavour name parents interfaces)
  | define {call : Node} {name : String} : site.call? = some call → call.callsDefine →
      call.definedName? = some name →
        Declares site (do
          let value ← (scopeWithin site.around).literal?
            ((call.arguments.drop 1).head?.bind (·.child "value"))
          return .define ⟨name, value⟩)

theorem Site.declares_of_call {site : Site} {call : Node} {r : Except Unsupported Declaration}
    (hcall : site.call? = some call) (h : (scopeWithin site.around).defineOf? call = some r) :
    site.Declares r := by
  unfold Scope.defineOf? at h
  split at h
  · next hdefine =>
    obtain ⟨name, hname, rfl⟩ := Option.map_eq_some_iff.mp h
    exact .define hcall hdefine hname
  · cases h

theorem Site.declares_of_declaration? {site : Site} {r : Except Unsupported Declaration}
    (h : site.declaration? = some r) : site.Declares r := by
  cases hcall : site.call? with
  | some call => exact declares_of_call hcall (declaration?_of_call hcall ▸ h)
  | none =>
    unfold Site.call? at hcall
    unfold Site.declaration? at h
    cases hkind : site.node.kind with
    | function =>
      simp only [hkind] at h
      obtain ⟨name, hname, rfl⟩ := Option.map_eq_some_iff.mp h
      exact .function hkind hname
    | interface =>
      simp only [hkind] at h
      obtain ⟨name, hname, rfl⟩ := Option.map_eq_some_iff.mp h
      exact .classLike (by rw [Node.header?, hkind]) hname
    | classStmt =>
      simp only [hkind] at h
      obtain ⟨name, hname, rfl⟩ := Option.map_eq_some_iff.mp h
      exact .classLike (by rw [Node.header?, hkind]) hname
    | traitStmt =>
      simp only [hkind] at h
      obtain ⟨name, hname, rfl⟩ := Option.map_eq_some_iff.mp h
      exact .classLike (by rw [Node.header?, hkind]) hname
    | call => simp [hkind] at hcall
    | expression =>
      simp only [hkind] at h hcall
      rw [hcall] at h
      cases h
    | _ => simp [hkind] at h

/-- A function is recorded under its qualified name. -/
theorem Site.Declares.exists_name_eq {site : Site} {f : Function}
    (h : site.Declares (.ok (.function f))) :
    ∃ name, f.name = (scopeWithin site.around).qualify name := by
  generalize hr : Except.ok (Declaration.function f) = r at h
  cases h with
  | @function name _ _ =>
    obtain ⟨params, -, hf⟩ := bind_eq_ok_iff.mp hr.symm
    cases pure_eq_ok_iff.mp hf
    exact ⟨name, rfl⟩
  | classLike _ _ =>
    obtain ⟨c, -, ⟨⟩⟩ := map_eq_ok_iff.mp hr.symm
  | define _ _ _ =>
    obtain ⟨value, -, hf⟩ := bind_eq_ok_iff.mp hr.symm
    cases pure_eq_ok_iff.mp hf

/-- A class-like is built from the node of its site. -/
theorem Site.Declares.exists_classLike_eq {site : Site} {c : ClassLike}
    (h : site.Declares (.ok (.classLike c))) :
    ∃ flavour name parents interfaces,
      site.node.header? = some (flavour, parents, interfaces) ∧
        (scopeWithin site.around).classLike site.node flavour name parents interfaces = .ok c := by
  generalize hr : Except.ok (Declaration.classLike c) = r at h
  cases h with
  | function _ _ =>
    obtain ⟨params, -, hc⟩ := bind_eq_ok_iff.mp hr.symm
    cases pure_eq_ok_iff.mp hc
  | classLike hheader _ =>
    obtain ⟨c, hc, ⟨⟩⟩ := map_eq_ok_iff.mp hr.symm
    exact ⟨_, _, _, _, hheader, hc⟩
  | define _ _ _ =>
    obtain ⟨value, -, hc⟩ := bind_eq_ok_iff.mp hr.symm
    cases pure_eq_ok_iff.mp hc

theorem Site.kind_of_call {site : Site} {call : Node} (h : site.call? = some call) :
    call.kind = .call := by
  unfold Site.call? at h
  split at h
  · next hkind => rw [← Option.some.inj h, hkind]
  · simpa using (Option.filter_eq_some_iff.mp h).2
  · cases h

theorem Node.kind_of_header? {n : Node} {x : Flavour × List Node × List Node}
    (h : n.header? = some x) : n.kind ∈ [.interface, .classStmt, .traitStmt] := by
  unfold header? at h
  cases hkind : n.kind <;> simp [hkind] at h ⊢

/-- Each record that was built belongs to a site. -/
theorem exists_declares_of_mem {sites : List Site} {ds : List Declaration}
    (h : declarationsAt sites = .ok ds) {d : Declaration} (hd : d ∈ ds) :
    ∃ site ∈ sites, site.Declares (.ok d) := by
  obtain ⟨r, hr, hok⟩ := exists_mem_of_forall₂ (mapM_eq_ok_iff.mp h) d hd
  obtain ⟨site, hsite, hdeclaration⟩ := List.mem_filterMap.mp hr
  exact ⟨site, hsite, hok ▸ Site.declares_of_declaration? hdeclaration⟩

theorem Signature.exists_declares_of_extract {statements : List Node} {s : Signature}
    (h : extract statements = .ok s) :
    (∀ f ∈ s.functions, ∃ site ∈ statements.flatMap (Node.sites []),
      site.Declares (.ok (.function f))) ∧
    ∀ c ∈ s.classLikes, ∃ site ∈ statements.flatMap (Node.sites []),
      site.Declares (.ok (.classLike c)) := by
  rw [extract_eq_addSites] at h
  obtain ⟨ds, hds, rfl⟩ := map_eq_ok_iff.mp h
  rw [addAll_eq]
  constructor
  · intro f hf
    obtain ⟨d, hd, hdf⟩ := List.mem_filterMap.mp hf
    cases d with
    | function g =>
      obtain rfl := Option.some.inj hdf
      exact exists_declares_of_mem hds hd
    | _ => cases hdf
  · intro c hc
    obtain ⟨d, hd, hdc⟩ := List.mem_filterMap.mp hc
    cases d with
    | classLike k =>
      obtain rfl := Option.some.inj hdc
      exact exists_declares_of_mem hds hd
    | _ => cases hdc

end SourceSig
