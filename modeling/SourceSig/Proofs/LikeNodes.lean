import SourceSig.Proofs.Readings

/-!
# Reading nodes alike

Two nodes with the same tag and position in whose fields the same is read (`Like`) are read the same
in every way that looks at fields by their names (`Like.same`). Digests and the walk go through all
the fields in their order, and there one field is changed at a time.

* `Reading.Same.of_replaces` : a change in one field of a node, in which the same is read.
* `Reading.Same.of_item` : a change of one element of a list, in which the same is read.
-/

namespace SourceSig

open Reading (Same SameField)

/-! ## Nodes that are read the same -/

/-- Two nodes with one tag and one position, in whose fields the same is read. -/
structure Like (r : Reading) (n m : Node) : Prop where
  tag : m.tag = n.tag
  lines : m.lines = n.lines
  field : ∀ name, SameField (r.field n name) (n.field name) (m.field name)

namespace Like

variable {r s : Reading} {n m : Node} {name : String}

theorem kind_eq (h : Like r n m) : m.kind = n.kind := by
  rw [Node.kind, Node.kind, h.tag]

/-- A fault names the tag and the line of a node only. -/
theorem of_eq (h : Like r n m) (construct : Construct) :
    Unsupported.of construct m = Unsupported.of construct n := by
  rw [Unsupported.of, Unsupported.of, Node.line, Node.line, h.tag, h.lines]

/-- What is read in a field, by the entry of the table for it. -/
theorem sameField (h : Like r n m) (hs : r.field n name = s) :
    SameField s (n.field name) (m.field name) :=
  hs ▸ h.field name

/-- Where both layouts of a name are read, its parts are the same. -/
theorem nameParts_eq (h : Like r n m) (hr : r.field n = Reading.only Reading.nameFields) :
    m.nameParts = n.nameParts := by
  have hparts : SameField (.items .plain) (n.field "parts") (m.field "parts") :=
    h.sameField (by rw [hr]; rfl)
  have hname : m.text "name" = n.text "name" :=
    Reading.SameField.text_eq (h.sameField (by rw [hr]; rfl))
  unfold Node.nameParts
  rw [hname]
  rcases hparts nofun with heq | ⟨v, w, hn, hm, hsame⟩
  · rw [heq]
  · rw [hn, hm]
    change Option.Rel _ v.asList? w.asList? at hsame
    cases v <;> cases w <;> cases hsame <;> first | rfl | skip
    exact filterMap_asText?_eq ‹_›

/-- A node that names something does so by its field `name`. -/
theorem same_named (h : Like .named n m) : Same .named (.node n) (.node m) := by
  change Value.identifier? (.node m) = Value.identifier? (.node n)
  simp only [Value.identifier?, h.kind_eq]
  split_ifs with hid hname
  · exact Reading.SameField.text_eq (h.sameField (by simp only [Reading.field, if_pos hid]; rfl))
  · rw [Node.joinedName, Node.joinedName,
      h.nameParts_eq (by simp only [Reading.field, if_neg hid, if_pos hname])]
  · rfl

theorem same_spelled (h : Like .spelled n m) : Same .spelled (.node n) (.node m) :=
  congrArg some (h.nameParts_eq rfl)

/-- A callee matters by its kind and its parts. -/
theorem same_callee (h : Like .callee n m) : Same .callee (.node n) (.node m) := by
  refine congrArg some ?_
  dsimp only
  rw [h.kind_eq]
  split_ifs with hname
  · exact h.nameParts_eq (by simp only [Reading.field, if_pos hname])
  · rfl

/-- A reference to a class matters by its kind and its parts or, for a variable, by its name. -/
theorem same_reference (h : Like .reference n m) : Same .reference (.node n) (.node m) := by
  refine congrArg some (funext fun scope => ?_)
  have hjoined (hname : n.kind.isName) : m.joinedName = n.joinedName := by
    rw [Node.joinedName, Node.joinedName,
      h.nameParts_eq (by simp only [Reading.field, if_pos hname])]
  change scope.classReference m = scope.classReference n
  unfold Scope.classReference
  rw [h.kind_eq, h.of_eq, h.of_eq]
  cases hk : n.kind with
  | name | fullyQualifiedName | relativeName => rw [hjoined (by rw [hk]; rfl)]
  | variableExpr =>
    have htext : m.text "name" = n.text "name" :=
      Reading.SameField.text_eq (h.sameField (by simp [Reading.field, hk, Kind.isName]; rfl))
    rw [htext]
  | _ => rfl

theorem same_boundVariable (h : Like .boundVariable n m) :
    Same .boundVariable (.node n) (.node m) := by
  refine congrArg some (Prod.ext ?_ (h.of_eq _))
  exact Reading.SameField.text_eq (h.sameField rfl)

theorem same_quoted (h : Like .quoted n m) : Same .quoted (.node n) (.node m) := by
  refine congrArg some ?_
  unfold Node.quotedText?
  rw [h.kind_eq]
  split_ifs with hk
  · exact Reading.SameField.text_eq (h.sameField (by simp only [Reading.field, if_pos hk]; rfl))
  · rfl

/-- A type matters by its kind, and by the types in it. -/
theorem same_typed (h : Like .typed n m) : Same .typed (.node n) (.node m) := by
  change m.typeText = n.typeText
  have hjoined (hr : Reading.typeField n = Reading.only Reading.nameFields) :
      m.joinedName = n.joinedName := by
    rw [Node.joinedName, Node.joinedName, h.nameParts_eq hr]
  have htype (hr : Reading.typeField n "type" = .typed) :
      Node.typeField m.fields = Node.typeField n.fields := by
    rw [Node.typeField_eq, Node.typeField_eq, (h.sameField hr).typeText?_eq]
  have htypes (hr : Reading.typeField n "types" = .items .typed) :
      Node.typesField m.fields = Node.typesField n.fields := by
    rw [Node.typesField_eq, Node.typesField_eq, typeTextsOf_eq (h.sameField hr).items_rel]
  rw [Node.typeText_eq, Node.typeText_eq, h.kind_eq, h.of_eq, h.of_eq]
  unfold Reading.typeField at hjoined htype htypes
  cases hk : n.kind with
  | identifier =>
    have htext : m.text "name" = n.text "name" :=
      Reading.SameField.text_eq (h.sameField (by rw [Reading.field, Reading.typeField, hk]; rfl))
    rw [htext]
  | name | fullyQualifiedName | relativeName => rw [hjoined (by rw [hk])]
  | nullableType | param => rw [htype (by rw [hk]; rfl)]
  | unionType | intersectionType => rw [htypes (by rw [hk]; rfl)]
  | _ => rfl

/-- A constant expression that is spelled out matters by the fields that are spelled. -/
theorem same_literal (h : Like .literal n m) (hspelled : n.kind.isSpelledOut) :
    Same .literal (.node n) (.node m) := by
  refine congrArg some (funext fun scope => ?_)
  change scope.literal m = scope.literal n
  have hfield {name : String} {s : Reading} (hs : Reading.literalField n name = s) :
      SameField s (n.field name) (m.field name) :=
    h.sameField hs
  unfold Reading.literalField at hfield
  unfold Scope.literal
  rw [h.kind_eq]
  cases hk : n.kind with
  | intLiteral | floatLiteral | stringLiteral =>
    have hvalue : SameField .plain (n.field "value") (m.field "value") := hfield (by rw [hk]; rfl)
    rw [hvalue.scalarText_eq]
  | constFetch =>
    have hname : SameField .spelled (n.field "name") (m.field "name") := hfield (by rw [hk]; rfl)
    rw [constantText, constantText, hname.child_eq nofun rfl]
  | classConstFetch =>
    have hclass : SameField .reference (n.field "class") (m.field "class") :=
      hfield (by rw [hk]; rfl)
    have hname : SameField .named (n.field "name") (m.field "name") := hfield (by rw [hk]; rfl)
    rw [Scope.classPrefix_eq_of_view scope (hclass.child_eq nofun rfl), hname.identifier?_eq]
  | _ =>
    rw [hk] at hspelled
    cases hspelled

/-- The first argument of `define` matters if it is a string. -/
theorem same_firstArgument (h : Like .firstArgument n m) :
    Same .firstArgument (.node n) (.node m) := by
  refine congrArg some ?_
  dsimp only
  rw [h.kind_eq]
  split_ifs with hk
  · have hvalue : SameField .quoted (n.field "value") (m.field "value") :=
      h.sameField (by simp only [Reading.field, if_pos hk]; rfl)
    have hbind (x : Option Node) : x.bind Node.quotedText? = (x.map Node.quotedText?).bind id := by
      cases x <;> rfl
    rw [hbind, hbind, hvalue.child_eq nofun rfl]
  · rfl

theorem same_secondArgument (h : Like .secondArgument n m) :
    Same .secondArgument (.node n) (.node m) := by
  refine congrArg some ?_
  dsimp only
  rw [h.kind_eq]
  split_ifs with hk
  · have hvalue : SameField .literal (n.field "value") (m.field "value") :=
      h.sameField (by simp only [Reading.field, if_pos hk]; rfl)
    refine congrArg some (funext fun scope => ?_)
    exact Scope.literal?_eq_of_view scope (hvalue.child_eq nofun rfl)
  · rfl

/-- A parameter matters by its name, its type, its default and its marks. -/
theorem same_parameter (h : Like .parameter n m) : Same .parameter (.node n) (.node m) := by
  refine congrArg some (funext fun scope => ?_)
  change Parameter.ofNode scope m = Parameter.ofNode scope n
  unfold Parameter.ofNode
  rw [h.kind_eq, h.of_eq]
  by_cases hk : n.kind = .param
  · have hfield {name : String} {s : Reading} (hs : Reading.only [("var", .boundVariable),
        ("name", .plain), ("type", .typed), ("default", .literal), ("byRef", .plain),
        ("variadic", .plain)] name = s) : SameField s (n.field name) (m.field name) :=
      h.sameField (by simp only [Reading.field, if_pos hk]; exact hs)
    have hdefault : SameField .literal (n.field "default") (m.field "default") := hfield rfl
    have htype : SameField .typed (n.field "type") (m.field "type") := hfield rfl
    have hbyRef : SameField .plain (n.field "byRef") (m.field "byRef") := hfield rfl
    have hvariadic : SameField .plain (n.field "variadic") (m.field "variadic") := hfield rfl
    rw [Reading.SameField.nameOf_eq (hfield rfl) (hfield rfl) (h.of_eq _), htype.typeText?_eq,
      Scope.literal?_eq_of_view scope (hdefault.child_eq nofun rfl), hbyRef.flag_eq,
      hvariadic.flag_eq]
  · rw [if_neg hk, if_neg hk]

/-- An entry, with its value in the one field or the other. -/
theorem entryView_eq (h : Like r n m) {value : String}
    (hname : r.field n "name" = .named) (hvalue : r.field n value = .literal) :
    m.entryView value = n.entryView value := by
  have hid := (h.sameField hname).identifier?_eq
  refine Prod.ext (funext fun construct => ?_) (funext fun scope => ?_)
  · change m.memberName construct = n.memberName construct
    rw [Node.memberName, Node.memberName, hid, h.of_eq]
  · exact Scope.literal?_eq_of_view scope ((h.sameField hvalue).child_eq (by simp) rfl)

theorem same_constant (h : Like .constant n m) : Same .constant (.node n) (.node m) :=
  congrArg some (h.entryView_eq rfl rfl)

theorem same_property (h : Like .property n m) : Same .property (.node n) (.node m) :=
  congrArg some (h.entryView_eq rfl rfl)

/-- A statement in the body of a class-like matters by its entries, whatever its kind is. -/
theorem same_member (h : Like .member n m) : Same .member (.node n) (.node m) := by
  refine congrArg some (funext fun scope => ?_)
  change m.entries.map scope.member = n.entries.map scope.member
  have hfield {name : String} {s : Reading} (hs : Reading.memberField n name = s) :
      SameField s (n.field name) (m.field name) :=
    h.sameField hs
  unfold Reading.memberField at hfield
  unfold Node.entries
  rw [h.kind_eq]
  cases hk : n.kind with
  | method =>
    have hname : SameField .named (n.field "name") (m.field "name") := hfield (by rw [hk]; rfl)
    have hbody : m.field "stmts" = n.field "stmts" :=
      Reading.SameField.digested_eq (hfield (by rw [hk]; rfl))
    have hmodifiers : m.modifiers = n.modifiers :=
      Reading.SameField.modifiers_eq (hfield (by rw [hk]; rfl)) (hfield (by rw [hk]; rfl))
    simp only [List.map_cons, List.map_nil, Scope.member, Node.memberName, hname.identifier?_eq,
      h.of_eq, Reading.SameField.ofItems_eq scope (hfield (by rw [hk]; rfl)), hbody, hmodifiers]
  | classConst =>
    have hconsts : SameField (.items .constant) (n.field "consts") (m.field "consts") :=
      hfield (by rw [hk]; rfl)
    simp only [List.map_map]
    exact map_eq_of_view (fun view => do
      return .constant ⟨← view.1 .constantName, ← view.2 scope⟩) (fun _ => rfl)
      (hconsts.children_eq rfl)
  | property =>
    have hprops : SameField (.items .property) (n.field "props") (m.field "props") :=
      hfield (by rw [hk]; rfl)
    have hmodifiers : m.modifiers = n.modifiers :=
      Reading.SameField.modifiers_eq (hfield (by rw [hk]; rfl)) (hfield (by rw [hk]; rfl))
    simp only [List.map_map, hmodifiers]
    exact map_eq_of_view (fun view => do
      return .property ⟨n.modifiers, ← view.1 .propertyName, some (← view.2 scope)⟩)
      (fun _ => rfl) (hprops.children_eq rfl)
  | nop => rfl
  | _ => simp only [List.map_cons, List.map_nil, Scope.member, h.of_eq]

/-! ### Calls -/

/-- A call matters by its callee, and a call of `define` by its arguments too. -/
theorem defineOf?_eq_of_callFields (h : Like r n m)
    (hr : r.field n = Reading.only (Reading.callFields n)) (scope : Scope) :
    scope.defineOf? m = scope.defineOf? n := by
  have hname : SameField .callee (n.field "name") (m.field "name") :=
    h.sameField (by rw [hr]; rfl)
  refine Reading.SameField.defineOf?_eq scope hname fun hdefine => h.sameField ?_
  rw [hr, Reading.callFields, if_pos hdefine]
  rfl

/-- An expression matters if it is a call. -/
theorem same_call (h : Like .call n m) : Same .call (.node n) (.node m) := by
  refine congrArg some (funext fun scope => ?_)
  rw [Node.callRecord, Node.callRecord, h.kind_eq]
  split_ifs with hk
  · exact h.defineOf?_eq_of_callFields (by simp only [Reading.field, if_pos hk]) scope
  · rfl

/-! ### Statements -/

/-- The fields of a declaration beyond its name are read if it has one. -/
theorem only_declarationFields {fields : List (String × Reading)} {declared name : String}
    (hdeclared : n.declaredName? = some declared) (hname : name ≠ "name") :
    Reading.only (Reading.declarationFields n fields) name = Reading.only fields name := by
  have hne : (name == "name") = false := by simpa using hname
  simp [Reading.only, Reading.declarationFields, hdeclared, List.lookup_cons, hne]

/-- What a statement declares on its own. -/
theorem declaration?_eq (htag : m.tag = n.tag)
    (hfield : ∀ name, SameField (Reading.statementField n name) (n.field name) (m.field name))
    (around : List Node) : Site.declaration? ⟨around, m⟩ = Site.declaration? ⟨around, n⟩ := by
  have hget {name : String} {s : Reading} (hs : Reading.statementField n name = s) :
      SameField s (n.field name) (m.field name) :=
    hs ▸ hfield name
  have hkind : m.kind = n.kind := by rw [Node.kind, Node.kind, htag]
  unfold Site.declaration?
  dsimp only
  generalize scopeWithin around = scope
  rw [hkind]
  unfold Reading.statementField at hget
  cases hk : n.kind with
  | function =>
    refine Reading.SameField.declaredName?_map_eq (hget (by rw [hk]; rfl)) fun name hdeclared => ?_
    have hparams : SameField (.items .parameter) (n.field "params") (m.field "params") :=
      hget (by rw [hk]; exact only_declarationFields hdeclared (by decide))
    have hbody : m.field "stmts" = n.field "stmts" := Reading.SameField.digested_eq
      (hget (by rw [hk]; exact only_declarationFields hdeclared (by decide)))
    rw [Reading.SameField.ofItems_eq scope hparams, hbody]
  | interface =>
    refine Reading.SameField.declaredName?_map_eq (hget (by rw [hk]; rfl)) fun name hdeclared => ?_
    have hextends : SameField (.items .reference) (n.field "extends") (m.field "extends") :=
      hget (by rw [hk]; exact only_declarationFields hdeclared (by decide))
    have hstmts : SameField (.items .member) (n.field "stmts") (m.field "stmts") :=
      hget (by rw [hk]; exact only_declarationFields hdeclared (by decide))
    rw [Reading.SameField.classLike_eq scope _ name (hextends.children_eq rfl) rfl hstmts]
  | classStmt =>
    refine Reading.SameField.declaredName?_map_eq (hget (by rw [hk]; rfl)) fun name hdeclared => ?_
    have hflags : SameField .plain (n.field "flags") (m.field "flags") :=
      hget (by rw [hk]; exact only_declarationFields hdeclared (by decide))
    have htype : SameField .plain (n.field "type") (m.field "type") :=
      hget (by rw [hk]; exact only_declarationFields hdeclared (by decide))
    have hmodifiers : m.modifiers = n.modifiers := Reading.SameField.modifiers_eq hflags htype
    have hextends : SameField .reference (n.field "extends") (m.field "extends") :=
      hget (by rw [hk]; exact only_declarationFields hdeclared (by decide))
    have himplements : SameField (.items .reference) (n.field "implements")
        (m.field "implements") :=
      hget (by rw [hk]; exact only_declarationFields hdeclared (by decide))
    have hstmts : SameField (.items .member) (n.field "stmts") (m.field "stmts") :=
      hget (by rw [hk]; exact only_declarationFields hdeclared (by decide))
    have hparents : (m.child "extends").toList.map Node.asReference =
        (n.child "extends").toList.map Node.asReference := by
      rw [← Option.toList_map, ← Option.toList_map, hextends.child_eq (by simp) rfl]
    rw [hmodifiers, Reading.SameField.classLike_eq scope _ name hparents
      (himplements.children_eq rfl) hstmts]
  | traitStmt =>
    refine Reading.SameField.declaredName?_map_eq (hget (by rw [hk]; rfl)) fun name hdeclared => ?_
    have hstmts : SameField (.items .member) (n.field "stmts") (m.field "stmts") :=
      hget (by rw [hk]; exact only_declarationFields hdeclared (by decide))
    rw [Reading.SameField.classLike_eq scope _ name rfl rfl hstmts]
  | expression =>
    have hexpr : SameField .call (n.field "expr") (m.field "expr") := hget (by rw [hk]; rfl)
    have hview (x : Option Node) : (x.filter (·.kind = .call)).bind scope.defineOf? =
        (x.map Node.callRecord).bind (· scope) := by
      cases x with
      | none => rfl
      | some e => by_cases he : e.kind = .call <;> simp [he, Option.filter, Node.callRecord]
    rw [hview, hview, hexpr.child_eq (by simp) rfl]
  | call =>
    refine Reading.SameField.defineOf?_eq scope (hget (by rw [hk]; rfl)) fun hdefine => hget ?_
    rw [hk]
    dsimp only
    rw [Reading.callFields, if_pos hdefine]
    rfl
  | _ => rfl

/-- A statement is read by the records that the walk from it gives. -/
theorem same_statement_of_seenAt {field : String} (htag : m.tag = n.tag)
    (h : StandsAsStatement field n → ∀ around,
      seenAt id id (m.sites around) = seenAt id id (n.sites around)) :
    Same (.statement field) (.node n) (.node m) := by
  intro around
  change recordsFrom field around [m] = recordsFrom field around [n]
  have hiff : StandsAsStatement field m ↔ StandsAsStatement field n := by
    rw [StandsAsStatement, StandsAsStatement, htag]
  rw [recordsFrom_singleton, recordsFrom_singleton]
  by_cases hstands : StandsAsStatement field n
  · rw [if_pos hstands, if_pos (hiff.mpr hstands), h hstands]
  · rw [if_neg hstands, if_neg (mt hiff.mp hstands)]

/-- A statement that the walk does not enter is read by what it declares. -/
theorem same_statement_of_declaration? {field : String} (htag : m.tag = n.tag)
    (hcontainer : StandsAsStatement field n → n.kind.isContainer = false)
    (hdeclaration : StandsAsStatement field n → ∀ around,
      Site.declaration? ⟨around, m⟩ = Site.declaration? ⟨around, n⟩) :
    Same (.statement field) (.node n) (.node m) := by
  have hkind : m.kind = n.kind := by rw [Node.kind, Node.kind, htag]
  refine same_statement_of_seenAt htag fun hstands around => ?_
  rw [Node.sites_eq, Node.sites_eq, seenAt_cons, seenAt_cons, hdeclaration hstands,
    Node.searchedNodes, Node.searchedNodes, hkind, hcontainer hstands]
  rfl

/-- A statement that is not searched matters by its record. -/
theorem same_statement {field : String} (h : Like (.statement field) n m)
    (hr : ¬(StandsAsStatement field n ∧ n.kind.isContainer)) :
    Same (.statement field) (.node n) (.node m) := by
  refine same_statement_of_declaration? h.tag (fun hstands => ?_) fun hstands around => ?_
  · simpa [hstands] using hr
  · refine declaration?_eq h.tag (fun name => h.sameField ?_) around
    simp only [Reading.field, if_pos hstands]

end Like

/-- A reading that goes through all the fields of a node in their order. -/
def Reading.readsOrder (r : Reading) (n : Node) : Prop :=
  match r with
  | .digested | .namespaceName => True
  | .literal => n.kind.isSpelledOut = false
  | .statement field | .searched field => StandsAsStatement field n ∧ n.kind.isContainer
  | _ => False

/-- Two nodes in whose fields the same is read are read the same. -/
theorem Like.same {r : Reading} {n m : Node} (h : Like r n m) (hr : ¬r.readsOrder n) :
    r.Same (.node n) (.node m) := by
  cases r with
  | unread => trivial
  | digested | namespaceName => exact absurd trivial hr
  | plain => rfl
  | named => exact h.same_named
  | typed => exact h.same_typed
  | reference => exact h.same_reference
  | callee => exact h.same_callee
  | spelled => exact h.same_spelled
  | boundVariable => exact h.same_boundVariable
  | literal => exact h.same_literal (by simpa [Reading.readsOrder] using hr)
  | quoted => exact h.same_quoted
  | firstArgument => exact h.same_firstArgument
  | secondArgument => exact h.same_secondArgument
  | arguments => exact ⟨rfl, fun _ _ => rfl⟩
  | parameter => exact h.same_parameter
  | constant => exact h.same_constant
  | property => exact h.same_property
  | member => exact h.same_member
  | call => exact h.same_call
  | statement field => exact h.same_statement hr
  | searched field => exact same_statement ⟨h.tag, h.lines, h.field⟩ hr
  | items => exact .none

/-! ## Contexts -/

section Contexts

variable {r : Reading} {n m : Node} {name : String} {v w : Value}

theorem Node.Replaces.lines_eq (h : Node.Replaces name v w n m) : m.lines = n.lines := by
  cases h
  rfl

theorem Node.Replaces.eq_of_eq (h : Node.Replaces name v w n m) (hvw : w = v) : m = n := by
  cases h
  rw [hvw]

/-- A change in one field, in which the same is read, leaves all the fields read the same. -/
theorem Node.Replaces.like (h : Node.Replaces name v w n m)
    (hnull : r.field n name ≠ .unread → v.isNull = false ∧ w.isNull = false)
    (hsame : (r.field n name).Same v w) : Like r n m where
  tag := h.tag_eq
  lines := h.lines_eq
  field other := by
    intro hread
    by_cases hother : other = name
    · subst hother
      obtain ⟨hv, hw⟩ := hnull hread
      refine h.field_self.imp_right fun ⟨hn, hm⟩ => ⟨v, w, ?_, ?_, hsame⟩
      · simpa [Option.filter, hv] using hn
      · simpa [Option.filter, hw] using hm
    · exact .inl (h.field_of_ne hother)

/-- The scope inside a statement in one of whose fields the same is read. -/
theorem Node.Replaces.scopeWithin_eq (h : Node.Replaces name v w n m)
    (hsame : (Reading.statementField n name).Same v w) (around : List Node) :
    scopeWithin (m :: around) = scopeWithin (n :: around) := by
  by_cases hns : n.kind = .namespaceStmt
  · refine scopeWithin_cons_congr h.kind_eq ?_ rfl
    have hview (k : Node) : Scope.ofNamespace k =
        ((k.child "name").map Node.nameParts).elim .global fun parts =>
          .named ("\\".intercalate parts) := by
      unfold Scope.ofNamespace
      cases k.child "name" <;> rfl
    rw [hview, hview]
    by_cases hname : name = "name"
    · subst hname
      have hspelled : Same .spelled v w := by
        rw [Reading.statementField, hns] at hsame
        exact hsame.1
      have hchild (u : Value) : ((some u).filter (!·.isNull)).bind Value.asNode? = u.asNode? := by
        cases u <;> rfl
      rcases h.field_self with heq | ⟨hn, hm⟩
      · rw [Node.child, heq, ← Node.child]
      · rw [Node.child, Node.child, hn, hm, hchild, hchild, hspelled]
    · rw [Node.child, h.field_of_ne (Ne.symm hname), ← Node.child]
  · rw [Signature.scopeWithin_cons_of_ne hns, Signature.scopeWithin_cons_of_ne (h.kind_eq ▸ hns)]

/-- In a field of a statement that is searched, the same statements are found. -/
theorem same_searched_of_statementField (hcontainer : n.kind.isContainer)
    (hsame : (Reading.statementField n name).Same v w) : Same (.searched name) v w := by
  unfold Reading.statementField at hsame
  cases hk : n.kind with
  | namespaceStmt =>
    rw [hk] at hsame
    dsimp only at hsame
    split_ifs at hsame with hname
    · exact hname ▸ hsame.2
    · exact hsame
  | function | interface | classStmt | traitStmt | expression | call | method =>
    rw [hk] at hcontainer
    cases hcontainer
  | _ =>
    rw [hk] at hsame
    exact hsame

/-- A statement that the walk enters is read by the records of the statements inside. -/
theorem seenAt_sites_eq_of_isContainer {around : List Node} (hkind : m.kind = n.kind)
    (hcontainer : n.kind.isContainer)
    (hscope : scopeWithin (m :: around) = scopeWithin (n :: around))
    (h : seenAt id id ((searchedIn m.fields).flatMap (Node.sites (n :: around))) =
      seenAt id id ((searchedIn n.fields).flatMap (Node.sites (n :: around)))) :
    seenAt id id (m.sites around) = seenAt id id (n.sites around) := by
  have hmcontainer : m.kind.isContainer := by rwa [hkind]
  have haround (ns : List Node) : seenAt id id (ns.flatMap (Node.sites (m :: around))) =
      seenAt id id (ns.flatMap (Node.sites (n :: around))) := by
    rw [seenAt_flatMap, seenAt_flatMap]
    congr 1
    funext x
    exact seenAt_sites_congr x hscope
  rw [Node.sites_eq, Node.sites_eq, seenAt_cons, seenAt_cons,
    Signature.declaration?_of_isContainer hcontainer,
    Signature.declaration?_of_isContainer hmcontainer, haround, Node.searchedNodes,
    Node.searchedNodes, if_pos hcontainer, if_pos hmcontainer, h]

/-- A change in a field that is searched is a change of the records in it. -/
theorem Node.Replaces.seenAt_sites_eq (h : Node.Replaces name v w n m)
    (hcontainer : n.kind.isContainer) (hsame : (Reading.statementField n name).Same v w)
    (around : List Node) :
    seenAt id id (m.sites around) = seenAt id id (n.sites around) := by
  have hrecords : seenAt id id ((w.searchedNodes name).flatMap (Node.sites (n :: around))) =
      seenAt id id ((v.searchedNodes name).flatMap (Node.sites (n :: around))) :=
    same_searched_of_statementField hcontainer hsame (n :: around)
  refine seenAt_sites_eq_of_isContainer h.kind_eq hcontainer (h.scopeWithin_eq hsame around) ?_
  obtain ⟨tag, before, after, lines⟩ := h
  simp only [searchedIn, List.flatMap_append, List.flatMap_cons, seenAt_append, hrecords]

/-- A change in one field of a node, in which the same is read, is not seen in the node. Digests and
the walk look at all the fields in their order, so they are cases of their own. -/
theorem Reading.Same.of_replaces (h : Node.Replaces name v w n m)
    (hnull : r.field n name ≠ .unread → v.isNull = false ∧ w.isNull = false)
    (hsame : (r.field n name).Same v w) : r.Same (.node n) (.node m) := by
  by_cases hr : r.readsOrder n
  · cases r with
    | digested | namespaceName =>
      rw [h.eq_of_eq hsame]
      exact Same.refl _ _
    | literal =>
      have hdigested : Reading.literalField n name = .digested := by
        unfold Reading.literalField
        cases hk : n.kind <;> first | rfl | (rw [Reading.readsOrder, hk] at hr; cases hr)
      rw [Reading.field, hdigested] at hsame
      rw [h.eq_of_eq hsame]
      exact Same.refl _ _
    | statement field | searched field =>
      rw [Reading.field, if_pos hr.1] at hsame
      exact Like.same_statement_of_seenAt h.tag_eq fun _ => h.seenAt_sites_eq hr.2 hsame
    | _ => cases hr
  · exact (h.like hnull hsame).same hr

/-- The arguments among the elements of a list, around one of them. -/
theorem argumentNodes_list (before after : List Value) (u : Value) :
    (Value.list (before ++ u :: after)).argumentNodes =
      (Value.list before).argumentNodes ++
        ((u.asNode?.filter (·.kind = .arg)).toList ++ (Value.list after).argumentNodes) := by
  have hone : ([u].filterMap Value.asNode?).filter (·.kind = .arg) =
      (u.asNode?.filter (·.kind = .arg)).toList := by
    cases hu : u.asNode? with
    | none => simp [hu]
    | some a => by_cases ha : a.kind = .arg <;> simp [hu, ha, Option.filter]
  rw [← hone]
  simp [Value.argumentNodes, Value.asList?, ← List.filterMap_append, ← List.filter_append]

/-- Two elements that are arguments with the same view, or no arguments. -/
theorem argument_cases {α : Type} {view : Node → α}
    (h : SameNode (fun n => if n.kind = .arg then some (view n) else none) v w) :
    (v.asNode?.filter (·.kind = .arg) = none ∧ w.asNode?.filter (·.kind = .arg) = none) ∨
      ∃ a b, v.asNode?.filter (·.kind = .arg) = some a ∧
        w.asNode?.filter (·.kind = .arg) = some b ∧ view b = view a := by
  have hview (u : Value) : (u.asNode?.filter (·.kind = .arg)).map view =
      (u.asNode?.map fun n => if n.kind = .arg then some (view n) else none).bind id := by
    cases hu : u.asNode? with
    | none => rfl
    | some a => by_cases ha : a.kind = .arg <;> simp [ha, Option.filter]
  have hmap : (w.asNode?.filter (·.kind = .arg)).map view =
      (v.asNode?.filter (·.kind = .arg)).map view := by
    rw [hview, hview, h]
  cases hv : v.asNode?.filter (·.kind = .arg) with
  | none =>
    rw [hv, Option.map_none, Option.map_eq_none_iff] at hmap
    exact .inl ⟨rfl, hmap⟩
  | some a =>
    rw [hv, Option.map_some, Option.map_eq_some_iff] at hmap
    obtain ⟨b, hb, hab⟩ := hmap
    exact .inr ⟨a, b, rfl, hb, hab⟩

/-- A change of one element of a list of arguments: only the first two of them matter. -/
theorem same_arguments {introduces : Bool} {before after : List Value}
    (hsame : ((Reading.arguments introduces).item before).Same v w) :
    Same (.arguments introduces) (.list (before ++ v :: after)) (.list (before ++ w :: after)) := by
  have hcount : (before.filterMap Value.asNode?).countP (·.kind = .arg) =
      (Value.list before).argumentNodes.length :=
    List.countP_eq_length_filter
  rw [Reading.item, hcount] at hsame
  unfold Reading.Same
  rw [argumentNodes_list, argumentNodes_list]
  cases hbefore : (Value.list before).argumentNodes with
  | nil =>
    rw [hbefore] at hsame
    obtain ⟨hv, hw⟩ | ⟨a, b, hv, hw, hab⟩ := argument_cases hsame
    · rw [hv, hw]
      exact ⟨rfl, fun _ _ => rfl⟩
    · rw [hv, hw]
      exact ⟨hab, fun _ _ => rfl⟩
  | cons c rest =>
    refine ⟨rfl, fun hintroduces scope => ?_⟩
    cases rest with
    | cons d rest => rfl
    | nil =>
      rw [hbefore, hintroduces] at hsame
      obtain ⟨hv, hw⟩ | ⟨a, b, hv, hw, hab⟩ := argument_cases hsame
      · rw [hv, hw]
      · rw [hv, hw]
        exact congrFun hab scope

/-- A change of one element of a list, in which the same is read, is not seen in the list. -/
theorem Reading.Same.of_item {before after : List Value} (hsame : (r.item before).Same v w) :
    r.Same (.list (before ++ v :: after)) (.list (before ++ w :: after)) := by
  cases r with
  | unread => trivial
  | digested | namespaceName =>
    have heq : w = v := hsame
    rw [heq]
    exact Same.refl _ _
  | arguments introduces => exact same_arguments hsame
  | statement field => exact fun _ => rfl
  | searched field =>
    intro around
    have hstatement := hsame around
    have hnodes (u : Value) : (Value.list (before ++ u :: after)).nodes =
        (Value.list before).nodes ++ (u.asNode?.toList ++ (Value.list after).nodes) := by
      cases hu : u.asNode? <;> simp [Value.nodes, hu]
    simp only [recordsFrom, List.filter_append, List.flatMap_append, seenAt_append, hnodes]
      at hstatement ⊢
    rw [hstatement]
  | items r =>
    refine .some (List.rel_append ?_ (.cons hsame ?_))
    · exact List.forall₂_same.mpr fun x _ => Same.refl r x
    · exact List.forall₂_same.mpr fun x _ => Same.refl r x
  | _ => rfl

end Contexts

end SourceSig
