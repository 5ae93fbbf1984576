import SourceSig.Proofs.LikeNodes
import SourceSig.Proofs.NameParts

/-!
# Layouts of different parsers

Parsers differ in how they lay out what a signature is made of: an identifier is a node or a plain
string, a name has a list of parts or one text, modifiers are called `flags` or `type`, a parameter
has a variable or a name, and a call that is a statement is wrapped or bare.

`Respelled r v w` : one such choice is made the other way somewhere in a value that is read as `r`
says, outside what is digested. The name of a parameter's variable and of an entry of a member is
read in one layout only, so a name or a parameter in that place keeps its own.

`Signature.extract_eq_of_respelled` : statements that differ in any number of such choices have the
same signature, or the same fault.
-/

namespace SourceSig

open Reading (Same SameField)

/-! ## Fields under other titles -/

/-- Two nodes are the same but for one field, which is `v` under the title `old` in the one and `w`
under the title `new` in the other. No other field has one of the titles. -/
inductive Node.Retitles (old new : String) (v w : Value) : Node → Node → Prop
  | intro (tag : String) (before after : List (String × Value)) (lines : Lines)
      (hother : ∀ f ∈ before ++ after, f.1 ≠ old ∧ f.1 ≠ new) :
      Retitles old new v w ⟨tag, before ++ (old, v) :: after, lines⟩
        ⟨tag, before ++ (new, w) :: after, lines⟩

namespace Node.Retitles

variable {old new : String} {v w : Value} {n m : Node} {r : Reading}

theorem tag_eq (h : Retitles old new v w n m) : m.tag = n.tag := by
  cases h
  rfl

theorem kind_eq (h : Retitles old new v w n m) : m.kind = n.kind := by
  rw [kind, kind, h.tag_eq]

theorem lines_eq (h : Retitles old new v w n m) : m.lines = n.lines := by
  cases h
  rfl

theorem of_eq (h : Retitles old new v w n m) (construct : Construct) :
    Unsupported.of construct m = Unsupported.of construct n := by
  rw [Unsupported.of, Unsupported.of, line, line, h.tag_eq, h.lines_eq]

/-- Only the two fields of a new title are touched. -/
theorem field_of_ne (h : Retitles old new v w n m) {name : String} (hold : name ≠ old)
    (hnew : name ≠ new) : m.field name = n.field name := by
  cases h
  simp [field, hold.symm, hnew.symm]

/-- A field that only one node of a list of fields can have. -/
theorem field_append_cons {tag title name : String} {before after : List (String × Value)}
    {u : Value} {lines : Lines} (hother : ∀ f ∈ before ++ after, f.1 ≠ name) :
    (Node.mk tag (before ++ (title, u) :: after) lines).field name =
      if title = name then (some u).filter (!·.isNull) else none := by
  have hnone {fields : List (String × Value)} (h : ∀ f ∈ fields, f.1 ≠ name) :
      fields.find? (·.1 == name) = none := by
    simpa using h
  obtain ⟨hbefore, hafter⟩ := List.forall_mem_append.mp hother
  unfold field
  rw [List.find?_append, hnone hbefore, Option.none_or, List.find?_cons]
  split_ifs with htitle
  · simp [htitle]
  · have hne : (title == name) = false := by simpa using htitle
    simp [hne, hnone hafter]

/-- Before, the value stands under the old title. -/
theorem field_old (h : Retitles old new v w n m) (hv : v.isNull = false) :
    n.field old = some v := by
  obtain ⟨tag, before, after, lines, hother⟩ := h
  rw [field_append_cons fun f hf => (hother f hf).1, if_pos rfl]
  simp [hv]

/-- Afterwards, the value stands under the new title. -/
theorem field_new (h : Retitles old new v w n m) (hw : w.isNull = false) :
    m.field new = some w := by
  obtain ⟨tag, before, after, lines, hother⟩ := h
  rw [field_append_cons fun f hf => (hother f hf).2, if_pos rfl]
  simp [hw]

/-- Afterwards, nothing stands under the old title. -/
theorem field_old_eq_none (h : Retitles old new v w n m) (hne : old ≠ new) :
    m.field old = none := by
  obtain ⟨tag, before, after, lines, hother⟩ := h
  rw [field_append_cons fun f hf => (hother f hf).1, if_neg hne.symm]

/-- Where neither title is read, the nodes are read the same. -/
theorem like (h : Retitles old new v w n m) (hold : r.field n old = .unread)
    (hnew : r.field n new = .unread) : Like r n m where
  tag := h.tag_eq
  lines := h.lines_eq
  field name := by
    intro hread
    refine .inl (h.field_of_ne ?_ ?_)
    · rintro rfl
      exact hread hold
    · rintro rfl
      exact hread hnew

/-- Where no field is read, the nodes are read the same. -/
theorem same_of_unread (h : Retitles old new v w n m) (hfield : r.field n = Reading.only [])
    (horder : ¬r.readsOrder n) : r.Same (.node n) (.node m) := by
  have hunread (name : String) : r.field n name = .unread := by rw [hfield]; rfl
  exact (h.like (hunread old) (hunread new)).same horder

/-- A statement that is searched has the same statements inside, if there are none in the field. -/
theorem same_statement (h : Retitles old new v w n m) (hns : n.kind ≠ .namespaceStmt)
    (hv : v.searchedNodes old = []) (hw : w.searchedNodes new = []) {field : String}
    (hread : StandsAsStatement field n → n.kind.isContainer) :
    Same (.statement field) (.node n) (.node m) := by
  refine Like.same_statement_of_seenAt h.tag_eq fun hstands around => ?_
  refine seenAt_sites_eq_of_isContainer h.kind_eq (hread hstands) ?_ ?_
  · rw [Signature.scopeWithin_cons_of_ne hns, Signature.scopeWithin_cons_of_ne (h.kind_eq ▸ hns)]
  · obtain ⟨tag, before, after, lines, -⟩ := h
    simp [searchedIn, hv, hw]

end Node.Retitles

/-! ## The choices -/

/-- A name has its parts in a list, or in one text with backslashes between them. -/
inductive Node.JoinsParts : Node → Node → Prop
  | intro {n m : Node} {parts : List String} (hkind : n.kind.isName)
      (hparts : ∀ part ∈ parts, part ≠ "" ∧ '\\' ∉ part.toList)
      (h : Retitles "parts" "name" (.list (parts.map .str)) (.str ("\\".intercalate parts)) n m) :
      JoinsParts n m

/-- Whether the kind is that of a class, a method or a property. -/
def Kind.hasModifiers : Kind → Bool
  | .classStmt | .method | .property => true
  | _ => false

/-- The modifiers of a class, a method or a property are called `flags` or `type`. -/
inductive Node.RetitlesFlags : Node → Node → Prop
  | intro {n m : Node} {flags : Int64} (hkind : n.kind.hasModifiers)
      (h : Retitles "flags" "type" (.int flags) (.int flags) n m) : RetitlesFlags n m

/-- A parameter has a variable with a name, or the name itself. -/
inductive Node.DropsVariable : Node → Node → Prop
  | intro {n m var : Node} {name : String} (hkind : n.kind = .param)
      (hvar : var.kind = .variableExpr) (hname : var.text "name" = some name)
      (h : Retitles "var" "name" (.node var) (.str name) n m) : DropsVariable n m

/-- A statement that is a call is the call itself. -/
inductive Node.Unwraps : Node → Node → Prop
  | intro {n call : Node} (hkind : n.kind = .expression) (hexpr : n.child "expr" = some call)
      (hcall : call.kind = .call) : Unwraps n call

theorem Kind.eq_of_isName {k : Kind} (h : k.isName) :
    k = .name ∨ k = .fullyQualifiedName ∨ k = .relativeName := by
  revert h
  cases k <;> decide

theorem Kind.eq_of_hasModifiers {k : Kind} (h : k.hasModifiers) :
    k = .classStmt ∨ k = .method ∨ k = .property := by
  revert h
  cases k <;> decide

/-- The readings of a node by its parts or not at all. -/
def Reading.takesNames : Reading → Bool
  | .digested | .namespaceName | .literal | .boundVariable | .constant | .property => false
  | _ => true

/-- The readings of a node by its modifiers or not at all. -/
def Reading.takesModifiers : Reading → Bool
  | .digested | .namespaceName | .literal => false
  | _ => true

/-- The readings of a node as a parameter or not at all. -/
def Reading.takesParameters : Reading → Bool
  | .digested | .namespaceName | .literal | .boundVariable | .constant | .property
  | .spelled => false
  | _ => true

/-- The readings of an identifier, and of a field that is searched for statements only. -/
def Reading.takesIdentifiers : Reading → Bool
  | .named | .typed => true
  | .searched field => field ≠ "stmts"
  | _ => false

/-- Two tags are those of identifiers. -/
theorem tag_of_ofTag_identifier {tag : String} (h : Kind.ofTag tag = .identifier) :
    tag = "Identifier" ∨ tag = "VarLikeIdentifier" := by
  unfold Kind.ofTag at h
  split at h <;> first | contradiction | simp

theorem tag_of_ofTag_variableExpr {tag : String} (h : Kind.ofTag tag = .variableExpr) :
    tag = "Expr_Variable" := by
  unfold Kind.ofTag at h
  split at h <;> first | contradiction | rfl

namespace Node.JoinsParts

variable {n m : Node}

/-- A name has the same parts, as a list or joined by separators. -/
theorem nameParts_eq (h : n.JoinsParts m) : m.nameParts = n.nameParts := by
  obtain ⟨hkind, hparts, h⟩ := h
  rename_i parts
  have hlist : n.nameParts = parts := by
    rw [nameParts_of_parts (h.field_old rfl)]
    simp [Function.comp_def, Value.asText?]
  have htext : m.text "name" = some ("\\".intercalate parts) := by
    rw [text, h.field_new rfl]
    rfl
  have hnone : ∀ items, m.field "parts" ≠ some (.list items) := by
    rw [h.field_old_eq_none (by decide)]
    simp
  have hpieces : Text.pieces '\\' ("\\".intercalate parts).toList = parts.map String.toList := by
    rw [String.toList_intercalate]
    refine Text.pieces_intercalate fun p hp => ?_
    obtain ⟨part, hmem, rfl⟩ := List.mem_map.mp hp
    exact ⟨by simpa using (hparts part hmem).1, (hparts part hmem).2⟩
  rw [nameParts_of_text hnone htext, hlist, hpieces]
  simp [Function.comp_def]

theorem joinedName_eq (h : n.JoinsParts m) : m.joinedName = n.joinedName := by
  rw [joinedName, joinedName, h.nameParts_eq]

/-- A name is read by its parts or not at all. -/
theorem same (h : n.JoinsParts m) {r : Reading} (hr : r.takesNames) :
    r.Same (.node n) (.node m) := by
  have hjoined := h.joinedName_eq
  have hparts := h.nameParts_eq
  obtain ⟨hkind, -, hretitles⟩ := h
  have hkinds := Kind.eq_of_isName hkind
  have hne {k : Kind} (hk : k.isName = false) : n.kind ≠ k := by
    rintro rfl
    rw [hkind] at hk
    cases hk
  have hstatement (field : String) : Same (.statement field) (.node n) (.node m) := by
    refine hretitles.same_statement (hne rfl) ?_ rfl fun _ => ?_
    · simp [Value.searchedNodes, Value.nodes, Value.asNode?]
    · rcases hkinds with hk | hk | hk <;> rw [hk] <;> rfl
  cases r with
  | named =>
    change Value.identifier? (.node m) = Value.identifier? (.node n)
    have hid : n.kind ≠ .identifier := hne rfl
    simp only [Value.identifier?, hretitles.kind_eq, if_neg hid, hkind, hjoined]
  | typed =>
    change m.typeText = n.typeText
    rw [typeText_eq, typeText_eq, hretitles.kind_eq]
    rcases hkinds with hk | hk | hk <;> simp only [hk, hjoined]
  | reference =>
    refine congrArg some (funext fun scope => ?_)
    change scope.classReference m = scope.classReference n
    unfold Scope.classReference
    rw [hretitles.kind_eq]
    rcases hkinds with hk | hk | hk <;> simp only [hk, hjoined]
  | callee =>
    refine congrArg some ?_
    simp only [hretitles.kind_eq, hparts]
  | spelled => exact congrArg some hparts
  | statement field => exact hstatement field
  | searched field => exact hstatement field
  | unread | plain | arguments | items => exact hretitles.same_of_unread rfl id
  | quoted | firstArgument | secondArgument | parameter | call =>
    exact hretitles.same_of_unread (if_neg (hne rfl)) id
  | member =>
    refine hretitles.same_of_unread ?_ id
    rw [Reading.field, Reading.memberField]
    rcases hkinds with hk | hk | hk <;> rw [hk]
  | digested | namespaceName | literal | boundVariable | constant | property => cases hr

end Node.JoinsParts

namespace Node.RetitlesFlags

variable {n m : Node}

/-- Modifiers are read under both of their titles. -/
theorem modifiers_eq (h : n.RetitlesFlags m) : m.modifiers = n.modifiers := by
  obtain ⟨-, h⟩ := h
  rw [modifiers, modifiers, int, int, int, int, h.field_old rfl, h.field_new rfl,
    h.field_old_eq_none (by decide)]
  rfl

theorem same_member (h : n.RetitlesFlags m) : Same .member (.node n) (.node m) := by
  have hmodifiers := h.modifiers_eq
  obtain ⟨hkind, hretitles⟩ := h
  refine congrArg some (funext fun scope => ?_)
  change m.entries.map scope.member = n.entries.map scope.member
  unfold entries
  rw [hretitles.kind_eq, hmodifiers]
  rcases Kind.eq_of_hasModifiers hkind with hk | hk | hk
  · simp only [hk, List.map_cons, List.map_nil, Scope.member, hretitles.of_eq]
  · have hname : m.field "name" = n.field "name" := hretitles.field_of_ne (by decide) (by decide)
    have hparams : m.field "params" = n.field "params" :=
      hretitles.field_of_ne (by decide) (by decide)
    have hbody : m.field "stmts" = n.field "stmts" := hretitles.field_of_ne (by decide) (by decide)
    simp only [hk, List.map_cons, List.map_nil, Scope.member, memberName, identifier?, items,
      hretitles.of_eq, hname, hparams, hbody, hmodifiers]
  · have hprops : m.field "props" = n.field "props" := hretitles.field_of_ne (by decide) (by decide)
    simp only [hk, children, items, hprops]

theorem same_statement (h : n.RetitlesFlags m) (field : String) :
    Same (.statement field) (.node n) (.node m) := by
  have hmodifiers := h.modifiers_eq
  obtain ⟨hkind, hretitles⟩ := h
  rcases Kind.eq_of_hasModifiers hkind with hk | hk | hk
  · have hcontainer : n.kind.isContainer = false := by rw [hk]; rfl
    refine Like.same_statement_of_declaration? hretitles.tag_eq (fun _ => hcontainer)
      fun _ around => ?_
    have hfield {name : String} (hold : name ≠ "flags") (hnew : name ≠ "type") :
        m.field name = n.field name :=
      hretitles.field_of_ne hold hnew
    have hname : m.declaredName? = n.declaredName? := by
      rw [declaredName?, declaredName?, identifier?, identifier?, hfield (by decide) (by decide)]
    have hextends : m.child "extends" = n.child "extends" := by
      rw [child, child, hfield (by decide) (by decide)]
    have himplements : m.children "implements" = n.children "implements" := by
      rw [children, children, items, items, hfield (by decide) (by decide)]
    have hstmts : m.children "stmts" = n.children "stmts" := by
      rw [children, children, items, items, hfield (by decide) (by decide)]
    simp only [Site.declaration?, hretitles.kind_eq, hk, hname, hmodifiers, hextends, himplements,
      Scope.classLike, hstmts]
  · have hread : (Reading.statement field).field n = Reading.only [] := by
      simp only [Reading.field, Reading.statementField, hk, ite_self]
    refine hretitles.same_of_unread hread fun horder => ?_
    have hcontainer := horder.2
    rw [hk] at hcontainer
    cases hcontainer
  · exact hretitles.same_statement (by rw [hk]; decide) rfl rfl fun _ => by rw [hk]; rfl

/-- A class, a method or a property is read by its modifiers or not at all. -/
theorem same (h : n.RetitlesFlags m) {r : Reading} (hr : r.takesModifiers) :
    r.Same (.node n) (.node m) := by
  have hmember := h.same_member
  have hstatement := h.same_statement
  obtain ⟨hkind, hretitles⟩ := h
  have hkinds := Kind.eq_of_hasModifiers hkind
  have hne {k : Kind} (hk : k.hasModifiers = false) : n.kind ≠ k := by
    rintro rfl
    rw [hkind] at hk
    cases hk
  have hname : n.kind.isName = false := by
    rcases hkinds with hk | hk | hk <;> rw [hk] <;> rfl
  cases r with
  | member => exact hmember
  | statement field => exact hstatement field
  | searched field => exact hstatement field
  | unread | plain | arguments | items => exact hretitles.same_of_unread rfl id
  | spelled | boundVariable | constant | property => exact (hretitles.like rfl rfl).same id
  | named =>
    have hid : n.kind ≠ .identifier := hne rfl
    exact hretitles.same_of_unread (by simp [Reading.field, hid, hname]) id
  | reference =>
    have hvar : n.kind ≠ .variableExpr := hne rfl
    exact hretitles.same_of_unread (by simp [Reading.field, hvar, hname]) id
  | callee => exact hretitles.same_of_unread (by simp [Reading.field, hname]) id
  | typed =>
    refine hretitles.same_of_unread ?_ id
    rw [Reading.field, Reading.typeField]
    rcases hkinds with hk | hk | hk <;> rw [hk]
  | quoted | firstArgument | secondArgument | parameter | call =>
    exact hretitles.same_of_unread (if_neg (hne rfl)) id
  | digested | namespaceName | literal => cases hr

end Node.RetitlesFlags

namespace Node.DropsVariable

variable {n m : Node}

/-- A parameter has one name, with its variable around it or without. -/
theorem same_parameter (h : n.DropsVariable m) : Same .parameter (.node n) (.node m) := by
  obtain ⟨hkind, -, hname, h⟩ := h
  rename_i var name
  refine congrArg some (funext fun scope => ?_)
  change Parameter.ofNode scope m = Parameter.ofNode scope n
  have hn : Parameter.nameOf n = .ok name := by
    have hvar : n.child "var" = some var := by
      rw [child, h.field_old rfl]
      rfl
    simp only [Parameter.nameOf, hvar, hname]
  have hm : Parameter.nameOf m = .ok name := by
    have hvar : m.child "var" = none := by
      rw [child, h.field_old_eq_none (by decide)]
      rfl
    have htext : m.text "name" = some name := by
      rw [text, h.field_new rfl]
      rfl
    simp only [Parameter.nameOf, hvar, htext]
  have hfield {name : String} (hold : name ≠ "var") (hnew : name ≠ "name") :
      m.field name = n.field name :=
    h.field_of_ne hold hnew
  have htype : m.field "type" = n.field "type" := hfield (by decide) (by decide)
  have hdefault : m.field "default" = n.field "default" := hfield (by decide) (by decide)
  have hbyRef : m.field "byRef" = n.field "byRef" := hfield (by decide) (by decide)
  have hvariadic : m.field "variadic" = n.field "variadic" := hfield (by decide) (by decide)
  simp only [Parameter.ofNode, h.kind_eq, hkind, if_true, hn, hm, htype, child, hdefault, flag,
    hbyRef, hvariadic]

/-- A parameter is read as one or not at all. -/
theorem same (h : n.DropsVariable m) {r : Reading} (hr : r.takesParameters) :
    r.Same (.node n) (.node m) := by
  have hparameter := h.same_parameter
  obtain ⟨hkind, hvar, -, h⟩ := h
  rename_i var name
  have hstands : ¬StandsAsStatement "var" var := by
    rw [StandsAsStatement, tag_of_ofTag_variableExpr hvar]
    decide
  have hstatement (field : String) : Same (.statement field) (.node n) (.node m) := by
    refine h.same_statement (by rw [hkind]; decide) ?_ rfl fun _ => by rw [hkind]; rfl
    simp [Value.searchedNodes, Value.nodes, Value.asNode?, hstands]
  cases r with
  | parameter => exact hparameter
  | statement field => exact hstatement field
  | searched field => exact hstatement field
  | unread | plain | arguments | items => exact h.same_of_unread rfl id
  | typed =>
    have hread : Reading.typed.field n = Reading.only [("type", .typed)] := by
      rw [Reading.field, Reading.typeField, hkind]
    exact (h.like (by rw [hread]; rfl) (by rw [hread]; rfl)).same id
  | named | reference | callee | quoted | firstArgument | secondArgument | call =>
    exact h.same_of_unread (by simp [Reading.field, hkind, Kind.isName]) id
  | member => exact h.same_of_unread (by rw [Reading.field, Reading.memberField, hkind]) id
  | digested | namespaceName | literal | boundVariable | constant | property | spelled => cases hr

end Node.DropsVariable

namespace Node.Unwraps

/-- A call stands for the same as the expression statement around it. -/
theorem same {n call : Node} (h : n.Unwraps call) :
    Same (.statement "stmts") (.node n) (.node call) := by
  obtain ⟨hkind, hexpr, hcall⟩ := h
  intro around
  change recordsFrom "stmts" around [call] = recordsFrom "stmts" around [n]
  have hdeclaration : Site.declaration? ⟨around, call⟩ = Site.declaration? ⟨around, n⟩ := by
    simp [Site.declaration?, hkind, hexpr, hcall, Option.filter]
  rw [recordsFrom_singleton, recordsFrom_singleton, if_pos (.inl rfl), if_pos (.inl rfl),
    sites_eq, sites_eq, seenAt_cons, seenAt_cons, hdeclaration, searchedNodes, searchedNodes, hkind,
    hcall]
  rfl

end Node.Unwraps

/-- An identifier is read by its text, and nothing inside it is searched. -/
theorem same_identifier {n : Node} {s : String} (hkind : n.kind = .identifier)
    (hname : n.text "name" = some s) {r : Reading} (hr : r.takesIdentifiers) :
    r.Same (.node n) (.str s) := by
  cases r with
  | named =>
    change some s = Value.identifier? (.node n)
    rw [Value.identifier?, if_pos hkind, hname]
  | typed =>
    change Value.typeText (.str s) = n.typeText
    rw [Node.typeText_eq, hkind]
    simp only [hname, Option.getD_some]
    rfl
  | searched field =>
    have hstands : ¬StandsAsStatement field n := by
      have hfield : field ≠ "stmts" := by simpa [Reading.takesIdentifiers] using hr
      rw [StandsAsStatement, not_or]
      refine ⟨hfield, ?_⟩
      rcases tag_of_ofTag_identifier hkind with htag | htag <;> rw [htag] <;> decide
    intro around
    change recordsFrom field around [] = recordsFrom field around [n]
    rw [recordsFrom_singleton, if_neg hstands]
    rfl
  | _ => cases hr

/-! ## Choices made the other way -/

/-- One choice is made the other way in a value that is read in some way, outside what is digested.
What is not read may be anything. -/
inductive Respelled : Reading → Value → Value → Prop
  | unread (v w : Value) : Respelled .unread v w
  | keyed {r : Reading} (hr : r ≠ .digested) (xs ys : List (String × Value)) :
      Respelled r (.map xs) (.map ys)
  | identifier {r : Reading} {n : Node} {s : String} (hr : r.takesIdentifiers)
      (hkind : n.kind = .identifier) (hname : n.text "name" = some s) :
      Respelled r (.node n) (.str s)
  | name {r : Reading} {n m : Node} (hr : r.takesNames) (h : n.JoinsParts m) :
      Respelled r (.node n) (.node m)
  | modifiers {r : Reading} {n m : Node} (hr : r.takesModifiers) (h : n.RetitlesFlags m) :
      Respelled r (.node n) (.node m)
  | parameter {r : Reading} {n m : Node} (hr : r.takesParameters) (h : n.DropsVariable m) :
      Respelled r (.node n) (.node m)
  | call {n call : Node} (h : n.Unwraps call) :
      Respelled (.statement "stmts") (.node n) (.node call)
  | field {r : Reading} {n m : Node} {name : String} {v w : Value}
      (h : Respelled (r.field n name) v w) (hreplaces : Node.Replaces name v w n m) :
      Respelled r (.node n) (.node m)
  | item {r : Reading} {v w : Value} (before after : List Value)
      (h : Respelled (r.item before) v w) :
      Respelled r (.list (before ++ v :: after)) (.list (before ++ w :: after))
  | namespaceName {v w : Value} (hspelled : Respelled .spelled v w)
      (hsearched : Respelled (.searched "name") v w) : Respelled .namespaceName v w

namespace Respelled

variable {r : Reading} {v w : Value}

/-- Where something is read, a respelling changes no null. -/
theorem isNull_eq_false (h : Respelled r v w) (hr : r ≠ .unread) :
    v.isNull = false ∧ w.isNull = false := by
  induction h with
  | unread => exact absurd rfl hr
  | namespaceName _ _ ih => exact ih nofun
  | _ => exact ⟨rfl, rfl⟩

/-- The same is read in a value with one choice made the other way. The induction is on the way down
to the place of the choice. -/
theorem same (h : Respelled r v w) : r.Same v w := by
  induction h with
  | unread => trivial
  | @keyed r hr xs ys =>
    cases r with
    | digested => exact absurd rfl hr
    | unread => trivial
    | arguments => exact ⟨rfl, fun _ _ => rfl⟩
    | statement | searched => exact fun _ => rfl
    | namespaceName => exact ⟨rfl, fun _ => rfl⟩
    | items => exact .none
    | _ => rfl
  | identifier hr hkind hname => exact same_identifier hkind hname hr
  | name hr h => exact h.same hr
  | modifiers hr h => exact h.same hr
  | parameter hr h => exact h.same hr
  | call h => exact h.same
  | field h hreplaces ih => exact .of_replaces hreplaces h.isNull_eq_false ih
  | item before after _ ih => exact ih.of_item
  | namespaceName _ _ ihspelled ihsearched => exact ⟨ihspelled, ihsearched⟩

end Respelled

/-- One choice is made the other way in a list of statements. -/
def StatementsRespelled (ns ms : List Node) : Prop :=
  Respelled (.searched "stmts") (.list (ns.map .node)) (.list (ms.map .node))

namespace Signature

/-- Statements that are spelled otherwise have the same records, or the same first fault. -/
theorem declarationsAt_eq_of_respelled {ns ms : List Node} (h : StatementsRespelled ns ms) :
    declarationsAt (ms.flatMap (Node.sites [])) = declarationsAt (ns.flatMap (Node.sites [])) := by
  have hrecords (ks : List Node) : recordsFrom "stmts" [] (Value.list (ks.map .node)).nodes =
      (ks.flatMap (Node.sites [])).filterMap Site.declaration? := by
    have hnodes : (Value.list (ks.map .node)).nodes = ks := by
      simp [Value.nodes, Function.comp_def, Value.asNode?]
    have hstands : ks.filter (fun n => StandsAsStatement "stmts" n) = ks := by
      simp [StandsAsStatement]
    have hseen : (seen id id : Except Unsupported Declaration → _) = id := by
      funext d
      cases d <;> rfl
    rw [hnodes, recordsFrom, hstands, seenAt, hseen, List.map_id]
  rw [declarationsAt, declarationsAt, ← hrecords ms, ← hrecords ns, h.same []]

/-- Statements that differ in any number of choices of layout have the same signature, or the same
fault. -/
theorem extract_eq_of_respelled {ns ms : List Node}
    (h : Relation.ReflTransGen StatementsRespelled ns ms) : extract ms = extract ns := by
  induction h with
  | refl => rfl
  | tail _ hstep ih =>
    rw [← ih, extract_eq_addSites, extract_eq_addSites, addSites, addSites,
      declarationsAt_eq_of_respelled hstep]

/-- A class, a function and a call of `define` in a block, with five choices made the other way. -/
theorem extract_eq_of_respelled_in_block :
    let classOf (modifiers : String × Value) : Value :=
      .node ⟨"Stmt_Class", [modifiers, ("name", .str "A")], {}⟩
    let functionOf (name : Value) (param : List (String × Value)) : Value :=
      .node ⟨"Stmt_Function", [("name", name), ("params", .list [.node ⟨"Param", param, {}⟩])], {}⟩
    let nameOf (spelling : String × Value) : Node := ⟨"Name", [spelling], {}⟩
    let identifier : Value := .node ⟨"Identifier", [("name", .str "f")], {}⟩
    let var : Value := .node ⟨"Expr_Variable", [("name", .str "x")], {}⟩
    let parts := nameOf ("parts", .list [.str "B", .str "C"])
    let joined := nameOf ("name", .str "B\\C")
    let call : Node := ⟨"Expr_FuncCall", [("name", .node (nameOf ("name", .str "define")))], {}⟩
    let file (body : List Value) : List Node := [⟨"Stmt_If", [("stmts", .list body)], {}⟩]
    let older := file [classOf ("flags", .int 16),
      functionOf identifier [("var", var), ("type", .node parts)],
      .node ⟨"Stmt_Expression", [("expr", .node call)], {}⟩]
    let newer := file [classOf ("type", .int 16),
      functionOf (.str "f") [("name", .str "x"), ("type", .node joined)], .node call]
    Relation.ReflTransGen StatementsRespelled older newer ∧
      extract newer = extract older ∧ (extract older).isOk := by
  intro classOf functionOf nameOf identifier var parts joined call file older newer
  have hstep {xs ys : List Value} (h : Respelled (.searched "stmts") (.list xs) (.list ys)) :
      StatementsRespelled (file xs) (file ys) :=
    .item [] [] (.field h (.intro _ [] [] _))
  have hflags : Respelled (.statement "stmts") (classOf ("flags", .int 16))
      (classOf ("type", .int 16)) :=
    .modifiers rfl (.intro rfl (.intro _ [] [_] _ (by decide)))
  have hname (param : List (String × Value)) : Respelled (.statement "stmts")
      (functionOf identifier param) (functionOf (.str "f") param) :=
    .field (.identifier rfl rfl rfl) (.intro _ [] [_] _)
  have hparts : ∀ part ∈ ["B", "C"], part ≠ "" ∧ '\\' ∉ part.toList := by decide
  have hjoins : parts.JoinsParts joined := .intro rfl hparts (.intro _ [] [] _ nofun)
  have hvar : Respelled (.statement "stmts")
      (functionOf (.str "f") [("var", var), ("type", .node parts)])
      (functionOf (.str "f") [("name", .str "x"), ("type", .node parts)]) := by
    refine .field (.item [] [] (.parameter rfl ?_)) (.intro _ [_] [] _)
    exact .intro rfl rfl rfl (.intro _ [] [_] _ (by decide))
  have htype : Respelled (.statement "stmts")
      (functionOf (.str "f") [("name", .str "x"), ("type", .node parts)])
      (functionOf (.str "f") [("name", .str "x"), ("type", .node joined)]) :=
    .field (.item [] [] (.field (.name rfl hjoins) (.intro _ [_] [] _))) (.intro _ [_] [] _)
  have hcall : Respelled (.statement "stmts")
      (.node ⟨"Stmt_Expression", [("expr", .node call)], {}⟩) (.node call) :=
    .call (.intro rfl rfl rfl)
  have hchain : Relation.ReflTransGen StatementsRespelled older newer :=
    ((((Relation.ReflTransGen.single (hstep (.item [] [_, _] hflags))).tail
      (hstep (.item [_] [_] (hname _)))).tail (hstep (.item [_] [_] hvar))).tail
        (hstep (.item [_] [_] htype))).tail (hstep (.item [_, _] [] hcall))
  exact ⟨hchain, extract_eq_of_respelled hchain, rfl⟩

/-- A name in the place of a parameter's variable is read in one layout only. -/
theorem not_forall_isOk_eq_of_joinsParts :
    let file (var : Node) : List Node := [⟨"Stmt_Function", [("name", .str "f"),
      ("params", .list [.node ⟨"Param", [("var", .node var)], {}⟩])], {}⟩]
    ¬∀ n m : Node, n.JoinsParts m → (extract (file m)).isOk = (extract (file n)).isOk := by
  intro file h
  have hparts : ∀ part ∈ ["x"], part ≠ "" ∧ '\\' ∉ part.toList := by decide
  have hjoins : Node.JoinsParts ⟨"Name", [("parts", .list [.str "x"])], {}⟩
      ⟨"Name", [("name", .str "x")], {}⟩ :=
    .intro rfl hparts (.intro _ [] [] _ nofun)
  have hok : true = false := h _ _ hjoins
  cases hok

end Signature

end SourceSig
