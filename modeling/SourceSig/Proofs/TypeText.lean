import SourceSig.Parameter
import SourceSig.Proofs.Outcomes
import SourceSig.Proofs.UniqueReading

/-!
# The texts of declared types

The type of a parameter is shown without parentheses: `?` before a nullable type, `&` between the
types of an intersection and `|` between the members of a union. A declared type is a simple type
(`Value.NamesType`), a nullable one, an intersection, or a union of simple types and intersections;
`DeclaredType` is its shape with the texts of its simple types in order.

* `Value.Declares.typeText_eq` : every declared type has a text, which shows all of its members.
* `DeclaredType.eq_of_text_eq` : the text is that of no other shape. It is cut at `|` into the
  members and each of these at `&` into the simple types.

`Value.exists_typeText_eq_iff` puts the two together for two types.
-/

namespace SourceSig

/-! ## Declared types -/

/-- The characters that put types together. -/
def isTypeMark (c : Char) : Bool :=
  c == '|' || c == '&' || c == '?'

/-- A text without marks, and not empty. -/
def IsTypeName (s : String) : Prop :=
  s ≠ "" ∧ ∀ c ∈ s.toList, isTypeMark c = false

instance (s : String) : Decidable (IsTypeName s) :=
  decidable_of_iff (s ≠ "" ∧ s.toList.all (!isTypeMark ·)) (by simp [IsTypeName])

/-- A simple type: a plain text, an identifier or a name, with its text. -/
inductive Value.NamesType : Value → String → Prop
  | text {s : String} : IsTypeName s → NamesType (.str s) s
  | identifier {n : Node} {s : String} : n.kind = .identifier → n.text "name" = some s →
      IsTypeName s → NamesType (.node n) s
  | name {n : Node} : n.kind = .name → n.nameParts ≠ [] → (∀ part ∈ n.nameParts, IsTypeName part) →
      NamesType (.node n) n.joinedName
  | fullyQualified {n : Node} : n.kind = .fullyQualifiedName → n.nameParts ≠ [] →
      (∀ part ∈ n.nameParts, IsTypeName part) → NamesType (.node n) ("\\" ++ n.joinedName)
  | relative {n : Node} : n.kind = .relativeName → n.nameParts ≠ [] →
      (∀ part ∈ n.nameParts, IsTypeName part) → NamesType (.node n) ("namespace\\" ++ n.joinedName)

/-- A member of a union: a simple type, or an intersection of simple types. -/
inductive TypeMember where
  | simple (name : String)
  | intersection (names : List String)
deriving DecidableEq

/-- The shape of a type, with the texts of its simple types. -/
inductive DeclaredType where
  | member (m : TypeMember)
  | nullable (name : String)
  | union (members : List TypeMember)
deriving DecidableEq

/-- A simple type, or an intersection of at least two of them. -/
inductive Value.DeclaresMember : Value → TypeMember → Prop
  | simple {v : Value} {name : String} : v.NamesType name → DeclaresMember v (.simple name)
  | intersection {n : Node} {names : List String} : n.kind = .intersectionType →
      List.Forall₂ Value.NamesType (n.items "types") names → 2 ≤ names.length →
        DeclaresMember (.node n) (.intersection names)

/-- A type as it can be declared: a simple type, a nullable one, an intersection, or a union of at
least two members. -/
inductive Value.Declares : Value → DeclaredType → Prop
  | member {v : Value} {m : TypeMember} : v.DeclaresMember m → Declares v (.member m)
  | nullable {n : Node} {v : Value} {name : String} : n.kind = .nullableType →
      n.field "type" = some v → v.NamesType name → Declares (.node n) (.nullable name)
  | union {n : Node} {members : List TypeMember} : n.kind = .unionType →
      List.Forall₂ Value.DeclaresMember (n.items "types") members → 2 ≤ members.length →
        Declares (.node n) (.union members)

/-! ## Texts -/

/-- The text of a member of a union. -/
def TypeMember.text : TypeMember → String
  | .simple name => name
  | .intersection names => "&".intercalate names

/-- The text of a type. -/
def DeclaredType.text : DeclaredType → String
  | .member m => m.text
  | .nullable name => "?" ++ name
  | .union members => "|".intercalate (members.map TypeMember.text)

/-- The simple types of a member. -/
def TypeMember.names : TypeMember → List String
  | .simple name => [name]
  | .intersection names => names

/-- The members of a type that is not nullable. -/
def DeclaredType.members : DeclaredType → List TypeMember
  | .member m => [m]
  | .nullable _ => []
  | .union members => members

/-- A member of a union whose names are names of types. An intersection has at least two. -/
def TypeMember.WellFormed : TypeMember → Prop
  | .simple name => IsTypeName name
  | .intersection names => 2 ≤ names.length ∧ ∀ name ∈ names, IsTypeName name

/-- A type whose names are names of types. A union has at least two members. -/
def DeclaredType.WellFormed : DeclaredType → Prop
  | .member m => m.WellFormed
  | .nullable name => IsTypeName name
  | .union members => 2 ≤ members.length ∧ ∀ m ∈ members, m.WellFormed

/-- Parts with backslashes between them have no marks if no part has any. -/
theorem isTypeName_joinedName {n : Node} (hne : n.nameParts ≠ [])
    (hparts : ∀ part ∈ n.nameParts, IsTypeName part) : IsTypeName n.joinedName := by
  obtain ⟨part, parts, hcons⟩ := List.exists_cons_of_ne_nil hne
  refine ⟨?_, fun c hc => ?_⟩
  · rw [Node.joinedName, hcons]
    exact Text.intercalate_cons_ne (hparts part (by simp [hcons])).1 _ _
  · rw [Node.joinedName, String.toList_intercalate] at hc
    rcases Text.mem_intercalate hc with hc | ⟨cs, hcs, hc⟩
    · rw [show c = '\\' by simpa using hc]
      decide
    · obtain ⟨part, hpart, rfl⟩ := List.mem_map.mp hcs
      exact (hparts part hpart).2 c hc

theorem IsTypeName.append {s t : String} (hs : IsTypeName s) (ht : IsTypeName t) :
    IsTypeName (s ++ t) := by
  refine ⟨by simp [hs.1], fun c hc => ?_⟩
  rw [String.toList_append, List.mem_append] at hc
  exact hc.elim (hs.2 c) (ht.2 c)

namespace Value

variable {v : Value} {name : String} {m : TypeMember} {d : DeclaredType}

/-- A name of a type is not empty and has no mark of types in it. -/
theorem NamesType.isTypeName (h : v.NamesType name) : IsTypeName name := by
  cases h with
  | text h => exact h
  | identifier _ _ h => exact h
  | name _ hne hparts => exact isTypeName_joinedName hne hparts
  | fullyQualified _ hne hparts =>
    exact .append ⟨by decide, by simp [isTypeMark]⟩ (isTypeName_joinedName hne hparts)
  | relative _ hne hparts =>
    exact .append ⟨by decide, by simp [isTypeMark]⟩ (isTypeName_joinedName hne hparts)

/-- A simple type has its text. -/
theorem NamesType.typeText_eq (h : v.NamesType name) : v.typeText = .ok (some name) := by
  have hname := nonEmpty_of_ne h.isTypeName.1
  cases h with
  | text => rw [typeText, hname]
  | identifier hkind htext => rw [typeText, Node.typeText_eq, hkind, htext, Option.getD_some, hname]
  | name hkind => rw [typeText, Node.typeText_eq, hkind, hname]
  | fullyQualified hkind => rw [typeText, Node.typeText_eq, hkind, hname]
  | relative hkind => rw [typeText, Node.typeText_eq, hkind, hname]

/-- Types that all have a text lose none in a list. -/
theorem typeTextsOf_of_forall₂ {vs : List Value} {texts : List String}
    (h : List.Forall₂ (fun v text => v.typeText = .ok (some text)) vs texts) :
    typeTextsOf vs = .ok texts := by
  induction h with
  | nil => rfl
  | cons hv _ ih =>
    rw [typeTextsOf, hv, ih]
    rfl

theorem DeclaresMember.wellFormed (h : v.DeclaresMember m) : m.WellFormed := by
  cases h with
  | simple hname => exact hname.isTypeName
  | intersection _ hnames hlength =>
    refine ⟨hlength, fun name hname => ?_⟩
    obtain ⟨v, -, hv⟩ := exists_mem_of_forall₂ hnames name hname
    exact hv.isTypeName

/-- What a value declares is a well-formed type. -/
theorem Declares.wellFormed (h : v.Declares d) : d.WellFormed := by
  cases h with
  | member hmember => exact hmember.wellFormed
  | nullable _ _ hname => exact hname.isTypeName
  | union _ hmembers hlength =>
    refine ⟨hlength, fun m hm => ?_⟩
    obtain ⟨v, -, hv⟩ := exists_mem_of_forall₂ hmembers m hm
    exact hv.wellFormed

end Value

theorem TypeMember.WellFormed.text_ne {m : TypeMember} (h : m.WellFormed) : m.text ≠ "" := by
  cases m with
  | simple name => exact h.1
  | intersection names =>
    obtain ⟨name, rest, rfl⟩ := List.exists_cons_of_length_pos (Nat.zero_lt_of_lt h.1)
    exact Text.intercalate_cons_ne (h.2 name List.mem_cons_self).1 _ _

namespace Value

variable {v : Value} {m : TypeMember} {d : DeclaredType}

/-- A member has its text, with all of its simple types. -/
theorem DeclaresMember.typeText_eq (h : v.DeclaresMember m) : v.typeText = .ok (some m.text) := by
  have hne := h.wellFormed.text_ne
  cases h with
  | simple hname => exact hname.typeText_eq
  | intersection hkind hnames =>
    have htexts := typeTextsOf_of_forall₂ (hnames.imp fun _ _ => NamesType.typeText_eq)
    rw [typeText, Node.typeText_eq, hkind, Node.typesField_eq, htexts]
    exact congrArg Except.ok (nonEmpty_of_ne hne)

/-- A declared type has its text, with all of its members. -/
theorem Declares.typeText_eq (h : v.Declares d) : v.typeText = .ok (some d.text) := by
  have hwell := h.wellFormed
  cases h with
  | member hmember => exact hmember.typeText_eq
  | nullable hkind hfield hname =>
    rw [typeText, Node.typeText_eq, hkind, Node.typeField_eq, hfield, typeText?, hname.typeText_eq]
    rfl
  | @union n members hkind hmembers hlength =>
    have htexts : typeTextsOf (n.items "types") = .ok (members.map TypeMember.text) := by
      refine typeTextsOf_of_forall₂ (List.forall₂_map_right_iff.mpr ?_)
      exact hmembers.imp fun _ _ => DeclaresMember.typeText_eq
    have hne : "|".intercalate (members.map TypeMember.text) ≠ "" := by
      obtain ⟨m, rest, rfl⟩ := List.exists_cons_of_length_pos (Nat.zero_lt_of_lt hlength)
      exact Text.intercalate_cons_ne (hwell.2 m List.mem_cons_self).text_ne _ _
    rw [typeText, Node.typeText_eq, hkind, Node.typesField_eq, htexts]
    exact congrArg Except.ok (nonEmpty_of_ne hne)

end Value

/-! ## Reading back -/

/-- Names of types have none of the marks that types are joined by. -/
theorem IsTypeName.not_mem {s : String} (h : IsTypeName s) {c : Char} (hc : isTypeMark c) :
    c ∉ s.toList := by
  intro hmem
  simp [h.2 c hmem] at hc

namespace TypeMember

variable {m n : TypeMember}

theorem WellFormed.names_ne_nil (h : m.WellFormed) : m.names ≠ [] := by
  cases m with
  | simple name => simp [names]
  | intersection names => exact List.ne_nil_of_length_pos (Nat.zero_lt_of_lt h.1)

theorem WellFormed.isTypeName (h : m.WellFormed) : ∀ name ∈ m.names, IsTypeName name := by
  cases m with
  | simple name => exact List.forall_mem_singleton.mpr h
  | intersection names => exact h.2

/-- A member is its names, joined. -/
theorem toList_text (m : TypeMember) :
    m.text.toList = ['&'].intercalate (m.names.map String.toList) := by
  cases m with
  | simple name => simp [text, names]
  | intersection names => exact String.toList_intercalate

/-- A mark in the text of a member can only be the one of intersections. -/
theorem WellFormed.not_mem_text (h : m.WellFormed) {c : Char} (hc : isTypeMark c) (hne : c ≠ '&') :
    c ∉ m.text.toList := by
  rw [toList_text]
  intro hmem
  rcases Text.mem_intercalate hmem with hmem | ⟨cs, hcs, hmem⟩
  · exact hne (by simpa using hmem)
  · obtain ⟨name, hname, rfl⟩ := List.mem_map.mp hcs
    exact (h.isTypeName name hname).not_mem hc hmem

/-- A member is cut into its simple types. -/
theorem WellFormed.splitOn_text (h : m.WellFormed) :
    m.text.toList.splitOn '&' = m.names.map String.toList := by
  rw [toList_text]
  refine List.splitOn_intercalate '&' (fun cs hcs => ?_) (by simpa using h.names_ne_nil)
  obtain ⟨name, hname, rfl⟩ := List.mem_map.mp hcs
  exact (h.isTypeName name hname).not_mem rfl

/-- A member is known by its names: a single one is no intersection. -/
theorem eq_of_names_eq (hm : m.WellFormed) (hn : n.WellFormed) (h : m.names = n.names) : m = n := by
  cases m with
  | simple s =>
    cases n with
    | simple t => simpa [names] using h
    | intersection ts =>
      have hlength : 2 ≤ ts.length := hn.1
      rw [← show [s] = ts from h] at hlength
      simp at hlength
  | intersection ss =>
    cases n with
    | simple t =>
      have hlength : 2 ≤ ss.length := hm.1
      rw [show ss = [t] from h] at hlength
      simp at hlength
    | intersection ts => exact congrArg intersection h

/-- A member is read back from its text, by splitting it at the joining marks. -/
theorem eq_of_text_eq (hm : m.WellFormed) (hn : n.WellFormed) (h : m.text = n.text) : m = n := by
  have hnames : m.names.map String.toList = n.names.map String.toList := by
    rw [← hm.splitOn_text, ← hn.splitOn_text, h]
  have hinj := List.map_injective_iff.mpr fun _ _ => String.toList_injective
  exact eq_of_names_eq hm hn (hinj hnames)

end TypeMember

namespace DeclaredType

variable {d e : DeclaredType}

theorem WellFormed.members (h : d.WellFormed) : ∀ m ∈ d.members, m.WellFormed := by
  cases d with
  | member m => exact List.forall_mem_singleton.mpr h
  | nullable name => simp [DeclaredType.members]
  | union ms => exact h.2

theorem toList_text (hd : d.members ≠ []) :
    d.text.toList = ['|'].intercalate (d.members.map fun m => m.text.toList) := by
  cases d with
  | member m => simp [text, members]
  | nullable name => exact absurd rfl hd
  | union ms =>
    rw [text, String.toList_intercalate, List.map_map]
    rfl

/-- Only a nullable type has its mark. -/
theorem WellFormed.not_mem_text (h : d.WellFormed) (hd : d.members ≠ []) : '?' ∉ d.text.toList := by
  rw [toList_text hd]
  intro hmem
  rcases Text.mem_intercalate hmem with hmem | ⟨cs, hcs, hmem⟩
  · simp at hmem
  · obtain ⟨m, hm, rfl⟩ := List.mem_map.mp hcs
    exact (h.members m hm).not_mem_text rfl (by decide) hmem

/-- A type that is not nullable is cut into its members. -/
theorem WellFormed.splitOn_text (h : d.WellFormed) (hd : d.members ≠ []) :
    d.text.toList.splitOn '|' = d.members.map fun m => m.text.toList := by
  rw [toList_text hd]
  refine List.splitOn_intercalate '|' (fun cs hcs => ?_) (by simpa using hd)
  obtain ⟨m, hm, rfl⟩ := List.mem_map.mp hcs
  exact (h.members m hm).not_mem_text rfl (by decide)

/-- The members of a union are read back from its text. -/
theorem members_eq_of_text_eq (hd : d.WellFormed) (he : e.WellFormed) (hdm : d.members ≠ [])
    (hem : e.members ≠ []) (h : d.text = e.text) : d.members = e.members := by
  have htexts : (d.members.map fun m => m.text.toList) = e.members.map fun m => m.text.toList := by
    rw [← hd.splitOn_text hdm, ← he.splitOn_text hem, h]
  refine eq_of_map_eq (fun m hm n hn hmn => ?_) htexts
  exact TypeMember.eq_of_text_eq (hd.members m hm) (he.members n hn) (String.toList_injective hmn)

/-- A single member is no union, which has two. -/
theorem eq_of_members_eq (hd : d.WellFormed) (he : e.WellFormed) (hdm : d.members ≠ [])
    (h : d.members = e.members) : d = e := by
  cases d with
  | nullable s => exact absurd rfl hdm
  | member m =>
    cases e with
    | nullable t => exact absurd h hdm
    | member n => simpa [members] using h
    | union ns =>
      have hlength : 2 ≤ ns.length := he.1
      rw [← show [m] = ns from h] at hlength
      simp at hlength
  | union ms =>
    cases e with
    | nullable t => exact absurd h hdm
    | member n =>
      have hlength : 2 ≤ ms.length := hd.1
      rw [show ms = [n] from h] at hlength
      simp at hlength
    | union ns => exact congrArg union h

theorem WellFormed.members_ne_nil (h : d.WellFormed) (hd : ¬∃ name, d = nullable name) :
    d.members ≠ [] := by
  cases d with
  | member m => simp [DeclaredType.members]
  | nullable name => exact absurd ⟨name, rfl⟩ hd
  | union ms => exact List.ne_nil_of_length_pos (Nat.zero_lt_of_lt h.1)

/-- The text of a type is that of no other. -/
theorem eq_of_text_eq (hd : d.WellFormed) (he : e.WellFormed) (h : d.text = e.text) : d = e := by
  have hmark (s : String) : '?' ∈ (nullable s).text.toList := by simp [text]
  by_cases hdn : ∃ s, d = nullable s
  · obtain ⟨s, rfl⟩ := hdn
    by_cases hen : ∃ t, e = nullable t
    · obtain ⟨t, rfl⟩ := hen
      have hst : s = t := by simpa [text] using h
      rw [hst]
    · exact absurd (h ▸ hmark s) (he.not_mem_text (he.members_ne_nil hen))
  · have hdm := hd.members_ne_nil hdn
    by_cases hen : ∃ t, e = nullable t
    · obtain ⟨t, rfl⟩ := hen
      exact absurd (h ▸ hmark t) (hd.not_mem_text hdm)
    · exact eq_of_members_eq hd he hdm (members_eq_of_text_eq hd he hdm (he.members_ne_nil hen) h)

end DeclaredType

/-- Two declared types have texts, and these are the same exactly if the types have the same shape
and the same simple types in the same order. -/
theorem Value.exists_typeText_eq_iff {v w : Value} {d e : DeclaredType} (hv : v.Declares d)
    (hw : w.Declares e) :
    ∃ s t, v.typeText = .ok (some s) ∧ w.typeText = .ok (some t) ∧ (s = t ↔ d = e) :=
  ⟨d.text, e.text, hv.typeText_eq, hw.typeText_eq,
    DeclaredType.eq_of_text_eq hv.wellFormed hw.wellFormed, congrArg DeclaredType.text⟩

/-- `int|A&B` is the text of one type, however its names are laid out, and not that of `int&A|B`. -/
theorem Value.exists_typeText_eq_iff_union :
    let int := Value.str "int"
    let a := Value.node ⟨"Name", [("parts", .list [.str "A"])], {}⟩
    let b := Value.node ⟨"Identifier", [("name", .str "B")], {}⟩
    let both (v w : Value) := Value.node ⟨"IntersectionType", [("types", .list [v, w])], {}⟩
    let either (v w : Value) := Value.node ⟨"UnionType", [("types", .list [v, w])], {}⟩
    (∃ s, (either int (both a b)).typeText = .ok (some s) ∧
      (either int (both (.str "A") (.str "B"))).typeText = .ok (some s)) ∧
    (either int (both a b)).typeText ≠ (either (both int a) b).typeText := by
  intro int a b both either
  have hint : int.NamesType "int" := .text (by decide)
  have ha : a.NamesType "A" := by
    have htext : Node.joinedName ⟨"Name", [("parts", .list [.str "A"])], {}⟩ = "A" := by
      decide +kernel
    exact htext ▸ .name rfl (by decide) (by decide)
  have hb : b.NamesType "B" := .identifier rfl rfl (by decide)
  have hboth {v w : Value} {s t : String} (hv : v.NamesType s) (hw : w.NamesType t) :
      (both v w).DeclaresMember (.intersection [s, t]) :=
    .intersection rfl (.cons hv (.cons hw .nil)) (Nat.le_refl 2)
  have heither {v w : Value} {m n : TypeMember} (hv : v.DeclaresMember m)
      (hw : w.DeclaresMember n) : (either v w).Declares (.union [m, n]) :=
    .union rfl (.cons hv (.cons hw .nil)) (Nat.le_refl 2)
  have hfirst := heither (.simple hint) (hboth ha hb)
  obtain ⟨s, t, hs, ht, hst⟩ := Value.exists_typeText_eq_iff hfirst (heither (.simple hint)
    (hboth (.text (by decide : IsTypeName "A")) (.text (by decide : IsTypeName "B"))))
  obtain ⟨u, w, hu, hw, huw⟩ := Value.exists_typeText_eq_iff hfirst
    (heither (hboth hint ha) (.simple hb))
  refine ⟨⟨s, hs, hst.mpr rfl ▸ ht⟩, fun h => ?_⟩
  have hsame := huw.mp (Option.some.inj (Except.ok.inj (hu.symm.trans (h.trans hw))))
  simp at hsame

end SourceSig
