import SourceSig.Proofs.DigestText
import SourceSig.Proofs.MemberText

/-!
# Literals are told apart by their texts

The text of a constant expression stands in a signature for the expression, so that two constants
with one text would be one value to a reader. `Literal` is what an expression says: an integer, a
float by its number text, a string, the name of a constant, a constant of a class, or the tag and
the digest of anything else. `Scope.Denotes` gives what a node says in a scope, where all names in
it are identifiers.

* `Scope.Denotes.literal_eq` : every such node has a text, which is written from what it says.
* `Literal.eq_of_text_eq` : the six sorts of texts share no text, and none is ambiguous. All but the
  numbers are told apart by their first character (`Lead.ofChar`), and a float has a point or an
  exponent.

`Scope.exists_literal_eq_iff` puts the two together for two nodes in two scopes.
-/

namespace SourceSig

open Text (Stops stops_cons run_append_inj quote_append_inj isWordChar ReadsBack)

/-! ## What a literal says -/

/-- ASCII letters, digits and underscores, with no digit in front. -/
def IsIdentifier (s : String) : Prop :=
  (∃ c ∈ s.toList.head?, c.isDigit = false) ∧ ∀ c ∈ s.toList, isWordChar c

instance (s : String) : Decidable (IsIdentifier s) :=
  decidable_of_iff (s.toList.head?.any (!·.isDigit) ∧ s.toList.all isWordChar)
    (by simp [IsIdentifier, Option.any_eq_true])

/-- What a constant expression says. -/
inductive Literal where
  | int (i : Int64)
  /-- A float, by its text as a JSON number. -/
  | float (text : String)
  | str (s : String)
  | constant (parts : List String)
  | classConstant (cls name : String)
  /-- Any other expression, of which the tag and the digest are shown. -/
  | token (tag : String) (digest : Digest)

namespace Scope

/-- The namespace is a list of identifiers with backslashes between them, or the global one. -/
def IsProper (scope : Scope) : Prop :=
  ∀ ns ∈ scope.name, ∃ parts, (∀ part ∈ parts, IsIdentifier part) ∧ ns = "\\".intercalate parts

/-- A node in front of a constant is a name or a variable, and refers to the class with the text. -/
inductive Refers (scope : Scope) (c : Node) : String → Prop
  | relative : c.kind = .name ∨ c.kind = .relativeName → c.nameParts ≠ [] →
      (∀ part ∈ c.nameParts, IsIdentifier part) → Refers scope c (scope.qualify c.joinedName)
  | absolute : c.kind = .fullyQualifiedName → c.nameParts ≠ [] →
      (∀ part ∈ c.nameParts, IsIdentifier part) → Refers scope c ("\\" ++ c.joinedName)
  | dynamic {x : String} : c.kind = .variableExpr → c.text "name" = some x → IsIdentifier x →
      Refers scope c ("$" ++ x)

/-- What a node says in a scope. -/
inductive Denotes (scope : Scope) (n : Node) : Literal → Prop
  | int {i : Int64} : n.kind = .intLiteral → n.field "value" = some (.int i) →
      Denotes scope n (.int i)
  | float {x : Binary64} : n.kind = .floatLiteral → n.field "value" = some (.float x) →
      x.isFinite = true → Denotes scope n (.float (Json.writeFloat x))
  | str {s : String} : n.kind = .stringLiteral → n.field "value" = some (.str s) →
      Denotes scope n (.str s)
  | constant {name : Node} : n.kind = .constFetch → n.child "name" = some name →
      name.nameParts ≠ [] → (∀ part ∈ name.nameParts, IsIdentifier part) →
        Denotes scope n (.constant name.nameParts)
  | classConstant {c : Node} {cls name : String} : n.kind = .classConstFetch →
      n.child "class" = some c → scope.Refers c cls → n.identifier? "name" = some name →
        IsIdentifier name → Denotes scope n (.classConstant cls name)
  | token : n.kind.isSpelledOut = false → IsIdentifier n.tag →
      Denotes scope n (.token n.tag (Digest.ofNode n))

end Scope

/-! ## Texts -/

/-- The text that shows what a literal says. -/
def Literal.text : Literal → String
  | .int i => toString i.toInt
  | .float text => text
  | .str s => Text.quote s
  | .constant parts => "??".intercalate parts
  | .classConstant cls name => cls ++ "::" ++ name
  | .token tag digest => "<" ++ tag ++ " " ++ digest.hex ++ ">"

namespace Scope

variable {scope : Scope} {c n : Node} {cls : String} {a : Literal}

/-- A node that refers to a class is resolved to its text. -/
theorem Refers.classReference_eq (h : scope.Refers c cls) : scope.classReference c = .ok cls := by
  unfold classReference
  cases h with
  | relative hkind => rcases hkind with hkind | hkind <;> rw [hkind]
  | absolute hkind => rw [hkind]
  | dynamic hkind hname => rw [hkind, hname]

/-- A node that says something has its text. -/
theorem Denotes.literal_eq (h : scope.Denotes n a) : scope.literal n = .ok a.text := by
  unfold literal
  cases h with
  | int hkind hvalue => rw [hkind, hvalue]; rfl
  | float hkind hvalue => rw [hkind, hvalue]; rfl
  | str hkind hvalue => rw [hkind, hvalue]; rfl
  | constant hkind hname => rw [hkind, constantText, hname]; rfl
  | classConstant hkind hclass hrefers hname =>
    rw [hkind, hclass, classPrefix, hrefers.classReference_eq, hname]
    rfl
  | token hkind =>
    cases hk : n.kind with
    | intLiteral | floatLiteral | stringLiteral | constFetch | classConstFetch =>
      rw [hk] at hkind
      cases hkind
    | _ => rfl

end Scope

/-! ## Characters of texts -/

/-- The text of a class opens with a backslash or with the mark of a variable. -/
def IsReference (s : String) : Prop :=
  ∃ mark rest, s.toList = mark :: rest ∧ (mark = '\\' ∨ mark = '$') ∧ ∀ c ∈ rest, isNameChar c

/-- A decimal with its sign. -/
def IsSignedDecimal (t : List Char) : Prop :=
  ∃ u, IsDecimalText u ∧ (t = u ∨ t = '-' :: u)

namespace Literal

/-- The pieces of a literal are made of the characters that such texts are made of. -/
def WellFormed : Literal → Prop
  | .float text => IsSignedDecimal text.toList
  | .constant parts => parts ≠ [] ∧ ∀ part ∈ parts, IsIdentifier part
  | .classConstant cls _ => IsReference cls
  | .token tag _ => ∀ c ∈ tag.toList, isWordChar c
  | .int _ | .str _ => True

end Literal

theorem isSignedDecimal_writeFloat {x : Binary64} (h : x.isFinite = true) :
    IsSignedDecimal (Json.writeFloat x).toList := by
  have hdecimal :
      IsDecimalText (Json.numberLayout.write (x.shortest Json.numberLayout.tie)).toList :=
    Layout.isDecimalText_write rfl (by simp [Json.numberLayout]) _
  refine ⟨_, hdecimal, ?_⟩
  rw [Json.writeFloat, if_pos h, Layout.writeFinite]
  split
  · exact .inr (by simp)
  · exact .inl (by simp)

theorem isNameChar_of_isWordChar {c : Char} (h : isWordChar c) : isNameChar c := by
  simp [isNameChar, h]

/-- Identifiers with backslashes between them are of the characters of names. -/
theorem isNameChar_of_mem_intercalate {parts : List String}
    (h : ∀ part ∈ parts, IsIdentifier part) {c : Char}
    (hc : c ∈ ("\\".intercalate parts).toList) : isNameChar c := by
  rw [String.toList_intercalate] at hc
  rcases Text.mem_intercalate hc with hc | ⟨part, hpart, hc⟩
  · rw [show c = '\\' by simpa using hc]
    decide
  · obtain ⟨s, hs, rfl⟩ := List.mem_map.mp hpart
    exact isNameChar_of_isWordChar ((h s hs).2 c hc)

namespace Scope

variable {scope : Scope} {c n : Node} {cls : String} {a : Literal}

theorem Refers.isReference (hscope : scope.IsProper) (h : scope.Refers c cls) :
    IsReference cls := by
  have hjoined (hparts : ∀ part ∈ c.nameParts, IsIdentifier part) :
      ∀ d ∈ c.joinedName.toList, isNameChar d := fun d => isNameChar_of_mem_intercalate hparts
  cases h with
  | relative _ _ hparts =>
    cases hns : scope.name with
    | none => exact ⟨'\\', c.joinedName.toList, by simp [qualify, hns], .inl rfl, hjoined hparts⟩
    | some ns =>
      obtain ⟨parts, hparts', rfl⟩ := hscope ns hns
      refine ⟨'\\', ("\\".intercalate parts).toList ++ '\\' :: c.joinedName.toList,
        by simp [qualify, hns], .inl rfl, fun d hd => ?_⟩
      rcases List.mem_append.mp hd with hd | hd
      · exact isNameChar_of_mem_intercalate hparts' hd
      · rcases List.mem_cons.mp hd with rfl | hd
        · decide
        · exact hjoined hparts d hd
  | absolute _ _ hparts =>
    exact ⟨'\\', c.joinedName.toList, by simp, .inl rfl, hjoined hparts⟩
  | @dynamic x _ _ hx =>
    exact ⟨'$', x.toList, by simp, .inr rfl, fun d hd => isNameChar_of_isWordChar (hx.2 d hd)⟩

/-- A node in a proper scope denotes a literal whose text can be read back. -/
theorem Denotes.wellFormed (hscope : scope.IsProper) (h : scope.Denotes n a) : a.WellFormed := by
  cases h with
  | int | str => trivial
  | float _ _ hfinite => exact isSignedDecimal_writeFloat hfinite
  | constant _ _ hne hparts => exact ⟨hne, hparts⟩
  | classConstant _ _ hrefers => exact hrefers.isReference hscope
  | token _ htag => exact htag.2

end Scope

/-! ## Reading back -/

/-- What the first character of a text tells of the literal. -/
inductive Lead where
  | number
  | quote
  | name
  | reference
  | bracket
deriving DecidableEq

/-- The lead that a character is. -/
def Lead.ofChar (c : Char) : Lead :=
  if c.isDigit ∨ c = '-' then .number
  else if c = '"' then .quote
  else if c = '\\' ∨ c = '$' then .reference
  else if c = '<' then .bracket
  else .name

namespace Literal

/-- What the text of a literal begins with. -/
def lead : Literal → Lead
  | .int _ | .float _ => .number
  | .str _ => .quote
  | .constant _ => .name
  | .classConstant _ _ => .reference
  | .token _ _ => .bracket

variable {a b : Literal}

/-- The text of a constant goes on after the text of its first part. -/
theorem toList_text_constant (part : String) (parts : List String) :
    (constant (part :: parts)).text.toList =
      part.toList ++ parts.flatMap fun p => ['?', '?'] ++ p.toList := by
  rw [text, String.toList_intercalate, Text.intercalate_map_cons]
  rfl

/-- The first character of a text tells the sort of the literal, but not which sort of number. -/
theorem exists_text_eq_cons (h : a.WellFormed) :
    ∃ c r, a.text.toList = c :: r ∧ Lead.ofChar c = a.lead := by
  cases a with
  | int i =>
    obtain ⟨c, r, htext, hc⟩ := Scalar.exists_write_int_eq_cons i
    exact ⟨c, r, htext, by simp [Lead.ofChar, lead, hc]⟩
  | float text =>
    obtain ⟨u, hu, htext | htext⟩ := h
    · obtain ⟨c, r, rfl, hc⟩ := hu.exists_eq_cons
      exact ⟨c, r, htext, by simp [Lead.ofChar, lead, hc]⟩
    · exact ⟨'-', u, htext, rfl⟩
  | str s => exact ⟨'"', _, Text.toList_quote s, rfl⟩
  | constant parts =>
    obtain ⟨part, parts, rfl⟩ := List.exists_cons_of_ne_nil h.1
    obtain ⟨⟨c, hc, hdigit⟩, hword⟩ := h.2 part List.mem_cons_self
    obtain ⟨r, hpart⟩ := List.head?_eq_some_iff.mp hc
    refine ⟨c, _, by rw [toList_text_constant, hpart, List.cons_append], ?_⟩
    have hc' : isWordChar c := hword c (by simp [hpart])
    have hne : ∀ d, isWordChar d = false → c ≠ d := by
      rintro d hd rfl
      simp [hd] at hc'
    simp [Lead.ofChar, lead, hdigit, hne '-' (by decide), hne '"' (by decide), hne '\\' (by decide),
      hne '$' (by decide), hne '<' (by decide)]
  | classConstant cls name =>
    obtain ⟨mark, rest, hcls, hmark, -⟩ := h
    refine ⟨mark, rest ++ "::".toList ++ name.toList, by simp [text, hcls], ?_⟩
    rcases hmark with rfl | rfl <;> rfl
  | token tag digest => exact ⟨'<', (tag ++ " " ++ digest.hex ++ ">").toList, by simp [text], rfl⟩

/-- The parts of a constant are read one by one. -/
theorem parts_eq_of_text_eq {ps qs : List String} (hps : ∀ p ∈ ps, IsIdentifier p)
    (hqs : ∀ q ∈ qs, IsIdentifier q) (h : (constant ps).text = (constant qs).text) : ps = qs := by
  have hpart : ReadsBack String.toList id IsIdentifier (Stops isWordChar) := by
    intro p q r s hp hq hr hs heq
    obtain ⟨hpq, hrs⟩ := run_append_inj hp.2 hq.2 hr hs heq
    exact ⟨String.toList_injective hpq, hrs⟩
  have hparts : ReadsBack (fun ps => ['?', '?'].intercalate (ps.map String.toList)) (List.map id)
      (∀ p ∈ ·, IsIdentifier p) (· = []) := by
    refine hpart.separated _ ?_ (fun r => stops_cons.mpr (by decide)) (fun r => by simp) ?_
    · rintro r rfl
      exact Text.stops_nil _
    · rintro p r ⟨⟨c, hc, -⟩, -⟩ hend
      rw [(List.append_eq_nil_iff.mp hend).1] at hc
      cases hc
  have htexts : ∀ ps, (constant ps).text.toList = ['?', '?'].intercalate (ps.map String.toList) :=
    fun ps => String.toList_intercalate
  have heq : ['?', '?'].intercalate (ps.map String.toList) ++ [] =
      ['?', '?'].intercalate (qs.map String.toList) ++ [] := by
    rw [← htexts, ← htexts, h]
  simpa using (hparts hps hqs rfl rfl heq).1

/-- A decimal has a character that integers are not written with. -/
theorem text_int_ne_float (i : Int64) {t : String} (ht : IsSignedDecimal t.toList) :
    (int i).text ≠ (float t).text := by
  intro h
  have hint : ∀ c ∈ t.toList, c.isDigit ∨ c = '-' := by
    intro c hc
    rw [show t = toString i.toInt from h.symm] at hc
    exact of_mem_int_toString hc
  obtain ⟨u, hu, htext⟩ := ht
  have hsub : ∀ c ∈ u, c ∈ t.toList := by
    rcases htext with htext | htext <;> simp +contextual [htext]
  rcases hu.mark_mem with hmark | hmark
  · simpa using hint '.' (hsub _ hmark)
  · simpa using hint 'e' (hsub _ hmark)

/-- The text of a class ends before the colons. -/
theorem classConstant_eq_of_text_eq {c d j k : String} (hc : IsReference c) (hd : IsReference d)
    (h : (classConstant c j).text = (classConstant d k).text) : c = d ∧ j = k := by
  obtain ⟨m, r, hm, -, hr⟩ := hc
  obtain ⟨n, s, hn, -, hs⟩ := hd
  have heq : m :: (r ++ ':' :: ':' :: j.toList) = n :: (s ++ ':' :: ':' :: k.toList) := by
    simpa [text, hm, hn] using congrArg String.toList h
  obtain ⟨rfl, htail⟩ := List.cons.inj heq
  obtain ⟨rfl, hrest⟩ := run_append_inj hr hs (stops_cons.mpr (by decide))
    (stops_cons.mpr (by decide)) htail
  simp only [List.cons.injEq, true_and] at hrest
  exact ⟨String.toList_injective (hm.trans hn.symm), String.toList_injective hrest⟩

/-- The tag of a token ends before the blank, and its digest before the bracket. -/
theorem token_eq_of_text_eq {s t : String} {d e : Digest} (hs : ∀ c ∈ s.toList, isWordChar c)
    (ht : ∀ c ∈ t.toList, isWordChar c) (h : (token s d).text = (token t e).text) :
    s = t ∧ d = e := by
  have heq : s.toList ++ ' ' :: (d.hex.toList ++ ['>']) =
      t.toList ++ ' ' :: (e.hex.toList ++ ['>']) := by
    simpa [text] using congrArg String.toList h
  obtain ⟨hst, hrest⟩ := run_append_inj hs ht (stops_cons.mpr (by decide))
    (stops_cons.mpr (by decide)) heq
  have hhex : d.hex.toList = e.hex.toList := List.append_cancel_right (List.cons.inj hrest).2
  have hblank : d.hex.toList ++ [' '] = e.hex.toList ++ [' '] := by rw [hhex]
  exact ⟨String.toList_injective hst, (readsBack_hex trivial trivial rfl rfl hblank).1⟩

/-- The text of a literal is that of no other. -/
theorem eq_of_text_eq (ha : a.WellFormed) (hb : b.WellFormed) (h : a.text = b.text) : a = b := by
  have hlead : a.lead = b.lead := by
    obtain ⟨c, r, hc, hac⟩ := exists_text_eq_cons ha
    obtain ⟨d, s, hd, hbd⟩ := exists_text_eq_cons hb
    rw [h, hd] at hc
    rw [← hac, ← hbd, (List.cons.inj hc).1]
  cases a with
  | int i =>
    cases b with
    | int j =>
      have hij : toString i.toInt = toString j.toInt := h
      exact congrArg int (Int64.toInt_inj.mp (Int.repr_injective hij))
    | float t => exact absurd h (text_int_ne_float i hb)
    | _ => cases hlead
  | float t =>
    cases b with
    | int j => exact absurd h.symm (text_int_ne_float j ha)
    | float u => exact congrArg float h
    | _ => cases hlead
  | str s =>
    cases b with
    | str t =>
      have hst : (Text.quote s).toList ++ [] = (Text.quote t).toList ++ [] := by
        rw [show Text.quote s = Text.quote t from h]
      exact congrArg str (quote_append_inj hst).1
    | _ => cases hlead
  | constant ps =>
    cases b with
    | constant qs => exact congrArg constant (parts_eq_of_text_eq ha.2 hb.2 h)
    | _ => cases hlead
  | classConstant c j =>
    cases b with
    | classConstant d k =>
      obtain ⟨rfl, rfl⟩ := classConstant_eq_of_text_eq ha hb h
      rfl
    | _ => cases hlead
  | token s d =>
    cases b with
    | token t e =>
      obtain ⟨rfl, rfl⟩ := token_eq_of_text_eq ha hb h
      rfl
    | _ => cases hlead

end Literal

/-- Two nodes that say something, each in its scope, have texts, and these are the same exactly if
the nodes say the same. -/
theorem Scope.exists_literal_eq_iff {scope scope' : Scope} {m n : Node} {a b : Literal}
    (hscope : scope.IsProper) (hscope' : scope'.IsProper) (ha : scope.Denotes m a)
    (hb : scope'.Denotes n b) :
    ∃ s t, scope.literal m = .ok s ∧ scope'.literal n = .ok t ∧ (s = t ↔ a = b) :=
  ⟨a.text, b.text, ha.literal_eq, hb.literal_eq,
    Literal.eq_of_text_eq (ha.wellFormed hscope) (hb.wellFormed hscope'), congrArg Literal.text⟩

/-- A constant of the class `Status` in the namespace `App` is that of `\App\Status` anywhere, and
the string `1` is not the integer. -/
theorem Scope.exists_literal_eq_iff_status :
    let status := Node.mk "Name" [("parts", .list [.str "Status"])] {}
    let appStatus := Node.mk "Name_FullyQualified" [("name", .str "App\\Status")] {}
    let fetch (cls : Node) := Node.mk "Expr_ClassConstFetch"
      [("class", .node cls), ("name", .str "ACTIVE")] {}
    (∃ s, (Scope.named "App").literal (fetch status) = .ok s ∧
      Scope.global.literal (fetch appStatus) = .ok s) ∧
    Scope.global.literal ⟨"Scalar_String", [("value", .str "1")], {}⟩ ≠
      Scope.global.literal ⟨"Scalar_Int", [("value", .int 1)], {}⟩ := by
  intro status appStatus fetch
  have hglobal : Scope.global.IsProper := fun ns hns => nomatch hns
  have happ : (Scope.named "App").IsProper := by
    intro ns hns
    obtain rfl : "App" = ns := by simpa [Scope.named] using hns
    exact ⟨["App"], by decide, by simp⟩
  have hstatus : (Scope.named "App").Refers status "\\App\\Status" := by
    have htext : (Scope.named "App").qualify status.joinedName = "\\App\\Status" := by
      decide +kernel
    exact htext ▸ .relative (.inl rfl) (by decide) (by decide)
  have happStatus : Scope.global.Refers appStatus "\\App\\Status" := by
    have htext : "\\" ++ appStatus.joinedName = "\\App\\Status" := by decide +kernel
    exact htext ▸ .absolute rfl (by decide) (by decide)
  obtain ⟨s, t, hs, ht, hst⟩ := Scope.exists_literal_eq_iff happ hglobal
    (.classConstant (n := fetch status) rfl rfl hstatus rfl (by decide))
    (.classConstant (n := fetch appStatus) rfl rfl happStatus rfl (by decide))
  obtain ⟨u, v, hu, hv, huv⟩ := Scope.exists_literal_eq_iff hglobal hglobal
    (.str (n := ⟨"Scalar_String", [("value", .str "1")], {}⟩) rfl rfl)
    (.int (n := ⟨"Scalar_Int", [("value", .int 1)], {}⟩) rfl rfl)
  refine ⟨⟨s, hs, hst.mpr rfl ▸ ht⟩, fun h => ?_⟩
  have hsame : Literal.str "1" = .int 1 := huv.mp (Except.ok.inj (hu.symm.trans (h.trans hv)))
  cases hsame

end SourceSig
