import SourceSig.Proofs.UniqueReading
import SourceSig.Signature

/-!
# The texts of members

The lines of a signature hold names, types and values that come from the source. As long as these
are of the characters that such texts are made of, each line shows all of the declaration that it
was written from: `Parameter.readsBack_listText`, `Constant.readsBack_text`,
`Property.readsBack_text`, `Method.readsBack_methodLines`, and `Define.readsBack_text` and
`Function.readsBack_text` for what stands outside a class.

Of modifiers a line shows their phrase only, and several masks have one phrase.
-/

namespace SourceSig

open Text (Stops stops_cons run_append_inj quote_append_inj isWordChar ReadsBack)

/-! ## Names and values -/

/-- The characters of names, which may be qualified by a namespace. -/
def isNameChar (c : Char) : Bool :=
  isWordChar c || c == '\\'

/-- The characters of types. -/
def isTypeChar (c : Char) : Bool :=
  isNameChar c || c == '?' || c == '|' || c == '&'

/-- What ends a value is none of these. -/
def isValueChar (c : Char) : Bool :=
  !(c == ',' || c == ';' || c == ')' || c == '\n')

/-- A name is not empty and has the characters of names only. -/
def IsName (s : String) : Prop :=
  s ≠ "" ∧ ∀ c ∈ s.toList, isNameChar c

/-- The text of a type is not empty and has the characters of types only. -/
def IsType (s : String) : Prop :=
  s ≠ "" ∧ ∀ c ∈ s.toList, isTypeChar c

instance (s : String) : Decidable (IsName s) :=
  decidable_of_iff (s ≠ "" ∧ s.toList.all isNameChar) (by simp [IsName])

instance (s : String) : Decidable (IsType s) :=
  decidable_of_iff (s ≠ "" ∧ s.toList.all isTypeChar) (by simp [IsType])

/-- The text of a constant expression: a quoted string, or a text without quotes in which nothing
reads as its end. -/
def IsValue (s : String) : Prop :=
  (∃ t, s = Text.quote t) ∨ ∀ c ∈ s.toList, isValueChar c ∧ c ≠ '"'

theorem isValueChar_of_isNameChar {c : Char} (h : isNameChar c) : isValueChar c := by
  have hne : ∀ d, isNameChar d = false → c ≠ d := by
    rintro d hd rfl
    simp [hd] at h
  simp [isValueChar, hne ',' (by decide), hne ';' (by decide), hne ')' (by decide),
    hne '\n' (by decide)]

/-- A name ends where its characters do. -/
theorem readsBack_name : ReadsBack String.toList id IsName (Stops isNameChar) := by
  intro x y r s hx hy hr hs heq
  obtain ⟨hxy, hrs⟩ := run_append_inj hx.2 hy.2 hr hs heq
  exact ⟨String.toList_injective hxy, hrs⟩

/-- A text without quotes is no quoted string, not even if it is empty. -/
theorem quote_append_ne {t w : String} {r s : List Char}
    (hw : ∀ c ∈ w.toList, isValueChar c ∧ c ≠ '"') (hs : Stops isValueChar s) :
    (Text.quote t).toList ++ r ≠ w.toList ++ s := by
  intro h
  rw [Text.toList_quote, List.cons_append] at h
  cases hcs : w.toList with
  | nil =>
    rw [hcs, List.nil_append] at h
    rw [← h, stops_cons] at hs
    cases hs
  | cons c cs =>
    rw [hcs, List.cons_append, List.cons.injEq] at h
    exact (hw c (by simp [hcs])).2 h.1.symm

/-- A value ends where its characters do. -/
theorem readsBack_value : ReadsBack String.toList id IsValue (Stops isValueChar) := by
  intro x y r s hx hy hr hs heq
  rcases hx with ⟨t, rfl⟩ | hx <;> rcases hy with ⟨u, rfl⟩ | hy
  · obtain ⟨rfl, hrs⟩ := quote_append_inj heq
    exact ⟨rfl, hrs⟩
  · exact absurd heq (quote_append_ne hy hs)
  · exact absurd heq.symm (quote_append_ne hx hr)
  · obtain ⟨hxy, hrs⟩ :=
      run_append_inj (fun c hc => (hx c hc).1) (fun c hc => (hy c hc).1) hr hs heq
    exact ⟨String.toList_injective hxy, hrs⟩

/-- A default in the text of a parameter or a property. -/
def defaultText : Option String → List Char
  | some value => ' ' :: '=' :: ' ' :: value.toList
  | none => []

/-- Whether there is a default shows in the blank before the equals sign, which no value has. -/
theorem readsBack_defaultText :
    ReadsBack defaultText id (∀ value ∈ ·, IsValue value) (Stops isValueChar) := by
  intro x y r s hx hy hr hs heq
  cases x with
  | none =>
    cases y with
    | none => exact ⟨rfl, heq⟩
    | some w =>
      rw [defaultText, defaultText, List.nil_append] at heq
      rw [heq, List.cons_append, stops_cons] at hr
      cases hr
  | some v =>
    cases y with
    | none =>
      rw [defaultText, defaultText, List.nil_append] at heq
      rw [← heq, List.cons_append, stops_cons] at hs
      cases hs
    | some w =>
      simp only [defaultText, List.cons_append, List.cons.injEq, true_and] at heq
      obtain ⟨hvw, hrs⟩ := readsBack_value (hx v rfl) (hy w rfl) hr hs heq
      exact ⟨congrArg some hvw, hrs⟩

/-- The name of a variable with its default. -/
def variableText (v : String × Option String) : List Char :=
  v.1.toList ++ defaultText v.2

/-- A variable and its default are told apart by the blank between them. -/
theorem readsBack_variableText :
    ReadsBack variableText id (fun v => IsName v.1 ∧ ∀ value ∈ v.2, IsValue value)
      (Stops isValueChar) := by
  have hstop : ∀ (d : Option String) {r : List Char}, Stops isValueChar r →
      Stops isNameChar (defaultText d ++ r) := by
    intro d r hr
    cases d with
    | none => exact hr.mono fun _ => isValueChar_of_isNameChar
    | some value => exact stops_cons.mpr (by decide)
  rintro ⟨x, d⟩ ⟨y, e⟩ r s ⟨hx, hd⟩ ⟨hy, he⟩ hr hs heq
  simp only [variableText, List.append_assoc] at heq
  obtain ⟨hxy, hrest⟩ := readsBack_name hx hy (hstop d hr) (hstop e hs) heq
  obtain ⟨hde, hrs⟩ := readsBack_defaultText hd he hr hs hrest
  exact ⟨Prod.ext hxy hde, hrs⟩

/-! ## Parameters -/

namespace Parameter

/-- A parameter whose name, type and default are what they should be. -/
structure WellFormed (p : Parameter) : Prop where
  isName : IsName p.name
  isType : ∀ type ∈ p.type, IsType type
  isValue : ∀ value ∈ p.default, IsValue value

/-- The marks of a reference and of a variable number of arguments. -/
def marks (byRef variadic : Bool) : List Char :=
  (if byRef then ['&'] else []) ++ if variadic then ['.', '.', '.'] else []

/-- What stands before the variable of a parameter. -/
def front (p : Parameter) : List Char :=
  match p.type with
  | some type => type.toList ++ ' ' :: marks p.byRef p.variadic
  | none => marks p.byRef p.variadic

/-- The text of a parameter is cut at the first dollar sign: no type has one. -/
theorem toList_text (p : Parameter) :
    p.text.toList = p.front ++ '$' :: variableText (p.name, p.default) := by
  obtain ⟨name, type, default, byRef, variadic⟩ := p
  cases type <;> cases default <;> cases byRef <;> cases variadic <;>
    simp [text, front, marks, variableText, defaultText]

/-- The marks of a parameter show both of what they stand for. -/
theorem marks_inj : ∀ {a b c d : Bool}, marks a b = marks c d → a = c ∧ b = d := by
  decide

theorem not_mem_marks {c : Char} (hc : c ≠ '&' ∧ c ≠ '.') (a b : Bool) : c ∉ marks a b := by
  cases a <;> cases b <;> simp [marks, hc]

/-- A type is followed by a blank, and there is no blank in a front without type. -/
theorem front_inj {p q : Parameter} (hp : p.WellFormed) (hq : q.WellFormed)
    (h : p.front = q.front) : p.type = q.type ∧ p.byRef = q.byRef ∧ p.variadic = q.variadic := by
  unfold front at h
  cases hpt : p.type with
  | none =>
    cases hqt : q.type with
    | none =>
      rw [hpt, hqt] at h
      exact ⟨rfl, marks_inj h⟩
    | some u =>
      rw [hpt, hqt] at h
      exact absurd (by simp [h]) (not_mem_marks (c := ' ') (by decide) p.byRef p.variadic)
  | some t =>
    cases hqt : q.type with
    | none =>
      rw [hpt, hqt] at h
      exact absurd (by simp [← h]) (not_mem_marks (c := ' ') (by decide) q.byRef q.variadic)
    | some u =>
      rw [hpt, hqt] at h
      obtain ⟨htu, hmarks⟩ := run_append_inj (hp.isType t hpt).2 (hq.isType u hqt).2
        (stops_cons.mpr (by decide)) (stops_cons.mpr (by decide)) h
      obtain rfl := String.toList_injective htu
      rw [List.cons.injEq] at hmarks
      exact ⟨rfl, marks_inj hmarks.2⟩

/-- The characters before a variable neither open one nor close the list. -/
def isFrontChar (c : Char) : Bool :=
  !(c == '$' || c == ')')

theorem isFrontChar_of_isTypeChar {c : Char} (h : isTypeChar c) : isFrontChar c := by
  have hne : ∀ d, isTypeChar d = false → c ≠ d := by
    rintro d hd rfl
    simp [hd] at h
  simp [isFrontChar, hne '$' (by decide), hne ')' (by decide)]

/-- What stands before the dollar sign of a parameter has the characters of types, marks and a
blank. -/
theorem isFrontChar_of_mem_front {p : Parameter} (hp : p.WellFormed) :
    ∀ c ∈ p.front, isFrontChar c := by
  have hmarks : ∀ c ∈ marks p.byRef p.variadic, isFrontChar c := by
    cases p.byRef <;> cases p.variadic <;> simp [marks, isFrontChar]
  unfold front
  cases ht : p.type with
  | none => exact hmarks
  | some type =>
    intro c hc
    rw [List.mem_append, List.mem_cons] at hc
    rcases hc with hc | rfl | hc
    · exact isFrontChar_of_isTypeChar ((hp.isType type ht).2 c hc)
    · decide
    · exact hmarks c hc

/-- A parameter is read back from its text. -/
theorem readsBack_text :
    ReadsBack (fun p => p.text.toList) id WellFormed (Stops isValueChar) := by
  intro p q r s hp hq hr hs heq
  simp only [toList_text, List.append_assoc, List.cons_append] at heq
  obtain ⟨hfront, hrest⟩ := run_append_inj (isFrontChar_of_mem_front hp)
    (isFrontChar_of_mem_front hq) (stops_cons.mpr (by decide)) (stops_cons.mpr (by decide)) heq
  obtain ⟨htype, hbyRef, hvariadic⟩ := front_inj hp hq hfront
  rw [List.cons.injEq] at hrest
  obtain ⟨hvar, hrs⟩ := readsBack_variableText ⟨hp.isName, hp.isValue⟩ ⟨hq.isName, hq.isValue⟩
    hr hs hrest.2
  obtain ⟨hname, hdefault⟩ := Prod.mk.inj hvar
  refine ⟨?_, hrs⟩
  cases p
  cases q
  simp_all

/-- A parameter does not begin with the bracket that ends a list of them. -/
theorem head?_text_ne {p : Parameter} (hp : p.WellFormed) (r : List Char) :
    (p.text.toList ++ r).head? ≠ some ')' := by
  rw [toList_text, List.append_assoc]
  cases hf : p.front with
  | nil => simp
  | cons c cs =>
    intro h
    obtain rfl : c = ')' := by simpa using h
    exact absurd (isFrontChar_of_mem_front hp ')' (by simp [hf])) (by decide)

theorem toList_listText (ps : List Parameter) :
    (listText ps).toList = [',', ' '].intercalate (ps.map fun p => p.text.toList) := by
  rw [listText, String.toList_intercalate, List.map_map]
  rfl

/-- A parameter list ends at its closing parenthesis. -/
theorem readsBack_listText :
    ReadsBack (fun ps => (listText ps).toList) id (∀ p ∈ ·, WellFormed p)
      (fun r => r.head? = some ')') := by
  have hlist : ReadsBack (fun ps => [',', ' '].intercalate (ps.map fun p => p.text.toList))
      (List.map id) (∀ p ∈ ·, WellFormed p) (fun r => r.head? = some ')') := by
    refine readsBack_text.separated [',', ' '] ?_ ?_ ?_ fun p r hp => head?_text_ne hp r
    · intro r hr
      simp [Stops, hr, isValueChar]
    · exact fun r => stops_cons.mpr (by decide)
    · exact fun r => by simp
  intro ps qs r s hps hqs hr hs heq
  simp only [toList_listText] at heq
  obtain ⟨hpqs, hrs⟩ := hlist hps hqs hr hs heq
  rw [List.map_id, List.map_id] at hpqs
  exact ⟨hpqs, hrs⟩

end Parameter

/-! ## Bodies -/

/-- A byte as two digits. -/
def hexPair (b : UInt8) : List Char :=
  [Nat.digitChar (b.toNat / 16), Nat.digitChar (b.toNat % 16)]

/-- A byte is read back from its two digits. -/
theorem readsBack_hexPair : ReadsBack hexPair id (fun _ => True) (fun _ => True) := by
  have hbyte : ∀ b : UInt8, b.toNat / 16 < 16 ∧ b.toNat % 16 < 16 := by
    intro b
    have hb := b.toNat_lt
    omega
  intro a b r s _ _ _ _ heq
  simp only [hexPair, List.cons_append, List.nil_append, List.cons.injEq] at heq
  obtain ⟨hdiv, hmod, hrs⟩ := heq
  have hdiv' := congrArg Text.hexValue hdiv
  have hmod' := congrArg Text.hexValue hmod
  rw [Text.hexValue_digitChar (hbyte a).1, Text.hexValue_digitChar (hbyte b).1] at hdiv'
  rw [Text.hexValue_digitChar (hbyte a).2, Text.hexValue_digitChar (hbyte b).2] at hmod'
  have hab : a = b := UInt8.toNat_inj.mp (by omega)
  exact ⟨hab, hrs⟩

theorem toList_hex (d : Digest) : d.hex.toList = d.bytes.flatMap hexPair :=
  String.toList_ofList

/-- The digits of a digest end at the first blank. -/
theorem readsBack_hex :
    ReadsBack (fun d : Digest => d.hex.toList) id (fun _ => True) (fun r => r.head? = some ' ') := by
  have hrow : ReadsBack (List.flatMap hexPair) (List.map id) (∀ x ∈ ·, True)
      (fun r => r.head? = some ' ') := by
    refine readsBack_hexPair.row (fun _ _ => trivial) (fun _ _ _ => trivial) fun b r _ => ?_
    simp [hexPair]
  intro d e r s _ _ hr hs heq
  simp only [toList_hex] at heq
  obtain ⟨hbytes, hrs⟩ := hrow (fun _ _ => trivial) (fun _ _ => trivial) hr hs heq
  rw [List.map_id, List.map_id] at hbytes
  cases d
  cases e
  exact ⟨by simpa using hbytes, hrs⟩

theorem toList_bodyText (d : Digest) :
    (bodyText d).toList = "\x7b /* ".toList ++ (d.hex.toList ++ " */ \x7d".toList) := by
  simp [bodyText]

/-- A digest is read back from the comment in a body: it has as many digits as any other. -/
theorem readsBack_bodyText :
    ReadsBack (fun d => (bodyText d).toList) id (fun _ => True) (fun _ => True) := by
  intro d e r s _ _ _ _ heq
  simp only [toList_bodyText, List.append_assoc, List.append_cancel_left_eq] at heq
  obtain ⟨hde, hrest⟩ := readsBack_hex trivial trivial rfl rfl heq
  exact ⟨hde, List.append_cancel_left hrest⟩

/-! ## Constants and properties -/

/-- A constant whose name and value are what they should be. -/
structure Constant.WellFormed (c : Constant) : Prop where
  isName : IsName c.name
  isValue : IsValue c.value

theorem Constant.toList_text (c : Constant) :
    c.text.toList =
      indent.toList ++ ("const ".toList ++ (c.name.toList ++ ' ' :: '=' :: ' ' :: c.value.toList)) := by
  simp [Constant.text]

/-- A constant is read back from its line. -/
theorem Constant.readsBack_text :
    ReadsBack (fun c : Constant => c.text.toList) id WellFormed (Stops isValueChar) := by
  intro c d r s hc hd hr hs heq
  simp only [toList_text, List.append_assoc, List.cons_append, List.append_cancel_left_eq] at heq
  obtain ⟨hname, hrest⟩ := readsBack_name hc.isName hd.isName (stops_cons.mpr (by decide))
    (stops_cons.mpr (by decide)) heq
  simp only [List.cons.injEq, true_and] at hrest
  obtain ⟨hvalue, hrs⟩ := readsBack_value hc.isValue hd.isValue hr hs hrest
  refine ⟨?_, hrs⟩
  cases c
  cases d
  simp_all

/-- The phrases of properties and methods. -/
def phrases : List String :=
  ["public", "protected", "private", "public static", "protected static", "private static",
    "public abstract", "protected abstract", "private abstract", "public static abstract",
    "protected static abstract", "private static abstract", "<unknown_property>", "<unknown_method>"]

/-- The words before a property are among a few phrases. -/
theorem propertyPhrase_mem (m : Modifiers) : m.propertyPhrase ∈ phrases := by
  unfold Modifiers.propertyPhrase Modifiers.propertyPhrase?
  split <;> decide

/-- The words before a method are among a few phrases. -/
theorem methodPhrase_mem (m : Modifiers) : m.methodPhrase ∈ phrases := by
  unfold Modifiers.methodPhrase Modifiers.methodPhrase? Modifiers.propertyPhrase?
  split
  iterate 8 decide
  split <;> decide

/-- The characters of phrases; what follows a phrase is a variable or the word `function`. -/
def isPhraseChar (c : Char) : Bool :=
  !(c == '$' || c == 'f')

theorem isPhraseChar_of_mem {phrase : String} (h : phrase ∈ phrases) :
    ∀ c ∈ phrase.toList ++ [' '], isPhraseChar c := by
  have hall : ∀ phrase ∈ phrases, (phrase.toList ++ [' ']).all isPhraseChar := by
    decide
  exact List.all_eq_true.mp (hall phrase h)

/-- A phrase ends before the blank in front of what is no phrase. -/
theorem phrase_append_inj {t u : String} {c d : Char} {r s : List Char} (ht : t ∈ phrases)
    (hu : u ∈ phrases) (hc : isPhraseChar c = false) (hd : isPhraseChar d = false)
    (h : t.toList ++ ' ' :: c :: r = u.toList ++ ' ' :: d :: s) : t = u ∧ c = d ∧ r = s := by
  obtain ⟨htu, hrest⟩ := run_append_inj (isPhraseChar_of_mem ht) (isPhraseChar_of_mem hu)
    (stops_cons.mpr hc) (stops_cons.mpr hd) (by simpa using h)
  exact ⟨String.toList_injective (List.append_cancel_right htu), by simpa using hrest⟩

/-- A property whose name and default are what they should be. -/
structure Property.WellFormed (p : Property) : Prop where
  isName : IsName p.name
  isValue : ∀ value ∈ p.default, IsValue value

/-- What the line of a property shows. -/
structure Property.Shown where
  phrase : String
  name : String
  default : Option String

/-- What the line of a property shows: of the modifiers only their words. -/
def Property.shown (p : Property) : Property.Shown :=
  ⟨p.modifiers.propertyPhrase, p.name, p.default⟩

/-- The line of a property by what it shows. -/
def Property.Shown.text (p : Property.Shown) : String :=
  indent ++ p.phrase ++ " $" ++ p.name ++
  (match p.default with
    | some default => " = " ++ default
    | none => "")

theorem Property.text_eq (p : Property) : p.text = p.shown.text :=
  rfl

theorem Property.toList_text (p : Property) :
    p.text.toList = indent.toList ++
      (p.modifiers.propertyPhrase.toList ++ ' ' :: '$' :: variableText (p.name, p.default)) := by
  cases h : p.default <;> simp [Property.text, variableText, defaultText, h]

/-- What shows of a property is read back from its line. -/
theorem Property.readsBack_text :
    ReadsBack (fun p : Property => p.text.toList) shown WellFormed (Stops isValueChar) := by
  intro p q r s hp hq hr hs heq
  simp only [toList_text, List.append_assoc, List.cons_append, List.append_cancel_left_eq] at heq
  obtain ⟨hphrase, -, hrest⟩ := phrase_append_inj (propertyPhrase_mem _) (propertyPhrase_mem _)
    (by decide) (by decide) heq
  obtain ⟨hvar, hrs⟩ := readsBack_variableText ⟨hp.isName, hp.isValue⟩ ⟨hq.isName, hq.isValue⟩
    hr hs hrest
  obtain ⟨hname, hdefault⟩ := Prod.mk.inj hvar
  exact ⟨by rw [shown, shown, hphrase, hname, hdefault], hrs⟩

/-! ## Methods -/

/-- A method whose name and parameters are what they should be. -/
structure Method.WellFormed (m : Method) : Prop where
  isName : IsName m.name
  params : ∀ p ∈ m.params, p.WellFormed

/-- What the lines of a method show. -/
structure Method.Shown where
  phrase : String
  name : String
  params : List Parameter
  body : Option Digest

/-- What the lines of a method show: of the modifiers only their words. -/
def Method.shown (m : Method) : Method.Shown :=
  ⟨m.modifiers.methodPhrase, m.name, m.params, m.body⟩

/-- The lines of a method by what they show. -/
def Method.Shown.text (m : Method.Shown) : String :=
  indent ++ m.phrase ++ " function " ++ m.name ++ "(" ++ Parameter.listText m.params ++ ")" ++
  (match m.body with
    | some body => "\n" ++ indent ++ bodyText body
    | none => "")

theorem Method.text_eq (m : Method) : m.text = m.shown.text :=
  rfl

/-- A method ends with its body or a semicolon. -/
def endingText : Option Digest → List Char
  | some body => '\n' :: (indent.toList ++ (bodyText body).toList)
  | none => [';']

/-- Whether a method has a body shows in what follows its parameters. -/
theorem readsBack_endingText :
    ReadsBack endingText id (fun _ => True) (fun _ => True) := by
  intro d e r s _ _ _ _ heq
  cases d with
  | none =>
    cases e with
    | none => exact ⟨rfl, by simpa [endingText] using heq⟩
    | some e => simp [endingText] at heq
  | some d =>
    cases e with
    | none => simp [endingText] at heq
    | some e =>
      simp only [endingText, List.cons_append, List.append_assoc, List.cons.injEq, true_and,
        List.append_cancel_left_eq] at heq
      obtain ⟨hde, hrs⟩ := readsBack_bodyText trivial trivial trivial trivial heq
      exact ⟨congrArg some hde, hrs⟩

/-- A name with a parameter list; `c` and `opening` are what stands between them. -/
theorem name_params_append_inj {c : Char} (hc : isNameChar c = false) (opening : List Char)
    {x y : String} {ps qs : List Parameter} {r s : List Char} (hx : IsName x) (hy : IsName y)
    (hps : ∀ p ∈ ps, p.WellFormed) (hqs : ∀ q ∈ qs, q.WellFormed)
    (h : x.toList ++ c :: (opening ++ ((Parameter.listText ps).toList ++ ')' :: r)) =
      y.toList ++ c :: (opening ++ ((Parameter.listText qs).toList ++ ')' :: s))) :
    x = y ∧ ps = qs ∧ r = s := by
  obtain ⟨hxy, hrest⟩ := readsBack_name hx hy (stops_cons.mpr hc) (stops_cons.mpr hc) h
  simp only [List.cons.injEq, true_and, List.append_cancel_left_eq] at hrest
  obtain ⟨hpq, hrs⟩ := Parameter.readsBack_listText hps hqs rfl rfl hrest
  exact ⟨hxy, hpq, by simpa using hrs⟩

/-- The text of a method up to its parameter list. -/
def Method.headText (m : Method) : List Char :=
  indent.toList ++ (m.modifiers.methodPhrase.toList ++
    ' ' :: 'f' :: (['u', 'n', 'c', 't', 'i', 'o', 'n', ' '] ++
      (m.name.toList ++ '(' :: (Parameter.listText m.params).toList)))

theorem Method.toList_text_of_none {m : Method} (h : m.body = none) :
    m.text.toList = m.headText ++ [')'] := by
  simp [Method.text, headText, h]

theorem Method.toList_text_of_some {m : Method} {body : Digest} (h : m.body = some body) :
    m.text.toList = m.headText ++ ')' :: '\n' :: (indent.toList ++ "\x7b /* ".toList ++
      body.hex.toList ++ " */ ".toList) ++ ['\x7d'] := by
  simp [Method.text, headText, h, bodyText]

/-- A method without body ends in a parenthesis, so it gets its semicolon. -/
theorem Method.toList_methodLines (m : Method) :
    (ClassLike.methodLines m.text).toList =
      m.headText ++ ')' :: (endingText m.body ++ ['\n']) := by
  unfold ClassLike.methodLines
  cases h : m.body with
  | none =>
    rw [toList_text_of_none h, List.getLast?_concat, if_neg (by decide)]
    simp [toList_text_of_none h, endingText]
  | some body =>
    rw [toList_text_of_some h, List.getLast?_concat, if_pos rfl]
    simp [toList_text_of_some h, endingText, bodyText]

/-- What shows of a method is read back from its lines. -/
theorem Method.readsBack_methodLines :
    ReadsBack (fun m : Method => (ClassLike.methodLines m.text).toList) shown WellFormed
      (fun _ => True) := by
  intro m n r s hm hn _ _ heq
  simp only [toList_methodLines, headText, List.append_assoc, List.cons_append, List.nil_append,
    List.append_cancel_left_eq] at heq
  obtain ⟨hphrase, -, hname⟩ := phrase_append_inj (methodPhrase_mem _) (methodPhrase_mem _)
    (by decide) (by decide) heq
  simp only [List.cons.injEq, true_and] at hname
  obtain ⟨hname, hparams, hrest⟩ := name_params_append_inj (c := '(') rfl [] hm.isName hn.isName
    hm.params hn.params hname
  obtain ⟨hbody, hrs⟩ := readsBack_endingText trivial trivial trivial trivial hrest
  exact ⟨by rw [shown, shown, hphrase, hname, hparams, show m.body = n.body from hbody],
    by simpa using hrs⟩

/-! ## Constants and functions of a file -/

/-- A constant whose name and value are what they should be. -/
structure Define.WellFormed (d : Define) : Prop where
  isName : IsName d.name
  isValue : IsValue d.value

theorem Define.toList_text (d : Define) :
    d.text.toList = "define ".toList ++
      (d.name.toList ++ ' ' :: ' ' :: '=' :: ' ' :: (d.value.toList ++ [';'])) := by
  simp [Define.text]

/-- A constant is read back from its line. -/
theorem Define.readsBack_text :
    ReadsBack (fun d : Define => d.text.toList) id WellFormed (fun _ => True) := by
  intro d e r s hd he _ _ heq
  simp only [toList_text, List.append_assoc, List.cons_append, List.append_cancel_left_eq] at heq
  obtain ⟨hname, hrest⟩ := readsBack_name hd.isName he.isName (stops_cons.mpr (by decide))
    (stops_cons.mpr (by decide)) heq
  simp only [List.cons.injEq, true_and] at hrest
  obtain ⟨hvalue, hrs⟩ := readsBack_value hd.isValue he.isValue (stops_cons.mpr (by decide))
    (stops_cons.mpr (by decide)) hrest
  refine ⟨?_, by simpa using hrs⟩
  cases d
  cases e
  simp_all

/-- A function whose name and parameters are what they should be. -/
structure Function.WellFormed (f : Function) : Prop where
  isName : IsName f.name
  params : ∀ p ∈ f.params, p.WellFormed

theorem Function.toList_text (f : Function) :
    f.text.toList = "function ".toList ++ (f.name.toList ++ ' ' :: (['('] ++
      ((Parameter.listText f.params).toList ++ ')' :: '\n' :: (bodyText f.body).toList))) := by
  simp [Function.text]

/-- A function is read back from its lines. -/
theorem Function.readsBack_text :
    ReadsBack (fun f : Function => f.text.toList) id WellFormed (fun _ => True) := by
  intro f g r s hf hg _ _ heq
  simp only [toList_text, List.append_assoc, List.cons_append, List.append_cancel_left_eq] at heq
  obtain ⟨hname, hparams, hrest⟩ := name_params_append_inj (c := ' ') rfl ['('] hf.isName hg.isName
    hf.params hg.params heq
  rw [List.cons.injEq] at hrest
  obtain ⟨hbody, hrs⟩ := readsBack_bodyText trivial trivial trivial trivial hrest.2
  refine ⟨?_, hrs⟩
  cases f
  cases g
  simp_all

end SourceSig
