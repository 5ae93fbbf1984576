import SourceSig.Proofs.ClassLikeText
import SourceSig.Proofs.VisitOrder

/-!
# Signatures lose no declaration

A change that the text of a signature does not show is a change that nobody is told of.
`Signature.text_eq_iff_shown_eq` says what the text shows: the constants, the functions and the three
groups of class-likes, each in the order in which they were added, where of a class-like counts what
`ClassLike.Shown` holds.

The mark between two declarations is a blank line. It stands inside a class-like as well, so a text
cannot be cut at blank lines: the declarations are read one by one.
-/

namespace SourceSig

open Text (ReadsBack)

/-! ## Declarations -/

/-- The text of a record. -/
def Declaration.text : Declaration → String
  | .define d => d.text
  | .function f => f.text
  | .classLike c => c.text

/-- What the text of a declaration shows. -/
inductive Declaration.Shown where
  | define (d : Define)
  | function (f : Function)
  | classLike (c : ClassLike.Shown)

/-- What the text of a record shows. -/
def Declaration.shown : Declaration → Declaration.Shown
  | .define d => .define d
  | .function f => .function f
  | .classLike c => .classLike c.shown

namespace Declaration.Shown

/-- The constant that is shown. -/
def define? : Declaration.Shown → Option Define
  | .define d => some d
  | _ => none

/-- The function that is shown. -/
def function? : Declaration.Shown → Option Function
  | .function f => some f
  | _ => none

/-- A class-like of one of the given flavours. -/
def classLike? (p : Flavour → Bool) : Declaration.Shown → Option ClassLike.Shown
  | .classLike c => if p c.flavour then some c else none
  | _ => none

end Declaration.Shown

/-- A record whose names, types and values are what they should be. -/
def Declaration.WellFormed : Declaration → Prop
  | .define d => d.WellFormed
  | .function f => f.WellFormed
  | .classLike c => c.WellFormed

/-- The letters that a declaration may start with. -/
def Declaration.letters : Declaration → List Char
  | .define _ => ['d']
  | .function _ => ['f']
  | .classLike _ => ['i', 't', 'c', 'a']

/-- A record begins with a letter that tells its sort. -/
theorem Declaration.exists_text_eq_cons (d : Declaration) :
    ∃ c ∈ d.letters, ∃ t, d.text.toList = c :: t := by
  cases d with
  | define d => exact ⟨'d', by simp [letters], _, Define.toList_text d⟩
  | function f => exact ⟨'f', by simp [letters], _, Function.toList_text f⟩
  | classLike c =>
    have hkeyword : ∃ k ∈ ['i', 't', 'c', 'a'], ∃ t, c.flavour.keyword.toList = k :: t := by
      cases c.flavour <;> exact ⟨_, by decide, _, rfl⟩
    obtain ⟨k, hk, t, ht⟩ := hkeyword
    rw [text, ClassLike.toList_text, ClassLike.toList_header, ht]
    exact ⟨k, hk, _, rfl⟩

/-- Declarations of two sorts start with different letters. -/
theorem Declaration.append_ne {d e : Declaration} (h : ∀ c ∈ d.letters, c ∉ e.letters)
    (r s : List Char) : d.text.toList ++ r ≠ e.text.toList ++ s := by
  intro heq
  obtain ⟨c, hc, t, ht⟩ := d.exists_text_eq_cons
  obtain ⟨k, hk, u, hu⟩ := e.exists_text_eq_cons
  rw [ht, hu, List.cons_append, List.cons_append, List.cons.injEq] at heq
  exact h c hc (heq.1 ▸ hk)

/-- What shows of a record is read back from its text. -/
theorem Declaration.readsBack_text :
    ReadsBack (fun d : Declaration => d.text.toList) shown WellFormed (fun _ => True) := by
  intro d e r s hd he _ _ heq
  cases d with
  | define d =>
    cases e with
    | define e =>
      obtain ⟨hde, hrs⟩ := Define.readsBack_text hd he trivial trivial heq
      exact ⟨congrArg Shown.define hde, hrs⟩
    | function g => exact absurd heq (append_ne (by simp [letters]) r s)
    | classLike c => exact absurd heq (append_ne (by simp [letters]) r s)
  | function f =>
    cases e with
    | define e => exact absurd heq (append_ne (by simp [letters]) r s)
    | function g =>
      obtain ⟨hfg, hrs⟩ := Function.readsBack_text hd he trivial trivial heq
      exact ⟨congrArg Shown.function hfg, hrs⟩
    | classLike c => exact absurd heq (append_ne (by simp [letters]) r s)
  | classLike c =>
    cases e with
    | define e => exact absurd heq (append_ne (by simp [letters]) r s)
    | function g => exact absurd heq (append_ne (by simp [letters]) r s)
    | classLike c' =>
      obtain ⟨hcc, hrs⟩ := ClassLike.readsBack_text hd he trivial trivial heq
      exact ⟨congrArg Shown.classLike hcc, hrs⟩

namespace Signature

/-- The declarations in the order of the text. -/
def declarations (s : Signature) : List Declaration :=
  s.defines.map .define ++ s.functions.map .function ++
    ((s.ofFlavours (· = .interface)).map .classLike ++
      ((s.ofFlavours (· = .traitDecl)).map .classLike ++
        (s.ofFlavours Flavour.isClass).map .classLike))

/-- The text of a signature is that of its records, with blank lines between them. -/
theorem toList_text (s : Signature) :
    s.text.toList = ['\n', '\n'].intercalate (s.declarations.map fun d => d.text.toList) := by
  simp [text, sections, declarations, Declaration.text, Function.comp_def]

/-- The names in a signature are names and the values in it are values, as in all that is built of
such by adding declarations. -/
structure WellFormed (s : Signature) : Prop where
  defines : ∀ d ∈ s.defines, d.WellFormed
  functions : ∀ f ∈ s.functions, f.WellFormed
  classLikes : ∀ c ∈ s.classLikes, c.WellFormed

theorem WellFormed.empty : empty.WellFormed :=
  ⟨by simp [Signature.empty], by simp [Signature.empty], by simp [Signature.empty]⟩

theorem WellFormed.addDefine {s : Signature} (h : s.WellFormed) {d : Define} (hd : d.WellFormed) :
    (s.addDefine d).WellFormed :=
  ⟨List.forall_mem_append.mpr ⟨h.defines, List.forall_mem_singleton.mpr hd⟩, h.functions,
    h.classLikes⟩

theorem WellFormed.addFunction {s : Signature} (h : s.WellFormed) {f : Function}
    (hf : f.WellFormed) : (s.addFunction f).WellFormed :=
  ⟨h.defines, List.forall_mem_append.mpr ⟨h.functions, List.forall_mem_singleton.mpr hf⟩,
    h.classLikes⟩

/-- Adding a well-formed class-like keeps a signature well-formed. -/
theorem WellFormed.addClassLike {s : Signature} (h : s.WellFormed) {c : ClassLike}
    (hc : c.WellFormed) : (s.addClassLike c).WellFormed :=
  ⟨h.defines, h.functions,
    List.forall_mem_append.mpr ⟨h.classLikes, List.forall_mem_singleton.mpr hc⟩⟩

/-- All the records of a well-formed signature are well-formed. -/
theorem WellFormed.of_mem_declarations {s : Signature} (h : s.WellFormed) :
    ∀ d ∈ s.declarations, d.WellFormed := by
  intro d hd
  simp only [declarations, ofFlavours, List.mem_append, List.mem_map, List.mem_filter] at hd
  rcases hd with (⟨d, hd, rfl⟩ | ⟨f, hf, rfl⟩) | ⟨c, hc, rfl⟩ | ⟨c, hc, rfl⟩ | ⟨c, hc, rfl⟩
  · exact h.defines d hd
  · exact h.functions f hf
  · exact h.classLikes c hc.1
  · exact h.classLikes c hc.1
  · exact h.classLikes c hc.1

/-- Declarations with blank lines between them are read one by one, up to the end of the text. -/
theorem map_shown_eq_of_text_eq {s t : Signature} (hs : s.WellFormed) (ht : t.WellFormed)
    (h : s.text = t.text) :
    s.declarations.map Declaration.shown = t.declarations.map Declaration.shown := by
  have hread : ReadsBack
      (fun ds : List Declaration => ['\n', '\n'].intercalate (ds.map fun d => d.text.toList))
      (List.map Declaration.shown) (∀ d ∈ ·, d.WellFormed) (· = []) := by
    refine Declaration.readsBack_text.separated _ (fun _ _ => trivial) (fun _ => trivial) ?_ ?_
    · simp
    · intro d r _
      obtain ⟨c, -, t, ht⟩ := d.exists_text_eq_cons
      simp [ht]
  refine (hread hs.of_mem_declarations ht.of_mem_declarations rfl rfl ?_).1
  dsimp only
  rw [← toList_text, ← toList_text, h]

variable (s : Signature)

theorem filterMap_define? :
    (s.declarations.map Declaration.shown).filterMap Declaration.Shown.define? = s.defines := by
  simp [declarations, Declaration.shown, Declaration.Shown.define?, List.filterMap_map,
    Function.comp_def]

theorem filterMap_function? :
    (s.declarations.map Declaration.shown).filterMap Declaration.Shown.function? = s.functions := by
  simp [declarations, Declaration.shown, Declaration.Shown.function?, List.filterMap_map,
    Function.comp_def]

/-- A group of class-likes is taken as a whole or not at all. -/
theorem filterMap_ofFlavours {p q : Flavour → Bool} {taken : Bool} (h : ∀ f, q f → p f = taken) :
    ((s.ofFlavours q).filterMap fun c => if p c.flavour then some c.shown else none) =
      if taken then (s.ofFlavours q).map ClassLike.shown else [] := by
  have hgroup : ∀ c ∈ s.ofFlavours q, (if p c.flavour then some c.shown else none) =
      if taken then some c.shown else none := by
    intro c hc
    rw [h c.flavour (List.mem_filter.mp hc).2]
  rw [List.filterMap_congr hgroup]
  cases taken <;> simp

/-- The class-likes of some flavours are found again among the records, in the order of the text. -/
theorem filterMap_classLike? {p : Flavour → Bool} (h : p .abstractClass = p .concreteClass) :
    (s.declarations.map Declaration.shown).filterMap (Declaration.Shown.classLike? p) =
      (if p .interface then (s.ofFlavours (· = .interface)).map ClassLike.shown else []) ++
        ((if p .traitDecl then (s.ofFlavours (· = .traitDecl)).map ClassLike.shown else []) ++
          if p .concreteClass then (s.ofFlavours Flavour.isClass).map ClassLike.shown else []) := by
  rw [← filterMap_ofFlavours s (p := p) (q := (· = .interface)) (by simp),
    ← filterMap_ofFlavours s (p := p) (q := (· = .traitDecl)) (by simp),
    ← filterMap_ofFlavours s (p := p) (q := Flavour.isClass) (by
      intro f hf
      cases f <;> simp_all [Flavour.isClass])]
  simp [declarations, Declaration.shown, Declaration.Shown.classLike?, List.filterMap_map,
    Function.comp_def, ClassLike.shown]

/-- What the text of a signature shows. -/
@[ext] structure Shown where
  defines : List Define
  functions : List Function
  interfaces : List ClassLike.Shown
  traits : List ClassLike.Shown
  classes : List ClassLike.Shown

/-- What the text of a signature shows: the records by their category, each in its order. -/
def shown (s : Signature) : Shown where
  defines := s.defines
  functions := s.functions
  interfaces := (s.ofFlavours (· = .interface)).map ClassLike.shown
  traits := (s.ofFlavours (· = .traitDecl)).map ClassLike.shown
  classes := (s.ofFlavours Flavour.isClass).map ClassLike.shown

/-- Well-formed signatures with the same text show the same. -/
theorem shown_eq_of_text_eq {s t : Signature} (hs : s.WellFormed) (ht : t.WellFormed)
    (h : s.text = t.text) : s.shown = t.shown := by
  have hshown := map_shown_eq_of_text_eq hs ht h
  ext1
  · rw [shown, ← filterMap_define? s, hshown, filterMap_define?, shown]
  · rw [shown, ← filterMap_function? s, hshown, filterMap_function?, shown]
  · have hgroup := congrArg (List.filterMap (Declaration.Shown.classLike? (· = .interface))) hshown
    rw [filterMap_classLike? s rfl, filterMap_classLike? t rfl] at hgroup
    simpa [shown] using hgroup
  · have hgroup := congrArg (List.filterMap (Declaration.Shown.classLike? (· = .traitDecl))) hshown
    rw [filterMap_classLike? s rfl, filterMap_classLike? t rfl] at hgroup
    simpa [shown] using hgroup
  · have hgroup := congrArg (List.filterMap (Declaration.Shown.classLike? Flavour.isClass)) hshown
    rw [filterMap_classLike? s rfl, filterMap_classLike? t rfl] at hgroup
    simpa [shown, Flavour.isClass] using hgroup

theorem map_text_eq_of_map_shown_eq : ∀ {cs ds : List ClassLike},
    cs.map ClassLike.shown = ds.map ClassLike.shown → cs.map ClassLike.text = ds.map ClassLike.text
  | [], [], _ => rfl
  | c :: cs, d :: ds, h => by
    rw [List.map_cons, List.map_cons, List.cons.injEq] at h
    rw [List.map_cons, List.map_cons, ClassLike.text_eq_of_shown_eq h.1,
      map_text_eq_of_map_shown_eq h.2]

/-- Signatures that show the same have the same text. -/
theorem text_eq_of_shown_eq {s t : Signature} (h : s.shown = t.shown) : s.text = t.text := by
  obtain ⟨hdefines, hfunctions, hinterfaces, htraits, hclasses⟩ := Shown.mk.inj h
  rw [text, text, sections, sections, hdefines, hfunctions,
    map_text_eq_of_map_shown_eq hinterfaces, map_text_eq_of_map_shown_eq htraits,
    map_text_eq_of_map_shown_eq hclasses]

/-- Two signatures whose names are names and whose values are values have the same text exactly if
they have the same constants, the same functions, and interfaces, traits and classes with the same
headers and the same members up to order. -/
theorem text_eq_iff_shown_eq {s t : Signature} (hs : s.WellFormed) (ht : t.WellFormed) :
    s.text = t.text ↔ s.shown = t.shown :=
  ⟨shown_eq_of_text_eq hs ht, text_eq_of_shown_eq⟩

/-- A value that looks like the end of its line, and members in two orders, one of them under two
masks of one phrase. -/
theorem text_eq_iff_shown_eq_reordered :
    let value := Text.quote "1;\n\nclass B"
    let body : Digest := ⟨List.replicate 32 0, rfl⟩
    let param : Parameter := ⟨"p", some "?int", some value, true, false⟩
    let header := ClassLike.empty .concreteClass "\\A" ["\\B"] []
    let base := (empty.addDefine ⟨"X", value⟩).addFunction ⟨"\\f", [param], body⟩
    let s := base.addClassLike ((((header.addConstant "C" value).addConstant "D" "2").addProperty
      ⟨0⟩ "x" none).addMethod ⟨1⟩ "m" [param] (some body))
    let t := base.addClassLike ((((header.addConstant "D" "2").addMethod ⟨0⟩ "m" [param]
      (some body)).addConstant "C" value).addProperty ⟨1⟩ "x" none)
    s.WellFormed ∧ t.WellFormed ∧ (s.text = t.text ↔ s.shown = t.shown) := by
  intro value body param header base s t
  have hname : ∀ name ∈ ["X", "\\f", "p", "\\A", "\\B", "C", "D", "x", "m"], IsName name := by
    decide
  have hvalue : IsValue value := .inl ⟨_, rfl⟩
  have htwo : IsValue "2" := .inr (by simp [isValueChar])
  have hparams : ∀ p ∈ [param], p.WellFormed := by
    refine List.forall_mem_singleton.mpr ⟨hname "p" (by simp), ?_, ?_⟩
    · rintro _ ⟨⟩
      decide
    · rintro _ ⟨⟩
      exact hvalue
  have hheader : header.WellFormed :=
    .empty _ (hname "\\A" (by simp)) (by simpa using hname "\\B" (by simp)) (by simp)
  have hbase : base.WellFormed :=
    (WellFormed.empty.addDefine ⟨hname "X" (by simp), hvalue⟩).addFunction
      ⟨hname "\\f" (by simp), hparams⟩
  have hs : s.WellFormed := hbase.addClassLike <|
    (((hheader.addConstant (hname "C" (by simp)) hvalue).addConstant (hname "D" (by simp))
      htwo).addProperty _ (hname "x" (by simp)) (by simp)).addMethod _ _ (hname "m" (by simp)) hparams
  have ht : t.WellFormed := hbase.addClassLike <|
    (((hheader.addConstant (hname "D" (by simp)) htwo).addMethod _ _ (hname "m" (by simp))
      hparams).addConstant (hname "C" (by simp)) hvalue).addProperty _ (hname "x" (by simp)) (by simp)
  exact ⟨hs, ht, text_eq_iff_shown_eq hs ht⟩

end Signature

end SourceSig
