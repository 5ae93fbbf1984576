import SourceSig.Proofs.MemberText
import Mathlib.Data.Multiset.Basic
import Mathlib.Data.List.Perm.Basic

/-!
# The texts of class-likes

`ClassLike.Shown` is what the text of a class-like is meant to show: its header in order, and its
members up to their order and up to modifiers that have one phrase. `ClassLike.readsBack_text` says
that the text shows as much, and `ClassLike.text_eq_of_shown_eq` that it shows no more.

Members are indented, so the first closing brace at the start of a line ends a class-like. Inside,
nothing but the first words of a line tell constants, properties and methods apart.
-/

namespace SourceSig

open Text (Stops stops_cons isWordChar ReadsBack)

/-! ## Sorted lines -/

namespace ClassLike

/-- Sorted lines are the lines of the members in some order. -/
theorem exists_perm_sortLines {α : Type} (write : α → String) (xs : List α) :
    ∃ ys : List α, ys.Perm xs ∧ sortLines (xs.map write) = ys.map write := by
  have hlines : List.Forall₂ (fun line x => line = write x) (xs.map write) xs := by
    rw [List.forall₂_map_left_iff, List.forall₂_same]
    exact fun _ _ => rfl
  obtain ⟨ys, hys, hperm⟩ := List.perm_comp_forall₂ (List.mergeSort_perm _ _) hlines
  refine ⟨ys, hperm, ?_⟩
  rwa [← List.forall₂_eq_eq_eq, List.forall₂_map_right_iff]

variable {α β : Type} {write : α → String}

/-- Lines in the order of their bytes, each with its ending. -/
def sortedText (ending : String → List Char) (lines : List String) : List Char :=
  (sortLines lines).flatMap ending

/-- Sorted lines show the members but for their order, if each line with its ending shows its own. -/
theorem readsBack_sortedText {ending : String → List Char} {view : α → β} {Well : α → Prop}
    {End : List Char → Prop}
    (h : ReadsBack (fun x => ending (write x)) view Well (fun _ => True))
    (hne : ∀ x r, Well x → ¬End (ending (write x) ++ r)) :
    ReadsBack (fun xs : List α => sortedText ending (xs.map write))
      (fun xs => ((xs.map view : List β) : Multiset β)) (∀ x ∈ ·, Well x) End := by
  have hrow := h.row (fun _ _ => trivial) (fun _ _ _ => trivial) hne
  intro xs ys r s hxs hys hr hs heq
  obtain ⟨xs', hxperm, hxsort⟩ := exists_perm_sortLines write xs
  obtain ⟨ys', hyperm, hysort⟩ := exists_perm_sortLines write ys
  simp only [sortedText, hxsort, hysort, List.flatMap_map] at heq
  obtain ⟨hviews, hrs⟩ := hrow (fun x hx => hxs x (hxperm.mem_iff.mp hx))
    (fun y hy => hys y (hyperm.mem_iff.mp hy)) hr hs heq
  have hperm : (xs.map view).Perm (ys.map view) :=
    ((hxperm.map view).symm.trans (.of_eq hviews)).trans (hyperm.map view)
  exact ⟨Multiset.coe_eq_coe.mpr hperm, hrs⟩

/-- The text of a group of constants or properties, with a blank line after it. -/
def groupText (lines : List String) : List Char :=
  sortedText (fun line => line.toList ++ [';', '\n']) lines ++ if lines.isEmpty then [] else ['\n']

/-- The text of the methods, each with a blank line after it. -/
def methodsText (lines : List String) : List Char :=
  sortedText (fun line => (methodLines line).toList ++ ['\n']) lines

theorem toList_intercalate_concat (last : String) : ∀ lines : List String,
    ("\n".intercalate (lines ++ [last])).toList =
      (lines.flatMap fun line => line.toList ++ ['\n']) ++ last.toList
  | [] => by simp
  | line :: lines => by
    have ih := toList_intercalate_concat last lines
    rw [List.cons_append, String.intercalate_cons_of_ne_nil (by simp), String.toList_append,
      String.toList_append, ih]
    simp

theorem flatMap_groupLines (lines : List String) :
    ((groupLines lines).flatMap fun line => line.toList ++ ['\n']) = groupText lines := by
  cases lines with
  | nil => simp [groupLines, groupText, sortedText, sortLines]
  | cons line lines => simp [groupLines, groupText, sortedText, List.flatMap_map]

/-- The text of a class-like in its four parts, of which each says where it ends. -/
theorem toList_text (c : ClassLike) :
    c.text.toList = c.header.toList ++ '\n' :: (groupText (c.constants.map Constant.text) ++
      (groupText (c.properties.map Property.text) ++
        (methodsText (c.methods.map Method.text) ++ ['\x7d']))) := by
  rw [text, toList_intercalate_concat]
  simp only [List.cons_append, List.flatMap_cons, List.flatMap_append, flatMap_groupLines]
  simp [methodsText, sortedText, List.flatMap_map]

/-- A group shows its members but for their order, up to what is no line of the group. The blank
line after a group tells nothing: it is there if a member is. -/
theorem readsBack_groupText {view : α → β} {Well : α → Prop}
    (h : ReadsBack (fun x => (write x).toList) view Well (Stops isValueChar))
    (hindent : ∀ x, (write x).toList.head? = some ' ') :
    ReadsBack (fun xs : List α => groupText (xs.map write))
      (fun xs => ((xs.map view : List β) : Multiset β)) (∀ x ∈ ·, Well x)
      (fun r => ∀ x t, Well x → (write x).toList ++ t ≠ r) := by
  have hline : ReadsBack (fun x => (write x).toList ++ [';', '\n']) view Well fun _ => True := by
    intro x y r s hx hy _ _ heq
    simp only [List.append_assoc] at heq
    obtain ⟨hview, hrs⟩ := h hx hy (stops_cons.mpr rfl) (stops_cons.mpr rfl) heq
    exact ⟨hview, by simpa using hrs⟩
  have hsorted : ReadsBack
      (fun xs : List α => sortedText (fun line => line.toList ++ [';', '\n']) (xs.map write))
      (fun xs => ((xs.map view : List β) : Multiset β)) (∀ x ∈ ·, Well x)
      (fun r => ∀ x t, Well x → (write x).toList ++ t ≠ r) :=
    readsBack_sortedText hline fun x r hx hend => hend x ([';', '\n'] ++ r) hx (by simp)
  have hblank : ∀ (b : Bool) {r : List Char}, (∀ x t, Well x → (write x).toList ++ t ≠ r) →
      ∀ x t, Well x → (write x).toList ++ t ≠ (if b then [] else ['\n']) ++ r := by
    intro b r hr x t hx heq
    cases b with
    | true => exact hr x t hx heq
    | false =>
      have hhead := congrArg List.head? heq
      rw [List.head?_append, hindent x] at hhead
      simp at hhead
  intro xs ys r s hxs hys hr hs heq
  simp only [groupText, List.append_assoc] at heq
  obtain ⟨hviews, hrest⟩ := hsorted hxs hys (hblank _ hr) (hblank _ hs) heq
  have hempty : (xs.map write).isEmpty = (ys.map write).isEmpty := by
    have hlength := (Multiset.coe_eq_coe.mp hviews).length_eq
    cases xs <;> cases ys <;> simp_all
  rw [hempty, List.append_cancel_left_eq] at hrest
  exact ⟨hviews, hrest⟩

/-- The methods end at the closing brace. -/
theorem readsBack_methodsText :
    ReadsBack (fun ms : List Method => methodsText (ms.map Method.text))
      (fun ms => ((ms.map Method.shown : List Method.Shown) : Multiset Method.Shown))
      (∀ m ∈ ·, Method.WellFormed m) (fun r => r.head? = some '\x7d') := by
  refine readsBack_sortedText ?_ fun m r _ => ?_
  · intro m n r s hm hn _ _ heq
    simp only [List.append_assoc] at heq
    obtain ⟨hview, hrs⟩ := Method.readsBack_methodLines hm hn trivial trivial heq
    exact ⟨hview, by simpa using hrs⟩
  · simp [Method.toList_methodLines, Method.headText, indent]

/-! ## Headers -/

/-- The keyword of a flavour is told apart by the word before the first blank, and `abstract class`
by two. -/
theorem keyword_append_inj {f g : Flavour} {r s : List Char}
    (h : f.keyword.toList ++ ' ' :: r = g.keyword.toList ++ ' ' :: s) : f = g ∧ r = s := by
  cases f <;> cases g <;> simp_all [Flavour.keyword]

/-- Names with commas between them end at the end of their line. -/
theorem readsBack_names :
    ReadsBack (fun names : List String => (", ".intercalate names).toList) id (∀ name ∈ ·, IsName name)
      (fun r => r.head? = some '\n') := by
  have hnames : ReadsBack (fun names => [',', ' '].intercalate (names.map String.toList))
      (List.map id) (∀ name ∈ ·, IsName name) (fun r => r.head? = some '\n') := by
    refine readsBack_name.separated [',', ' '] ?_ ?_ ?_ ?_
    · intro r hr
      simp [Stops, hr, isNameChar, isWordChar]
    · exact fun r => stops_cons.mpr (by decide)
    · exact fun r => by simp
    · intro name r hname h
      cases hcs : name.toList with
      | nil => exact hname.1 (by simpa using hcs)
      | cons c cs =>
        obtain rfl : c = '\n' := by simpa [hcs] using h
        exact absurd (hname.2 '\n' (by simp [hcs])) (by decide)
  intro xs ys r s hxs hys hr hs heq
  have hxy := hnames hxs hys hr hs (by simpa using heq)
  simpa using hxy

/-- The start of a header line. -/
def headerStart (word : String) : List Char :=
  ("\n" ++ indent ++ word ++ " ").toList

theorem toList_headerLine (word : String) {names : List String} (h : names ≠ []) :
    (headerLine word names).toList = headerStart word ++ (", ".intercalate names).toList := by
  simp [headerLine, headerStart, h]

theorem toList_headerLine_nil (word : String) : (headerLine word []).toList = [] := by
  simp [headerLine]

/-- A header line that may be left out is read off what it starts with. -/
theorem readsBack_headerLine (word : String) :
    ReadsBack (fun names => (headerLine word names).toList) id (∀ name ∈ ·, IsName name)
      (fun r => r.head? = some '\n' ∧ ¬headerStart word <+: r) := by
  intro xs ys r s hxs hys ⟨hr, hrs⟩ ⟨hs, hss⟩ heq
  dsimp only at heq
  by_cases hx : xs = []
  · rw [hx, toList_headerLine_nil, List.nil_append] at heq
    by_cases hy : ys = []
    · rw [hy, toList_headerLine_nil, List.nil_append] at heq
      exact ⟨by rw [hx, hy], heq⟩
    · rw [toList_headerLine word hy, List.append_assoc] at heq
      exact absurd ⟨_, heq.symm⟩ hrs
  · by_cases hy : ys = []
    · rw [hy, toList_headerLine_nil, List.nil_append, toList_headerLine word hx,
        List.append_assoc] at heq
      exact absurd ⟨_, heq⟩ hss
    · simp only [toList_headerLine word hx, toList_headerLine word hy, List.append_assoc,
        List.append_cancel_left_eq] at heq
      exact readsBack_names hxs hys hr hs heq

/-- After the parents of a class-like come its interfaces or its opening brace. -/
theorem follow_parents (interfaces : List String) (r : List Char) :
    let rest := (headerLine "implements" interfaces).toList ++ '\n' :: '\x7b' :: r
    rest.head? = some '\n' ∧ ¬headerStart "extends" <+: rest := by
  by_cases h : interfaces = []
  · rw [h, toList_headerLine_nil]
    simp [headerStart, indent]
  · rw [toList_headerLine _ h]
    simp [headerStart, indent]

/-- What follows a header without interfaces is not taken for a line of them. -/
theorem follow_interfaces (r : List Char) :
    ('\n' :: '\x7b' :: r).head? = some '\n' ∧ ¬headerStart "implements" <+: '\n' :: '\x7b' :: r := by
  simp [headerStart, indent]

theorem toList_header (c : ClassLike) :
    c.header.toList = c.flavour.keyword.toList ++ ' ' :: (c.name.toList ++
      ((headerLine "extends" c.parents).toList ++
        ((headerLine "implements" c.interfaces).toList ++ ['\n', '\x7b']))) := by
  simp [header]

/-- The names in the header of a class-like. -/
structure HeaderWellFormed (c : ClassLike) : Prop where
  isName : IsName c.name
  parents : ∀ name ∈ c.parents, IsName name
  interfaces : ∀ name ∈ c.interfaces, IsName name

/-- A header shows the flavour and the names, in their order. -/
theorem readsBack_header :
    ReadsBack (fun c : ClassLike => c.header.toList)
      (fun c => (c.flavour, c.name, c.parents, c.interfaces)) HeaderWellFormed (fun _ => True) := by
  have hstop : ∀ {r : List Char}, r.head? = some '\n' → Stops isNameChar r := by
    intro r hr
    simp [Stops, hr, isNameChar, isWordChar]
  have hparents : ∀ (names : List String) {r : List Char}, r.head? = some '\n' →
      ((headerLine "extends" names).toList ++ r).head? = some '\n' := by
    intro names r hr
    by_cases h : names = []
    · rw [h, toList_headerLine_nil, List.nil_append, hr]
    · rw [toList_headerLine _ h]
      simp [headerStart]
  intro c d r s hc hd _ _ heq
  simp only [toList_header, List.append_assoc, List.cons_append, List.nil_append] at heq
  obtain ⟨hflavour, hname⟩ := keyword_append_inj heq
  obtain ⟨hname, hrest⟩ := readsBack_name hc.isName hd.isName
    (hstop (hparents _ (follow_parents _ r).1)) (hstop (hparents _ (follow_parents _ s).1)) hname
  obtain ⟨hparents, hrest⟩ := readsBack_headerLine "extends" hc.parents hd.parents
    (follow_parents _ r) (follow_parents _ s) hrest
  obtain ⟨hinterfaces, hrest⟩ := readsBack_headerLine "implements" hc.interfaces hd.interfaces
    (follow_interfaces r) (follow_interfaces s) hrest
  simp_all

/-! ## Bodies -/

/-- Sorted lines start with the line of one of the members. -/
theorem exists_sortedText_eq (ending : String → List Char) (write : α → String) {xs : List α}
    (h : xs ≠ []) :
    ∃ x t, sortedText ending (xs.map write) = ending (write x) ++ t := by
  obtain ⟨ys, hperm, hsort⟩ := exists_perm_sortLines write xs
  cases ys with
  | nil => exact absurd hperm.symm.eq_nil h
  | cons y ys =>
    refine ⟨y, ys.flatMap fun y => ending (write y), ?_⟩
    rw [sortedText, hsort, List.flatMap_map, List.flatMap_cons]

/-- A property or a method begins with one of two letters, and a constant with neither. -/
theorem head?_phrase : ∀ phrase ∈ phrases,
    phrase.toList.head? = some 'p' ∨ phrase.toList.head? = some '<' := by
  decide

/-- The line of a constant starts like no line with a phrase. -/
theorem constant_append_ne {phrase : String} (h : phrase ∈ phrases) (c : Constant)
    (t u : List Char) :
    c.text.toList ++ t ≠ indent.toList ++ (phrase.toList ++ u) := by
  intro heq
  rw [Constant.toList_text, List.append_assoc, List.append_cancel_left_eq] at heq
  have hhead : some 'c' = (phrase.toList ++ u).head? := congrArg List.head? heq
  rw [List.head?_append] at hhead
  rcases head?_phrase phrase h with hphrase | hphrase <;> simp [hphrase] at hhead

/-- The line of a property starts like no line of a method. -/
theorem property_append_ne (p : Property) (m : Method) (t u : List Char) :
    p.text.toList ++ t ≠ m.headText ++ u := by
  intro heq
  simp only [Property.toList_text, Method.headText, List.append_assoc, List.cons_append,
    List.append_cancel_left_eq] at heq
  obtain ⟨-, hmark, -⟩ := phrase_append_inj (propertyPhrase_mem _) (methodPhrase_mem _)
    (by decide) (by decide) heq
  exact absurd hmark (by decide)

/-- The methods of a class-like and what follows them. -/
theorem methodsText_cases (ms : List Method) (r : List Char) :
    methodsText (ms.map Method.text) ++ '\x7d' :: r = '\x7d' :: r ∨
      ∃ m t, methodsText (ms.map Method.text) ++ '\x7d' :: r = Method.headText m ++ t := by
  by_cases h : ms = []
  · exact .inl (by simp [h, methodsText, sortedText, sortLines])
  · obtain ⟨m, t, hm⟩ := exists_sortedText_eq
      (fun line => (methodLines line).toList ++ ['\n']) Method.text h
    refine .inr ⟨m, ')' :: (endingText m.body ++ '\n' :: '\n' :: (t ++ '\x7d' :: r)), ?_⟩
    rw [methodsText, hm, Method.toList_methodLines]
    simp

/-- No property is taken for a method. -/
theorem property_append_ne_methodsText (ms : List Method) (r : List Char) (p : Property)
    (t : List Char) : p.text.toList ++ t ≠ methodsText (ms.map Method.text) ++ '\x7d' :: r := by
  rcases methodsText_cases ms r with h | ⟨m, u, h⟩
  · rw [h, Property.toList_text]
    simp [indent]
  · rw [h]
    exact property_append_ne p m t u

/-- No constant is taken for a property or a method. -/
theorem constant_append_ne_groupText (ps : List Property) (ms : List Method) (r : List Char)
    (c : Constant) (t : List Char) : c.text.toList ++ t ≠
      groupText (ps.map Property.text) ++ (methodsText (ms.map Method.text) ++ '\x7d' :: r) := by
  by_cases hps : ps = []
  · have hgroup : groupText (ps.map Property.text) = [] := by
      simp [hps, groupText, sortedText, sortLines]
    rw [hgroup, List.nil_append]
    rcases methodsText_cases ms r with h | ⟨m, u, h⟩
    · rw [h, Constant.toList_text]
      simp [indent]
    · rw [h, Method.headText, List.append_assoc, List.append_assoc]
      exact constant_append_ne (methodPhrase_mem _) c t _
  · obtain ⟨p, u, hp⟩ := exists_sortedText_eq
      (fun line => line.toList ++ [';', '\n']) Property.text hps
    rw [groupText, hp, Property.toList_text]
    simp only [List.append_assoc]
    exact constant_append_ne (propertyPhrase_mem _) c t _

/-- What the text of a class-like shows. -/
@[ext] structure Shown where
  flavour : Flavour
  name : String
  parents : List String
  interfaces : List String
  constants : Multiset Constant
  properties : Multiset Property.Shown
  methods : Multiset Method.Shown

/-- What the text of a class-like shows. The order of the members of one sort does not show. -/
def shown (c : ClassLike) : Shown where
  flavour := c.flavour
  name := c.name
  parents := c.parents
  interfaces := c.interfaces
  constants := c.constants
  properties := (c.properties.map Property.shown : List Property.Shown)
  methods := (c.methods.map Method.shown : List Method.Shown)

/-- The names in a class-like are names and the values in it are values. Adding members keeps it so
(`WellFormed.addConstant`, `WellFormed.addProperty`, `WellFormed.addMethod`). -/
structure WellFormed (c : ClassLike) : Prop where
  header : c.HeaderWellFormed
  constants : ∀ constant ∈ c.constants, constant.WellFormed
  properties : ∀ property ∈ c.properties, property.WellFormed
  methods : ∀ method ∈ c.methods, method.WellFormed

/-- A class-like without members is well-formed if its header is. -/
theorem WellFormed.empty (flavour : Flavour) {name : String} {parents interfaces : List String}
    (hname : IsName name) (hparents : ∀ parent ∈ parents, IsName parent)
    (hinterfaces : ∀ interface ∈ interfaces, IsName interface) :
    (empty flavour name parents interfaces).WellFormed where
  header := by
    refine ⟨hname, fun parent h => ?_, fun interface h => ?_⟩
    · have hmem : flavour ≠ .traitDecl ∧ parent ∈ parents := by simpa [ClassLike.empty] using h
      exact hparents parent hmem.2
    · have hmem : flavour.isClass ∧ interface ∈ interfaces := by simpa [ClassLike.empty] using h
      exact hinterfaces interface hmem.2
  constants := by simp [ClassLike.empty]
  properties := by simp [ClassLike.empty]
  methods := by simp [ClassLike.empty]

theorem WellFormed.addConstant {c : ClassLike} (h : c.WellFormed) {name value : String}
    (hname : IsName name) (hvalue : IsValue value) : (c.addConstant name value).WellFormed :=
  ⟨⟨h.header.1, h.header.2, h.header.3⟩,
    List.forall_mem_append.mpr ⟨h.constants, List.forall_mem_singleton.mpr ⟨hname, hvalue⟩⟩,
    h.properties, h.methods⟩

/-- Adding a property keeps a class-like well-formed, also where an empty default is left out. -/
theorem WellFormed.addProperty {c : ClassLike} (h : c.WellFormed) (modifiers : Modifiers)
    {name : String} {default : Option String} (hname : IsName name)
    (hdefault : ∀ value ∈ default, IsValue value) :
    (c.addProperty modifiers name default).WellFormed := by
  have hkept : ∀ value ∈ default.bind nonEmpty, IsValue value := by
    intro value hvalue
    obtain ⟨v, hv, hne⟩ := Option.bind_eq_some_iff.mp hvalue
    unfold nonEmpty at hne
    split at hne
    · cases hne
    · exact hdefault value (by simpa [hv] using hne)
  exact ⟨⟨h.header.1, h.header.2, h.header.3⟩, h.constants,
    List.forall_mem_append.mpr ⟨h.properties, List.forall_mem_singleton.mpr ⟨hname, hkept⟩⟩,
    h.methods⟩

/-- Adding a method keeps a class-like well-formed, whether its body is kept or not. -/
theorem WellFormed.addMethod {c : ClassLike} (h : c.WellFormed) (modifiers : Modifiers)
    {name : String} {params : List Parameter} (body : Option Digest) (hname : IsName name)
    (hparams : ∀ p ∈ params, p.WellFormed) :
    (c.addMethod modifiers name params body).WellFormed :=
  ⟨⟨h.header.1, h.header.2, h.header.3⟩, h.constants, h.properties,
    List.forall_mem_append.mpr ⟨h.methods, List.forall_mem_singleton.mpr ⟨hname, hparams⟩⟩⟩

/-- The text of a class-like shows its header and its members, and where it ends. -/
theorem readsBack_text :
    ReadsBack (fun c : ClassLike => c.text.toList) shown WellFormed (fun _ => True) := by
  intro c d r s hc hd _ _ heq
  simp only [toList_text, List.append_assoc, List.cons_append, List.nil_append] at heq
  obtain ⟨hheader, hrest⟩ := readsBack_header hc.header hd.header trivial trivial heq
  rw [List.cons.injEq] at hrest
  -- A group is read up to the first line that cannot be one of its own.
  obtain ⟨hconstants, hrest⟩ := readsBack_groupText Constant.readsBack_text
    (fun c => by simp [Constant.toList_text, indent]) hc.constants hd.constants
    (fun c t _ => constant_append_ne_groupText _ _ r c t)
    (fun c t _ => constant_append_ne_groupText _ _ s c t) hrest.2
  obtain ⟨hproperties, hrest⟩ := readsBack_groupText Property.readsBack_text
    (fun p => by simp [Property.toList_text, indent]) hc.properties hd.properties
    (fun p t _ => property_append_ne_methodsText _ r p t)
    (fun p t _ => property_append_ne_methodsText _ s p t) hrest
  obtain ⟨hmethods, hrest⟩ := readsBack_methodsText hc.methods hd.methods rfl rfl hrest
  rw [List.cons.injEq] at hrest
  simp only [Prod.mk.injEq] at hheader
  refine ⟨?_, hrest.2⟩
  ext1
  · exact hheader.1
  · exact hheader.2.1
  · exact hheader.2.2.1
  · exact hheader.2.2.2
  · simpa [shown] using hconstants
  · exact hproperties
  · exact hmethods

/-! ## Nothing else is shown -/

/-- Sorting forgets the order. -/
theorem sortLines_eq_of_perm {a b : List String} (h : a.Perm b) : sortLines a = sortLines b := by
  have hsorted : ∀ lines : List String,
      (sortLines lines).Pairwise fun x y => decide (x ≤ y) = true := by
    intro lines
    refine List.pairwise_mergeSort ?_ ?_ lines
    · intro x y z hxy hyz
      simp only [decide_eq_true_eq] at hxy hyz ⊢
      exact String.le_trans hxy hyz
    · intro x y
      simpa using String.le_total x y
  refine List.Perm.eq_of_pairwise ?_ (hsorted a) (hsorted b) ?_
  · intro x y _ _ hxy hyx
    exact String.le_antisymm (of_decide_eq_true hxy) (of_decide_eq_true hyx)
  · exact ((List.mergeSort_perm a _).trans h).trans (List.mergeSort_perm b _).symm

/-- The lines of a group are sorted, so the order of the members does not show. -/
theorem groupLines_eq_of_perm {a b : List String} (h : a.Perm b) : groupLines a = groupLines b := by
  have hempty : a.isEmpty = b.isEmpty := by
    have hlength := h.length_eq
    cases a <;> cases b <;> simp_all
  rw [groupLines, groupLines, hempty, sortLines_eq_of_perm h]

/-- Members that show the same have the same text. -/
theorem perm_map_text {view : α → β} {text : β → String} (h : ∀ x, write x = text (view x))
    {xs ys : List α} (hperm : ((xs.map view : List β) : Multiset β) = (ys.map view : List β)) :
    (xs.map write).Perm (ys.map write) := by
  have hmap : ∀ zs : List α, zs.map write = (zs.map view).map text := by
    intro zs
    simp [h]
  rw [hmap, hmap]
  exact (Multiset.coe_eq_coe.mp hperm).map text

/-- Class-likes that show the same have the same text. -/
theorem text_eq_of_shown_eq {c d : ClassLike} (h : c.shown = d.shown) : c.text = d.text := by
  obtain ⟨hflavour, hname, hparents, hinterfaces, hconstants, hproperties, hmethods⟩ :=
    Shown.mk.inj h
  have hheader : c.header = d.header := by
    rw [header, header, hflavour, hname, hparents, hinterfaces]
  rw [text, text, hheader,
    groupLines_eq_of_perm ((Multiset.coe_eq_coe.mp hconstants).map Constant.text),
    groupLines_eq_of_perm (perm_map_text Property.text_eq hproperties),
    sortLines_eq_of_perm (perm_map_text Method.text_eq hmethods)]

end ClassLike

end SourceSig
