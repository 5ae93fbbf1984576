import SourceSig.Proofs.Outcomes
import SourceSig.Proofs.PositionErasure
import Mathlib.Data.List.Nodup

/-!
# What decoding accepts and keeps

A document is decoded entry by entry, and the first object with a bad tag is the fault of the whole.
`Json.Reaches` are the values that are looked at on the way: everything but the positions of nodes.
`Json.normalForm` is a document as a tree shows it, with the tag of each node first, without
positions, and with integers of more than 64 bits as floating-point numbers.

* `Value.exists_ofJson_eq_ok_iff` : a document is accepted if every tag that is reached is a text.
* `Value.toJson_of_ofJson` : what is written back is the normal form of the document.
* `Value.Holds.fieldsProper` : no node of the tree has two fields of one name, or a field that is
  named like its tag or its position.

`Node.ofJson_ok_iff_and_toJson_eq` puts the three together for the document of one node.
-/

namespace SourceSig

/-! ## Documents -/

/-- An object with the entry of a tag stands for a node. -/
def HasTag (entries : List (String × Json)) : Prop :=
  ∃ w, (tagKey, w) ∈ entries

/-- The entry of a tag, if there is one, is a text. -/
def TagIsText (entries : List (String × Json)) : Prop :=
  ∀ w, (tagKey, w) ∈ entries → ∃ tag, w = .str tag

/-- Each key has one entry. -/
def KeysDistinct (entries : List (String × Json)) : Prop :=
  (entries.map Prod.fst).Nodup

/-- The entries of a node that are neither its tag nor its position. -/
def fieldEntries {α : Type} (entries : List (String × α)) : List (String × α) :=
  entries.filter fun e => e.1 ≠ tagKey ∧ e.1 ≠ linesKey

/-- The values that are looked at when a document is decoded, itself included. The position of a
node is not looked into; an entry of that name in a keyed array is. -/
inductive Json.Reaches : Json → Json → Prop
  | refl (v : Json) : Reaches v v
  | item {items : List Json} {v w : Json} : v ∈ items → Reaches v w → Reaches (.arr items) w
  | entry {entries : List (String × Json)} {key : String} {v w : Json} : (key, v) ∈ entries →
      ¬(key = linesKey ∧ HasTag entries) → Reaches v w → Reaches (.obj entries) w

/-- Every object that is reached has entries of a sort. -/
def Json.EveryObject (P : List (String × Json) → Prop) (v : Json) : Prop :=
  ∀ entries, v.Reaches (.obj entries) → P entries

/-- An integer of 64 bits stays one, and any other is the nearest floating-point number. -/
def Json.Number.normalForm : Json.Number → Json.Number
  | .int i =>
    if Int64.minValue.toInt ≤ i ∧ i ≤ Int64.maxValue.toInt then .int i
    else .float (.ofRatio (i < 0) i.natAbs 1)
  | .float x => .float x

mutual

/-- A document with the tag of each node first, without the positions of nodes, and with integers of
more than 64 bits as floating-point numbers. -/
def Json.normalForm : Json → Json
  | .null => .null
  | .bool b => .bool b
  | .num n => .num n.normalForm
  | .str s => .str s
  | .arr items => .arr (Json.itemsNormalForm items)
  | .obj entries =>
    match valueOf? tagKey entries with
    | some tag => .obj ((tagKey, tag) :: fieldEntries (Json.entriesNormalForm entries))
    | none => .obj (Json.entriesNormalForm entries)

/-- The normal forms of the elements of a list. -/
def Json.itemsNormalForm : List Json → List Json
  | [] => []
  | v :: vs => v.normalForm :: Json.itemsNormalForm vs

/-- The normal forms of the values of some entries, with their keys. -/
def Json.entriesNormalForm : List (String × Json) → List (String × Json)
  | [] => []
  | (key, v) :: rest => (key, v.normalForm) :: Json.entriesNormalForm rest

end

/-- A fact about documents holds of a list or an object because it holds of what is right inside. -/
@[elab_as_elim]
theorem Json.induction {motive : Json → Prop} (null : motive .null) (bool : ∀ b, motive (.bool b))
    (num : ∀ n, motive (.num n)) (str : ∀ s, motive (.str s))
    (arr : ∀ items, (∀ v ∈ items, motive v) → motive (.arr items))
    (obj : ∀ entries, (∀ e ∈ entries, motive e.2) → motive (.obj entries)) (v : Json) : motive v :=
  match v with
  | .null => null
  | .bool b => bool b
  | .num n => num n
  | .str s => str s
  | .arr items => arr items fun w _ => Json.induction null bool num str arr obj w
  | .obj entries => obj entries fun e _ => Json.induction null bool num str arr obj e.2
termination_by sizeOf v
decreasing_by
  · have hlt := List.sizeOf_lt_of_mem ‹w ∈ items›
    simp
    omega
  · have hlt := List.sizeOf_lt_of_mem ‹e ∈ entries›
    obtain ⟨key, w⟩ := e
    simp at hlt ⊢
    omega

theorem Json.itemsNormalForm_eq_map (vs : List Json) :
    Json.itemsNormalForm vs = vs.map Json.normalForm := by
  induction vs with
  | nil => rfl
  | cons v vs ih => rw [Json.itemsNormalForm, ih, List.map_cons]

theorem Json.entriesNormalForm_eq_map (entries : List (String × Json)) :
    Json.entriesNormalForm entries = entries.map fun e => (e.1, e.2.normalForm) := by
  induction entries with
  | nil => rfl
  | cons e es ih => rw [Json.entriesNormalForm, ih, List.map_cons]

theorem fieldEntries_map {α β : Type} (f : α → β) (entries : List (String × α)) :
    fieldEntries (entries.map fun e => (e.1, f e.2)) =
      (fieldEntries entries).map fun e => (e.1, f e.2) := by
  unfold fieldEntries
  rw [List.filter_map]
  rfl

/-- The entries that become fields are all but the tag and the attributes. -/
theorem mem_fieldEntries {α : Type} {entries : List (String × α)} {e : String × α} :
    e ∈ fieldEntries entries ↔ e ∈ entries ∧ e.1 ≠ tagKey ∧ e.1 ≠ linesKey := by
  simp [fieldEntries]

theorem mem_of_valueOf? {key : String} {entries : List (String × Json)} {w : Json}
    (h : valueOf? key entries = some w) : (key, w) ∈ entries := by
  obtain ⟨⟨k, x⟩, hfind, rfl⟩ := Option.map_eq_some_iff.mp h
  obtain rfl : k = key := by simpa using List.find?_some hfind
  exact List.mem_of_find?_eq_some hfind

/-- A tag is found where there is one. -/
theorem isSome_valueOf?_iff {entries : List (String × Json)} :
    (valueOf? tagKey entries).isSome ↔ HasTag entries := by
  constructor
  · intro h
    obtain ⟨w, hw⟩ := Option.isSome_iff_exists.mp h
    exact ⟨w, mem_of_valueOf? hw⟩
  · rintro ⟨w, hw⟩
    rw [valueOf?, Option.isSome_map, List.find?_isSome]
    exact ⟨_, hw, by simp⟩

/-! ## One step of decoding -/

/-- A field of the tree stands for an entry of the document. -/
def EntryDecodes (e : String × Json) (f : String × Value) : Prop :=
  f.1 = e.1 ∧ Value.ofJson e.2 = .ok f.2

/-- A list is decoded exactly if each of its elements is, in their order. -/
theorem Value.ofItems_eq_ok_iff : ∀ {vs : List Json} {xs : List Value},
    Value.ofItems vs = .ok xs ↔ List.Forall₂ (fun v x => Value.ofJson v = .ok x) vs xs
  | [], xs => by
    rw [Value.ofItems, List.forall₂_nil_left_iff, Except.ok.injEq, eq_comm]
  | v :: vs, xs => by
    rw [Value.ofItems, List.forall₂_cons_left_iff]
    simp only [bind_eq_ok_iff, pure_eq_ok_iff, Value.ofItems_eq_ok_iff]
    grind

theorem Value.ofEntries_cons_eq_ok_iff {key : String} {v : Json} {rest : List (String × Json)}
    {fields : List (String × Value)} : Value.ofEntries ((key, v) :: rest) = .ok fields ↔
      ∃ w fs, Value.ofJson v = .ok w ∧ Value.ofEntries rest = .ok fs ∧ (key, w) :: fs = fields := by
  rw [Value.ofEntries]
  simp only [bind_eq_ok_iff, pure_eq_ok_iff]
  grind

/-- Entries are decoded exactly if each of their values is, under its key and in their order. -/
theorem Value.ofEntries_eq_ok_iff :
    ∀ {entries : List (String × Json)} {fields : List (String × Value)},
    Value.ofEntries entries = .ok fields ↔ List.Forall₂ EntryDecodes entries fields
  | [], fields => by
    rw [Value.ofEntries, List.forall₂_nil_left_iff, Except.ok.injEq, eq_comm]
  | (key, v) :: rest, fields => by
    rw [Value.ofEntries_cons_eq_ok_iff, List.forall₂_cons_left_iff]
    simp only [Value.ofEntries_eq_ok_iff, EntryDecodes, Prod.exists]
    grind

theorem tagIsText_cons {key : String} {v : Json} {rest : List (String × Json)} :
    TagIsText ((key, v) :: rest) ↔ (key = tagKey → ∃ tag, v = .str tag) ∧ TagIsText rest := by
  unfold TagIsText
  grind

/-- The fields of a node are its other entries, and its tag has to be a text. -/
theorem Node.fieldsOf_eq_ok_iff {fields : List (String × Value)} {entries : List (String × Json)} :
    Node.fieldsOf entries = .ok fields ↔
      TagIsText entries ∧ Value.ofEntries (fieldEntries entries) = .ok fields := by
  induction entries generalizing fields with
  | nil => simp [TagIsText, fieldEntries, Node.fieldsOf, Value.ofEntries]
  | cons e rest ih =>
    obtain ⟨key, v⟩ := e
    rw [tagIsText_cons]
    by_cases htag : key = tagKey
    · have hdrop : fieldEntries ((key, v) :: rest) = fieldEntries rest := by
        simp [fieldEntries, htag]
      rw [hdrop, Node.fieldsOf.eq_def]
      simp only [htag, if_true]
      cases v with
      | str tag => simp [ih]
      | _ => simp
    by_cases hlines : key = linesKey
    · have hdrop : fieldEntries ((key, v) :: rest) = fieldEntries rest := by
        simp [fieldEntries, hlines]
      rw [hdrop, hlines, Node.fieldsOf_cons_lines, ih]
      simp [tagKey_ne_linesKey.symm]
    · have hkeep : fieldEntries ((key, v) :: rest) = (key, v) :: fieldEntries rest := by
        simp [fieldEntries, htag, hlines]
      rw [hkeep, Node.fieldsOf_cons_field htag hlines, Value.ofEntries_cons_eq_ok_iff]
      simp only [bind_eq_ok_iff, pure_eq_ok_iff, ih]
      grind

/-- What it takes for an object to be a node, and what node it is then. -/
theorem Node.ofJson_obj_eq_ok_iff {entries : List (String × Json)} {n : Node} :
    Node.ofJson (.obj entries) = .ok n ↔
      TagIsText entries ∧ valueOf? tagKey entries = some (.str n.tag) ∧
        Value.ofEntries (fieldEntries entries) = .ok n.fields ∧
        n.lines = ((valueOf? linesKey entries).map Lines.ofJson).getD {} := by
  obtain ⟨tag, fields, lines⟩ := n
  rw [Node.ofJson]
  simp only [bind_eq_ok_iff, Node.fieldsOf_eq_ok_iff, Node.ofParts]
  cases valueOf? tagKey entries with
  | none => simp
  | some w =>
    cases w with
    | str s => simp; grind
    | _ => simp

theorem Value.ofJson_arr (items : List Json) :
    Value.ofJson (.arr items) = Value.list <$> Value.ofItems items := by
  rw [Value.ofJson, map_eq_pure_bind]

/-- An object with a tag is decoded as a node. -/
theorem Value.ofJson_obj_of_hasTag {entries : List (String × Json)} (h : HasTag entries) :
    Value.ofJson (.obj entries) = Value.node <$> Node.ofJson (.obj entries) := by
  rw [Value.ofJson, if_pos (isSome_valueOf?_iff.mpr h), Node.ofJson, map_eq_pure_bind, bind_assoc]

/-- An object without a tag is decoded as a keyed array. -/
theorem Value.ofJson_obj_of_not_hasTag {entries : List (String × Json)} (h : ¬HasTag entries) :
    Value.ofJson (.obj entries) = Value.map <$> Value.ofEntries entries := by
  rw [Value.ofJson, if_neg (mt isSome_valueOf?_iff.mp h), map_eq_pure_bind]

/-! ## Acceptance -/

namespace Json

variable {P : List (String × Json) → Prop} {items : List Json} {entries : List (String × Json)}

theorem everyObject_num (n : Number) : (num n).EveryObject P :=
  fun _ h => nomatch h

theorem everyObject_str (s : String) : (str s).EveryObject P :=
  fun _ h => nomatch h

/-- The objects reached in a list are those reached in its elements. -/
theorem everyObject_arr_iff : (arr items).EveryObject P ↔ ∀ v ∈ items, v.EveryObject P := by
  constructor
  · exact fun h v hv entries hreach => h entries (.item hv hreach)
  · intro h entries hreach
    cases hreach with
    | item hv hreach => exact h _ hv entries hreach

/-- The objects reached in an object are itself and those in its values, where the attributes of a
node are not looked into. -/
theorem everyObject_obj_iff : (obj entries).EveryObject P ↔ P entries ∧
    ∀ e ∈ entries, ¬(e.1 = linesKey ∧ HasTag entries) → e.2.EveryObject P := by
  constructor
  · exact fun h => ⟨h entries (.refl _), fun e he hread es hreach => h es (.entry he hread hreach)⟩
  · rintro ⟨hP, h⟩ es hreach
    cases hreach with
    | refl => exact hP
    | entry he hread hreach => exact h _ he hread es hreach

/-- A keyed array has no tag that could be wrong. -/
theorem tagIsText_of_not_hasTag (h : ¬HasTag entries) :
    (obj entries).EveryObject TagIsText ↔ ∀ e ∈ entries, e.2.EveryObject TagIsText := by
  have htag : TagIsText entries := fun w hw => absurd ⟨w, hw⟩ h
  simp [everyObject_obj_iff, htag, h]

/-- Of a node its tag and its fields count. -/
theorem tagIsText_of_hasTag (h : HasTag entries) : (obj entries).EveryObject TagIsText ↔
    TagIsText entries ∧ ∀ e ∈ fieldEntries entries, e.2.EveryObject TagIsText := by
  rw [everyObject_obj_iff]
  refine and_congr_right fun htag => ⟨fun hall e he => ?_, fun hall e he hread => ?_⟩
  · obtain ⟨he, -, hlines⟩ := mem_fieldEntries.mp he
    exact hall e he fun hread => hlines hread.1
  · obtain ⟨key, v⟩ := e
    by_cases hkey : key = tagKey
    · subst hkey
      obtain ⟨tag, rfl⟩ := htag v he
      exact everyObject_str tag
    · exact hall (key, v) (mem_fieldEntries.mpr ⟨he, hkey, fun hlines => hread ⟨hlines, h⟩⟩)

end Json

theorem Value.exists_ofEntries_eq_ok_iff {entries : List (String × Json)} :
    (∃ fields, Value.ofEntries entries = .ok fields) ↔
      ∀ e ∈ entries, ∃ x, Value.ofJson e.2 = .ok x := by
  simp only [Value.ofEntries_eq_ok_iff, exists_forall₂_iff, EntryDecodes, Prod.exists,
    exists_and_left, exists_eq_left]

theorem exists_valueOf?_eq_str {entries : List (String × Json)} (h : HasTag entries)
    (htag : TagIsText entries) : ∃ tag, valueOf? tagKey entries = some (.str tag) := by
  obtain ⟨w, hw⟩ := Option.isSome_iff_exists.mp (isSome_valueOf?_iff.mpr h)
  obtain ⟨tag, rfl⟩ := htag w (mem_of_valueOf? hw)
  exact ⟨tag, hw⟩

/-- An object is a node exactly if it has a tag that is a text, and its fields are decoded. -/
theorem Node.exists_ofJson_obj_eq_ok_iff {entries : List (String × Json)} :
    (∃ n, Node.ofJson (.obj entries) = .ok n) ↔ HasTag entries ∧ TagIsText entries ∧
      ∀ e ∈ fieldEntries entries, ∃ x, Value.ofJson e.2 = .ok x := by
  simp only [Node.ofJson_obj_eq_ok_iff, ← Value.exists_ofEntries_eq_ok_iff]
  constructor
  · rintro ⟨n, htag, hvalue, hfields, -⟩
    exact ⟨⟨_, mem_of_valueOf? hvalue⟩, htag, n.fields, hfields⟩
  · rintro ⟨h, htag, fields, hfields⟩
    obtain ⟨tag, hvalue⟩ := exists_valueOf?_eq_str h htag
    exact ⟨⟨tag, fields, _⟩, htag, hvalue, hfields, rfl⟩

/-- A document is accepted exactly if every tag that is reached is a text. -/
theorem Value.exists_ofJson_eq_ok_iff (v : Json) :
    (∃ x, Value.ofJson v = .ok x) ↔ v.EveryObject TagIsText := by
  induction v using Json.induction with
  | null | bool b | num n | str s => exact iff_of_true ⟨_, rfl⟩ fun _ h => nomatch h
  | arr items ih =>
    rw [Value.ofJson_arr, exists_map_eq_ok_iff, Json.everyObject_arr_iff]
    simp only [Value.ofItems_eq_ok_iff, exists_forall₂_iff]
    exact forall₂_congr ih
  | obj entries ih =>
    by_cases h : HasTag entries
    · rw [Value.ofJson_obj_of_hasTag h, exists_map_eq_ok_iff, Node.exists_ofJson_obj_eq_ok_iff,
        Json.tagIsText_of_hasTag h, and_iff_right h]
      exact and_congr_right fun _ => forall₂_congr fun e he => ih e (mem_fieldEntries.mp he).1
    · rw [Value.ofJson_obj_of_not_hasTag h, exists_map_eq_ok_iff, Json.tagIsText_of_not_hasTag h,
        Value.exists_ofEntries_eq_ok_iff]
      exact forall₂_congr ih

/-! ## Writing back -/

theorem Value.itemsToJson_eq_map (xs : List Value) :
    Value.itemsToJson xs = xs.map Value.toJson := by
  induction xs with
  | nil => rfl
  | cons x xs ih => rw [Value.itemsToJson, ih, List.map_cons]

theorem Value.entriesToJson_eq_map (fields : List (String × Value)) :
    Value.entriesToJson fields = fields.map fun f => (f.1, f.2.toJson) := by
  induction fields with
  | nil => rfl
  | cons f fs ih => rw [Value.entriesToJson, ih, List.map_cons]

/-- A number is written back in its normal form. -/
theorem Value.toJson_ofNumber (n : Json.Number) :
    (Value.ofNumber n).toJson = .num n.normalForm := by
  cases n with
  | float x => rfl
  | int i =>
    simp only [Value.ofNumber, int64OfInt?, Json.Number.normalForm]
    split_ifs with h
    · have hlt : i < 2 ^ 63 := Int.lt_of_le_of_lt h.2 (by decide)
      rw [Value.toJson, Int64.toInt_ofInt_of_le h.1 hlt]
    · rfl

/-- Entries are written back in their normal form if their values are. -/
theorem entriesToJson_of_ofEntries {entries : List (String × Json)} {fields : List (String × Value)}
    (h : Value.ofEntries entries = .ok fields)
    (hvalues : ∀ e ∈ entries, ∀ x, Value.ofJson e.2 = .ok x → x.toJson = e.2.normalForm) :
    Value.entriesToJson fields = entries.map fun e => (e.1, e.2.normalForm) := by
  rw [Value.entriesToJson_eq_map]
  refine map_eq_map_of_forall₂ (Value.ofEntries_eq_ok_iff.mp h) fun e he f hf => ?_
  rw [hf.1, hvalues e he f.2 hf.2]

/-- A node is written back in normal form, if the values in it are. -/
theorem toJson_of_ofJson_obj {entries : List (String × Json)} {n : Node}
    (h : Node.ofJson (.obj entries) = .ok n)
    (hvalues : ∀ e ∈ entries, ∀ x, Value.ofJson e.2 = .ok x → x.toJson = e.2.normalForm) :
    n.toJson = (Json.obj entries).normalForm := by
  obtain ⟨-, htag, hfields, -⟩ := Node.ofJson_obj_eq_ok_iff.mp h
  have hwritten := entriesToJson_of_ofEntries hfields fun e he =>
    hvalues e (mem_fieldEntries.mp he).1
  obtain ⟨tag, fields, lines⟩ := n
  rw [Node.toJson, Json.normalForm, htag, hwritten, Json.entriesNormalForm_eq_map, fieldEntries_map]

/-- What is written back from a tree is the normal form of its document. -/
theorem Value.toJson_of_ofJson {v : Json} {x : Value} (h : Value.ofJson v = .ok x) :
    x.toJson = v.normalForm := by
  induction v using Json.induction generalizing x with
  | null | bool b | str s =>
    obtain rfl := Except.ok.inj h
    rfl
  | num n =>
    obtain rfl := Except.ok.inj h
    exact Value.toJson_ofNumber n
  | arr items ih =>
    rw [Value.ofJson_arr, map_eq_ok_iff] at h
    obtain ⟨xs, hxs, rfl⟩ := h
    rw [Value.toJson, Json.normalForm, Value.itemsToJson_eq_map, Json.itemsNormalForm_eq_map]
    rw [map_eq_map_of_forall₂ (Value.ofItems_eq_ok_iff.mp hxs) fun v hv x hx => ih v hv hx]
  | obj entries ih =>
    by_cases htag : HasTag entries
    · rw [Value.ofJson_obj_of_hasTag htag, map_eq_ok_iff] at h
      obtain ⟨n, hn, rfl⟩ := h
      exact toJson_of_ofJson_obj hn fun e he x => ih e he
    · rw [Value.ofJson_obj_of_not_hasTag htag, map_eq_ok_iff] at h
      obtain ⟨fields, hfields, rfl⟩ := h
      have hnone : valueOf? tagKey entries = none := by
        simpa using mt isSome_valueOf?_iff.mp htag
      rw [Value.toJson, Json.normalForm, hnone, Json.entriesNormalForm_eq_map,
        entriesToJson_of_ofEntries hfields fun e he x => ih e he]

/-! ## Field names -/

/-- The nodes in a value, at any depth. -/
inductive Value.Holds : Value → Node → Prop
  | self (n : Node) : Holds (.node n) n
  | field {n m : Node} {name : String} {v : Value} : (name, v) ∈ n.fields → Holds v m →
      Holds (.node n) m
  | item {items : List Value} {v : Value} {m : Node} : v ∈ items → Holds v m → Holds (.list items) m
  | entry {entries : List (String × Value)} {key : String} {v : Value} {m : Node} :
      (key, v) ∈ entries → Holds v m → Holds (.map entries) m

/-- The fields of a node have names of their own, none of which is kept for a tag or a position. -/
structure Node.FieldsProper (n : Node) : Prop where
  nodup : (n.fields.map Prod.fst).Nodup
  tagKey_notMem : tagKey ∉ n.fields.map Prod.fst
  linesKey_notMem : linesKey ∉ n.fields.map Prod.fst

/-- A node that was decoded has no field of the names that are kept for the tag and the attributes,
and none twice. -/
theorem Node.fieldsProper_of_ofJson {entries : List (String × Json)} {n : Node}
    (h : Node.ofJson (.obj entries) = .ok n) (hkeys : KeysDistinct entries) :
    n.FieldsProper := by
  obtain ⟨-, -, hfields, -⟩ := Node.ofJson_obj_eq_ok_iff.mp h
  have hnames : n.fields.map Prod.fst = (fieldEntries entries).map Prod.fst :=
    map_eq_map_of_forall₂ (Value.ofEntries_eq_ok_iff.mp hfields) fun e _ f hf => hf.1
  refine ⟨?_, ?_, ?_⟩
  · rw [hnames]
    exact hkeys.sublist (List.filter_sublist.map Prod.fst)
  · rw [hnames, List.mem_map]
    rintro ⟨e, he, hkey⟩
    exact (mem_fieldEntries.mp he).2.1 hkey
  · rw [hnames, List.mem_map]
    rintro ⟨e, he, hkey⟩
    exact (mem_fieldEntries.mp he).2.2 hkey

/-- A value in a decoded field or entry was decoded from an entry of the same name. -/
theorem exists_mem_of_ofEntries {entries : List (String × Json)} {fields : List (String × Value)}
    (h : Value.ofEntries entries = .ok fields) {name : String} {x : Value}
    (hx : (name, x) ∈ fields) : ∃ v, (name, v) ∈ entries ∧ Value.ofJson v = .ok x := by
  have hfields := Value.ofEntries_eq_ok_iff.mp h
  obtain ⟨⟨key, v⟩, hv, rfl, hdecodes⟩ := exists_mem_of_forall₂ hfields _ hx
  exact ⟨v, hv, hdecodes⟩

/-- Every node of a decoded tree has proper fields, at any depth. -/
theorem Value.Holds.fieldsProper {v : Json} {x : Value} {m : Node} (hm : x.Holds m)
    (h : Value.ofJson v = .ok x) (hkeys : v.EveryObject KeysDistinct) : m.FieldsProper := by
  induction v using Json.induction generalizing x with
  | null | bool b | str s =>
    obtain rfl := Except.ok.inj h
    cases hm
  | num k =>
    obtain rfl := Except.ok.inj h
    unfold Value.ofNumber at hm
    split at hm
    · split at hm <;> cases hm
    · cases hm
  | arr items ih =>
    rw [Value.ofJson_arr, map_eq_ok_iff] at h
    obtain ⟨xs, hxs, rfl⟩ := h
    cases hm with
    | item hx hm =>
      obtain ⟨w, hw, hdecodes⟩ := exists_mem_of_forall₂ (Value.ofItems_eq_ok_iff.mp hxs) _ hx
      exact ih w hw hm hdecodes fun entries hreach => hkeys entries (.item hw hreach)
  | obj entries ih =>
    by_cases htag : HasTag entries
    · rw [Value.ofJson_obj_of_hasTag htag, map_eq_ok_iff] at h
      obtain ⟨n, hn, rfl⟩ := h
      cases hm with
      | self => exact Node.fieldsProper_of_ofJson hn (hkeys entries (.refl _))
      | field hx hm =>
        obtain ⟨-, -, hfields, -⟩ := Node.ofJson_obj_eq_ok_iff.mp hn
        obtain ⟨w, hw, hdecodes⟩ := exists_mem_of_ofEntries hfields hx
        obtain ⟨hw, -, hlines⟩ := mem_fieldEntries.mp hw
        exact ih _ hw hm hdecodes fun es hreach =>
          hkeys es (.entry hw (fun hskip => hlines hskip.1) hreach)
    · rw [Value.ofJson_obj_of_not_hasTag htag, map_eq_ok_iff] at h
      obtain ⟨fields, hfields, rfl⟩ := h
      cases hm with
      | entry hx hm =>
        obtain ⟨w, hw, hdecodes⟩ := exists_mem_of_ofEntries hfields hx
        exact ih _ hw hm hdecodes fun es hreach =>
          hkeys es (.entry hw (fun hskip => htag hskip.2) hreach)

/-! ## Nodes -/

/-- A document is decoded to a node exactly if it is an object with a text for its tag and every tag
that is reached from it is a text. What is written back from the node is then the document in its
normal form, and every node in it has proper fields. -/
theorem Node.ofJson_ok_iff_and_toJson_eq (v : Json) (hkeys : v.EveryObject KeysDistinct) :
    ((∃ n, Node.ofJson v = .ok n) ↔
      (∃ entries tag, v = .obj entries ∧ (tagKey, Json.str tag) ∈ entries) ∧
        v.EveryObject TagIsText) ∧
    ∀ n, Node.ofJson v = .ok n →
      n.toJson = v.normalForm ∧ ∀ m, (Value.node n).Holds m → m.FieldsProper := by
  cases v with
  | obj entries =>
    have hvalue : ∀ n, Node.ofJson (.obj entries) = .ok n →
        HasTag entries ∧ Value.ofJson (.obj entries) = .ok (.node n) := by
      intro n hn
      have htag : HasTag entries := ⟨_, mem_of_valueOf? (Node.ofJson_obj_eq_ok_iff.mp hn).2.1⟩
      exact ⟨htag, by rw [Value.ofJson_obj_of_hasTag htag, hn]; rfl⟩
    refine ⟨⟨?_, ?_⟩, fun n hn => ?_⟩
    · rintro ⟨n, hn⟩
      obtain ⟨⟨w, hw⟩, hx⟩ := hvalue n hn
      have htexts := (Value.exists_ofJson_eq_ok_iff _).mp ⟨_, hx⟩
      obtain ⟨tag, rfl⟩ := htexts entries (.refl _) w hw
      exact ⟨⟨entries, tag, rfl, hw⟩, htexts⟩
    · rintro ⟨⟨_, tag, hobj, hw⟩, htexts⟩
      obtain rfl := Json.obj.inj hobj
      have hx := (Value.exists_ofJson_eq_ok_iff _).mpr htexts
      rwa [Value.ofJson_obj_of_hasTag ⟨_, hw⟩, exists_map_eq_ok_iff] at hx
    · obtain ⟨-, hx⟩ := hvalue n hn
      exact ⟨Value.toJson_of_ofJson hx, fun m hm => hm.fieldsProper hx hkeys⟩
  | _ => simp [Node.ofJson]

/-- The tag of the node comes last, the integer is 2⁶³, and neither the tag in the position of the
node nor the position in the keyed array is taken for what it is elsewhere. -/
theorem Node.ofJson_ok_iff_and_toJson_eq_block :
    let inner := Json.obj [("attributes", .obj [("nodeType", .null)]),
      ("value", .num (.int 9223372036854775808)), ("nodeType", .str "Scalar_Int")]
    let v := Json.obj [("key", .obj [("attributes", .arr [inner])]), ("nodeType", .str "Stmt_Echo")]
    ∃ n, Node.ofJson v = .ok n ∧ n.toJson = Json.obj [("nodeType", .str "Stmt_Echo"),
      ("key", .obj [("attributes", .arr [.obj [("nodeType", .str "Scalar_Int"),
        ("value", .num (.float (.ofRatio false 9223372036854775808 1)))]])])] := by
  intro inner v
  have hkeys : v.EveryObject KeysDistinct := by
    simp [v, inner, Json.everyObject_obj_iff, Json.everyObject_arr_iff, Json.everyObject_num,
      Json.everyObject_str, KeysDistinct, HasTag, tagKey, linesKey]
  have htexts : v.EveryObject TagIsText := by
    simp [v, inner, Json.everyObject_obj_iff, Json.everyObject_arr_iff, Json.everyObject_num,
      Json.everyObject_str, TagIsText, HasTag, tagKey, linesKey]
  obtain ⟨haccepts, hkeeps⟩ := Node.ofJson_ok_iff_and_toJson_eq v hkeys
  obtain ⟨n, hn⟩ := haccepts.mpr ⟨⟨_, "Stmt_Echo", rfl, by simp [tagKey]⟩, htexts⟩
  exact ⟨n, hn, (hkeeps n hn).1⟩

end SourceSig
