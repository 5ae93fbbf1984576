import SourceSig.Digest
import SourceSig.Proofs.NumberText
import SourceSig.Proofs.UniqueReading

/-!
# Digest texts are unambiguous

A digest stands for what its text shows, so two subtrees with one text would be one body to every
reader of signatures. `Value.shape` is what a text is meant to show of a value: no positions, an
empty keyed array as an empty list, and a float by its text. `Value.serialize_eq_write` says that
the text is written from the shape alone, and `Shape.eq_of_write_eq` that it can be read back.

The format has no mark between the elements of a list. A bare word (`null`, a number) may go on with
the index of the next element, so it is not known where the word ends before the index is known:
`Follows` is what may stand after a value whose neighbour has a given index.
-/

namespace SourceSig

open Text (Stops stops_cons run_append_inj quote_append_inj isWordChar)

/-! ## Shapes -/

/-- The text of a float. -/
@[ext] structure FloatText where
  text : String
  exists_float : ∃ x, digestLayout.writeNumber x = text

/-- A value that is written as a bare word. -/
inductive Scalar where
  | null
  | bool (b : Bool)
  | int (i : Int64)
  | float (text : FloatText)

/-- What the text of a value shows. A keyed array has a first entry. -/
inductive Shape where
  | scalar (x : Scalar)
  | str (s : String)
  | node (tag : String) (fields : List (String × Shape))
  | list (items : List Shape)
  | map (key : String) (first : Shape) (rest : List (String × Shape))

/-- The shape of a keyed array with these entries. -/
def Shape.ofEntries : List (String × Shape) → Shape
  | [] => .list []
  | (key, first) :: rest => .map key first rest

mutual

/-- A value without the positions of its nodes, with an empty keyed array read as an empty list, and
with floats as their texts. -/
def Value.shape : Value → Shape
  | .null => .scalar .null
  | .bool b => .scalar (.bool b)
  | .int i => .scalar (.int i)
  | .float x => .scalar (.float ⟨digestLayout.writeNumber x, x, rfl⟩)
  | .str s => .str s
  | .node n => n.shape
  | .list items => .list (Value.shapes items)
  | .map entries => .ofEntries (Value.entryShapes entries)

/-- The shapes of the elements of a list. -/
def Value.shapes : List Value → List Shape
  | [] => []
  | v :: vs => v.shape :: Value.shapes vs

/-- The shapes of keyed values, with their keys. -/
def Value.entryShapes : List (String × Value) → List (String × Shape)
  | [] => []
  | (key, v) :: rest => (key, v.shape) :: Value.entryShapes rest

/-- The shape of a node, which leaves its lines out. -/
def Node.shape : Node → Shape
  | ⟨tag, fields, _⟩ => .node tag (Value.entryShapes fields)

end

/-- The text of a scalar. -/
def Scalar.write : Scalar → String
  | .null => "null"
  | .bool false => "false"
  | .bool true => "true"
  | .int i => toString i.toInt
  | .float t => t.text

mutual

/-- The text of a shape in the digest format. -/
def Shape.write : Shape → String
  | .scalar x => x.write
  | .str s => Text.quote s
  | .node tag fields => tag ++ "(" ++ Shape.writeFields fields ++ ")"
  | .list items => "[" ++ Shape.writeItems 0 items ++ ")"
  | .map key first rest =>
    "[" ++ (Text.quote key ++ ":" ++ first.write ++ Shape.writeEntries rest) ++ ")"

/-- The texts of elements that are numbered from `i` on. -/
def Shape.writeItems (i : Nat) : List Shape → String
  | [] => ""
  | v :: vs => toString i ++ ":" ++ v.write ++ Shape.writeItems (i + 1) vs

/-- The texts of keyed shapes, with their keys as strings. -/
def Shape.writeEntries : List (String × Shape) → String
  | [] => ""
  | (key, v) :: rest => Text.quote key ++ ":" ++ v.write ++ Shape.writeEntries rest

/-- The texts of the fields of a node, each on a line of its own. -/
def Shape.writeFields : List (String × Shape) → String
  | [] => ""
  | (name, v) :: rest => "\n    " ++ name ++ ": " ++ v.write ++ Shape.writeFields rest

end

/-- No entries are written as no elements are, so an empty keyed array has the text of an empty
list. -/
theorem Shape.write_ofEntries (entries : List (String × Shape)) :
    (Shape.ofEntries entries).write = "[" ++ Shape.writeEntries entries ++ ")" := by
  cases entries <;> simp [Shape.ofEntries, Shape.write, Shape.writeItems, Shape.writeEntries]

mutual

/-- The text of a value is written from its shape. -/
theorem Value.serialize_eq_write : ∀ v : Value, v.serialize = v.shape.write
  | .null | .bool false | .bool true | .int _ | .float _ | .str _ => by
    simp [Value.serialize, Value.shape, Shape.write, Scalar.write]
  | .node n => by rw [Value.serialize, Value.shape, n.serialize_eq_write]
  | .list items => by
    rw [Value.serialize, Value.shape, Shape.write, Value.serializeItems_eq_writeItems]
  | .map entries => by
    rw [Value.serialize, Value.shape, Shape.write_ofEntries, Value.serializeEntries_eq_writeEntries]

theorem Value.serializeItems_eq_writeItems : ∀ (i : Nat) (vs : List Value),
    Value.serializeItems i vs = Shape.writeItems i (Value.shapes vs)
  | _, [] => rfl
  | i, v :: vs => by
    rw [Value.serializeItems, Value.shapes, Shape.writeItems, v.serialize_eq_write,
      Value.serializeItems_eq_writeItems (i + 1) vs]

theorem Value.serializeEntries_eq_writeEntries : ∀ entries : List (String × Value),
    Value.serializeEntries entries = Shape.writeEntries (Value.entryShapes entries)
  | [] => rfl
  | (key, v) :: rest => by
    rw [Value.serializeEntries, Value.entryShapes, Shape.writeEntries, v.serialize_eq_write,
      Value.serializeEntries_eq_writeEntries rest]

theorem Node.serialize_eq_write : ∀ n : Node, n.serialize = n.shape.write
  | ⟨tag, fields, _⟩ => by
    rw [Node.serialize, Node.shape, Shape.write, Node.serializeFields_eq_writeFields]

theorem Node.serializeFields_eq_writeFields : ∀ fields : List (String × Value),
    Node.serializeFields fields = Shape.writeFields (Value.entryShapes fields)
  | [] => rfl
  | (name, v) :: rest => by
    rw [Node.serializeFields, Value.entryShapes, Shape.writeFields, v.serialize_eq_write,
      Node.serializeFields_eq_writeFields rest]

end

/-! ## Words -/

/-- A name as parsers emit them: not empty, and of ASCII letters, digits and underscores. -/
def IsWord (s : String) : Prop :=
  s ≠ "" ∧ ∀ c ∈ s.toList, isWordChar c

/-- The characters of bare words: those of names and of numbers. -/
def isBareChar (c : Char) : Bool :=
  isWordChar c || isNumberChar c

/-- Words are written without quotes. -/
theorem isBareChar_of_isWordChar {c : Char} (h : isWordChar c) : isBareChar c := by
  simp [isBareChar, h]

/-- Numbers are written without quotes. -/
theorem isBareChar_of_isNumberChar {c : Char} (h : isNumberChar c) : isBareChar c := by
  simp [isBareChar, h]

/-- The words that stand for a value of their own. -/
theorem isBareChar_of_mem_word {w : String}
    (hw : w ∈ ["null", "false", "true", "NaN", "inf", "-inf"]) {c : Char} (hc : c ∈ w.toList) :
    isBareChar c := by
  fin_cases hw <;> revert c <;> simp [isBareChar, isWordChar, isNumberChar]

namespace FloatText

/-- A float is written by name if it is not finite, and else as a decimal with its sign. -/
theorem eq_or_isDecimalText (t : FloatText) :
    t.text = "NaN" ∨ t.text = "inf" ∨ t.text = "-inf" ∨
      ∃ u, IsDecimalText u ∧ (t.text.toList = u ∨ t.text.toList = '-' :: u) := by
  obtain ⟨_, x, rfl⟩ := t
  have hdec : IsDecimalText (digestLayout.write (x.shortest digestLayout.tie)).toList :=
    Layout.isDecimalText_write rfl (by simp [digestLayout]) _
  simp only [Layout.writeNumber, Layout.writeFinite]
  split_ifs
  · exact .inl rfl
  · exact .inr (.inr (.inl rfl))
  · exact .inr (.inl rfl)
  · exact .inr (.inr (.inr ⟨_, hdec, .inr (by simp)⟩))
  · exact .inr (.inr (.inr ⟨_, hdec, .inl (by simp)⟩))

theorem isBareChar_of_mem (t : FloatText) {c : Char} (hc : c ∈ t.text.toList) : isBareChar c := by
  rcases t.eq_or_isDecimalText with h | h | h | ⟨u, hu, h | h⟩
  · exact isBareChar_of_mem_word (by simp [h]) hc
  · exact isBareChar_of_mem_word (by simp [h]) hc
  · exact isBareChar_of_mem_word (by simp [h]) hc
  · exact isBareChar_of_isNumberChar (hu.isNumberChar_of_mem (h ▸ hc))
  · rw [h] at hc
    rcases List.mem_cons.mp hc with rfl | hc
    · decide
    · exact isBareChar_of_isNumberChar (hu.isNumberChar_of_mem hc)

/-- The text of a float starts like no other bare word but an integer. -/
theorem exists_eq_cons (t : FloatText) :
    ∃ c r, t.text.toList = c :: r ∧ (c.isDigit ∨ c = '-' ∨ c = 'N' ∨ c = 'i') := by
  rcases t.eq_or_isDecimalText with h | h | h | ⟨u, hu, h | h⟩
  · exact ⟨'N', ['a', 'N'], by simp [h], by simp⟩
  · exact ⟨'i', ['n', 'f'], by simp [h], by simp⟩
  · exact ⟨'-', ['i', 'n', 'f'], by simp [h], by simp⟩
  · obtain ⟨c, r, rfl, hc⟩ := hu.exists_eq_cons
    exact ⟨c, r, h, .inl hc⟩
  · exact ⟨'-', u, h, by simp⟩

/-- The text of a float has a character that integers are not written with. -/
theorem exists_mem_not_int (t : FloatText) : ∃ c ∈ t.text.toList, ¬(c.isDigit ∨ c = '-') := by
  rcases t.eq_or_isDecimalText with h | h | h | ⟨u, hu, h⟩
  · exact ⟨'N', by simp [h], by decide⟩
  · exact ⟨'i', by simp [h], by decide⟩
  · exact ⟨'i', by simp [h], by decide⟩
  · have hsub : ∀ c ∈ u, c ∈ t.text.toList := by
      rcases h with h | h <;> simp +contextual [h]
    rcases hu.mark_mem with hm | hm
    · exact ⟨'.', hsub _ hm, by decide⟩
    · exact ⟨'e', hsub _ hm, by decide⟩

end FloatText

namespace Scalar

/-- The text of a scalar has neither quotes nor brackets, so it ends where one of them stands. -/
theorem isBareChar_of_mem_write {x : Scalar} {c : Char} (hc : c ∈ x.write.toList) :
    isBareChar c := by
  rcases x with _ | (_ | _) | i | t
  · exact isBareChar_of_mem_word (by simp [write]) hc
  · exact isBareChar_of_mem_word (by simp [write]) hc
  · exact isBareChar_of_mem_word (by simp [write]) hc
  · rcases of_mem_int_toString hc with h | rfl
    · exact isBareChar_of_isNumberChar (isNumberChar_of_isDigit h)
    · decide
  · exact t.isBareChar_of_mem hc

/-- An integer starts with a digit or its sign. -/
theorem exists_write_int_eq_cons (i : Int64) :
    ∃ c r, (int i).write.toList = c :: r ∧ (c.isDigit ∨ c = '-') := by
  cases h : (int i).write.toList with
  | nil =>
    rw [write, int_toString_eq] at h
    split_ifs at h <;> simp at h
  | cons c r =>
    have hc : c ∈ (toString i.toInt).toList := by
      rw [show (toString i.toInt).toList = c :: r from h]
      exact List.mem_cons_self
    exact ⟨c, r, rfl, of_mem_int_toString hc⟩

theorem write_ne_nil (x : Scalar) : x.write.toList ≠ [] := by
  rcases x with _ | (_ | _) | i | t
  · simp [write]
  · simp [write]
  · simp [write]
  · obtain ⟨c, r, h, -⟩ := exists_write_int_eq_cons i
    simp [h]
  · obtain ⟨c, r, h, -⟩ := t.exists_eq_cons
    simp [write, h]

/-- The text of a floating-point number has a character that no integer has. -/
theorem write_int_ne_float (i : Int64) (t : FloatText) : (int i).write ≠ (float t).write := by
  intro h
  obtain ⟨c, hc, hnot⟩ := t.exists_mem_not_int
  have hint : c ∈ (toString i.toInt).toList := by
    rw [show toString i.toInt = t.text from h]
    exact hc
  exact hnot (of_mem_int_toString hint)

/-- The words `null`, `false` and `true` start like no number. -/
theorem eq_of_write_eq_word {x y : Scalar} (hy : y = null ∨ ∃ b, y = bool b)
    (h : x.write = y.write) : x = y := by
  have hhead : ∀ c ∈ y.write.toList.head?, c = 'n' ∨ c = 'f' ∨ c = 't' := by
    rcases hy with rfl | ⟨_ | _, rfl⟩ <;> simp [write]
  rw [← h] at hhead
  cases x with
  | null => rcases hy with rfl | ⟨_ | _, rfl⟩ <;> simp_all [write]
  | bool b => cases b <;> rcases hy with rfl | ⟨_ | _, rfl⟩ <;> simp_all [write]
  | int i =>
    obtain ⟨c, r, hcons, hc⟩ := exists_write_int_eq_cons i
    simp only [hcons, List.head?_cons, Option.mem_def, Option.some.injEq, forall_eq'] at hhead
    rcases hhead with rfl | rfl | rfl <;> simp at hc
  | float t =>
    obtain ⟨c, r, hcons, hc⟩ := t.exists_eq_cons
    simp only [write, hcons, List.head?_cons, Option.mem_def, Option.some.injEq, forall_eq'] at hhead
    rcases hhead with rfl | rfl | rfl <;> simp at hc

/-- The text of a scalar is that of no other. -/
theorem write_injective : Function.Injective Scalar.write := by
  intro x y h
  cases x with
  | null => exact (eq_of_write_eq_word (.inl rfl) h.symm).symm
  | bool b => exact (eq_of_write_eq_word (.inr ⟨b, rfl⟩) h.symm).symm
  | int i =>
    cases y with
    | null => exact eq_of_write_eq_word (.inl rfl) h
    | bool b => exact eq_of_write_eq_word (.inr ⟨b, rfl⟩) h
    | int j => rw [Int64.toInt_inj.mp (Int.repr_injective h)]
    | float t => exact absurd h (write_int_ne_float i t)
  | float t =>
    cases y with
    | null => exact eq_of_write_eq_word (.inl rfl) h
    | bool b => exact eq_of_write_eq_word (.inr ⟨b, rfl⟩) h
    | int j => exact absurd h.symm (write_int_ne_float j t)
    | float u => rw [FloatText.ext h]

end Scalar

/-! ## Names -/

mutual

/-- The tags and field names of the nodes in a value, at every depth. -/
def Value.names : Value → List String
  | .node n => n.names
  | .list items => Value.itemNames items
  | .map entries => Value.entryNames entries
  | _ => []

/-- The names in the elements of a list. -/
def Value.itemNames : List Value → List String
  | [] => []
  | v :: vs => v.names ++ Value.itemNames vs

/-- The names in the values of a keyed array, whose keys are no names. -/
def Value.entryNames : List (String × Value) → List String
  | [] => []
  | (_, v) :: rest => v.names ++ Value.entryNames rest

/-- The tags and the names of fields in a node, its own among them. -/
def Node.names : Node → List String
  | ⟨tag, fields, _⟩ => tag :: Node.fieldNames fields

/-- The names of some fields, and those in their values. -/
def Node.fieldNames : List (String × Value) → List String
  | [] => []
  | (name, v) :: rest => name :: (v.names ++ Node.fieldNames rest)

end

mutual

/-- The tags and field names in a shape, at every depth. -/
def Shape.names : Shape → List String
  | .node tag fields => tag :: Shape.fieldNames fields
  | .list items => Shape.itemNames items
  | .map _ first rest => first.names ++ Shape.entryNames rest
  | _ => []

/-- The names in the elements of a list. -/
def Shape.itemNames : List Shape → List String
  | [] => []
  | v :: vs => v.names ++ Shape.itemNames vs

/-- The names in keyed shapes, where keys are no names. -/
def Shape.entryNames : List (String × Shape) → List String
  | [] => []
  | (_, v) :: rest => v.names ++ Shape.entryNames rest

/-- The names of some fields, and those in their shapes. -/
def Shape.fieldNames : List (String × Shape) → List String
  | [] => []
  | (name, v) :: rest => name :: (v.names ++ Shape.fieldNames rest)

end

theorem Shape.names_ofEntries (entries : List (String × Shape)) :
    (Shape.ofEntries entries).names = Shape.entryNames entries := by
  cases entries <;> rfl

mutual

/-- A shape has the tags and the names of fields of the value. -/
theorem Value.names_shape : ∀ v : Value, v.shape.names = v.names
  | .null | .bool _ | .int _ | .float _ | .str _ => rfl
  | .node n => by rw [Value.shape, Value.names, n.names_shape]
  | .list items => by rw [Value.shape, Value.names, Shape.names, Value.itemNames_shapes]
  | .map entries => by
    rw [Value.shape, Value.names, Shape.names_ofEntries, Value.entryNames_entryShapes]

theorem Value.itemNames_shapes : ∀ vs : List Value,
    Shape.itemNames (Value.shapes vs) = Value.itemNames vs
  | [] => rfl
  | v :: vs => by
    rw [Value.shapes, Shape.itemNames, Value.itemNames, v.names_shape, Value.itemNames_shapes vs]

theorem Value.entryNames_entryShapes : ∀ entries : List (String × Value),
    Shape.entryNames (Value.entryShapes entries) = Value.entryNames entries
  | [] => rfl
  | (_, v) :: rest => by
    rw [Value.entryShapes, Shape.entryNames, Value.entryNames, v.names_shape,
      Value.entryNames_entryShapes rest]

theorem Node.names_shape : ∀ n : Node, n.shape.names = n.names
  | ⟨tag, fields, _⟩ => by
    rw [Node.shape, Node.names, Shape.names, Node.fieldNames_entryShapes]

theorem Node.fieldNames_entryShapes : ∀ fields : List (String × Value),
    Shape.fieldNames (Value.entryShapes fields) = Node.fieldNames fields
  | [] => rfl
  | (_, v) :: rest => by
    rw [Value.entryShapes, Shape.fieldNames, Node.fieldNames, v.names_shape,
      Node.fieldNames_entryShapes rest]

end

/-! ## Reading a text back -/

/-- What may stand after a value: a character that no bare word goes on with, or the index `k` of
the next element. -/
def Follows (k : Nat) (r : List Char) : Prop :=
  Stops (fun c => isBareChar c || c == '(' || c == ':') r ∨
    ∃ r', r = (toString k).toList ++ ':' :: r'

/-- A character that ends a bare text, and that neither opens a node nor follows a key, may follow a
value. -/
theorem follows_cons {k : Nat} {c : Char} {r : List Char} (hbare : isBareChar c = false)
    (hopen : c ≠ '(') (hcolon : c ≠ ':') : Follows k (c :: r) :=
  .inl (stops_cons.mpr (by simp [hbare, hopen, hcolon]))

/-- What follows a value is an index or nothing, then a character outside bare words. Whether it is
an index shows in that character. -/
theorem Follows.exists_eq_append {k : Nat} {r : List Char} (h : Follows k r) :
    ∃ d e, r = d ++ e ∧ (∀ c ∈ d, isBareChar c) ∧ Stops isBareChar e ∧ e.head? ≠ some '(' ∧
      d = if e.head? = some ':' then (toString k).toList else [] := by
  rcases h with h | ⟨r', rfl⟩
  · refine ⟨[], r, rfl, by simp, fun c hc => ?_, fun hc => ?_, ?_⟩
    · have := h c hc
      simp_all
    · have := h _ hc
      simp at this
    · rw [if_neg fun hc => ?_]
      have := h _ hc
      simp at this
  · refine ⟨(toString k).toList, ':' :: r', rfl, fun c hc => ?_, ?_, by simp, by simp⟩
    · exact isBareChar_of_isNumberChar (isNumberChar_of_isDigit (isDigit_of_mem_toString hc))
    · exact stops_cons.mpr (by decide)

/-- A bare word ends before the index of the next element. -/
theorem bare_append_inj {k : Nat} {t u r s : List Char} (ht : ∀ c ∈ t, isBareChar c)
    (hu : ∀ c ∈ u, isBareChar c) (hr : Follows k r) (hs : Follows k s) (h : t ++ r = u ++ s) :
    t = u ∧ r = s := by
  obtain ⟨d, e, rfl, hd, he, -, rfl⟩ := hr.exists_eq_append
  obtain ⟨d', e', rfl, hd', he', -, rfl⟩ := hs.exists_eq_append
  rw [← List.append_assoc, ← List.append_assoc] at h
  obtain ⟨htu, rfl⟩ := run_append_inj (List.forall_mem_append.mpr ⟨ht, hd⟩)
    (List.forall_mem_append.mpr ⟨hu, hd'⟩) he he' h
  exact ⟨List.append_cancel_right htu, rfl⟩

/-- A bare word is not read as a tag, which has its parenthesis. -/
theorem bare_append_ne_tag {k : Nat} {t u r s : List Char} (ht : ∀ c ∈ t, isBareChar c)
    (hu : ∀ c ∈ u, isBareChar c) (hr : Follows k r) : t ++ r ≠ u ++ '(' :: s := by
  intro h
  obtain ⟨d, e, rfl, hd, he, hopen, -⟩ := hr.exists_eq_append
  rw [← List.append_assoc] at h
  obtain ⟨-, rfl⟩ := run_append_inj (List.forall_mem_append.mpr ⟨ht, hd⟩) hu he
    (stops_cons.mpr (by decide)) h
  exact hopen rfl

/-- Strings, lists and keyed arrays open with a mark that is not part of a bare word. -/
theorem bare_append_ne_mark {t r s : List Char} {c : Char} (ht : ∀ c ∈ t, isBareChar c)
    (hne : t ≠ []) (hc : isBareChar c = false) : t ++ r ≠ c :: s := by
  obtain ⟨d, t, rfl⟩ := List.exists_cons_of_ne_nil hne
  intro h
  have hd := ht d List.mem_cons_self
  rw [(List.cons.inj h).1, hc] at hd
  cases hd

namespace Shape

theorem write_scalar (x : Scalar) : (scalar x).write = x.write := by
  rw [write]

theorem write_str (s : String) : (str s).write = Text.quote s := by
  rw [write]

/-- The text of a node, with what stands after it: up to its bracket it is the tag. -/
theorem toList_write_node (tag : String) (fields : List (String × Shape)) (r : List Char) :
    (node tag fields).write.toList ++ r =
      tag.toList ++ '(' :: ((writeFields fields).toList ++ ')' :: r) := by
  simp [write]

theorem toList_write_list (items : List Shape) (r : List Char) :
    (list items).write.toList ++ r = '[' :: ((writeItems 0 items).toList ++ ')' :: r) := by
  simp [write]

/-- The text of a keyed array, with what stands after it: its first entry begins with a quote. -/
theorem toList_write_map (key : String) (first : Shape) (rest : List (String × Shape))
    (r : List Char) :
    (map key first rest).write.toList ++ r = '[' :: ((Text.quote key).toList ++
      ':' :: (first.write.toList ++ ((writeEntries rest).toList ++ ')' :: r))) := by
  simp [write]

theorem toList_writeItems_cons (i : Nat) (v : Shape) (vs : List Shape) (r : List Char) :
    (writeItems i (v :: vs)).toList ++ r =
      (toString i).toList ++ ':' :: (v.write.toList ++ ((writeItems (i + 1) vs).toList ++ r)) := by
  simp [writeItems]

theorem toList_writeEntries_cons (key : String) (v : Shape) (rest : List (String × Shape))
    (r : List Char) :
    (writeEntries ((key, v) :: rest)).toList ++ r = (Text.quote key).toList ++
      ':' :: (v.write.toList ++ ((writeEntries rest).toList ++ r)) := by
  simp [writeEntries]

theorem toList_writeFields_cons (name : String) (v : Shape) (rest : List (String × Shape))
    (r : List Char) :
    (writeFields ((name, v) :: rest)).toList ++ r = "\n    ".toList ++ (name.toList ++
      ':' :: ' ' :: (v.write.toList ++ ((writeFields rest).toList ++ r))) := by
  simp [writeFields]

/-! What follows a value inside a list, a keyed array and a node. -/

/-- After an element comes the number of the next one, or the closing bracket. -/
theorem follows_writeItems (i : Nat) (vs : List Shape) (r : List Char) :
    Follows i ((writeItems i vs).toList ++ ')' :: r) := by
  cases vs with
  | nil => exact follows_cons (by decide) (by decide) (by decide)
  | cons v vs => exact .inr ⟨_, toList_writeItems_cons i v vs _⟩

/-- After an entry comes the key of the next one, or the closing bracket. -/
theorem follows_writeEntries (k : Nat) (entries : List (String × Shape)) (r : List Char) :
    Follows k ((writeEntries entries).toList ++ ')' :: r) := by
  cases entries with
  | nil => exact follows_cons (by decide) (by decide) (by decide)
  | cons e rest =>
    rw [toList_writeEntries_cons, Text.toList_quote]
    exact follows_cons (by decide) (by decide) (by decide)

/-- After a field comes the line of the next one, or the closing bracket. -/
theorem follows_writeFields (k : Nat) (fields : List (String × Shape)) (r : List Char) :
    Follows k ((writeFields fields).toList ++ ')' :: r) := by
  cases fields with
  | nil => exact follows_cons (by decide) (by decide) (by decide)
  | cons f rest =>
    rw [toList_writeFields_cons]
    exact follows_cons (by decide) (by decide) (by decide)

/-- An index is read neither as a quote nor as the end of a list. -/
theorem toString_append_ne {i : Nat} {r s : List Char} {c : Char} (hc : c.isDigit = false) :
    (toString i).toList ++ r ≠ c :: s := by
  obtain ⟨d, t, h, hd⟩ := exists_toString_eq_cons i
  rw [h]
  intro heq
  rw [(List.cons.inj heq).1, hc] at hd
  cases hd

/-- The elements of a list do not begin with a quote, so they are no entries. -/
theorem toList_writeItems_ne_quote (i : Nat) (vs : List Shape) (r s : List Char) :
    (writeItems i vs).toList ++ ')' :: r ≠ '"' :: s := by
  cases vs with
  | nil => simp [writeItems]
  | cons v vs =>
    rw [toList_writeItems_cons]
    exact toString_append_ne (by decide)

/-- The characters of a name and the fact that there is one. -/
theorem isBareChar_of_isWord {tag : String} (h : IsWord tag) :
    (∀ c ∈ tag.toList, isBareChar c) ∧ tag.toList ≠ [] :=
  ⟨fun c hc => isBareChar_of_isWordChar (h.2 c hc), by simpa using h.1⟩

/-- The mark that a string, a list or a keyed array opens with. -/
def mark? : Shape → Option Char
  | scalar _ | node _ _ => none
  | str _ => some '"'
  | list _ | map _ _ _ => some '['

/-- A string, a list and a keyed array begin with a mark that is in no bare text. -/
theorem exists_write_eq_mark {v : Shape} {c : Char} (h : v.mark? = some c) :
    isBareChar c = false ∧ ∃ t, v.write.toList = c :: t := by
  cases v with
  | scalar | node => simp [mark?] at h
  | str s =>
    obtain rfl : '"' = c := by simpa [mark?] using h
    exact ⟨by decide, _, by rw [write_str, Text.toList_quote]⟩
  | list items =>
    obtain rfl : '[' = c := by simpa [mark?] using h
    exact ⟨by decide, _, by simpa using toList_write_list items []⟩
  | map key first rest =>
    obtain rfl : '[' = c := by simpa [mark?] using h
    exact ⟨by decide, _, by simpa using toList_write_map key first rest []⟩

/-- A scalar is not read as a value with a mark. -/
theorem scalar_append_ne_mark {x : Scalar} {v : Shape} (hv : v.mark?.isSome) (r s : List Char) :
    x.write.toList ++ r ≠ v.write.toList ++ s := by
  obtain ⟨c, hc⟩ := Option.isSome_iff_exists.mp hv
  obtain ⟨hbare, t, ht⟩ := exists_write_eq_mark hc
  rw [ht]
  exact bare_append_ne_mark (fun _ => Scalar.isBareChar_of_mem_write) x.write_ne_nil hbare

/-- A node is not read as a value with a mark. -/
theorem node_append_ne_mark {tag : String} {fields : List (String × Shape)} {v : Shape}
    (htag : IsWord tag) (hv : v.mark?.isSome) (r s : List Char) :
    (node tag fields).write.toList ++ r ≠ v.write.toList ++ s := by
  obtain ⟨c, hc⟩ := Option.isSome_iff_exists.mp hv
  obtain ⟨hbare, t, ht⟩ := exists_write_eq_mark hc
  rw [ht, toList_write_node]
  exact bare_append_ne_mark (isBareChar_of_isWord htag).1 (isBareChar_of_isWord htag).2 hbare

/-- A scalar is not read as a node: no bracket follows it. -/
theorem scalar_append_ne_node {x : Scalar} {tag : String} {fields : List (String × Shape)}
    (htag : IsWord tag) {k : Nat} {r : List Char} (hr : Follows k r) (s : List Char) :
    x.write.toList ++ r ≠ (node tag fields).write.toList ++ s := by
  rw [toList_write_node]
  exact bare_append_ne_tag (fun _ => Scalar.isBareChar_of_mem_write) (isBareChar_of_isWord htag).1 hr

/-- A list is not read as a keyed array, which has at least one entry. -/
theorem list_append_ne_map {items : List Shape} {key : String} {first : Shape}
    {rest : List (String × Shape)} (r s : List Char) :
    (list items).write.toList ++ r ≠ (map key first rest).write.toList ++ s := by
  rw [toList_write_list, toList_write_map, Text.toList_quote]
  intro h
  exact toList_writeItems_ne_quote 0 items _ _ (List.cons.inj h).2

/-! The induction is on the first of two shapes. For each way to build it, the second shape opens
like it, or their texts differ at once. -/

/-- The text of the shape, followed by what may stand after it, is read as no other shape. -/
def ReadOnce (v : Shape) : Prop :=
  ∀ (w : Shape) {k : Nat} {r s : List Char}, (∀ name ∈ v.names, IsWord name) →
    (∀ name ∈ w.names, IsWord name) → Follows k r → Follows k s →
      v.write.toList ++ r = w.write.toList ++ s → v = w ∧ r = s

/-- The text of some elements and the bracket after them is that of no others. -/
def ItemsReadOnce (vs : List Shape) : Prop :=
  ∀ (ws : List Shape) {i : Nat} {r s : List Char}, (∀ name ∈ itemNames vs, IsWord name) →
    (∀ name ∈ itemNames ws, IsWord name) →
      (writeItems i vs).toList ++ ')' :: r = (writeItems i ws).toList ++ ')' :: s → vs = ws ∧ r = s

/-- The text of some entries and the bracket after them is that of no others. -/
def EntriesReadOnce (es : List (String × Shape)) : Prop :=
  ∀ (fs : List (String × Shape)) {r s : List Char}, (∀ name ∈ entryNames es, IsWord name) →
    (∀ name ∈ entryNames fs, IsWord name) →
      (writeEntries es).toList ++ ')' :: r = (writeEntries fs).toList ++ ')' :: s → es = fs ∧ r = s

/-- The text of some fields and the bracket after them is that of no others. -/
def FieldsReadOnce (es : List (String × Shape)) : Prop :=
  ∀ (fs : List (String × Shape)) {r s : List Char}, (∀ name ∈ fieldNames es, IsWord name) →
    (∀ name ∈ fieldNames fs, IsWord name) →
      (writeFields es).toList ++ ')' :: r = (writeFields fs).toList ++ ')' :: s → es = fs ∧ r = s

/-- A scalar ends where its bare characters do. -/
theorem readOnce_scalar (x : Scalar) : (scalar x).ReadOnce := by
  intro w k r s _ hw hr hs h
  rw [write_scalar] at h
  cases w with
  | scalar y =>
    rw [write_scalar] at h
    obtain ⟨hxy, rfl⟩ := bare_append_inj (fun _ => Scalar.isBareChar_of_mem_write)
      (fun _ => Scalar.isBareChar_of_mem_write) hr hs h
    rw [Scalar.write_injective (String.toList_injective hxy)]
    exact ⟨rfl, rfl⟩
  | node tag fields => exact absurd h (scalar_append_ne_node (hw tag (by simp [names])) hr s)
  | str | list | map => exact absurd h (scalar_append_ne_mark rfl r s)

/-- A string ends at its closing quote. -/
theorem readOnce_str (a : String) : (str a).ReadOnce := by
  intro w k r s _ hw _ _ h
  cases w with
  | scalar y =>
    rw [write_scalar] at h
    exact absurd h.symm (scalar_append_ne_mark rfl s r)
  | node tag fields =>
    exact absurd h.symm (node_append_ne_mark (hw tag (by simp [names])) rfl s r)
  | str b =>
    rw [write_str, write_str] at h
    obtain ⟨rfl, rfl⟩ := quote_append_inj h
    exact ⟨rfl, rfl⟩
  | list | map => simp [write, Text.toList_quote] at h

/-- A node ends at the bracket after its fields. -/
theorem readOnce_node (tag : String) {fields : List (String × Shape)}
    (hfields : FieldsReadOnce fields) : (node tag fields).ReadOnce := by
  intro w k r s hv hw _ hs h
  have htag := hv tag (by simp [names])
  cases w with
  | scalar y =>
    rw [write_scalar] at h
    exact absurd h.symm (scalar_append_ne_node htag hs r)
  | node tag' fields' =>
    have htag' := hw tag' (by simp [names])
    rw [toList_write_node, toList_write_node] at h
    obtain ⟨heq, hrest⟩ := run_append_inj (isBareChar_of_isWord htag).1
      (isBareChar_of_isWord htag').1 (stops_cons.mpr (by decide)) (stops_cons.mpr (by decide)) h
    obtain rfl := String.toList_injective heq
    obtain ⟨rfl, rfl⟩ := hfields fields' (fun n hn => hv n (by simp [names, hn]))
      (fun n hn => hw n (by simp [names, hn])) (List.cons.inj hrest).2
    exact ⟨rfl, rfl⟩
  | str | list | map => exact absurd h (node_append_ne_mark htag rfl r s)

/-- A list ends at the bracket after its elements. -/
theorem readOnce_list {items : List Shape} (hitems : ItemsReadOnce items) :
    (list items).ReadOnce := by
  intro w k r s hv hw _ _ h
  cases w with
  | scalar y =>
    rw [write_scalar] at h
    exact absurd h.symm (scalar_append_ne_mark rfl s r)
  | node tag fields =>
    exact absurd h.symm (node_append_ne_mark (hw tag (by simp [names])) rfl s r)
  | str b => simp [write, Text.toList_quote] at h
  | list items' =>
    rw [toList_write_list, toList_write_list] at h
    obtain ⟨rfl, rfl⟩ := hitems items' (fun n hn => hv n (by simpa [names] using hn))
      (fun n hn => hw n (by simpa [names] using hn)) (List.cons.inj h).2
    exact ⟨rfl, rfl⟩
  | map => exact absurd h (list_append_ne_map r s)

/-- A keyed array ends at the bracket after its entries. -/
theorem readOnce_map (key : String) {first : Shape} {rest : List (String × Shape)}
    (hfirst : first.ReadOnce) (hrest : EntriesReadOnce rest) : (map key first rest).ReadOnce := by
  intro w k r s hv hw _ _ h
  cases w with
  | scalar y =>
    rw [write_scalar] at h
    exact absurd h.symm (scalar_append_ne_mark rfl s r)
  | node tag fields =>
    exact absurd h.symm (node_append_ne_mark (hw tag (by simp [names])) rfl s r)
  | str b => simp [write, Text.toList_quote] at h
  | list => exact absurd h.symm (list_append_ne_map s r)
  | map key' first' rest' =>
    rw [toList_write_map, toList_write_map] at h
    obtain ⟨rfl, hvalue⟩ := quote_append_inj (List.cons.inj h).2
    obtain ⟨rfl, hentries⟩ := hfirst first' (fun n hn => hv n (by simp [names, hn]))
      (fun n hn => hw n (by simp [names, hn])) (follows_writeEntries 0 rest r)
      (follows_writeEntries 0 rest' s) (List.cons.inj hvalue).2
    obtain ⟨rfl, rfl⟩ := hrest rest' (fun n hn => hv n (by simp [names, hn]))
      (fun n hn => hw n (by simp [names, hn])) hentries
    exact ⟨rfl, rfl⟩

theorem itemsReadOnce_nil : ItemsReadOnce [] := by
  intro ws i r s _ _ h
  cases ws with
  | nil => simpa [writeItems] using h
  | cons w ws =>
    rw [toList_writeItems_cons] at h
    exact absurd h.symm (toString_append_ne (by decide))

/-- The elements of a list are read one by one, because the index after each is known. -/
theorem itemsReadOnce_cons {v : Shape} {vs : List Shape} (hv : v.ReadOnce)
    (hvs : ItemsReadOnce vs) : ItemsReadOnce (v :: vs) := by
  intro ws i r s hnames hnames' h
  rw [toList_writeItems_cons] at h
  cases ws with
  | nil => exact absurd h (toString_append_ne (by decide))
  | cons w ws =>
    rw [toList_writeItems_cons] at h
    obtain ⟨rfl, hrest⟩ := hv w (fun n hn => hnames n (by simp [itemNames, hn]))
      (fun n hn => hnames' n (by simp [itemNames, hn])) (follows_writeItems (i + 1) vs r)
      (follows_writeItems (i + 1) ws s) (List.cons.inj (List.append_cancel_left h)).2
    obtain ⟨rfl, rfl⟩ := hvs ws (fun n hn => hnames n (by simp [itemNames, hn]))
      (fun n hn => hnames' n (by simp [itemNames, hn])) hrest
    exact ⟨rfl, rfl⟩

theorem entriesReadOnce_nil : EntriesReadOnce [] := by
  intro fs r s _ _ h
  cases fs with
  | nil => simpa [writeEntries] using h
  | cons f fs => simp [Text.toList_quote, writeEntries] at h

/-- The first entry is read by its key and its shape, and then the others. -/
theorem entriesReadOnce_cons (key : String) {v : Shape} {es : List (String × Shape)}
    (hv : v.ReadOnce) (hes : EntriesReadOnce es) : EntriesReadOnce ((key, v) :: es) := by
  intro fs r s hnames hnames' h
  cases fs with
  | nil => simp [Text.toList_quote, writeEntries] at h
  | cons f fs =>
    obtain ⟨key', w⟩ := f
    rw [toList_writeEntries_cons, toList_writeEntries_cons] at h
    obtain ⟨rfl, hvalue⟩ := quote_append_inj h
    obtain ⟨rfl, hrest⟩ := hv w (fun n hn => hnames n (by simp [entryNames, hn]))
      (fun n hn => hnames' n (by simp [entryNames, hn])) (follows_writeEntries 0 es r)
      (follows_writeEntries 0 fs s) (List.cons.inj hvalue).2
    obtain ⟨rfl, rfl⟩ := hes fs (fun n hn => hnames n (by simp [entryNames, hn]))
      (fun n hn => hnames' n (by simp [entryNames, hn])) hrest
    exact ⟨rfl, rfl⟩

theorem fieldsReadOnce_nil : FieldsReadOnce [] := by
  intro fs r s _ _ h
  cases fs with
  | nil => simpa [writeFields] using h
  | cons f fs => simp [writeFields] at h

/-- The name of a field ends at its colon. -/
theorem fieldsReadOnce_cons (name : String) {v : Shape} {es : List (String × Shape)}
    (hv : v.ReadOnce) (hes : FieldsReadOnce es) : FieldsReadOnce ((name, v) :: es) := by
  intro fs r s hnames hnames' h
  cases fs with
  | nil => simp [writeFields] at h
  | cons f fs =>
    obtain ⟨name', w⟩ := f
    rw [toList_writeFields_cons, toList_writeFields_cons] at h
    obtain ⟨heq, hvalue⟩ := run_append_inj (hnames name (by simp [fieldNames])).2
      (hnames' name' (by simp [fieldNames])).2 (stops_cons.mpr (by decide))
      (stops_cons.mpr (by decide)) (List.append_cancel_left h)
    obtain rfl := String.toList_injective heq
    obtain ⟨rfl, hrest⟩ := hv w (fun n hn => hnames n (by simp [fieldNames, hn]))
      (fun n hn => hnames' n (by simp [fieldNames, hn])) (follows_writeFields 0 es r)
      (follows_writeFields 0 fs s) (List.cons.inj (List.cons.inj hvalue).2).2
    obtain ⟨rfl, rfl⟩ := hes fs (fun n hn => hnames n (by simp [fieldNames, hn]))
      (fun n hn => hnames' n (by simp [fieldNames, hn])) hrest
    exact ⟨rfl, rfl⟩

mutual

/-- Every text of a shape is read in one way. -/
theorem readOnce : ∀ v : Shape, v.ReadOnce
  | scalar x => readOnce_scalar x
  | str s => readOnce_str s
  | node tag fields => readOnce_node tag (fieldsReadOnce fields)
  | list items => readOnce_list (itemsReadOnce items)
  | map key first rest => readOnce_map key first.readOnce (entriesReadOnce rest)

theorem itemsReadOnce : ∀ vs : List Shape, ItemsReadOnce vs
  | [] => itemsReadOnce_nil
  | v :: vs => itemsReadOnce_cons v.readOnce (itemsReadOnce vs)

theorem entriesReadOnce : ∀ es : List (String × Shape), EntriesReadOnce es
  | [] => entriesReadOnce_nil
  | (key, v) :: es => entriesReadOnce_cons key v.readOnce (entriesReadOnce es)

theorem fieldsReadOnce : ∀ es : List (String × Shape), FieldsReadOnce es
  | [] => fieldsReadOnce_nil
  | (name, v) :: es => fieldsReadOnce_cons name v.readOnce (fieldsReadOnce es)

end

/-- Two shapes with proper names and one text are the same. -/
theorem eq_of_write_eq {v w : Shape} (hv : ∀ name ∈ v.names, IsWord name)
    (hw : ∀ name ∈ w.names, IsWord name) (h : v.write = w.write) : v = w :=
  (v.readOnce w (k := 0) (r := []) (s := []) hv hw (.inl (Text.stops_nil _))
    (.inl (Text.stops_nil _)) (by rw [h])).1

end Shape

/-! ## Unambiguous texts -/

/-- Two values have one digest text exactly if they have one shape, and likewise two nodes, where
all tags and field names are words. -/
theorem serialize_eq_iff_shape_eq :
    (∀ v w : Value, (∀ name ∈ v.names, IsWord name) → (∀ name ∈ w.names, IsWord name) →
      (v.serialize = w.serialize ↔ v.shape = w.shape)) ∧
    ∀ m n : Node, (∀ name ∈ m.names, IsWord name) → (∀ name ∈ n.names, IsWord name) →
      (m.serialize = n.serialize ↔ m.shape = n.shape) := by
  refine ⟨fun v w hv hw => ?_, fun m n hm hn => ?_⟩
  · rw [v.serialize_eq_write, w.serialize_eq_write]
    rw [← v.names_shape] at hv
    rw [← w.names_shape] at hw
    exact ⟨Shape.eq_of_write_eq hv hw, congrArg Shape.write⟩
  · rw [m.serialize_eq_write, n.serialize_eq_write]
    rw [← m.names_shape] at hm
    rw [← n.names_shape] at hn
    exact ⟨Shape.eq_of_write_eq hm hn, congrArg Shape.write⟩

/-- The list of `1` and `2` shares its text `[0:11:2)` with no other value, such as the list of
`11`, and a node shares its text with the same node on another line. -/
theorem serialize_eq_iff_shape_eq_echo :
    ((Value.list [.int 1, .int 2]).serialize ≠ (Value.list [.int 11]).serialize) ∧
      (Node.mk "Stmt_Echo" [("exprs", .list [.int 1, .map []])] ⟨some 3, none⟩).serialize =
        (Node.mk "Stmt_Echo" [("exprs", .list [.int 1, .list []])] ⟨some 30, none⟩).serialize := by
  refine ⟨fun h => ?_, (serialize_eq_iff_shape_eq.2 _ _ ?_ ?_).mpr rfl⟩
  · have hshape := (serialize_eq_iff_shape_eq.1 (.list [.int 1, .int 2]) (.list [.int 11])
      (by simp [Value.names, Value.itemNames]) (by simp [Value.names, Value.itemNames])).mp h
    simp [Value.shape, Value.shapes] at hshape
  · simp [Node.names, Node.fieldNames, Value.names, Value.itemNames, Value.entryNames, IsWord,
      isWordChar]
  · simp [Node.names, Node.fieldNames, Value.names, Value.itemNames, IsWord, isWordChar]

end SourceSig
