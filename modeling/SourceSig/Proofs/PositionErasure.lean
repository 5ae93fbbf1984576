import SourceSig.Proofs.VisitOrder
import SourceSig.Tree.Decode

/-!
# Taking positions away

The position of a node is the entry `attributes` of its object, and nothing but the line of a fault
is read off it. `unplaced` drops the `attributes` of every node object in a document (a keyed array
keeps an entry of that name), the lines of every node in a tree, and the line of a fault. Everything
here says of one function that it commutes with `unplaced`.

* `Node.mapM_ofJson_unplaced` : a document without positions decodes to the statements without
  positions, or to the same fault.
* `Node.field_unplaced` and what follows it : the accessors of a node see no position.
* `Value.serialize_unplaced` : neither do digests.
-/

namespace SourceSig

/-! ## Taking positions away -/

mutual

/-- A document without the positions of its nodes, at any depth. -/
def Json.unplaced : Json → Json
  | .arr items => .arr (Json.itemsUnplaced items)
  | .obj entries =>
    .obj (if (valueOf? tagKey entries).isSome then Json.nodeEntriesUnplaced entries
      else Json.entriesUnplaced entries)
  | .null => .null
  | .bool b => .bool b
  | .num n => .num n
  | .str s => .str s

/-- The elements of a list without the attributes of their nodes. -/
def Json.itemsUnplaced : List Json → List Json
  | [] => []
  | v :: vs => v.unplaced :: Json.itemsUnplaced vs

/-- The entries of a keyed array. -/
def Json.entriesUnplaced : List (String × Json) → List (String × Json)
  | [] => []
  | (key, v) :: rest => (key, v.unplaced) :: Json.entriesUnplaced rest

/-- The entries of a node but for its position. -/
def Json.nodeEntriesUnplaced : List (String × Json) → List (String × Json)
  | [] => []
  | (key, v) :: rest =>
    if key = linesKey then Json.nodeEntriesUnplaced rest
    else (key, v.unplaced) :: Json.nodeEntriesUnplaced rest

end

mutual

/-- A value without the positions of its nodes, at any depth. -/
def Value.unplaced : Value → Value
  | .node n => .node n.unplaced
  | .list items => .list (Value.itemsUnplaced items)
  | .map entries => .map (Value.entriesUnplaced entries)
  | .null => .null
  | .bool b => .bool b
  | .int i => .int i
  | .float x => .float x
  | .str s => .str s

/-- The elements of a list without the lines of their nodes. -/
def Value.itemsUnplaced : List Value → List Value
  | [] => []
  | v :: vs => v.unplaced :: Value.itemsUnplaced vs

/-- Keyed values without the lines of their nodes. -/
def Value.entriesUnplaced : List (String × Value) → List (String × Value)
  | [] => []
  | (key, v) :: rest => (key, v.unplaced) :: Value.entriesUnplaced rest

/-- The node without its lines and those of the nodes in it. -/
def Node.unplaced : Node → Node
  | ⟨tag, fields, _⟩ => ⟨tag, Value.entriesUnplaced fields, {}⟩

end

/-- The fault without its line. -/
def Unsupported.unplaced (u : Unsupported) : Unsupported :=
  { u with line := none }

theorem Value.itemsUnplaced_eq_map (vs : List Value) :
    Value.itemsUnplaced vs = vs.map Value.unplaced := by
  induction vs with
  | nil => rfl
  | cons v vs ih => rw [Value.itemsUnplaced, ih, List.map_cons]

theorem Value.entriesUnplaced_eq_map (es : List (String × Value)) :
    Value.entriesUnplaced es = es.map fun e => (e.1, e.2.unplaced) := by
  induction es with
  | nil => rfl
  | cons e es ih => rw [Value.entriesUnplaced, ih, List.map_cons]

/-! ## Decoding -/

@[simp] theorem Json.sort_unplaced (v : Json) : v.unplaced.sort = v.sort := by
  cases v <;> rfl

theorem tagKey_ne_linesKey : tagKey ≠ linesKey := by
  decide

/-- Under each key of a keyed array stands what stood there, without positions. -/
theorem valueOf?_entriesUnplaced (key : String) : ∀ entries : List (String × Json),
    valueOf? key (Json.entriesUnplaced entries) = (valueOf? key entries).map Json.unplaced
  | [] => rfl
  | (k, v) :: rest => by
    have ih := valueOf?_entriesUnplaced key rest
    unfold valueOf? at ih ⊢
    rw [Json.entriesUnplaced, List.find?_cons, List.find?_cons]
    cases k == key with
    | true => rfl
    | false => exact ih

/-- Under each key of a node but that of its attributes stands what stood there. -/
theorem valueOf?_nodeEntriesUnplaced {key : String} (h : key ≠ linesKey) :
    ∀ entries : List (String × Json),
      valueOf? key (Json.nodeEntriesUnplaced entries) = (valueOf? key entries).map Json.unplaced
  | [] => rfl
  | (k, v) :: rest => by
    have ih := valueOf?_nodeEntriesUnplaced h rest
    unfold valueOf? at ih ⊢
    rw [Json.nodeEntriesUnplaced, List.find?_cons]
    by_cases hk : k = linesKey
    · have hne : (k == key) = false := beq_false_of_ne (hk ▸ h.symm)
      rw [if_pos hk, ih, hne]
    · rw [if_neg hk, List.find?_cons]
      cases k == key with
      | true => rfl
      | false => exact ih

/-- A node without its attributes has no lines to read. -/
theorem valueOf?_linesKey_unplaced : ∀ entries : List (String × Json),
    valueOf? linesKey (Json.nodeEntriesUnplaced entries) = none
  | [] => rfl
  | (k, v) :: rest => by
    have ih := valueOf?_linesKey_unplaced rest
    rw [Json.nodeEntriesUnplaced]
    by_cases hk : k = linesKey
    · rw [if_pos hk, ih]
    · rw [if_neg hk]
      unfold valueOf? at ih ⊢
      rw [List.find?_cons, beq_false_of_ne hk]
      exact ih

/-- The entries of a node without its position give the node without its position. -/
theorem Node.ofParts_unplaced (entries : List (String × Json)) (fields : List (String × Value)) :
    Node.ofParts (Json.nodeEntriesUnplaced entries) (Value.entriesUnplaced fields) =
      (Node.ofParts entries fields).map Node.unplaced := by
  unfold Node.ofParts
  rw [valueOf?_nodeEntriesUnplaced tagKey_ne_linesKey, valueOf?_linesKey_unplaced]
  cases valueOf? tagKey entries with
  | none => rfl
  | some v => cases v <;> rfl

/-- A field of a node; its tag and its position are none. -/
theorem Node.fieldsOf_cons_field {key : String} (htag : key ≠ tagKey) (hlines : key ≠ linesKey)
    (v : Json) (rest : List (String × Json)) :
    Node.fieldsOf ((key, v) :: rest) = do
      let w ← Value.ofJson v
      return (key, w) :: (← Node.fieldsOf rest) := by
  rw [Node.fieldsOf.eq_def]
  simp only [if_neg htag, if_neg hlines]

/-- The attributes are no field, so it does not matter where among the entries they stand. -/
theorem Node.fieldsOf_cons_lines (v : Json) (rest : List (String × Json)) :
    Node.fieldsOf ((linesKey, v) :: rest) = Node.fieldsOf rest := by
  rw [Node.fieldsOf.eq_def]
  simp only [if_neg tagKey_ne_linesKey.symm, if_true]

mutual

/-- A document without positions decodes to the value without positions, or to the same fault. -/
theorem Value.ofJson_unplaced : ∀ v : Json,
    Value.ofJson v.unplaced = (Value.ofJson v).map Value.unplaced
  | .null | .bool _ | .str _ => rfl
  | .num n => by
    have hplain : (Value.ofNumber n).unplaced = Value.ofNumber n := by
      unfold Value.ofNumber
      split
      · split <;> rfl
      · rfl
    rw [Json.unplaced, Value.ofJson, Except.map, hplain]
  | .arr items => by
    rw [Json.unplaced, Value.ofJson, Value.ofJson, Value.ofItems_unplaced items]
    cases Value.ofItems items <;> rfl
  | .obj entries => by
    rw [Json.unplaced, Value.ofJson, Value.ofJson]
    by_cases h : (valueOf? tagKey entries).isSome
    · rw [if_pos h, if_pos h, valueOf?_nodeEntriesUnplaced tagKey_ne_linesKey, Option.isSome_map,
        if_pos h, Node.fieldsOf_unplaced entries]
      cases Node.fieldsOf entries with
      | error e => rfl
      | ok fields =>
        have hparts := Node.ofParts_unplaced entries fields
        change Value.node <$> Node.ofParts _ (Value.entriesUnplaced fields) =
          (Value.node <$> Node.ofParts entries fields).map Value.unplaced
        rw [hparts]
        cases Node.ofParts entries fields <;> rfl
    · rw [if_neg h, if_neg h, valueOf?_entriesUnplaced, Option.isSome_map, if_neg h,
        Value.ofEntries_unplaced entries]
      cases Value.ofEntries entries <;> rfl

/-- Decoding the elements of a list and dropping positions may change places. -/
theorem Value.ofItems_unplaced : ∀ vs : List Json,
    Value.ofItems (Json.itemsUnplaced vs) = (Value.ofItems vs).map Value.itemsUnplaced
  | [] => rfl
  | v :: vs => by
    rw [Json.itemsUnplaced, Value.ofItems, Value.ofItems, Value.ofJson_unplaced v,
      Value.ofItems_unplaced vs]
    cases Value.ofJson v with
    | error e => rfl
    | ok w => cases Value.ofItems vs <;> rfl

theorem Value.ofEntries_unplaced : ∀ entries : List (String × Json),
    Value.ofEntries (Json.entriesUnplaced entries) =
      (Value.ofEntries entries).map Value.entriesUnplaced
  | [] => rfl
  | (key, v) :: rest => by
    rw [Json.entriesUnplaced, Value.ofEntries, Value.ofEntries, Value.ofJson_unplaced v,
      Value.ofEntries_unplaced rest]
    cases Value.ofJson v with
    | error e => rfl
    | ok w => cases Value.ofEntries rest <;> rfl

/-- Decoding the fields of a node and dropping positions may change places, faults included. -/
theorem Node.fieldsOf_unplaced : ∀ entries : List (String × Json),
    Node.fieldsOf (Json.nodeEntriesUnplaced entries) =
      (Node.fieldsOf entries).map Value.entriesUnplaced
  | [] => rfl
  | (key, v) :: rest => by
    have ih := Node.fieldsOf_unplaced rest
    rw [Json.nodeEntriesUnplaced]
    by_cases hlines : key = linesKey
    · rw [if_pos hlines, hlines, Node.fieldsOf_cons_lines, ih]
    rw [if_neg hlines]
    by_cases htag : key = tagKey
    · subst htag
      cases v with
      | str s => exact ih
      | _ => rfl
    · rw [Node.fieldsOf_cons_field htag hlines, Node.fieldsOf_cons_field htag hlines,
        Value.ofJson_unplaced v, ih]
      cases Value.ofJson v with
      | error e => rfl
      | ok w => cases Node.fieldsOf rest <;> rfl

end

/-- The entries of an object without tag may hold an `attributes` that is kept; no field is read
off it all the same. -/
theorem Node.fieldsOf_entriesUnplaced : ∀ entries : List (String × Json),
    Node.fieldsOf (Json.entriesUnplaced entries) =
      Node.fieldsOf (Json.nodeEntriesUnplaced entries)
  | [] => rfl
  | (key, v) :: rest => by
    have ih := Node.fieldsOf_entriesUnplaced rest
    rw [Json.entriesUnplaced, Json.nodeEntriesUnplaced]
    by_cases hlines : key = linesKey
    · rw [if_pos hlines, hlines, Node.fieldsOf_cons_lines, ih]
    rw [if_neg hlines]
    by_cases htag : key = tagKey
    · subst htag
      cases v with
      | str s => exact ih
      | _ => rfl
    · rw [Node.fieldsOf_cons_field htag hlines, Node.fieldsOf_cons_field htag hlines, ih]

/-- A document without its positions has the same fault, or the same node without its lines. -/
theorem Node.ofJson_unplaced (v : Json) :
    Node.ofJson v.unplaced = (Node.ofJson v).map Node.unplaced := by
  cases v with
  | obj entries =>
    rw [Json.unplaced, Node.ofJson, Node.ofJson]
    by_cases h : (valueOf? tagKey entries).isSome
    · rw [if_pos h, Node.fieldsOf_unplaced entries]
      cases Node.fieldsOf entries with
      | error e => rfl
      | ok fields => exact Node.ofParts_unplaced entries fields
    · have hnone : valueOf? tagKey entries = none := by simpa using h
      rw [if_neg h, Node.fieldsOf_entriesUnplaced, Node.fieldsOf_unplaced entries]
      cases Node.fieldsOf entries with
      | error e => rfl
      | ok fields =>
        change Node.ofParts _ _ = (Node.ofParts entries fields).map Node.unplaced
        unfold Node.ofParts
        rw [valueOf?_entriesUnplaced, hnone]
        rfl
  | _ => rfl

/-- The statements of a document without positions, or the fault of the first that is none. -/
theorem Node.mapM_ofJson_unplaced : ∀ vs : List Json,
    (vs.map Json.unplaced).mapM Node.ofJson =
      (vs.mapM Node.ofJson).map (List.map Node.unplaced)
  | [] => rfl
  | v :: vs => by
    rw [List.map_cons, List.mapM_cons, List.mapM_cons, Node.ofJson_unplaced,
      Node.mapM_ofJson_unplaced vs]
    cases Node.ofJson v with
    | error e => rfl
    | ok n => cases vs.mapM Node.ofJson <;> rfl

/-! ## Reading fields -/

namespace Value

@[simp] theorem isNull_unplaced (v : Value) : v.unplaced.isNull = v.isNull := by
  cases v <;> rfl

@[simp] theorem asNode?_unplaced (v : Value) : v.unplaced.asNode? = v.asNode?.map Node.unplaced := by
  cases v <;> rfl

@[simp] theorem asText?_unplaced (v : Value) : v.unplaced.asText? = v.asText? := by
  cases v <;> rfl

theorem filterMap_asNode?_unplaced (vs : List Value) :
    (vs.map unplaced).filterMap asNode? = (vs.filterMap asNode?).map Node.unplaced := by
  rw [List.filterMap_map, List.map_filterMap]
  congr 1
  funext v
  exact asNode?_unplaced v

theorem filterMap_asText?_unplaced (vs : List Value) :
    (vs.map unplaced).filterMap asText? = vs.filterMap asText? := by
  rw [List.filterMap_map]
  congr 1
  funext v
  exact asText?_unplaced v

/-- The nodes of a value are found in the same places. -/
theorem nodes_unplaced (v : Value) : v.unplaced.nodes = v.nodes.map Node.unplaced := by
  cases v with
  | list items =>
    rw [unplaced, itemsUnplaced_eq_map]
    exact filterMap_asNode?_unplaced items
  | _ => rfl

end Value

namespace Node

variable (n : Node) (name : String)

@[simp] theorem tag_unplaced : n.unplaced.tag = n.tag := by
  cases n
  rfl

@[simp] theorem line_unplaced : n.unplaced.line = none := by
  cases n
  rfl

/-- The kind of a node does not depend on its lines. -/
@[simp] theorem kind_unplaced : n.unplaced.kind = n.kind := by
  cases n
  rfl

@[simp] theorem fields_unplaced : n.unplaced.fields = Value.entriesUnplaced n.fields := by
  cases n
  rfl

/-- The fields of a node keep their names. -/
@[simp] theorem field_unplaced : n.unplaced.field name = (n.field name).map Value.unplaced := by
  have hfind : (Value.entriesUnplaced n.fields).find? (·.1 == name) =
      (n.fields.find? (·.1 == name)).map fun e => (e.1, e.2.unplaced) := by
    rw [Value.entriesUnplaced_eq_map, List.find?_map]
    rfl
  unfold field
  rw [fields_unplaced, hfind]
  cases n.fields.find? (·.1 == name) with
  | none => rfl
  | some e => cases h : e.2.isNull <;> simp [Option.filter, h]

@[simp] theorem child_unplaced : n.unplaced.child name = (n.child name).map Node.unplaced := by
  unfold child
  rw [field_unplaced]
  cases n.field name with
  | none => rfl
  | some v => exact v.asNode?_unplaced

@[simp] theorem text_unplaced : n.unplaced.text name = n.text name := by
  unfold text
  rw [field_unplaced]
  cases n.field name with
  | none => rfl
  | some v => exact v.asText?_unplaced

@[simp] theorem int_unplaced : n.unplaced.int name = n.int name := by
  unfold int
  rw [field_unplaced]
  cases n.field name with
  | none => rfl
  | some v => cases v <;> rfl

@[simp] theorem flag_unplaced : n.unplaced.flag name = n.flag name := by
  unfold flag
  rw [field_unplaced]
  cases n.field name with
  | none => rfl
  | some v => cases v <;> rfl

@[simp] theorem items_unplaced : n.unplaced.items name = (n.items name).map Value.unplaced := by
  unfold items
  rw [field_unplaced]
  cases n.field name with
  | none => rfl
  | some v =>
    cases v with
    | list items => exact Value.itemsUnplaced_eq_map items
    | _ => rfl

@[simp] theorem children_unplaced :
    n.unplaced.children name = (n.children name).map Node.unplaced := by
  unfold children
  rw [items_unplaced, Value.filterMap_asNode?_unplaced]

/-- Names are read from fields, and not from lines. -/
@[simp] theorem nameParts_unplaced : n.unplaced.nameParts = n.nameParts := by
  unfold nameParts
  rw [field_unplaced, text_unplaced]
  cases n.field "parts" with
  | none => rfl
  | some v =>
    cases v with
    | list parts =>
      rw [Option.map_some, Value.unplaced, Value.itemsUnplaced_eq_map]
      exact Value.filterMap_asText?_unplaced parts
    | _ => rfl

@[simp] theorem joinedName_unplaced : n.unplaced.joinedName = n.joinedName := by
  simp [joinedName]

end Node

@[simp] theorem Value.identifier?_unplaced (v : Value) : v.unplaced.identifier? = v.identifier? := by
  cases v with
  | node n => simp [Value.unplaced, Value.identifier?]
  | _ => rfl

namespace Node

variable (n : Node) (name : String)

@[simp] theorem identifier?_unplaced : n.unplaced.identifier? name = n.identifier? name := by
  unfold identifier?
  rw [field_unplaced]
  cases n.field name with
  | none => rfl
  | some v => exact v.identifier?_unplaced

/-- Declared names are read from fields, and not from lines. -/
@[simp] theorem declaredName?_unplaced : n.unplaced.declaredName? = n.declaredName? := by
  simp [declaredName?]

@[simp] theorem modifiers_unplaced : n.unplaced.modifiers = n.modifiers := by
  simp [modifiers]

@[simp] theorem arguments_unplaced : n.unplaced.arguments = n.arguments.map Node.unplaced := by
  unfold arguments
  rw [children_unplaced, List.filter_map]
  congr 2
  funext m
  simp

/-- Calls of `define` are told by their fields, and not by their lines. -/
@[simp] theorem callsDefine_unplaced : n.unplaced.callsDefine = n.callsDefine := by
  unfold callsDefine
  rw [child_unplaced]
  cases n.child "name" with
  | none => rfl
  | some callee => simp

@[simp] theorem definedName?_unplaced : n.unplaced.definedName? = n.definedName? := by
  unfold definedName?
  rw [arguments_unplaced]
  cases n.arguments with
  | nil => rfl
  | cons arg rest =>
    rw [List.map_cons]
    dsimp only
    rw [child_unplaced]
    cases arg.child "value" with
    | none => rfl
    | some v => simp

end Node

/-- A fault at a node differs by its line only. -/
@[simp] theorem Unsupported.of_unplaced (construct : Construct) (n : Node) :
    Unsupported.of construct n.unplaced = (Unsupported.of construct n).unplaced := by
  simp [Unsupported.of, Unsupported.unplaced]

/-! ## Digests -/

mutual

/-- A digest text shows no positions. -/
theorem Value.serialize_unplaced : ∀ v : Value, v.unplaced.serialize = v.serialize
  | .null | .bool _ | .int _ | .float _ | .str _ => rfl
  | .node n => n.serialize_unplaced
  | .list items => by
    rw [Value.unplaced, Value.serialize, Value.serialize, Value.serializeItems_unplaced]
  | .map entries => by
    rw [Value.unplaced, Value.serialize, Value.serialize, Value.serializeEntries_unplaced]

theorem Value.serializeItems_unplaced : ∀ (i : Nat) (vs : List Value),
    Value.serializeItems i (Value.itemsUnplaced vs) = Value.serializeItems i vs
  | _, [] => rfl
  | i, v :: vs => by
    rw [Value.itemsUnplaced, Value.serializeItems, Value.serializeItems, Value.serialize_unplaced v,
      Value.serializeItems_unplaced (i + 1) vs]

theorem Value.serializeEntries_unplaced : ∀ entries : List (String × Value),
    Value.serializeEntries (Value.entriesUnplaced entries) = Value.serializeEntries entries
  | [] => rfl
  | (key, v) :: rest => by
    rw [Value.entriesUnplaced, Value.serializeEntries, Value.serializeEntries,
      Value.serialize_unplaced v, Value.serializeEntries_unplaced rest]

/-- The text under a digest leaves lines out. -/
theorem Node.serialize_unplaced : ∀ n : Node, n.unplaced.serialize = n.serialize
  | ⟨tag, fields, lines⟩ => by
    rw [Node.unplaced, Node.serialize, Node.serialize, Node.serializeFields_unplaced fields]

theorem Node.serializeFields_unplaced : ∀ fields : List (String × Value),
    Node.serializeFields (Value.entriesUnplaced fields) = Node.serializeFields fields
  | [] => rfl
  | (name, v) :: rest => by
    rw [Value.entriesUnplaced, Node.serializeFields, Node.serializeFields,
      Value.serialize_unplaced v, Node.serializeFields_unplaced rest]

end

@[simp] theorem Digest.ofNode_unplaced (n : Node) : Digest.ofNode n.unplaced = Digest.ofNode n := by
  rw [Digest.ofNode, Node.serialize_unplaced, Digest.ofNode]

/-- Digests do not depend on lines. -/
@[simp] theorem Digest.ofValue_unplaced (v : Option Value) :
    Digest.ofValue (v.map Value.unplaced) = Digest.ofValue v := by
  cases v with
  | none => rfl
  | some v =>
    change Digest.ofText v.unplaced.serialize = Digest.ofText v.serialize
    rw [Value.serialize_unplaced]

end SourceSig
