import SourceSig.Literal

/-!
# Parameters

The parameters of functions and methods, with the texts of their types and defaults.
-/

namespace SourceSig

/-- A text that is not empty. -/
def nonEmpty (s : String) : Option String :=
  if s = "" then none else some s

theorem nonEmpty_of_ne {s : String} (h : s ≠ "") : nonEmpty s = some s :=
  if_neg h

@[simp] theorem nonEmpty_eq_none_iff {s : String} : nonEmpty s = none ↔ s = "" := by
  simp [nonEmpty]

theorem ne_of_nonEmpty {s t : String} (h : nonEmpty s = some t) : t ≠ "" := by
  simp only [nonEmpty, Option.ite_none_left_eq_some, Option.some.injEq] at h
  exact h.2 ▸ h.1

/-! ## Types -/

mutual

/-- The text of a declared type, if there is one. A node that is no type is a fault: types are part
of what a signature promises, so they are never approximated. -/
def Value.typeText : Value → Except Unsupported (Option String)
  | .str s => .ok (nonEmpty s)
  | .node n => n.typeText
  | _ => .ok none

/-- The text of the type that a node is, or none for a type without a name. Unions and intersections
are the texts of their members, joined. -/
def Node.typeText : Node → Except Unsupported (Option String)
  | ⟨tag, fields, lines⟩ =>
    let n : Node := ⟨tag, fields, lines⟩
    match n.kind with
    | .identifier => .ok (nonEmpty ((n.text "name").getD ""))
    | .name => .ok (nonEmpty n.joinedName)
    | .fullyQualifiedName => .ok (nonEmpty ("\\" ++ n.joinedName))
    | .relativeName => .ok (nonEmpty ("namespace\\" ++ n.joinedName))
    | .nullableType => do
      match ← Node.typeField fields with
      | some inner => return some ("?" ++ inner)
      | none => throw (.of .nullableType n)
    | .unionType => do return nonEmpty ("|".intercalate (← Node.typesField fields))
    | .intersectionType => do return nonEmpty ("&".intercalate (← Node.typesField fields))
    | .param => Node.typeField fields
    | _ => .error (.of .parameterType n)

/-- The text of the type in the field `type`. -/
def Node.typeField : List (String × Value) → Except Unsupported (Option String)
  | [] => .ok none
  | (name, v) :: rest => if name = "type" then v.typeText else Node.typeField rest

/-- The texts of the types in the list field `types`. -/
def Node.typesField : List (String × Value) → Except Unsupported (List String)
  | [] => .ok []
  | (name, v) :: rest => if name = "types" then v.typeTexts else Node.typesField rest

/-- The texts of the types in a list. -/
def Value.typeTexts : Value → Except Unsupported (List String)
  | .list items => Value.typeTextsOf items
  | _ => .ok []

/-- The texts of several types. What has no text is left out. -/
def Value.typeTextsOf : List Value → Except Unsupported (List String)
  | [] => .ok []
  | v :: vs => do
    let text ← v.typeText
    let texts ← Value.typeTextsOf vs
    return text.toList ++ texts

end

/-- The text of the type in a field that may be absent. -/
def typeText? : Option Value → Except Unsupported (Option String)
  | some v => v.typeText
  | none => .ok none

/-- The type of a node is that of its field, where `null` has no text either. -/
theorem Node.typeField_eq (n : Node) : Node.typeField n.fields = typeText? (n.field "type") := by
  unfold Node.field
  induction n.fields with
  | nil => rfl
  | cons f rest ih =>
    obtain ⟨name, v⟩ := f
    rw [Node.typeField]
    split
    · subst name
      cases v <;> rfl
    · rw [ih, List.find?_cons_of_neg (by simpa)]

theorem Node.typesField_eq (n : Node) :
    Node.typesField n.fields = Value.typeTextsOf (n.items "types") := by
  unfold Node.items Node.field
  induction n.fields with
  | nil => rfl
  | cons f rest ih =>
    obtain ⟨name, v⟩ := f
    rw [Node.typesField]
    split
    · subst name
      cases v <;> rfl
    · rw [ih, List.find?_cons_of_neg (by simpa)]

/-- How the type of a node is read, by its kind. -/
theorem Node.typeText_eq (n : Node) :
    n.typeText =
      match n.kind with
      | .identifier => .ok (nonEmpty ((n.text "name").getD ""))
      | .name => .ok (nonEmpty n.joinedName)
      | .fullyQualifiedName => .ok (nonEmpty ("\\" ++ n.joinedName))
      | .relativeName => .ok (nonEmpty ("namespace\\" ++ n.joinedName))
      | .nullableType => Node.typeField n.fields >>= fun
        | some inner => .ok (some ("?" ++ inner))
        | none => .error (.of .nullableType n)
      | .unionType => (nonEmpty ∘ "|".intercalate) <$> Node.typesField n.fields
      | .intersectionType => (nonEmpty ∘ "&".intercalate) <$> Node.typesField n.fields
      | .param => Node.typeField n.fields
      | _ => .error (.of .parameterType n) := by
  cases n
  rw [Node.typeText]
  simp only [map_eq_pure_bind]
  rfl

/-! ## Parameters -/

/-- A parameter of a function or a method, with the texts of its type and its default. -/
structure Parameter where
  name : String
  type : Option String
  default : Option String
  byRef : Bool
  variadic : Bool
deriving DecidableEq, Repr

namespace Parameter

/-- The name of a parameter: that of its variable, or a plain name in older dumps. -/
def nameOf (n : Node) : Except Unsupported String :=
  match n.child "var" with
  | some var =>
    match var.text "name" with
    | some name => .ok name
    | none => .error (.of .parameterVariable var)
  | none =>
    match n.text "name" with
    | some name => .ok name
    | none => .error (.of .parameterWithoutName n)

/-- The parameter that a node declares. -/
def ofNode (scope : Scope) (n : Node) : Except Unsupported Parameter :=
  if n.kind = .param then do
    let name ← nameOf n
    let type ← typeText? (n.field "type")
    let default ← scope.literal? (n.child "default")
    return ⟨name, type, nonEmpty default, n.flag "byRef", n.flag "variadic"⟩
  else .error (.of .parameter n)

/-- The text of a parameter as it stands in a list of parameters. -/
def text (p : Parameter) : String :=
  (match p.type with
    | some type => type ++ " "
    | none => "") ++
  (if p.byRef then "&" else "") ++ (if p.variadic then "..." else "") ++ "$" ++ p.name ++
  (match p.default with
    | some default => " = " ++ default
    | none => "")

/-- The parameters among the values of a list. -/
def ofItems (scope : Scope) (items : List Value) : Except Unsupported (List Parameter) :=
  (items.filterMap Value.asNode?).mapM (ofNode scope)

/-- A parameter list without its parentheses. -/
def listText (ps : List Parameter) : String :=
  ", ".intercalate (ps.map text)

end Parameter

end SourceSig
