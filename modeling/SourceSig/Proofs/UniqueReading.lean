import SourceSig.Text.Quoted
import Mathlib.Data.List.Basic

/-!
# Texts that are read in one way

A writer whose texts stand one after the other loses nothing if each text shows where it ends: from
`write x ++ r = write y ++ s` follow `x = y` and `r = s`. This file has that law for the pieces that
larger formats are made of: a run of characters of one class that stops before what follows it
(`run_append_inj`) and quoted text (`quote_append_inj`).

`ReadsBack` is the law for a writer that shows a view of its values only, and that relies on what
follows its texts. It passes to texts in a row (`ReadsBack.row`) and to texts with a mark between
them (`ReadsBack.separated`).

Texts are compared as lists of characters, so that what follows a piece is a list as well.
-/

namespace SourceSig.Text

/-! ## Runs -/

/-- An ASCII letter, a digit or an underscore. -/
def isWordChar (c : Char) : Bool :=
  c.isAlphanum || c == '_'

/-- What follows does not go on with a character of the class `p`. -/
def Stops (p : Char → Bool) (r : List Char) : Prop :=
  ∀ c ∈ r.head?, p c = false

theorem stops_nil (p : Char → Bool) : Stops p [] := by
  simp [Stops]

theorem stops_cons {p : Char → Bool} {c : Char} {r : List Char} : Stops p (c :: r) ↔ p c = false := by
  simp [Stops]

theorem Stops.mono {p q : Char → Bool} (hpq : ∀ c, p c → q c) {r : List Char} (h : Stops q r) :
    Stops p r := by
  intro c hc
  rw [Bool.eq_false_iff]
  intro hp
  exact absurd (hpq c hp) (by simp [h c hc])

/-- A run of characters of a class ends before the first character outside it. -/
theorem run_append_inj {p : Char → Bool} :
    ∀ {t u r s : List Char}, (∀ c ∈ t, p c) → (∀ c ∈ u, p c) → Stops p r → Stops p s →
      t ++ r = u ++ s → t = u ∧ r = s
  | [], [], _, _, _, _, _, _, h => ⟨rfl, h⟩
  | [], d :: u, r, s, _, hu, hr, _, h => by
    rw [List.nil_append, List.cons_append] at h
    rw [h, stops_cons] at hr
    simp [hu d] at hr
  | c :: t, [], r, s, ht, _, _, hs, h => by
    rw [List.nil_append, List.cons_append] at h
    rw [← h, stops_cons] at hs
    simp [ht c] at hs
  | c :: t, d :: u, r, s, ht, hu, hr, hs, h => by
    simp only [List.cons_append, List.cons.injEq] at h
    obtain ⟨rfl, hrest⟩ := h
    obtain ⟨rfl, rfl⟩ := run_append_inj (fun c hc => ht c (by simp [hc]))
      (fun c hc => hu c (by simp [hc])) hr hs hrest
    exact ⟨rfl, rfl⟩

/-! ## Quoted text -/

/-- The value of a hexadecimal digit with a small letter. -/
def hexValue (c : Char) : Nat :=
  if c.isDigit then c.toNat - 48 else c.toNat - 87

theorem hexValue_digitChar : ∀ {n : Nat}, n < 16 → hexValue (Nat.digitChar n) = n := by
  decide

/-- The character that stands first between quotes, and the text after it. -/
def unescape : List Char → Option (Char × List Char)
  | '\\' :: 'u' :: '0' :: '0' :: a :: b :: r => some (.ofNat (16 * hexValue a + hexValue b), r)
  | '\\' :: 'n' :: r => some ('\n', r)
  | '\\' :: 'r' :: r => some ('\r', r)
  | '\\' :: 't' :: r => some ('\t', r)
  | '\\' :: 'b' :: r => some ('\x08', r)
  | '\\' :: 'f' :: r => some ('\x0c', r)
  | '\\' :: c :: r => some (c, r)
  | '"' :: _ => none
  | c :: r => some (c, r)
  | [] => none

/-- An escaped character is read back, whatever follows it. -/
theorem unescape_escapeChar (c : Char) (r : List Char) :
    unescape (escapeChar c ++ r) = some (c, r) := by
  unfold escapeChar
  split_ifs with h₁ h₂ h₃ h₄ h₅ h₆ h₇ h₈
  iterate 7 subst c; rfl
  · have hdiv : hexValue (Nat.digitChar (c.toNat / 16)) = c.toNat / 16 :=
      hexValue_digitChar (by omega)
    have hmod : hexValue (Nat.digitChar (c.toNat % 16)) = c.toNat % 16 :=
      hexValue_digitChar (by omega)
    simp only [List.cons_append, List.nil_append, unescape, hdiv, hmod, Nat.div_add_mod,
      Char.ofNat_toNat]
  · simp only [List.cons_append, List.nil_append]
    unfold unescape
    split <;> simp_all

theorem escapeChar_append_inj {c d : Char} {r s : List Char}
    (h : escapeChar c ++ r = escapeChar d ++ s) : c = d ∧ r = s := by
  have hread := congrArg unescape h
  rw [unescape_escapeChar, unescape_escapeChar] at hread
  simpa using hread

/-- No character is written as a quote, which would end the text. -/
theorem escapeChar_append_ne (c : Char) (r s : List Char) : escapeChar c ++ r ≠ '"' :: s := by
  intro h
  have hread := congrArg unescape h
  rw [unescape_escapeChar] at hread
  simp [unescape] at hread

theorem flatMap_escapeChar_append_inj :
    ∀ {t u r s : List Char}, t.flatMap escapeChar ++ '"' :: r = u.flatMap escapeChar ++ '"' :: s →
      t = u ∧ r = s
  | [], [], _, _, h => by simpa using h
  | [], d :: u, _, _, h => by
    simp only [List.flatMap_nil, List.nil_append, List.flatMap_cons, List.append_assoc] at h
    exact absurd h.symm (escapeChar_append_ne _ _ _)
  | c :: t, [], _, _, h => by
    simp only [List.flatMap_nil, List.nil_append, List.flatMap_cons, List.append_assoc] at h
    exact absurd h (escapeChar_append_ne _ _ _)
  | c :: t, d :: u, _, _, h => by
    simp only [List.flatMap_cons, List.append_assoc] at h
    obtain ⟨rfl, hrest⟩ := escapeChar_append_inj h
    obtain ⟨rfl, rfl⟩ := flatMap_escapeChar_append_inj hrest
    exact ⟨rfl, rfl⟩

theorem toList_quote (s : String) :
    (quote s).toList = '"' :: (s.toList.flatMap escapeChar ++ ['"']) := by
  simp [quote]

/-- Quoted text ends at its closing quote, whatever it holds. -/
theorem quote_append_inj {s t : String} {r u : List Char}
    (h : (quote s).toList ++ r = (quote t).toList ++ u) : s = t ∧ r = u := by
  simp only [toList_quote, List.cons_append, List.append_assoc, List.nil_append, List.cons.injEq,
    true_and] at h
  obtain ⟨hst, rfl⟩ := flatMap_escapeChar_append_inj h
  exact ⟨String.toList_injective hst, rfl⟩

/-! ## Writers -/

/-- A character of texts with a mark between them is one of the mark or of a text. -/
theorem mem_intercalate {sep : List Char} {c : Char} : ∀ {parts : List (List Char)},
    c ∈ sep.intercalate parts → c ∈ sep ∨ ∃ part ∈ parts, c ∈ part
  | [], h => by simp at h
  | [part], h => .inr ⟨part, by simp, by simpa using h⟩
  | part :: next :: parts, h => by
    rw [List.intercalate_cons_cons, List.mem_append, List.mem_append] at h
    rcases h with (h | h) | h
    · exact .inr ⟨part, by simp, h⟩
    · exact .inl h
    · rcases mem_intercalate h with h | ⟨q, hq, h⟩
      · exact .inl h
      · exact .inr ⟨q, List.mem_cons_of_mem _ hq, h⟩

/-- The text of a value and what follows it show the view of the value and the end of its text, as
long as what follows is a follower. -/
def ReadsBack {α β : Type} (write : α → List Char) (view : α → β) (Well : α → Prop)
    (Follow : List Char → Prop) : Prop :=
  ∀ ⦃x y : α⦄ ⦃r s : List Char⦄, Well x → Well y → Follow r → Follow s →
    write x ++ r = write y ++ s → view x = view y ∧ r = s

section Writers

variable {α β : Type} {write : α → List Char} {view : α → β} {Well : α → Prop}
  {Follow End : List Char → Prop}

theorem follow_row (hend : ∀ r, End r → Follow r) (hstart : ∀ x r, Well x → Follow (write x ++ r)) :
    ∀ {xs : List α} {r : List Char}, (∀ x ∈ xs, Well x) → End r → Follow (xs.flatMap write ++ r)
  | [], r, _, hr => hend r hr
  | x :: xs, r, hxs, _ => by
    rw [List.flatMap_cons, List.append_assoc]
    exact hstart x _ (hxs x List.mem_cons_self)

/-- Texts in a row are read one by one, up to an end that is the start of none of them. -/
theorem ReadsBack.row (h : ReadsBack write view Well Follow) (hend : ∀ r, End r → Follow r)
    (hstart : ∀ x r, Well x → Follow (write x ++ r)) (hne : ∀ x r, Well x → ¬End (write x ++ r)) :
    ReadsBack (List.flatMap write) (List.map view) (∀ x ∈ ·, Well x) End := by
  intro xs
  -- Each text of the first list is matched by one of the second, whose rest is then the same.
  induction xs with
  | nil =>
    intro ys r s _ hys hr _ heq
    cases ys with
    | nil => exact ⟨rfl, heq⟩
    | cons y ys =>
      rw [List.flatMap_nil, List.nil_append, List.flatMap_cons, List.append_assoc] at heq
      exact absurd (heq ▸ hr) (hne y _ (hys y List.mem_cons_self))
  | cons x xs ih =>
    intro ys r s hxs hys hr hs heq
    obtain ⟨hx, hxs⟩ := List.forall_mem_cons.mp hxs
    cases ys with
    | nil =>
      rw [List.flatMap_nil, List.nil_append, List.flatMap_cons, List.append_assoc] at heq
      exact absurd (heq ▸ hs) (hne x _ hx)
    | cons y ys =>
      obtain ⟨hy, hys⟩ := List.forall_mem_cons.mp hys
      rw [List.flatMap_cons, List.flatMap_cons, List.append_assoc, List.append_assoc] at heq
      obtain ⟨hview, hrest⟩ := h hx hy (follow_row hend hstart hxs hr) (follow_row hend hstart hys hs) heq
      obtain ⟨hviews, hrs⟩ := ih hxs hys hr hs hrest
      exact ⟨by rw [List.map_cons, List.map_cons, hview, hviews], hrs⟩

theorem intercalate_map_cons (sep : List Char) (x : α) : ∀ xs : List α,
    sep.intercalate ((x :: xs).map write) = write x ++ xs.flatMap fun y => sep ++ write y
  | [] => by simp
  | y :: xs => by
    rw [List.map_cons, List.map_cons, List.intercalate_cons_cons, ← List.map_cons,
      intercalate_map_cons sep y xs, List.flatMap_cons]
    simp

/-- Texts with a mark between them are read one by one, up to an end that is neither the mark nor
the start of a text. -/
theorem ReadsBack.separated (h : ReadsBack write view Well Follow) (sep : List Char)
    (hend : ∀ r, End r → Follow r) (hsep : ∀ r, Follow (sep ++ r))
    (hsepEnd : ∀ r, ¬End (sep ++ r)) (hne : ∀ x r, Well x → ¬End (write x ++ r)) :
    ReadsBack (fun xs => sep.intercalate (xs.map write)) (List.map view) (∀ x ∈ ·, Well x) End := by
  have hmarked : ReadsBack (fun x => sep ++ write x) view Well Follow := by
    intro x y r s hx hy hr hs heq
    rw [List.append_assoc, List.append_assoc, List.append_cancel_left_eq] at heq
    exact h hx hy hr hs heq
  have hstart : ∀ x r, Well x → Follow (sep ++ write x ++ r) := by
    intro x r _
    rw [List.append_assoc]
    exact hsep _
  have htail := hmarked.row hend hstart fun x r _ => by
    rw [List.append_assoc]
    exact hsepEnd _
  intro xs ys r s hxs hys hr hs heq
  dsimp only at heq
  cases xs with
  | nil =>
    cases ys with
    | nil => exact ⟨rfl, heq⟩
    | cons y ys =>
      rw [intercalate_map_cons, List.append_assoc, List.map_nil, List.intercalate_nil,
        List.nil_append] at heq
      exact absurd (heq ▸ hr) (hne y _ (hys y List.mem_cons_self))
  | cons x xs =>
    cases ys with
    | nil =>
      rw [intercalate_map_cons, List.append_assoc, List.map_nil, List.intercalate_nil,
        List.nil_append] at heq
      exact absurd (heq ▸ hs) (hne x _ (hxs x List.mem_cons_self))
    | cons y ys =>
      obtain ⟨hx, hxs⟩ := List.forall_mem_cons.mp hxs
      obtain ⟨hy, hys⟩ := List.forall_mem_cons.mp hys
      rw [intercalate_map_cons, intercalate_map_cons, List.append_assoc, List.append_assoc] at heq
      obtain ⟨hview, hrest⟩ := h hx hy (follow_row hend hstart hxs hr) (follow_row hend hstart hys hs) heq
      obtain ⟨hviews, hrs⟩ := htail hxs hys hr hs hrest
      exact ⟨by rw [List.map_cons, List.map_cons, hview, hviews], hrs⟩

end Writers

theorem intercalate_cons_ne {s : String} (h : s ≠ "") (sep : String) (ss : List String) :
    sep.intercalate (s :: ss) ≠ "" := by
  have hlist : s.toList ≠ [] := by simpa using h
  rw [ne_eq, ← String.toList_eq_nil_iff, String.toList_intercalate, intercalate_map_cons]
  simp [hlist]

end SourceSig.Text
