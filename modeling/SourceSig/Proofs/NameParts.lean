import SourceSig.Tree.Basic
import Mathlib.Data.List.Basic

/-!
# The parts of a name

A name node has its parts as a list, or as one text with backslashes between them. The text is read
by its pieces, the runs between backslashes that are not empty.

* `Text.pieces_intercalate` : parts that are joined by backslashes are the pieces of the text.
* `Node.nameParts_eq_singleton_iff` : when a name has one part, in either layout.
-/

namespace SourceSig

namespace Text

variable {sep : Char}

/-! ## Pieces of a text -/

/-- The parts of a text between the occurrences of a character, without the empty ones. -/
def pieces (sep : Char) (s : List Char) : List (List Char) :=
  (splitOn sep s).filter (!·.isEmpty)

theorem splitOn_append_cons {p : List Char} (hp : sep ∉ p) (s : List Char) :
    splitOn sep (p ++ sep :: s) = p :: splitOn sep s := by
  induction p with
  | nil => simp [splitOn]
  | cons c p ih =>
    rw [List.mem_cons, not_or] at hp
    rw [List.cons_append, splitOn, if_neg (Ne.symm hp.1), ih hp.2]

theorem splitOn_of_not_mem {p : List Char} (hp : sep ∉ p) : splitOn sep p = [p] := by
  induction p with
  | nil => rfl
  | cons c p ih =>
    rw [List.mem_cons, not_or] at hp
    rw [splitOn, if_neg (Ne.symm hp.1), ih hp.2]

@[simp] theorem pieces_nil : pieces sep [] = [] :=
  rfl

@[simp] theorem pieces_cons_self (s : List Char) : pieces sep (sep :: s) = pieces sep s := by
  simp [pieces, splitOn]

theorem pieces_append_cons {p : List Char} (hp : sep ∉ p) (hne : p ≠ []) (s : List Char) :
    pieces sep (p ++ sep :: s) = p :: pieces sep s := by
  simp [pieces, splitOn_append_cons hp, hne]

theorem pieces_of_not_mem {p : List Char} (hp : sep ∉ p) (hne : p ≠ []) : pieces sep p = [p] := by
  simp [pieces, splitOn_of_not_mem hp, hne]

/-- Parts that are joined by a character that none of them holds are the pieces of the text. -/
theorem pieces_intercalate : ∀ {ps : List (List Char)}, (∀ p ∈ ps, p ≠ [] ∧ sep ∉ p) →
    pieces sep ([sep].intercalate ps) = ps
  | [], _ => rfl
  | [p], h => by
    obtain ⟨hne, hp⟩ := h p List.mem_cons_self
    simpa using pieces_of_not_mem hp hne
  | p :: q :: ps, h => by
    obtain ⟨hne, hp⟩ := h p List.mem_cons_self
    have ih := pieces_intercalate fun r hr => h r (List.mem_cons_of_mem p hr)
    have hsplit : [sep].intercalate (p :: q :: ps) = p ++ sep :: [sep].intercalate (q :: ps) := by
      simp [List.intercalate]
    rw [hsplit, pieces_append_cons hp hne, ih]

/-- A text that does not begin with the separator begins with a piece. -/
theorem exists_run : ∀ {c : Char} (s : List Char), c ≠ sep → ∃ p rest,
    c :: s = p ++ rest ∧ p ≠ [] ∧ sep ∉ p ∧ (rest = [] ∨ ∃ t, rest = sep :: t)
  | c, [], h => ⟨[c], [], rfl, by simp, by simp [h.symm], .inl rfl⟩
  | c, d :: s, h => by
    by_cases hd : d = sep
    · exact ⟨[c], d :: s, rfl, by simp, by simp [h.symm], .inr ⟨s, by rw [hd]⟩⟩
    · obtain ⟨p, rest, hs, -, hp, hrest⟩ := exists_run s hd
      exact ⟨c :: p, rest, by rw [hs]; rfl, by simp, by simp [h.symm, hp], hrest⟩

/-- A text without pieces consists of separators. -/
theorem pieces_eq_nil_iff : ∀ {s : List Char}, pieces sep s = [] ↔
    s = List.replicate s.length sep
  | [] => by simp
  | c :: s => by
    rw [List.length_cons, List.replicate_succ, List.cons.injEq]
    by_cases hc : c = sep
    · rw [hc, pieces_cons_self, pieces_eq_nil_iff]
      simp
    · refine iff_of_false ?_ fun h => hc h.1
      obtain ⟨p, rest, hs, hne, hp, rfl | ⟨t, rfl⟩⟩ := exists_run s hc
      · rw [hs, List.append_nil, pieces_of_not_mem hp hne]
        simp
      · rw [hs, pieces_append_cons hp hne]
        simp

/-- A text with one piece is that piece between separators. -/
theorem pieces_eq_singleton_iff : ∀ {s p : List Char}, pieces sep s = [p] ↔
    ∃ i j, s = List.replicate i sep ++ (p ++ List.replicate j sep) ∧ p ≠ [] ∧ sep ∉ p
  | [], p => by
    refine iff_of_false (by simp) ?_
    rintro ⟨i, j, hs, hne, -⟩
    rw [List.nil_eq, List.append_eq_nil_iff, List.append_eq_nil_iff] at hs
    exact hne hs.2.1
  | c :: s, p => by
    by_cases hc : c = sep
    · rw [hc, pieces_cons_self, pieces_eq_singleton_iff]
      constructor
      · rintro ⟨i, j, rfl, hne, hp⟩
        exact ⟨i + 1, j, rfl, hne, hp⟩
      · rintro ⟨i, j, hs, hne, hp⟩
        cases i with
        | zero =>
          obtain ⟨d, p, rfl⟩ := List.exists_cons_of_ne_nil hne
          rw [List.replicate_zero, List.nil_append, List.cons_append, List.cons.injEq] at hs
          exact absurd List.mem_cons_self (hs.1 ▸ hp)
        | succ i =>
          rw [List.replicate_succ, List.cons_append, List.cons.injEq] at hs
          exact ⟨i, j, hs.2, hne, hp⟩
    · constructor
      · intro h
        obtain ⟨q, rest, hs, hne, hq, rfl | ⟨t, rfl⟩⟩ := exists_run s hc
        · rw [hs, List.append_nil, pieces_of_not_mem hq hne] at h
          obtain rfl := List.singleton_inj.mp h
          exact ⟨0, 0, by simp [hs], hne, hq⟩
        · rw [hs, pieces_append_cons hq hne, List.cons.injEq, pieces_eq_nil_iff] at h
          obtain ⟨rfl, ht⟩ := h
          exact ⟨0, t.length + 1, by rw [hs, List.replicate_succ, ← ht]; rfl, hne, hq⟩
      · rintro ⟨i, j, hs, hne, hp⟩
        cases i with
        | succ i =>
          rw [List.replicate_succ, List.cons_append, List.cons.injEq] at hs
          exact absurd hs.1 hc
        | zero =>
          rw [List.replicate_zero, List.nil_append] at hs
          rw [hs]
          cases j with
          | zero => rw [List.replicate_zero, List.append_nil, pieces_of_not_mem hp hne]
          | succ j =>
            rw [List.replicate_succ, pieces_append_cons hp hne, pieces_eq_nil_iff.mpr (by simp)]

end Text

/-! ## Names -/

namespace Node

variable {n : Node}

theorem nameParts_of_parts {items : List Value} (h : n.field "parts" = some (.list items)) :
    n.nameParts = items.filterMap Value.asText? := by
  rw [nameParts, h]

theorem nameParts_of_text {s : String} (hparts : ∀ items, n.field "parts" ≠ some (.list items))
    (hname : n.text "name" = some s) :
    n.nameParts = (Text.pieces '\\' s.toList).map String.ofList := by
  unfold nameParts
  split
  · exact absurd ‹_› (hparts _)
  · rw [hname]
    rfl

theorem nameParts_of_none (hparts : ∀ items, n.field "parts" ≠ some (.list items))
    (hname : n.text "name" = none) : n.nameParts = [] := by
  unfold nameParts
  split
  · exact absurd ‹_› (hparts _)
  · rw [hname]

/-- A name has a single part: the only text in its list of parts or, where it has no such list, its
text but for backslashes at both ends. -/
inductive HasOnlyPart (n : Node) (part : String) : Prop
  | listed (items : List Value) : n.field "parts" = some (.list items) →
      items.filterMap Value.asText? = [part] → HasOnlyPart n part
  | spelled (s : String) (i j : Nat) : (∀ items, n.field "parts" ≠ some (.list items)) →
      n.text "name" = some s →
        s.toList = List.replicate i '\\' ++ (part.toList ++ List.replicate j '\\') →
          part ≠ "" → '\\' ∉ part.toList → HasOnlyPart n part

theorem nameParts_eq_singleton_iff {part : String} : n.nameParts = [part] ↔ n.HasOnlyPart part := by
  by_cases hparts : ∃ items, n.field "parts" = some (.list items)
  · obtain ⟨items, hitems⟩ := hparts
    rw [nameParts_of_parts hitems]
    refine ⟨.listed items hitems, fun h => ?_⟩
    cases h with
    | listed others hothers hpart =>
      rw [hitems, Option.some.injEq, Value.list.injEq] at hothers
      rw [hothers, hpart]
    | spelled s i j hnone => exact absurd hitems (hnone items)
  · rw [not_exists] at hparts
    have hpart : ∀ q : List Char, String.ofList q = part ↔ q = part.toList := by
      intro q
      rw [← String.toList_inj, String.toList_ofList]
    have hempty : part ≠ "" ↔ part.toList ≠ [] := by
      rw [ne_eq, ne_eq, String.toList_eq_nil_iff]
    cases hname : n.text "name" with
    | none =>
      rw [nameParts_of_none hparts hname]
      refine iff_of_false (by simp) fun h => ?_
      cases h with
      | listed items hitems => exact hparts items hitems
      | spelled s i j _ hs => simp [hname] at hs
    | some s =>
      have hpieces : n.nameParts = [part] ↔ Text.pieces '\\' s.toList = [part.toList] := by
        rw [nameParts_of_text hparts hname, List.map_eq_singleton_iff]
        simp [hpart]
      rw [hpieces, Text.pieces_eq_singleton_iff]
      constructor
      · rintro ⟨i, j, hs, hne, hmem⟩
        exact .spelled s i j hparts hname hs (hempty.mpr hne) hmem
      · intro h
        cases h with
        | listed items hitems => exact absurd hitems (hparts items)
        | spelled t i j _ ht hs hne hmem =>
          obtain rfl : s = t := by simpa [hname] using ht
          exact ⟨i, j, hs, hempty.mp hne, hmem⟩

end Node

end SourceSig
