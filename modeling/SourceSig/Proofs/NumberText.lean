import SourceSig.Number.Decimal
import Mathlib

/-!
# The texts of numbers

What the digits of a number are written with, in any layout that keeps the point: the text starts
with a digit after its sign, and it has a point or an exponent, so no integer has it.
-/

namespace SourceSig

/-- The characters of numbers in decimal notation. -/
def isNumberChar (c : Char) : Bool :=
  c.isDigit || c == '-' || c == '+' || c == '.' || c == 'e'

theorem isNumberChar_of_isDigit {c : Char} (h : c.isDigit) : isNumberChar c := by
  simp [isNumberChar, h]

/-! ## Integers -/

theorem isDigit_of_mem_toString {n : Nat} {c : Char} (h : c ∈ (toString n).toList) : c.isDigit := by
  rw [Nat.toString_eq_repr, Nat.toList_repr] at h
  exact Nat.isDigit_of_mem_toDigits (by decide) (by decide) h

/-- The text of a natural number starts with a digit. -/
theorem exists_toString_eq_cons (n : Nat) : ∃ c r, (toString n).toList = c :: r ∧ c.isDigit := by
  cases h : (toString n).toList with
  | nil => simp at h
  | cons c r => exact ⟨c, r, rfl, isDigit_of_mem_toString (h ▸ List.mem_cons_self)⟩

theorem int_toString_eq (i : Int) :
    toString i = if 0 ≤ i then toString i.toNat else "-" ++ toString (-i).toNat := by
  rw [Int.toString_eq_repr, Int.repr_eq_if]
  rfl

theorem of_mem_int_toString {i : Int} {c : Char} (h : c ∈ (toString i).toList) :
    c.isDigit ∨ c = '-' := by
  rw [int_toString_eq] at h
  split_ifs at h
  · exact .inl (isDigit_of_mem_toString h)
  · rw [String.toList_append, List.mem_append] at h
    rcases h with h | h
    · exact .inr (by simpa using h)
    · exact .inl (isDigit_of_mem_toString h)

/-! ## Decimals -/

/-- Digits, then a point or the mark of an exponent, then more of the number. -/
def IsDecimalText (t : List Char) : Prop :=
  ∃ ds m r, t = ds ++ m :: r ∧ ds ≠ [] ∧ (∀ c ∈ ds, c.isDigit) ∧ (m = '.' ∨ m = 'e') ∧
    ∀ c ∈ r, isNumberChar c

namespace IsDecimalText

variable {t : List Char}

theorem isNumberChar_of_mem (h : IsDecimalText t) {c : Char} (hc : c ∈ t) : isNumberChar c := by
  obtain ⟨ds, m, r, rfl, -, hds, hm, hr⟩ := h
  rcases List.mem_append.mp hc with hc | hc
  · exact isNumberChar_of_isDigit (hds c hc)
  · rcases List.mem_cons.mp hc with rfl | hc
    · rcases hm with rfl | rfl <;> decide
    · exact hr c hc

theorem exists_eq_cons (h : IsDecimalText t) : ∃ c r, t = c :: r ∧ c.isDigit := by
  obtain ⟨ds, m, r, rfl, hne, hds, -⟩ := h
  obtain ⟨c, ds, rfl⟩ := List.exists_cons_of_ne_nil hne
  exact ⟨c, ds ++ m :: r, rfl, hds c List.mem_cons_self⟩

theorem mark_mem (h : IsDecimalText t) : '.' ∈ t ∨ 'e' ∈ t := by
  obtain ⟨ds, m, r, rfl, -, -, rfl | rfl, -⟩ := h
  · exact .inl (by simp)
  · exact .inr (by simp)

end IsDecimalText

namespace Layout

variable {l : Layout}

theorem isDigit_of_mem_zeros {n : Nat} {c : Char} (h : c ∈ (zeros n).toList) : c.isDigit := by
  rw [zeros, String.toList_ofList] at h
  rw [List.eq_of_mem_replicate h]
  decide

theorem toList_withPoint (digits : String) (n : Nat) :
    (withPoint digits n).toList = digits.toList.take n ++ '.' :: digits.toList.drop n := by
  simp [withPoint]

/-- Digits with a point among them, and more of the number after them. -/
theorem isDecimalText_withPoint {n k : Nat} (hk : 0 < k) {r : List Char}
    (hr : ∀ c ∈ r, isNumberChar c) :
    IsDecimalText ((withPoint (toString n) k).toList ++ r) := by
  have hdigits {c : Char} (h : c ∈ (toString n).toList) : c.isDigit := isDigit_of_mem_toString h
  refine ⟨(toString n).toList.take k, '.', (toString n).toList.drop k ++ r, ?_, ?_, ?_, .inl rfl, ?_⟩
  · simp [toList_withPoint]
  · simp [hk.ne']
  · exact fun c hc => hdigits (List.mem_of_mem_take hc)
  · intro c hc
    rcases List.mem_append.mp hc with hc | hc
    · exact isNumberChar_of_isDigit (hdigits (List.mem_of_mem_drop hc))
    · exact hr c hc

theorem isNumberChar_of_mem_exponent (hplus : ∀ c ∈ l.plus.toList, c = '+') {e : Int} {c : Char}
    (h : c ∈ (if 0 ≤ e then l.plus else "").toList ++ (toString e).toList) : isNumberChar c := by
  rcases List.mem_append.mp h with h | h
  · split_ifs at h
    · rw [hplus c h]
      decide
    · simp at h
  · rcases of_mem_int_toString h with h | rfl
    · exact isNumberChar_of_isDigit h
    · decide

/-- A layout that keeps the point writes every decimal with a point or an exponent. -/
theorem isDecimalText_write (hpoint : l.keepsPoint = true) (hplus : ∀ c ∈ l.plus.toList, c = '+')
    (d : Decimal) : IsDecimalText (l.write d).toList := by
  have hdigits {c : Char} (h : c ∈ (toString d.digits).toList) : c.isDigit :=
    isDigit_of_mem_toString h
  have hne : (toString d.digits).toList ≠ [] := by simp
  simp only [write, hpoint, if_true]
  generalize hlead : d.exponent + ↑(toString d.digits).length - 1 = lead
  have hexp (c : Char) := isNumberChar_of_mem_exponent hplus (e := lead) (c := c)
  split
  · exact ⟨['0'], '.', ['0'], by simp, by simp, by simp, .inl rfl, by simp [isNumberChar]⟩
  split
  · -- An exponent follows the mantissa, which has a point unless it is one digit.
    simp only [String.toList_append, List.append_assoc]
    split
    · exact ⟨_, 'e', _, rfl, hne, fun c hc => hdigits hc, .inr rfl, hexp⟩
    · refine isDecimalText_withPoint one_pos fun c hc => ?_
      rcases List.mem_append.mp hc with hc | hc
      · rw [show c = 'e' by simpa using hc]
        decide
      · exact hexp c hc
  split
  · refine ⟨(toString d.digits).toList ++ (zeros d.exponent.toNat).toList, '.', ['0'],
      by simp, by simp, fun c hc => ?_, .inl rfl, by simp [isNumberChar]⟩
    rcases List.mem_append.mp hc with hc | hc
    · exact hdigits hc
    · exact isDigit_of_mem_zeros hc
  split
  · simpa using isDecimalText_withPoint (n := d.digits) (k := (lead + 1).toNat) (by omega)
      (r := []) (by simp)
  · refine ⟨['0'], '.', (zeros (-lead - 1).toNat).toList ++ (toString d.digits).toList,
      by simp, by simp, by simp, .inl rfl, fun c hc => isNumberChar_of_isDigit ?_⟩
    rcases List.mem_append.mp hc with hc | hc
    · exact isDigit_of_mem_zeros hc
    · exact hdigits hc

end Layout

end SourceSig
