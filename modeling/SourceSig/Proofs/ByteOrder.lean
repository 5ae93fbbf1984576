import SourceSig.Text.Utf8
import Mathlib.Tactic.SplitIfs

/-!
# The order of bytes

Texts are compared by their characters, and what is promised of them is the order of their bytes.
`encode_lt_encode` says that the one gives the other: UTF-8 was made so that the bytes of a smaller
character come first.
-/

namespace SourceSig.Text

theorem ofNat_cons_lt_iff {a b : Nat} (ha : a < 256) (hb : b < 256) (r s : Bytes) :
    UInt8.ofNat a :: r < UInt8.ofNat b :: s ↔ a < b ∨ a = b ∧ r < s := by
  rw [List.cons_lt_cons_iff, UInt8.lt_iff_toNat_lt, ← UInt8.toNat_inj,
    UInt8.toNat_ofNat_of_lt' ha, UInt8.toNat_ofNat_of_lt' hb]

/-- The bytes of a smaller character come first, whatever follows. -/
theorem utf8EncodeChar_append_lt {c d : Char} (h : c < d) (r s : Bytes) :
    String.utf8EncodeChar c ++ r < String.utf8EncodeChar d ++ s := by
  have hlt : c.val.toNat < d.val.toNat := h
  have hd : d.val.toNat < 0x110000 := by
    rcases d.valid with hd | hd
    · exact Nat.lt_trans hd (by decide)
    · exact hd.2
  -- The bytes are digits to the base 64, so the code point is divided by 64 time and again.
  have hdigits : ∀ v : Nat, v / 4096 = v / 64 / 64 ∧ v / 262144 = v / 64 / 64 / 64 := by
    intro v
    simp [Nat.div_div_eq_div_mul]
  simp only [String.utf8EncodeChar, (hdigits _).1, (hdigits _).2]
  generalize c.val.toNat = v at hlt
  generalize d.val.toNat = w at hlt hd
  split_ifs <;>
    simp (disch := omega) only [List.cons_append, List.nil_append, ofNat_cons_lt_iff] <;> omega

theorem flatMap_utf8EncodeChar_lt : ∀ {cs ds : List Char}, cs < ds →
    cs.flatMap String.utf8EncodeChar < ds.flatMap String.utf8EncodeChar
  | _, [], h => absurd h (List.not_lt_nil _)
  | [], d :: ds, _ => by
    obtain ⟨b, bs, hb⟩ := List.exists_cons_of_ne_nil (String.utf8EncodeChar_ne_nil (c := d))
    simp [hb]
  | c :: cs, d :: ds, h => by
    rw [List.flatMap_cons, List.flatMap_cons]
    rcases List.cons_lt_cons_iff.mp h with hlt | ⟨rfl, hlt⟩
    · exact utf8EncodeChar_append_lt hlt _ _
    · exact List.append_left_lt (flatMap_utf8EncodeChar_lt hlt)

/-- The smaller text has the smaller bytes. -/
theorem encode_lt_encode {s t : String} (h : s < t) : encode s < encode t :=
  flatMap_utf8EncodeChar_lt (String.lt_iff.mp h)

end SourceSig.Text
