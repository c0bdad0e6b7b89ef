import Mathlib
import Blueprint.Text.Order

/-!
# Order of bytes

Texts are ordered by their characters, and their UTF-8 bytes have the same order: where two
texts first differ in a character, their bytes first differ within that character.
-/

namespace Blueprint.Text

/-- The bytes of a text in UTF-8. -/
def bytes (s : String) : List UInt8 := s.toUTF8.data.toList

theorem bytes_eq (s : String) : bytes s = s.toList.flatMap String.utf8EncodeChar := by
  rw [bytes, String.toUTF8, ← String.utf8Encode_toList, List.utf8Encode]
  simp

/-- Of two numbers the smaller one has the smaller last digit unless it is smaller before. -/
theorem div_lt_or_mod_lt {m n : Nat} (h : m < n) (base : Nat) :
    m / base < n / base ∨ m / base = n / base ∧ m % base < n % base := by
  rcases (Nat.div_le_div_right (c := base) h.le).lt_or_eq with hlt | heq
  · exact .inl hlt
  · have hm := Nat.div_add_mod m base
    have hn := Nat.div_add_mod n base
    rw [heq] at hm
    exact .inr ⟨heq, by omega⟩

/-- The bytes of a smaller character come first, whatever follows them. -/
theorem utf8EncodeChar_append_lt {c d : Char} (h : c < d) (after after' : List UInt8) :
    String.utf8EncodeChar c ++ after < String.utf8EncodeChar d ++ after' := by
  have hcode : c.val.toNat < d.val.toNat := UInt32.lt_iff_toNat_lt.mp h
  have hbound : d.val.toNat < 0x110000 := by
    rcases d.valid with hlow | hhigh
    · exact Nat.lt_trans hlow (by decide)
    · exact hhigh.2
  simp only [String.utf8EncodeChar]
  generalize c.val.toNat = m at hcode ⊢
  generalize d.val.toNat = n at hcode hbound ⊢
  -- the bytes are digits to the base 64, compared from the last one to the first
  have hlast := div_lt_or_mod_lt hcode 64
  have hthird (hlt : m / 64 < n / 64) :
      m / 4096 < n / 4096 ∨ m / 4096 = n / 4096 ∧ m / 64 % 64 < n / 64 % 64 := by
    simpa only [Nat.div_div_eq_div_mul] using div_lt_or_mod_lt hlt 64
  have hsecond (hlt : m / 4096 < n / 4096) :
      m / 262144 < n / 262144 ∨ m / 262144 = n / 262144 ∧ m / 4096 % 64 < n / 4096 % 64 := by
    simpa only [Nat.div_div_eq_div_mul] using div_lt_or_mod_lt hlt 64
  have hdigit (k : Nat) : (k % 64 + 128) % 256 = k % 64 + 128 := Nat.mod_eq_of_lt (by omega)
  have hlead (k : Nat) (hk : k < 0x110000) : (k / 262144 % 8 + 240) % 256 = k / 262144 + 240 := by
    omega
  split_ifs <;>
    simp only [List.cons_append, List.nil_append, List.cons_lt_cons_iff, UInt8.lt_iff_toNat_lt,
      ← UInt8.toNat_inj, UInt8.toNat_ofNat', hdigit, hlead m (hcode.trans hbound), hlead n hbound]
      <;> omega

theorem flatMap_utf8EncodeChar_lt {cs ds : List Char} (h : cs < ds) :
    cs.flatMap String.utf8EncodeChar < ds.flatMap String.utf8EncodeChar := by
  -- on the order itself: the shorter text ends, the characters differ, or they are the same
  induction h with
  | @nil d ds =>
      obtain ⟨byte, rest, hbytes⟩ :=
        List.exists_cons_of_ne_nil (String.utf8EncodeChar_ne_nil (c := d))
      rw [List.flatMap_nil, List.flatMap_cons, hbytes]
      exact List.nil_lt_cons _ _
  | rel hchar =>
      rw [List.flatMap_cons, List.flatMap_cons]
      exact utf8EncodeChar_append_lt hchar _ _
  | cons _ ih =>
      rw [List.flatMap_cons, List.flatMap_cons]
      exact List.append_left_lt ih

theorem bytes_lt_of_lt {a b : String} (h : a < b) : bytes a < bytes b := by
  rw [bytes_eq, bytes_eq]
  exact flatMap_utf8EncodeChar_lt h

theorem pairwise_distinct (items : List String) :
    (distinct items).Pairwise fun a b => bytes a < bytes b := by
  have hsorted : (distinct items).Pairwise (· ≤ ·) := by
    have htrans (a b c : String) (hab : decide (a ≤ b) = true) (hbc : decide (b ≤ c) = true) :
        decide (a ≤ c) = true :=
      decide_eq_true ((of_decide_eq_true hab).trans (of_decide_eq_true hbc))
    have htotal (a b : String) : (decide (a ≤ b) || decide (b ≤ a)) = true := by
      simpa using le_total a b
    exact (List.pairwise_mergeSort htrans htotal items.eraseDups).imp of_decide_eq_true
  refine (hsorted.and (nodup_distinct items)).imp fun h => ?_
  exact bytes_lt_of_lt (lt_of_le_of_ne h.1 h.2)

end Blueprint.Text
