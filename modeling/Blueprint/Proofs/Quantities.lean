import Blueprint.Grammar.Quantity
import Mathlib.Algebra.Order.Ring.Int

/-!
# What quantities denote

A form takes a number or the text of one, and both are compared as doubles. Whole numbers
below `2 ^ 53` are doubles without rounding, and rounding never brings a larger one below
that bound, so up to there the comparison of doubles is the comparison of the numbers that
were entered. A value *denotes* a whole number if the double it stands for is that number.
-/

namespace Blueprint

/-! ## Powers of two -/

theorem twoTo_pos (n : Nat) : 0 < twoTo n := Nat.two_pow_pos n

theorem twoTo_add (m n : Nat) : twoTo (m + n) = twoTo m * twoTo n := Nat.pow_add 2 m n

theorem twoTo_le_twoTo {m n : Nat} (h : m ≤ n) : twoTo m ≤ twoTo n :=
  Nat.pow_le_pow_right Nat.two_pos h

theorem twoTo_log2_le {n : Nat} (h : n ≠ 0) : twoTo n.log2 ≤ n := Nat.log2_self_le h

theorem lt_twoTo_log2 (n : Nat) : n < twoTo (n.log2 + 1) := Nat.lt_log2_self

theorem log2_mul_twoTo {n : Nat} (h : n ≠ 0) (k : Nat) : (n * twoTo k).log2 = n.log2 + k := by
  refine (Nat.log2_eq_iff (Nat.mul_ne_zero h (twoTo_pos k).ne')).mpr ⟨?_, ?_⟩
  · rw [Nat.pow_add]
    exact Nat.mul_le_mul_right _ (twoTo_log2_le h)
  · rw [Nat.add_right_comm, Nat.pow_add]
    exact Nat.mul_lt_mul_of_pos_right (lt_twoTo_log2 n) (twoTo_pos k)

namespace Binary64

/-! ## Rounding -/

theorem div_le_roundDiv (num den : Nat) : num / den ≤ roundDiv num den := by
  unfold roundDiv
  dsimp only
  split
  · exact le_rfl
  · split <;> omega

theorem roundDiv_le (num den : Nat) : roundDiv num den ≤ num / den + 1 := by
  unfold roundDiv
  dsimp only
  split
  · exact Nat.le_succ _
  · split <;> omega

theorem roundDiv_mul (quotient : Nat) {den : Nat} (h : 0 < den) :
    roundDiv (quotient * den) den = quotient := by
  simp [roundDiv, Nat.mul_div_cancel _ h, h]

/-- A word made of an exponent and a significand stands for the significand at that
exponent, also when the significand is the first one of the next exponent. -/
theorem unitsOfWord_eq (excess : Nat) {significand : Nat} (hlow : twoTo 52 ≤ significand)
    (hhigh : significand ≤ twoTo 53) :
    unitsOfWord (excess * twoTo 52 + significand) = significand * twoTo excess := by
  have hdouble : twoTo 53 = 2 * twoTo 52 := by rfl
  have hpos := twoTo_pos 52
  have hword : excess * twoTo 52 + significand =
      significand - twoTo 52 + twoTo 52 * (excess + 1) := by
    rw [Nat.mul_succ, Nat.mul_comm]
    omega
  unfold unitsOfWord
  dsimp only
  rw [hword, Nat.add_mul_div_left _ _ hpos, Nat.add_mul_mod_self_left]
  rcases Nat.lt_or_ge significand (twoTo 53) with hlt | hge
  · have hfraction : significand - twoTo 52 < twoTo 52 := by omega
    rw [Nat.div_eq_of_lt hfraction, Nat.mod_eq_of_lt hfraction, Nat.zero_add,
      if_neg (Nat.succ_ne_zero _), Nat.add_sub_cancel, Nat.add_sub_cancel' hlow]
  · have hfraction : significand - twoTo 52 = twoTo 52 := by omega
    rw [hfraction, Nat.div_self hpos, Nat.mod_self, if_neg (by omega), Nat.add_zero,
      show 1 + (excess + 1) - 1 = excess + 1 by omega, show significand = twoTo 52 * 2 by omega,
      Nat.mul_assoc, Nat.mul_comm 2, twoTo_add]
    rfl

theorem lt_of_le_infinityWord {word : Nat} (h : word ≤ infinityWord) : word < twoTo 63 :=
  lt_of_le_of_lt h (by decide)

theorem toNat_word_ofMagnitude (negative : Bool) {word : Nat} (h : word ≤ infinityWord) :
    (ofMagnitude negative word).word.toNat = (if negative then twoTo 63 else 0) + word := by
  have hword := lt_of_le_infinityWord h
  have hdouble : twoTo 64 = twoTo 63 + twoTo 63 := by rfl
  rw [ofMagnitude, UInt64.toNat_ofNat']
  refine Nat.mod_eq_of_lt (show _ < twoTo 64 from ?_)
  split <;> omega

theorem magnitude_ofMagnitude (negative : Bool) {word : Nat} (h : word ≤ infinityWord) :
    (ofMagnitude negative word).magnitude = word := by
  have hword := lt_of_le_infinityWord h
  rw [magnitude, toNat_word_ofMagnitude negative h]
  cases negative with
  | false => rw [if_neg Bool.false_ne_true, Nat.zero_add, Nat.mod_eq_of_lt hword]
  | true => rw [if_pos rfl, Nat.add_mod_left, Nat.mod_eq_of_lt hword]

theorem isNegative_ofMagnitude (negative : Bool) {word : Nat} (h : word ≤ infinityWord) :
    (ofMagnitude negative word).isNegative = negative := by
  have hword := lt_of_le_infinityWord h
  rw [isNegative, toNat_word_ofMagnitude negative h]
  cases negative with
  | false => exact decide_eq_false (by simpa using hword)
  | true => exact decide_eq_true (Nat.le_add_right _ _)

theorem nearestWord_le (num den : Nat) : nearestWord num den ≤ infinityWord := Nat.min_le_left _ _

/-! ## Whole numbers -/

/-- The rounded significand of a whole number. -/
def significandOf (n : Nat) : Nat := roundDiv (n * unitsPerOne) (twoTo (n.log2 + 1022))

theorem nearestWord_one {n : Nat} (h : n ≠ 0) :
    nearestWord n 1 = min infinityWord ((n.log2 + 1022) * twoTo 52 + significandOf n) := by
  have hexcess : (n * unitsPerOne).log2 - 52 = n.log2 + 1022 := by
    rw [unitsPerOne, log2_mul_twoTo h]
    omega
  simp only [nearestWord, significandOf, Nat.div_one, Nat.one_mul, hexcess]

theorem unitsPerOne_eq : unitsPerOne = twoTo 52 * twoTo 1022 := twoTo_add 52 1022

theorem le_significandOf {n : Nat} (h : n ≠ 0) : twoTo 52 ≤ significandOf n := by
  refine le_trans ?_ (div_le_roundDiv _ _)
  rw [Nat.le_div_iff_mul_le (twoTo_pos _), Nat.add_comm, twoTo_add, ← Nat.mul_assoc,
    ← unitsPerOne_eq, Nat.mul_comm]
  exact Nat.mul_le_mul_right _ (twoTo_log2_le h)

theorem significandOf_le (n : Nat) : significandOf n ≤ twoTo 53 := by
  refine le_trans (roundDiv_le _ _) (Nat.div_lt_of_lt_mul ?_)
  have hsplit : twoTo (n.log2 + 1022) * twoTo 53 = twoTo (n.log2 + 1) * unitsPerOne := by
    have hexponent : n.log2 + 1022 + 53 = n.log2 + 1 + 1074 := by omega
    rw [unitsPerOne, ← twoTo_add, ← twoTo_add, hexponent]
  rw [hsplit]
  exact Nat.mul_lt_mul_of_pos_right (lt_twoTo_log2 n) (twoTo_pos _)

theorem significandOf_eq {n : Nat} (h : n.log2 ≤ 52) :
    significandOf n = n * twoTo (52 - n.log2) := by
  have hsplit : n * unitsPerOne = n * twoTo (52 - n.log2) * twoTo (n.log2 + 1022) := by
    have hexponent : 52 - n.log2 + (n.log2 + 1022) = 1074 := by omega
    rw [Nat.mul_assoc, ← twoTo_add, hexponent, unitsPerOne]
  rw [significandOf, hsplit, roundDiv_mul _ (twoTo_pos _)]

theorem units_ofInt (n : Int) : (ofInt n).units = unitsOfWord (nearestWord n.natAbs 1) := by
  rw [units, ofInt, nearest, magnitude_ofMagnitude _ (nearestWord_le _ _)]

theorem isNegative_ofInt (n : Int) : (ofInt n).isNegative = decide (n < 0) :=
  isNegative_ofMagnitude _ (nearestWord_le _ _)

/-- Whole numbers of at most 53 bits are doubles. -/
theorem units_ofInt_of_lt {n : Int} (h : n.natAbs < twoTo 53) :
    (ofInt n).units = n.natAbs * unitsPerOne := by
  rw [units_ofInt]
  generalize n.natAbs = m at h
  by_cases hzero : m = 0
  · simp [hzero, nearestWord, roundDiv, unitsOfWord]
  have hlog : m.log2 ≤ 52 := Nat.le_of_lt_succ ((Nat.log2_lt hzero).mpr h)
  have hfinite : (m.log2 + 1022) * twoTo 52 + significandOf m ≤ infinityWord :=
    calc (m.log2 + 1022) * twoTo 52 + significandOf m
        ≤ 1074 * twoTo 52 + twoTo 53 :=
          Nat.add_le_add (Nat.mul_le_mul_right _ (by omega)) (significandOf_le m)
      _ ≤ infinityWord := by decide
  have hexponent : 52 - m.log2 + (m.log2 + 1022) = 1074 := by omega
  rw [nearestWord_one hzero, Nat.min_eq_right hfinite,
    unitsOfWord_eq _ (le_significandOf hzero) (significandOf_le m), significandOf_eq hlog,
    Nat.mul_assoc, ← twoTo_add, hexponent, unitsPerOne]

theorem le_units_ofInt {n : Int} (h : twoTo 53 ≤ n.natAbs) :
    twoTo 53 * unitsPerOne ≤ (ofInt n).units := by
  rw [units_ofInt]
  generalize n.natAbs = m at h
  have hzero : m ≠ 0 := (lt_of_lt_of_le (twoTo_pos 53) h).ne'
  have hlog : 53 ≤ m.log2 := (Nat.le_log2 hzero).mpr h
  have hbound : ∀ {k}, 1075 ≤ k → twoTo 53 * unitsPerOne ≤ twoTo 52 * twoTo k := by
    intro k hk
    rw [unitsPerOne, ← twoTo_add, ← twoTo_add]
    exact twoTo_le_twoTo (by omega)
  rw [nearestWord_one hzero]
  rcases Nat.le_total infinityWord ((m.log2 + 1022) * twoTo 52 + significandOf m) with hge | hle
  · have hword : infinityWord = 2046 * twoTo 52 + twoTo 52 := by decide
    rw [Nat.min_eq_left hge, hword, unitsOfWord_eq 2046 le_rfl (twoTo_le_twoTo (by omega))]
    exact hbound (by omega)
  · rw [Nat.min_eq_right hle, unitsOfWord_eq _ (le_significandOf hzero) (significandOf_le m)]
    exact le_trans (hbound (by omega)) (Nat.mul_le_mul_right _ (le_significandOf hzero))

theorem natAbs_scaled (x : Binary64) : x.scaled.natAbs = x.units := by
  unfold scaled
  split <;> omega

theorem scaled_ofInt {n : Int} (h : n.natAbs < twoTo 53) : (ofInt n).scaled = n * unitsPerOne := by
  rw [scaled, isNegative_ofInt, units_ofInt_of_lt h]
  generalize unitsPerOne = u
  rcases lt_or_ge n 0 with hneg | hnonneg
  · rw [if_pos (by simpa using hneg), Nat.cast_mul, Int.ofNat_natAbs_of_nonpos hneg.le,
      Int.neg_mul, Int.neg_neg]
  · rw [if_neg (by simpa using hnonneg), Nat.cast_mul, Int.natAbs_of_nonneg hnonneg]

/-- A whole number whose double is a small whole number is that number. -/
theorem eq_of_scaled_ofInt {n z : Int} (hsmall : z.natAbs < twoTo 53)
    (h : (ofInt n).scaled = z * unitsPerOne) : n = z := by
  have hunits : (unitsPerOne : Int) ≠ 0 := by exact_mod_cast (twoTo_pos 1074).ne'
  rcases Nat.lt_or_ge n.natAbs (twoTo 53) with hlt | hge
  · exact mul_right_cancel₀ hunits ((scaled_ofInt hlt).symm.trans h)
  · have hlarge := le_units_ofInt hge
    rw [← natAbs_scaled, h, Int.natAbs_mul, Int.natAbs_natCast] at hlarge
    exact absurd hsmall (Nat.not_lt.mpr (Nat.le_of_mul_le_mul_right hlarge (twoTo_pos 1074)))

theorem unitsPerOne_ne_zero : (unitsPerOne : Int) ≠ 0 :=
  Int.natCast_ne_zero.mpr (twoTo_pos 1074).ne'

theorem isWhole_iff {x : Binary64} : x.isWhole = true ↔ ∃ z : Int, x.scaled = z * unitsPerOne := by
  rw [isWhole, beq_iff_eq, ← natAbs_scaled]
  constructor
  · intro h
    obtain ⟨z, hz⟩ := Int.natCast_dvd.mpr (Nat.dvd_of_mod_eq_zero h)
    exact ⟨z, by rw [hz, Int.mul_comm]⟩
  · rintro ⟨z, hz⟩
    rw [hz, Int.natAbs_mul, Int.natAbs_natCast, Nat.mul_mod_left]

end Binary64

/-! ## Values -/

/-- A value denotes a whole number if it is that number or the numeral of it. -/
def Value.Denotes (v : Value) (z : Int) : Prop :=
  ∃ x, v.quantity? = some x ∧ x.scaled = z * Binary64.unitsPerOne

theorem Value.isBlank_of_quantity? {v : Value} {x : Binary64} (h : v.quantity? = some x) :
    v.isBlank = false := by
  cases v with
  | text s =>
      refine Bool.eq_false_iff.mpr fun hempty => ?_
      obtain rfl : s = "" := String.isEmpty_iff.mp hempty
      cases h
  | null => cases h
  | bool _ | number _ | list _ | object _ => rfl

namespace Value.Denotes

variable {v : Value} {z n : Int}

theorem unique (h : v.Denotes z) (h' : v.Denotes n) : z = n := by
  obtain ⟨x, hx, hz⟩ := h
  obtain ⟨y, hy, hn⟩ := h'
  obtain rfl := Option.some.inj (hx.symm.trans hy)
  exact mul_right_cancel₀ Binary64.unitsPerOne_ne_zero (hz.symm.trans hn)

theorem eq_of_int? (h : v.Denotes z) (hsmall : z.natAbs < twoTo 53) (hint : v.int? = some n) :
    n = z := by
  obtain ⟨x, hx, hz⟩ := h
  cases v with
  | number number =>
      cases number with
      | integer m =>
          obtain rfl : Binary64.ofInt m = x := Option.some.inj hx
          simp only [int?, Number.toInt?, Option.ite_none_right_eq_some, Option.some.injEq] at hint
          rw [← hint.2]
          exact Binary64.eq_of_scaled_ofInt hsmall hz
      | double _ => cases hint
  | null | bool _ | text _ | list _ | object _ => cases hint

theorem isZeroQuantity_iff (h : v.Denotes z) : v.isZeroQuantity = true ↔ z = 0 := by
  obtain ⟨x, hx, hz⟩ := h
  have hunits : x.units = z.natAbs * Binary64.unitsPerOne := by
    rw [← Binary64.natAbs_scaled, hz, Int.natAbs_mul, Int.natAbs_natCast]
  simp only [isZeroQuantity, hx, Binary64.isNegligible, decide_eq_true_eq, hunits]
  constructor
  · intro hlt
    by_contra hne
    have hone : Binary64.unitsPerOne ≤ z.natAbs * Binary64.unitsPerOne :=
      Nat.le_mul_of_pos_left _ (Int.natAbs_pos.mpr hne)
    exact absurd hlt (Nat.not_lt.mpr (le_trans (twoTo_le_twoTo (by omega)) hone))
  · rintro rfl
    simpa using twoTo_pos (1074 - 52)

theorem isBlank_eq_false (h : v.Denotes z) : v.isBlank = false := by
  obtain ⟨x, hx, -⟩ := h
  exact isBlank_of_quantity? hx

end Value.Denotes

theorem Value.denotes_ofInt {n : Int} (h : n.natAbs < twoTo 53) : (Value.ofInt n).Denotes n :=
  ⟨Binary64.ofInt n, rfl, Binary64.scaled_ofInt h⟩

/-! ## Limits -/

namespace Limits

/-- Limits that are doubles without rounding. -/
def Exact (limits : Limits) : Prop :=
  limits.min.natAbs < twoTo 53 ∧ limits.max.natAbs < twoTo 53

instance (limits : Limits) : Decidable limits.Exact := inferInstanceAs (Decidable (_ ∧ _))

def Contains (limits : Limits) (z : Int) : Prop := limits.min ≤ z ∧ z ≤ limits.max

instance (limits : Limits) (z : Int) : Decidable (limits.Contains z) :=
  inferInstanceAs (Decidable (_ ∧ _))

theorem Contains.natAbs_lt {limits : Limits} {z : Int} (hexact : limits.Exact)
    (h : limits.Contains z) : z.natAbs < twoTo 53 := by
  obtain ⟨hmin, hmax⟩ := hexact
  obtain ⟨hlow, hhigh⟩ := h
  omega

theorem admits_iff {limits : Limits} (hexact : limits.Exact) {x : Binary64} {z : Int}
    (hz : x.scaled = z * Binary64.unitsPerOne) : limits.admits x = true ↔ limits.Contains z := by
  have hpos : (0 : Int) < Binary64.unitsPerOne := by exact_mod_cast twoTo_pos 1074
  rw [admits, Binary64.le, Binary64.le, Bool.and_eq_true, decide_eq_true_eq, decide_eq_true_eq,
    Binary64.scaled_ofInt hexact.1, Binary64.scaled_ofInt hexact.2, hz, mul_le_mul_iff_left₀ hpos,
    mul_le_mul_iff_left₀ hpos, Contains]

/-- What is accepted is nothing at all or denotes a whole number within the limits. -/
theorem accepts_iff {limits : Limits} (hexact : limits.Exact) {v : Value} :
    limits.accepts (some v) = true ↔
      v.isBlank = true ∨ ∃ z, v.Denotes z ∧ limits.Contains z := by
  simp only [accepts, Value.isWholeQuantity, Bool.or_eq_true, Bool.and_eq_true, Value.Denotes]
  refine or_congr_right ?_
  cases hquantity : v.quantity? with
  | none => simp only [reduceCtorEq, Bool.false_eq_true, false_and, exists_false]
  | some x =>
      simp only [Option.some.injEq]
      constructor
      · rintro ⟨hwhole, hadmits⟩
        obtain ⟨z, hz⟩ := Binary64.isWhole_iff.mp hwhole
        exact ⟨z, ⟨x, rfl, hz⟩, (admits_iff hexact hz).mp hadmits⟩
      · rintro ⟨z, ⟨y, rfl, hz⟩, hcontains⟩
        exact ⟨Binary64.isWhole_iff.mpr ⟨z, hz⟩, (admits_iff hexact hz).mpr hcontains⟩

theorem contains_of_accepts {limits : Limits} (hexact : limits.Exact) {v : Value} {z : Int}
    (h : limits.accepts (some v) = true) (hz : v.Denotes z) : limits.Contains z := by
  rcases (accepts_iff hexact).mp h with hblank | ⟨n, hn, hcontains⟩
  · rw [hz.isBlank_eq_false] at hblank
    cases hblank
  · rwa [hz.unique hn]

end Limits

end Blueprint
