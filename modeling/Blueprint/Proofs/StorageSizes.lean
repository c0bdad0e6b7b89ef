import Mathlib
import Blueprint.Proofs.EnteredTexts
import Blueprint.Terraform.Amount

/-!
# Storage sizes

A storage size is entered in gigabytes or terabytes and written as its number of gigabytes. If
that number does not fit in 64 bits, the size stays as it was entered. A number by itself has no
unit, and so what has been written is written again as it is.
-/

namespace Blueprint.Terraform

variable {cs : List Char} {unit : String} {n factor : Nat}

/-! ## Gigabytes -/

/-- The gigabytes of a size that has been trimmed, if it is one and they fit in 64 bits. -/
def gigabytes? (size : List Char) : Option Nat :=
  Option.filter (· < twoTo 64) do
    let (digits, factor) ← storageUnit size.reverse
    let amount ← readAmount (Text.trimChars digits)
    return amount * factor

theorem storageSize_eq (s : String) :
    storageSize s = match gigabytes? (Text.trimChars s.toList) with
      | some n => toString n
      | none => Text.trim s :=
  rfl

theorem lt_of_gigabytes? (h : gigabytes? cs = some n) : n < 2 ^ 64 := by
  have hfits := (Option.filter_eq_some_iff.mp h).2
  exact of_decide_eq_true hfits

/-- A number in front of a unit is a size, as far as its gigabytes fit in 64 bits. -/
theorem gigabytes?_append (h : n < 2 ^ 64)
    (hunit : ∀ digits, storageUnit (digits ++ unit.toList).reverse = some (digits, factor)) :
    gigabytes? (Nat.toDigits 10 n ++ unit.toList) =
      if n * factor < 2 ^ 64 then some (n * factor) else none := by
  have hamount : readAmount (Nat.toDigits 10 n) = some n := by
    rw [readAmount, Decimal.readUnsigned_toDigits]
    exact Option.filter_eq_some_iff.mpr ⟨rfl, decide_eq_true h⟩
  simp only [gigabytes?, hunit, Option.bind_eq_bind, Option.bind_some,
    (Decimal.isTrimmed_toDigits n).trimChars_eq, hamount]
  exact Option.filter_some.trans (if_congr decide_eq_true_iff rfl rfl)

theorem exists_of_storageUnit {reversed : List Char} {entered : List Char × Nat}
    (h : storageUnit reversed = some entered) : ∃ rest, reversed = 'B' :: rest := by
  unfold storageUnit at h
  split at h
  · exact ⟨_, rfl⟩
  · exact ⟨_, rfl⟩
  · cases h

theorem gigabytes?_toDigits (n : Nat) : gigabytes? (Nat.toDigits 10 n) = none := by
  have hunit : storageUnit (Nat.toDigits 10 n).reverse = none := by
    refine Option.eq_none_iff_forall_ne_some.mpr fun entered h => ?_
    obtain ⟨rest, hrest⟩ := exists_of_storageUnit h
    have hmem : 'B' ∈ Nat.toDigits 10 n := by
      rw [← List.mem_reverse, hrest]
      exact List.mem_cons_self
    exact absurd (Decimal.isDigit_of_mem_toDigits hmem) (by decide)
  rw [gigabytes?, hunit]
  rfl

/-! ## Sizes -/

theorem storageSize_toString (n : Nat) : storageSize (toString n) = toString n := by
  rw [storageSize_eq, Decimal.toList_toString, (Decimal.isTrimmed_toDigits n).trimChars_eq,
    gigabytes?_toDigits]
  exact (Decimal.toList_toString n ▸ Decimal.isTrimmed_toDigits n).trim_eq

theorem storageSize_append (h : n < 2 ^ 64)
    (hunit : ∀ digits, storageUnit (digits ++ unit.toList).reverse = some (digits, factor))
    (hvisible : ∀ c ∈ unit.toList, (!Text.isBlank c) = true) :
    storageSize (toString n ++ unit) =
      if n * factor < 2 ^ 64 then toString (n * factor) else toString n ++ unit := by
  have hchars : (toString n ++ unit).toList = Nat.toDigits 10 n ++ unit.toList := by
    rw [String.toList_append, Decimal.toList_toString]
  have htrimmed : Text.IsTrimmed (toString n ++ unit).toList := by
    refine Text.isTrimmed_of_not_blank fun c hc => ?_
    rw [hchars, List.mem_append] at hc
    rcases hc with hdigit | hmem
    · exact Decimal.isBlank_of_isDigit (Decimal.isDigit_of_mem_toDigits hdigit)
    · simpa using hvisible c hmem
  rw [storageSize_eq, htrimmed.trimChars_eq, hchars, gigabytes?_append h hunit]
  by_cases hfits : n * factor < 2 ^ 64
  · rw [if_pos hfits, if_pos hfits]
  · rw [if_neg hfits, if_neg hfits]
    exact htrimmed.trim_eq

/-- The gigabytes of terabytes, as far as they fit in 64 bits. -/
theorem storageSize_terabytes (h : n < 2 ^ 64) :
    storageSize (toString n ++ "TB") =
      if n * 1024 < 2 ^ 64 then toString (n * 1024) else toString n ++ "TB" := by
  have hunit : "TB".toList = ['T', 'B'] := by decide
  have hsplit (digits : List Char) :
      storageUnit (digits ++ "TB".toList).reverse = some (digits, 1024) := by
    simp [hunit, storageUnit]
  exact storageSize_append h hsplit (List.all_eq_true.mp (by decide))

theorem storageSize_gigabytes (h : n < 2 ^ 64) :
    storageSize (toString n ++ "GB") = toString n := by
  have hunit : "GB".toList = ['G', 'B'] := by decide
  have hsplit (digits : List Char) :
      storageUnit (digits ++ "GB".toList).reverse = some (digits, 1) := by
    simp [hunit, storageUnit]
  rw [storageSize_append h hsplit (List.all_eq_true.mp (by decide)), Nat.mul_one, if_pos h]

theorem storageSize_trim (s : String) : storageSize (Text.trim s) = storageSize s := by
  simp only [storageSize, Text.trim, String.toList_ofList, Text.trimChars_trimChars]

/-- What is written for a size is the number of its gigabytes or the size without white space
at its ends. -/
theorem storageSize_cases (s : String) :
    (∃ n < 2 ^ 64, storageSize s = toString n) ∨ storageSize s = Text.trim s := by
  rw [storageSize_eq]
  split
  · next n hn => exact .inl ⟨n, lt_of_gigabytes? hn, rfl⟩
  · exact .inr rfl

theorem storageSize_storageSize (s : String) : storageSize (storageSize s) = storageSize s := by
  rcases storageSize_cases s with ⟨n, _, hn⟩ | htrim
  · rw [hn, storageSize_toString]
  · rw [htrim, storageSize_trim, htrim]

/-- The gigabytes of a size are computed without wrapping around at 64 bits, and what is
written for any size is written again as it is. -/
theorem storage_sizes_settle :
    (∀ n < 2 ^ 64, storageSize (toString n ++ "TB") =
      if n * 1024 < 2 ^ 64 then toString (n * 1024) else toString n ++ "TB") ∧
      (∀ n < 2 ^ 64, storageSize (toString n ++ "GB") = toString n) ∧
      ∀ s, storageSize (storageSize s) = storageSize s ∧
        ((∃ n < 2 ^ 64, storageSize s = toString n) ∨ storageSize s = Text.trim s) :=
  ⟨fun _ => storageSize_terabytes, fun _ => storageSize_gigabytes, fun s =>
    ⟨storageSize_storageSize s, storageSize_cases s⟩⟩

/-- Terabytes up to the last that fit, and the first that do not. -/
theorem storage_sizes_settle_limit :
    storageSize (toString (2 ^ 54 - 1) ++ "TB") = toString ((2 ^ 54 - 1) * 1024) ∧
      storageSize (toString (2 ^ 54) ++ "TB") = toString (2 ^ 54) ++ "TB" ∧
      storageSize (toString (2 ^ 64 - 1) ++ "GB") = toString (2 ^ 64 - 1) :=
  ⟨(storage_sizes_settle.1 (2 ^ 54 - 1) (by decide)).trans (if_pos (by decide)),
    (storage_sizes_settle.1 (2 ^ 54) (by decide)).trans (if_neg (by decide)),
    storage_sizes_settle.2.1 (2 ^ 64 - 1) (by decide)⟩

end Blueprint.Terraform
