import Mathlib
import Blueprint.Number.Decimal
import Blueprint.Proofs.FamilyTexts

/-!
# Entered texts

What is entered in a form may have white space around it, and numbers are entered in decimal
digits. Trimming takes all white space off both ends and nothing else. Digits are read as the
number that is written with them, and only zeros in front make for more than one way to write
it.
-/

namespace Blueprint

namespace Text

variable {p : Char → Bool} {cs middle before after : List Char} {c : Char}

/-! ## Trimming -/

theorem isBlank_of_visible (hlow : 33 ≤ c.toNat) (hhigh : c.toNat ≤ 126) : isBlank c = false := by
  simp only [isBlank, Bool.or_eq_false_iff, Bool.and_eq_false_iff, decide_eq_false_iff_not,
    beq_eq_false_iff_ne]
  omega

theorem exists_dropEndWhile (p : Char → Bool) (cs : List Char) :
    ∃ dropped, cs = dropEndWhile p cs ++ dropped ∧ ∀ c ∈ dropped, p c = true := by
  refine ⟨(cs.reverse.takeWhile p).reverse, ?_, fun c hc => ?_⟩
  · rw [dropEndWhile, ← List.reverse_append, List.takeWhile_append_dropWhile, List.reverse_reverse]
  · exact List.mem_takeWhile_imp (List.mem_reverse.mp hc)

theorem of_getLast?_dropEndWhile (h : (dropEndWhile p cs).getLast? = some c) : p c = false := by
  rw [dropEndWhile, List.getLast?_reverse] at h
  have hdropped := List.head?_dropWhile_not p cs.reverse
  simpa [h] using hdropped

theorem dropEndWhile_append_of_kept {dropped : List Char}
    (hkept : ∀ c, cs.getLast? = some c → p c = false) (hdropped : ∀ c ∈ dropped, p c = true) :
    dropEndWhile p (cs ++ dropped) = cs := by
  rcases List.eq_nil_or_concat cs with rfl | ⟨start, last, rfl⟩
  · simpa [dropEndWhile, List.dropWhile_eq_nil_iff] using hdropped
  · rw [List.concat_eq_append] at hkept ⊢
    exact dropEndWhile_append (hkept last List.getLast?_concat) hdropped

/-- A text has no white space at its ends. -/
structure IsTrimmed (cs : List Char) : Prop where
  head : ∀ c, cs.head? = some c → isBlank c = false
  last : ∀ c, cs.getLast? = some c → isBlank c = false

theorem isTrimmed_trimChars (cs : List Char) : IsTrimmed (trimChars cs) := by
  constructor
  · intro c hc
    obtain ⟨dropped, hdropped, _⟩ := exists_dropEndWhile isBlank (cs.dropWhile isBlank)
    have hhead : (cs.dropWhile isBlank).head? = some c := by
      rw [hdropped, List.head?_append, ← trimChars, hc, Option.some_or]
    simpa [hhead] using List.head?_dropWhile_not isBlank cs
  · exact fun c => of_getLast?_dropEndWhile

theorem exists_trimChars (cs : List Char) :
    ∃ before after, cs = before ++ trimChars cs ++ after ∧
      (∀ c ∈ before, isBlank c = true) ∧ ∀ c ∈ after, isBlank c = true := by
  obtain ⟨after, hafter, hblank⟩ := exists_dropEndWhile isBlank (cs.dropWhile isBlank)
  refine ⟨cs.takeWhile isBlank, after, ?_, fun c => List.mem_takeWhile_imp, hblank⟩
  rw [List.append_assoc, trimChars, ← hafter, List.takeWhile_append_dropWhile]

theorem IsTrimmed.trimChars_append (h : IsTrimmed middle)
    (hbefore : ∀ c ∈ before, isBlank c = true) (hafter : ∀ c ∈ after, isBlank c = true) :
    trimChars (before ++ middle ++ after) = middle := by
  rw [trimChars, List.append_assoc, List.dropWhile_append_of_pos hbefore]
  cases middle with
  | nil =>
      rw [List.nil_append, List.dropWhile_eq_nil_iff.mpr hafter]
      rfl
  | cons first rest =>
      have hfirst : isBlank first = false := h.head first List.head?_cons
      rw [List.cons_append, List.dropWhile_cons_of_neg (by simp [hfirst]), ← List.cons_append]
      exact dropEndWhile_append_of_kept h.last hafter

/-- A text is what trimming leaves of another one if it can be made longer to that one by
white space, but has none at its ends. -/
theorem trimChars_eq_iff :
    trimChars cs = middle ↔ IsTrimmed middle ∧
      ∃ before after, cs = before ++ middle ++ after ∧
        (∀ c ∈ before, isBlank c = true) ∧ ∀ c ∈ after, isBlank c = true := by
  constructor
  · rintro rfl
    exact ⟨isTrimmed_trimChars cs, exists_trimChars cs⟩
  · rintro ⟨h, before, after, rfl, hbefore, hafter⟩
    exact h.trimChars_append hbefore hafter

theorem IsTrimmed.trimChars_eq (h : IsTrimmed cs) : trimChars cs = cs :=
  trimChars_eq_iff.mpr ⟨h, [], [], by simp⟩

theorem IsTrimmed.trim_eq {s : String} (h : IsTrimmed s.toList) : trim s = s := by
  rw [trim, h.trimChars_eq, String.ofList_toList]

@[simp] theorem trimChars_trimChars (cs : List Char) : trimChars (trimChars cs) = trimChars cs :=
  (isTrimmed_trimChars cs).trimChars_eq

theorem isTrimmed_of_not_blank (h : ∀ c ∈ cs, isBlank c = false) : IsTrimmed cs where
  head c hc := h c (List.mem_of_head? hc)
  last c hc := h c (List.mem_of_getLast? hc)

end Text

namespace Decimal

variable {cs : List Char} {c : Char} {n : Nat}

/-! ## Digits -/

theorem isDigit_eq (c : Char) : isDigit c = c.isDigit := by
  simp [isDigit, Char.isDigit, Char.le_def]

theorem isBlank_of_isDigit (h : c.isDigit = true) : Text.isBlank c = false := by
  simp only [Char.isDigit, ge_iff_le, Bool.and_eq_true, decide_eq_true_eq] at h
  have hlow : 48 ≤ c.toNat := h.1
  have hhigh : c.toNat ≤ 57 := h.2
  exact Text.isBlank_of_visible (by omega) (by omega)

theorem valueOf_eq (digits : List Char) : valueOf digits = Nat.ofDigitChars 10 digits 0 :=
  Nat.ofDigitChars_eq_foldl.symm

theorem readNat_eq_some_iff :
    readNat cs = some n ↔
      cs ≠ [] ∧ (∀ c ∈ cs, c.isDigit = true) ∧ Nat.ofDigitChars 10 cs 0 = n := by
  have hdigits : cs.all isDigit = true ↔ ∀ c ∈ cs, c.isDigit = true := by
    simp only [List.all_eq_true, isDigit_eq]
  rw [readNat, ← hdigits, ← valueOf_eq]
  cases cs.all isDigit <;> simp

theorem digitValue_lt (h : c.isDigit = true) : digitValue c < 10 := by
  simp only [Char.isDigit, ge_iff_le, Bool.and_eq_true, decide_eq_true_eq] at h
  have hhigh : c.toNat ≤ 57 := h.2
  exact Nat.lt_of_le_of_lt (Nat.sub_le_sub_right hhigh 48) (by decide)

theorem digitChar_digitValue (h : c.isDigit = true) : (digitValue c).digitChar = c := by
  rw [← Char.toNat_inj, Nat.toNat_digitChar_of_lt_ten (digitValue_lt h)]
  simp only [Char.isDigit, ge_iff_le, Bool.and_eq_true, decide_eq_true_eq] at h
  exact Nat.add_sub_of_le h.1

/-! ## Numbers as they are written -/

theorem toList_toString (n : Nat) : (toString n).toList = Nat.toDigits 10 n :=
  Nat.toList_repr

theorem isDigit_of_mem_toDigits (h : c ∈ Nat.toDigits 10 n) : c.isDigit = true :=
  Nat.isDigit_of_mem_toDigits (by decide) le_rfl h

theorem isTrimmed_toDigits (n : Nat) : Text.IsTrimmed (Nat.toDigits 10 n) :=
  Text.isTrimmed_of_not_blank fun _ hc => isBlank_of_isDigit (isDigit_of_mem_toDigits hc)

theorem readNat_toDigits (n : Nat) : readNat (Nat.toDigits 10 n) = some n :=
  readNat_eq_some_iff.mpr
    ⟨Nat.toDigits_ne_nil, fun _ => isDigit_of_mem_toDigits, Nat.ofDigitChars_ten_toDigits⟩

theorem readUnsigned_toDigits (n : Nat) : readUnsigned (Nat.toDigits 10 n) = some n := by
  unfold readUnsigned
  split
  · next rest hplus =>
      have hdigit : '+'.isDigit = true := isDigit_of_mem_toDigits (hplus ▸ List.mem_cons_self)
      exact absurd hdigit (by decide)
  · exact readNat_toDigits n

theorem head?_toDigits_ne (h : 0 < n) : (Nat.toDigits 10 n).head? ≠ some '0' := by
  induction n using Nat.strongRecOn with
  | ind n ih =>
      rcases Nat.lt_or_ge n 10 with hlt | hge
      · rw [Nat.toDigits_of_lt_base hlt]
        simpa using h.ne'
      · rw [Nat.toDigits_of_base_le (by decide) hge, List.head?_append_of_ne_nil _
          Nat.toDigits_ne_nil]
        exact ih _ (by omega) (by omega)

/-- Digits are how their number is written, unless there is a zero in front of others. -/
theorem toDigits_ofDigitChars (hne : cs ≠ []) (hdigits : ∀ c ∈ cs, c.isDigit = true)
    (hplain : cs.length = 1 ∨ cs.head? ≠ some '0') :
    Nat.toDigits 10 (Nat.ofDigitChars 10 cs 0) = cs := by
  induction cs using List.reverseRecOn with
  | nil => exact absurd rfl hne
  | append_singleton start last ih =>
      have hlast : last.isDigit = true := hdigits last (by simp)
      have hwritten : Nat.toDigits 10 (digitValue last) = [last] := by
        rw [Nat.toDigits_of_lt_base (digitValue_lt hlast), digitChar_digitValue hlast]
      have hvalue : Nat.ofDigitChars 10 (start ++ [last]) 0 =
          10 * Nat.ofDigitChars 10 start 0 + digitValue last := by
        rw [Nat.ofDigitChars_append]
        rfl
      rw [hvalue]
      by_cases hstart : start = []
      · simpa [hstart] using hwritten
      · have hhead : start.head? ≠ some '0' := by
          rw [List.head?_append_of_ne_nil _ hstart] at hplain
          refine hplain.resolve_left fun hlength => hstart ?_
          simpa using hlength
        have hsame := ih hstart (fun c hc => hdigits c (by simp [hc])) (.inr hhead)
        have hpositive : 0 < Nat.ofDigitChars 10 start 0 := by
          refine Nat.pos_of_ne_zero fun hzero => hhead ?_
          rw [← hsame, hzero, Nat.toDigits_zero]
          rfl
        rw [← Nat.toDigits_append_toDigits (by decide) hpositive (digitValue_lt hlast), hsame,
          hwritten]

theorem eq_toDigits_iff :
    cs = Nat.toDigits 10 n ↔ readNat cs = some n ∧ (cs.length = 1 ∨ cs.head? ≠ some '0') := by
  constructor
  · rintro rfl
    refine ⟨readNat_toDigits n, ?_⟩
    rcases Nat.eq_zero_or_pos n with rfl | hpositive
    · exact .inl rfl
    · exact .inr (head?_toDigits_ne hpositive)
  · rintro ⟨hread, hplain⟩
    obtain ⟨hne, hdigits, rfl⟩ := readNat_eq_some_iff.mp hread
    exact (toDigits_ofDigitChars hne hdigits hplain).symm

end Decimal

end Blueprint
