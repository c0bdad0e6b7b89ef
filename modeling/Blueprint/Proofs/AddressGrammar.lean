import Mathlib
import Blueprint.Grammar.Network
import Blueprint.Proofs.EnteredTexts
import Blueprint.Proofs.NameGrammar

/-!
# Grammars of addresses

An address is four octets in decimal digits with points between them, a block has the length
of its network part behind a slash, and in a list they stand between commas, with white space
around each. The checks on addresses accept exactly these texts: an octet is written in one
way, while the length of a network part may have zeros in front.
-/

namespace Blueprint

namespace Grammar

variable {cs : List Char} {s : String}

/-! ## What is to be accepted -/

/-- How an address is written. -/
def addressText (a b c d : UInt8) : String := Text.join "." ([a, b, c, d].map toString)

def IsAddressText (s : String) : Prop := ∃ a b c d, s = addressText a b c d

/-- Digits, one at least, that spell a number up to 32. -/
structure IsMaskText (s : String) : Prop where
  ne_empty : s ≠ ""
  digits : ∀ c ∈ s.toList, c.isDigit = true
  value_le : Nat.ofDigitChars 10 s.toList 0 ≤ 32

def IsBlockText (s : String) : Prop :=
  ∃ address mask, s = address ++ "/" ++ mask ∧ IsAddressText address ∧ IsMaskText mask

/-- An address or a block with white space around it. -/
def IsEntryText (s : String) : Prop :=
  ∃ before text after, s = before ++ text ++ after ∧
    (∀ c ∈ before.toList, Text.isBlank c = true) ∧ (∀ c ∈ after.toList, Text.isBlank c = true) ∧
    (IsAddressText text ∨ IsBlockText text)

/-! ## Addresses -/

theorem toList_octet (a : UInt8) : (toString a).toList = Nat.toDigits 10 a.toNat :=
  Decimal.toList_toString a.toNat

theorem isOctet_iff : isOctet cs = true ↔ ∃ a : UInt8, cs = (toString a).toList := by
  simp only [toList_octet, Decimal.eq_toDigits_iff, isOctet]
  constructor
  · intro h
    split at h
    · next value hread =>
        simp only [Bool.and_eq_true, Bool.or_eq_true, decide_eq_true_eq] at h
        have hvalue : value < UInt8.size := Nat.lt_succ_of_le h.1
        refine ⟨UInt8.ofNat value, ?_, h.2⟩
        rw [hread, UInt8.toNat_ofNat_of_lt' hvalue]
    · cases h
  · rintro ⟨a, hread, hplain⟩
    have hvalue : a.toNat ≤ 255 := Nat.le_of_lt_succ a.toNat_lt
    simp [hread, hvalue, hplain]

theorem isDigit_of_mem_octet {a : UInt8} {c : Char} (h : c ∈ (toString a).toList) :
    c.isDigit = true :=
  Decimal.isDigit_of_mem_toDigits (toList_octet a ▸ h)

theorem toList_addressText (a b c d : UInt8) :
    (addressText a b c d).toList =
      List.intercalate ['.'] ([a, b, c, d].map fun octet => (toString octet).toList) := by
  rw [addressText, Text.toList_join, List.map_map]
  rfl

theorem splitOnP_addressText (a b c d : UInt8) :
    (addressText a b c d).toList.splitOnP (· = '.') =
      [a, b, c, d].map fun octet => (toString octet).toList := by
  rw [toList_addressText]
  refine List.splitOn_intercalate '.' (fun part hpart => ?_) (by simp)
  obtain ⟨octet, _, rfl⟩ := List.mem_map.mp hpart
  intro hmem
  exact absurd (isDigit_of_mem_octet hmem) (by decide)

theorem isAddress_iff : isAddress s.toList = true ↔ IsAddressText s := by
  constructor
  · intro h
    unfold isAddress at h
    split at h
    · next w x y z hparts =>
        simp only [Bool.and_eq_true, isOctet_iff] at h
        obtain ⟨⟨⟨⟨a, rfl⟩, b, rfl⟩, c, rfl⟩, d, rfl⟩ := h
        refine ⟨a, b, c, d, ?_⟩
        have hjoined : List.intercalate ['.'] (s.toList.splitOn '.') = s.toList :=
          List.intercalate_splitOn '.'
        rw [← String.toList_inj, toList_addressText, ← hjoined]
        exact congrArg _ hparts
    · cases h
  · rintro ⟨a, b, c, d, rfl⟩
    have hoctet (octet : UInt8) : isOctet (toString octet).toList = true :=
      isOctet_iff.mpr ⟨octet, rfl⟩
    simp only [isAddress, splitOnP_addressText, List.map_cons, List.map_nil, hoctet, Bool.and_self]

theorem IsAddressText.mem {c : Char} (h : IsAddressText s) (hc : c ∈ s.toList) :
    c.isDigit = true ∨ c = '.' := by
  obtain ⟨x, y, z, w, rfl⟩ := h
  have hdigits {octet : UInt8} (hmem : c ∈ (toString octet).toList) : c.isDigit = true :=
    isDigit_of_mem_octet hmem
  simp only [toList_addressText, List.map_cons, List.map_nil, List.intercalate_cons_cons,
    List.intercalate_singleton, List.mem_append, List.mem_singleton] at hc
  tauto

/-! ## Blocks -/

theorem isMaskLength_iff : isMaskLength s.toList = true ↔ IsMaskText s := by
  unfold isMaskLength
  constructor
  · intro h
    split at h
    · next value hread =>
        obtain ⟨hne, hdigits, rfl⟩ := Decimal.readNat_eq_some_iff.mp hread
        exact ⟨by simpa using hne, hdigits, of_decide_eq_true h⟩
    · cases h
  · intro h
    have hread : Decimal.readNat s.toList = some (Nat.ofDigitChars 10 s.toList 0) :=
      Decimal.readNat_eq_some_iff.mpr ⟨by simpa using h.ne_empty, h.digits, rfl⟩
    rw [hread]
    exact decide_eq_true h.value_le

theorem IsAddressText.slash_not_mem (h : IsAddressText s) : '/' ∉ s.toList := by
  intro hmem
  have hslash := h.mem hmem
  revert hslash
  decide

/-- A block is parted at its first slash. -/
theorem isBlock_append {address mask : List Char} (h : '/' ∉ address) :
    isBlock (address ++ '/' :: mask) = (isAddress address && isMaskLength mask) := by
  have hbefore : ∀ c ∈ address, decide (c ≠ '/') = true := fun c hc =>
    decide_eq_true (ne_of_mem_of_not_mem hc h)
  rw [isBlock, List.dropWhile_append_of_pos hbefore, List.takeWhile_append_of_pos hbefore,
    List.dropWhile_cons_of_neg (by simp), List.takeWhile_cons_of_neg (by simp), List.append_nil]
  rfl

theorem exists_of_isBlock (h : isBlock cs = true) :
    ∃ address mask, cs = address ++ '/' :: mask ∧ isAddress address = true ∧
      isMaskLength mask = true := by
  unfold isBlock at h
  split at h
  · next mask hmask =>
      obtain ⟨haddress, hlength⟩ := Bool.and_eq_true_iff.mp h
      exact ⟨_, mask, by rw [← hmask, List.takeWhile_append_dropWhile], haddress, hlength⟩
  · cases h

theorem toList_block (address mask : String) :
    (address ++ "/" ++ mask).toList = address.toList ++ '/' :: mask.toList := by
  have hslash : "/".toList = ['/'] := by decide
  simp [hslash]

theorem isBlock_iff : isBlock s.toList = true ↔ IsBlockText s := by
  constructor
  · intro h
    obtain ⟨address, mask, hparts, haddress, hmask⟩ := exists_of_isBlock h
    refine ⟨String.ofList address, String.ofList mask, ?_, ?_, ?_⟩
    · rw [← String.toList_inj, toList_block, hparts, String.toList_ofList, String.toList_ofList]
    · exact isAddress_iff.mp (by rwa [String.toList_ofList])
    · exact isMaskLength_iff.mp (by rwa [String.toList_ofList])
  · rintro ⟨address, mask, rfl, haddress, hmask⟩
    rw [toList_block, isBlock_append haddress.slash_not_mem, isAddress_iff.mpr haddress,
      isMaskLength_iff.mpr hmask, Bool.and_self]

theorem isAddressOrBlock_iff :
    isAddressOrBlock s.toList = true ↔ IsAddressText s ∨ IsBlockText s := by
  rw [isAddressOrBlock, Bool.or_eq_true, isAddress_iff, isBlock_iff]

/-! ## Lists -/

theorem mem_of_isAddressOrBlock {c : Char} (h : IsAddressText s ∨ IsBlockText s)
    (hc : c ∈ s.toList) : c.isDigit = true ∨ c = '.' ∨ c = '/' := by
  rcases h with haddress | ⟨address, mask, rfl, haddress, hmask⟩
  · exact (haddress.mem hc).imp_right .inl
  · rw [toList_block, List.mem_append, List.mem_cons] at hc
    rcases hc with hc | rfl | hc
    · exact (haddress.mem hc).imp_right .inl
    · exact .inr (.inr rfl)
    · exact .inl (hmask.digits c hc)

theorem isTrimmed_of_isAddressOrBlock (h : IsAddressText s ∨ IsBlockText s) :
    Text.IsTrimmed s.toList := by
  refine Text.isTrimmed_of_not_blank fun c hc => ?_
  rcases mem_of_isAddressOrBlock h hc with hdigit | rfl | rfl
  · exact Decimal.isBlank_of_isDigit hdigit
  · decide
  · decide

theorem isAddressOrBlock_trimChars_iff :
    isAddressOrBlock (Text.trimChars s.toList) = true ↔ IsEntryText s := by
  constructor
  · intro h
    obtain ⟨before, after, hparts, hbefore, hafter⟩ := Text.exists_trimChars s.toList
    refine ⟨String.ofList before, String.ofList (Text.trimChars s.toList), String.ofList after,
      ?_, by simpa using hbefore, by simpa using hafter, ?_⟩
    · rw [← String.toList_inj]
      simpa using hparts
    · exact isAddressOrBlock_iff.mp (by simpa using h)
  · rintro ⟨before, text, after, rfl, hbefore, hafter, htext⟩
    rw [String.toList_append, String.toList_append,
      (isTrimmed_of_isAddressOrBlock htext).trimChars_append hbefore hafter]
    exact isAddressOrBlock_iff.mpr htext

theorem IsEntryText.comma_not_mem (h : IsEntryText s) : ',' ∉ s.toList := by
  obtain ⟨before, text, after, rfl, hbefore, hafter, htext⟩ := h
  have hblank : Text.isBlank ',' = false := by decide
  simp only [String.toList_append, List.mem_append, not_or]
  refine ⟨⟨fun hmem => ?_, fun hmem => ?_⟩, fun hmem => ?_⟩
  · exact Bool.false_ne_true (hblank ▸ hbefore ',' hmem)
  · have hcomma := mem_of_isAddressOrBlock htext hmem
    revert hcomma
    decide
  · exact Bool.false_ne_true (hblank ▸ hafter ',' hmem)

/-- The commas of a list part entries exactly if the list joins them. -/
theorem isAddressList_iff :
    isAddressList s = true ↔ s = "" ∨ ∃ entries : List String, entries ≠ [] ∧
      s = Text.join "," entries ∧ ∀ entry ∈ entries, IsEntryText entry := by
  rw [isAddressList, Bool.or_eq_true, String.isEmpty_iff, List.all_eq_true,
    ← Text.forall_mem_splitOn_iff (by decide) fun _ => IsEntryText.comma_not_mem]
  refine or_congr_right (forall₂_congr fun entry _ => ?_)
  rw [← isAddressOrBlock_trimChars_iff, String.toList_ofList]

/-- The checks on addresses accept exactly the texts of addresses and blocks, of blocks alone,
and of lists of both. Every octet may stand in a block, with every length up to 32. -/
theorem addresses_match_grammars :
    (∀ s : String, isAddressOrBlock s.toList = true ↔ IsAddressText s ∨ IsBlockText s) ∧
      (∀ s : String, isBlock s.toList = true ↔ IsBlockText s) ∧
      (∀ s : String, isAddressList s = true ↔
        s = "" ∨ ∃ entries : List String, entries ≠ [] ∧ s = Text.join "," entries ∧
          ∀ entry ∈ entries, IsEntryText entry) ∧
      ∀ (a b c d : UInt8) (bits : Fin 33),
        isBlock (addressText a b c d ++ "/" ++ toString bits.val).toList = true := by
  refine ⟨fun _ => isAddressOrBlock_iff, fun _ => isBlock_iff, fun _ => isAddressList_iff, ?_⟩
  intro a b c d bits
  refine isBlock_iff.mpr ⟨_, _, rfl, ⟨a, b, c, d, rfl⟩, Nat.repr_ne_empty, ?_, ?_⟩
  · exact fun c hc => Decimal.isDigit_of_mem_toDigits (Decimal.toList_toString bits.val ▸ hc)
  · rw [Decimal.toList_toString, Nat.ofDigitChars_ten_toDigits]
    exact Nat.le_of_lt_succ bits.isLt

end Grammar

end Blueprint
