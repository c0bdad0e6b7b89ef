import Mathlib
import Blueprint.Grammar.Name
import Blueprint.Text.Join

/-!
# Grammars of names

The pattern that users are shown for record names, as a pattern with a written form and a
language, and the names of zones as labels with points between them. The checks on names
look at the first, the last and every character, and accept exactly these languages.
-/

namespace Blueprint

theorem Text.toList_join (separator : String) (texts : List String) :
    (join separator texts).toList =
      List.intercalate separator.toList (texts.map String.toList) := by
  induction texts with
  | nil => rfl
  | cons first rest ih =>
      cases rest with
      | nil => simp [join]
      | cons second rest => simp [join, ih]

/-- The pieces of a text at a separator are what it joins, as far as none of them may have the
separator in it. -/
theorem Text.forall_mem_splitOn_iff {separator : String} {c : Char} {P : String → Prop} {s : String}
    (hseparator : separator.toList = [c]) (hP : ∀ part, P part → c ∉ part.toList) :
    (∀ piece ∈ s.toList.splitOn c, P (String.ofList piece)) ↔
      ∃ parts : List String, parts ≠ [] ∧ s = join separator parts ∧ ∀ part ∈ parts, P part := by
  constructor
  · intro h
    refine ⟨(s.toList.splitOn c).map String.ofList, by simp, ?_, by simpa using h⟩
    have hpieces : (s.toList.splitOn c).map (String.toList ∘ String.ofList) =
        s.toList.splitOn c := by simp [Function.comp_def]
    rw [← String.toList_inj, toList_join, List.map_map, hpieces, hseparator]
    exact (List.intercalate_splitOn c).symm
  · rintro ⟨parts, hne, rfl, hparts⟩ piece hpiece
    have hpieces : (join separator parts).toList.splitOn c = parts.map String.toList := by
      rw [toList_join, hseparator]
      refine List.splitOn_intercalate c (fun cs hcs => ?_) (by simpa using hne)
      obtain ⟨part, hpart, rfl⟩ := List.mem_map.mp hcs
      exact hP part (hparts part hpart)
    obtain ⟨part, hpart, rfl⟩ := List.mem_map.mp (hpieces ▸ hpiece)
    rw [String.ofList_toList]
    exact hparts part hpart

namespace Grammar

open Computability

/-! ## Patterns -/

/-- Regular patterns over ranges of characters. -/
inductive Pattern
  | one (ranges : List (Char × Char))
  | many (ranges : List (Char × Char))
  | optional (body : Pattern)
  | next (first second : Pattern)

namespace Pattern

def writtenRange (range : Char × Char) : String :=
  if range.1 = range.2 then String.ofList [range.1] else String.ofList [range.1, '-', range.2]

def writtenClass (ranges : List (Char × Char)) : String :=
  "[" ++ Text.concat (ranges.map writtenRange) ++ "]"

/-- How a pattern is written down. -/
def written : Pattern → String
  | one ranges => writtenClass ranges
  | many ranges => writtenClass ranges ++ "*"
  | optional body => "(" ++ body.written ++ ")?"
  | next first second => first.written ++ second.written

/-- Whether a character lies in one of the ranges. -/
def covers (ranges : List (Char × Char)) (c : Char) : Bool :=
  ranges.any fun range => decide (range.1 ≤ c) && decide (c ≤ range.2)

def oneOf (ranges : List (Char × Char)) : Language Char :=
  {cs | ∃ c, cs = [c] ∧ covers ranges c = true}

/-- The texts that match a pattern. -/
def language : Pattern → Language Char
  | one ranges => oneOf ranges
  | many ranges => (oneOf ranges)∗
  | optional body => 1 + body.language
  | next first second => first.language * second.language

variable {ranges : List (Char × Char)} {first second body : Pattern} {cs : List Char}

theorem mem_language_one :
    cs ∈ (one ranges).language ↔ ∃ c, cs = [c] ∧ covers ranges c = true := Iff.rfl

theorem mem_language_many : cs ∈ (many ranges).language ↔ ∀ c ∈ cs, covers ranges c = true := by
  rw [language, Language.mem_kstar]
  constructor
  · rintro ⟨parts, rfl, hparts⟩ c hc
    obtain ⟨part, hpart, hc⟩ := List.mem_flatten.mp hc
    obtain ⟨d, rfl, hd⟩ := hparts part hpart
    rwa [List.mem_singleton.mp hc]
  · intro h
    have hparts : cs = (cs.map fun c => [c]).flatten := by
      rw [← List.flatMap_def, List.flatMap_singleton']
    refine ⟨_, hparts, fun part hpart => ?_⟩
    obtain ⟨c, hc, rfl⟩ := List.mem_map.mp hpart
    exact ⟨c, rfl, h c hc⟩

theorem mem_language_optional :
    cs ∈ (optional body).language ↔ cs = [] ∨ cs ∈ body.language := by
  rw [language, Language.mem_add, Language.mem_one]

theorem mem_language_next :
    cs ∈ (next first second).language ↔
      ∃ before ∈ first.language, ∃ after ∈ second.language, before ++ after = cs :=
  Language.mem_mul

/-- The pattern of record names. -/
def recordName : Pattern :=
  next (one [('a', 'z')])
    (optional (next (many [('a', 'z'), ('0', '9'), ('-', '-')]) (one [('a', 'z'), ('0', '9')])))

end Pattern

/-! ## Record names -/

variable {style : LabelStyle} {cs : List Char}

theorem isLabel_iff :
    isLabel style cs = true ↔ ∃ first last, cs.head? = some first ∧ cs.getLast? = some last ∧
      style.first first = true ∧ last ≠ '-' ∧ ∀ c ∈ cs, style.inner c = true := by
  unfold isLabel
  cases hfirst : cs.head? with
  | none => simp
  | some first =>
      cases hlast : cs.getLast? with
      | none => simp
      | some last => simp [and_assoc]

theorem covers_first (c : Char) :
    Pattern.covers [('a', 'z')] c = LabelStyle.recordName.first c := by
  simp [Pattern.covers, LabelStyle.first, Ascii.isLower]

theorem covers_inner (c : Char) :
    Pattern.covers [('a', 'z'), ('0', '9'), ('-', '-')] c = LabelStyle.recordName.inner c := by
  have hyphen : (decide ('-' ≤ c) && decide (c ≤ '-')) = decide (c = '-') := by
    rw [← Bool.decide_and, decide_eq_decide]
    exact ⟨fun h => le_antisymm h.2 h.1, fun h => h ▸ ⟨le_rfl, le_rfl⟩⟩
  simp [Pattern.covers, LabelStyle.inner, Ascii.isLower, Ascii.isDigit, hyphen, Bool.or_assoc]

/-- A record name may end with what may stand in it, save the hyphen. -/
theorem covers_last_iff {c : Char} :
    Pattern.covers [('a', 'z'), ('0', '9')] c = true ↔
      LabelStyle.recordName.inner c = true ∧ c ≠ '-' := by
  by_cases h : c = '-'
  · subst h
    decide
  · simp [Pattern.covers, LabelStyle.inner, Ascii.isLower, Ascii.isDigit, h]

theorem inner_of_first {c : Char} (h : LabelStyle.recordName.first c = true) :
    LabelStyle.recordName.inner c = true ∧ c ≠ '-' := by
  constructor
  · simp only [LabelStyle.first] at h
    simp [LabelStyle.inner, h]
  · rintro rfl
    revert h
    decide

theorem mem_language_recordName_iff :
    cs ∈ Pattern.recordName.language ↔ isLabel .recordName cs = true := by
  simp only [Pattern.recordName, Pattern.mem_language_next, Pattern.mem_language_one,
    Pattern.mem_language_optional, Pattern.mem_language_many, covers_first, covers_inner,
    covers_last_iff, isLabel_iff]
  constructor
  · rintro ⟨_, ⟨first, rfl, hfirst⟩, rest, hrest, rfl⟩
    rcases hrest with rfl | ⟨middle, hmiddle, _, ⟨last, rfl, hlast, hne⟩, rfl⟩
    · obtain ⟨hinner, hne⟩ := inner_of_first hfirst
      exact ⟨first, first, rfl, rfl, hfirst, hne, by simpa using hinner⟩
    · have hlast? : ([first] ++ (middle ++ [last])).getLast? = some last := by
        rw [← List.append_assoc, List.getLast?_concat]
      refine ⟨first, last, rfl, hlast?, hfirst, hne, ?_⟩
      simpa [or_imp, forall_and] using ⟨(inner_of_first hfirst).1, hmiddle, hlast⟩
  · rintro ⟨first, last, hhead, hlast, hfirst, hne, hinner⟩
    obtain ⟨rest, rfl⟩ := List.head?_eq_some_iff.mp hhead
    refine ⟨[first], ⟨first, rfl, hfirst⟩, rest, ?_, rfl⟩
    rcases List.eq_nil_or_concat rest with rfl | ⟨middle, d, rfl⟩
    · exact .inl rfl
    · rw [List.concat_eq_append] at hlast hinner ⊢
      rw [← List.cons_append, List.getLast?_concat] at hlast
      obtain rfl := Option.some.inj hlast
      refine .inr ⟨middle, fun c hc => hinner c (by simp [hc]), [d], ⟨d, rfl, ?_, hne⟩, rfl⟩
      exact hinner d (by simp)

/-! ## Zone names -/

theorem utf8ByteSize_of_ascii {s : String} (h : ∀ c ∈ s.toList, c ≤ '\x7f') :
    s.utf8ByteSize = s.toList.length := by
  have hlen : ∀ cs : List Char, (∀ c ∈ cs, c ≤ '\x7f') → String.utf8Len cs = cs.length := by
    intro cs hcs
    induction cs with
    | nil => rfl
    | cons c cs ih =>
        rw [String.utf8Len_cons, ih fun d hd => hcs d (List.mem_cons_of_mem _ hd),
          Char.utf8Size_eq_one_iff.mpr (hcs c List.mem_cons_self), List.length_cons]
  rw [← hlen _ h, ← String.utf8ByteSize_ofList, String.ofList_toList]

/-- What a label of a zone name is. -/
structure IsZoneLabel (label : String) : Prop where
  size_pos : 0 < label.utf8ByteSize
  size_le : label.utf8ByteSize ≤ 63
  made_of : ∀ c ∈ label.toList, Ascii.isLetter c = true ∨ Ascii.isDigit c = true ∨ c = '-'
  starts : ∃ c, label.toList.head? = some c ∧
    (Ascii.isLetter c = true ∨ Ascii.isDigit c = true)
  ends : label.toList.getLast? ≠ some '-'

theorem le_of_inner {c : Char} (h : LabelStyle.hostName.inner c = true) : c ≤ '\x7f' := by
  simp only [LabelStyle.inner, Ascii.isAlnum, Ascii.isLetter, Ascii.isLower, Ascii.isUpper,
    Ascii.isDigit, Bool.or_eq_true, Bool.and_eq_true, decide_eq_true_eq] at h
  rcases h with ((h | h) | h) | rfl
  · exact h.2.trans (by decide : 'z' ≤ '\x7f')
  · exact h.2.trans (by decide : 'Z' ≤ '\x7f')
  · exact h.2.trans (by decide : '9' ≤ '\x7f')
  · decide

theorem isZoneLabel_iff {label : String} :
    isZoneLabel label.toList = true ↔ IsZoneLabel label := by
  rw [isZoneLabel, Bool.and_eq_true, decide_eq_true_eq, isLabel_iff]
  constructor
  · rintro ⟨⟨first, last, hfirst, hlast, hstarts, hends, hinner⟩, hsize⟩
    have hbytes := utf8ByteSize_of_ascii fun c hc => le_of_inner (hinner c hc)
    exact {
      size_pos := by
        rw [hbytes, List.length_pos_iff_exists_mem]
        exact ⟨first, List.mem_of_head? hfirst⟩
      size_le := hbytes ▸ hsize
      made_of := fun c hc => by simpa [LabelStyle.inner, Ascii.isAlnum, or_assoc] using hinner c hc
      starts := ⟨first, hfirst, by simpa [LabelStyle.first, Ascii.isAlnum] using hstarts⟩
      ends := by simpa [hlast] using hends }
  · intro h
    have hinner : ∀ c ∈ label.toList, LabelStyle.hostName.inner c = true := fun c hc => by
      simpa [LabelStyle.inner, Ascii.isAlnum, or_assoc] using h.made_of c hc
    obtain ⟨first, hfirst, hstarts⟩ := h.starts
    have hne : label.toList ≠ [] := List.ne_nil_of_mem (List.mem_of_head? hfirst)
    have hlast := List.getLast?_eq_some_getLast hne
    refine ⟨⟨first, _, hfirst, hlast, ?_, ?_, hinner⟩, ?_⟩
    · simpa [LabelStyle.first, Ascii.isAlnum] using hstarts
    · simpa [hlast] using h.ends
    · rw [← utf8ByteSize_of_ascii fun c hc => le_of_inner (hinner c hc)]
      exact h.size_le

theorem IsZoneLabel.point_not_mem {label : String} (h : IsZoneLabel label) :
    '.' ∉ label.toList := by
  intro hmem
  have hpoint := h.made_of '.' hmem
  revert hpoint
  decide

theorem all_dotted_iff {name : String} :
    (dotted name.toList).all isZoneLabel = true ↔
      ∃ labels : List String, labels ≠ [] ∧ name = Text.join "." labels ∧
        ∀ label ∈ labels, IsZoneLabel label := by
  rw [List.all_eq_true,
    ← Text.forall_mem_splitOn_iff (by decide) fun _ => IsZoneLabel.point_not_mem]
  refine forall₂_congr fun label _ => ?_
  rw [← isZoneLabel_iff, String.toList_ofList]

/-- The checks on names accept exactly their grammars: for records the pattern that users are
shown, and for zones a row of labels with points between them, each up to its number of
bytes. -/
theorem names_match_grammars (name : String) :
    namePattern = "^" ++ Pattern.recordName.written ++ "$" ∧
      (isRecordName name = true ↔
        name.toList ∈ Pattern.recordName.language ∧ name.utf8ByteSize ≤ 63) ∧
      (isZoneName name = true ↔
        name.utf8ByteSize ≤ 253 ∧
          ∃ labels : List String, labels ≠ [] ∧ name = Text.join "." labels ∧
            ∀ label ∈ labels, IsZoneLabel label) := by
  refine ⟨by decide, ?_, ?_⟩
  · rw [isRecordName, Bool.and_eq_true, decide_eq_true_eq, mem_language_recordName_iff,
      maxNameSize]
  · rw [isZoneName, Bool.and_eq_true, decide_eq_true_eq, all_dotted_iff, maxZoneNameSize]

end Grammar

end Blueprint
