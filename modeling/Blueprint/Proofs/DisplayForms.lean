import Mathlib
import Blueprint.Proofs.EnteredTexts
import Blueprint.Proofs.Fields
import Blueprint.Proofs.NameWords
import Blueprint.Proofs.Titles
import Blueprint.Schema.Registry

/-!
# Displayed and stored forms

What is stored as words with a separator is shown as a phrase, and the phrase that is shown is
stored as the same words again. Every word comes back by itself: showing it changes the case of
its letters only, and storing it undoes that. The ending that is shown in brackets is two words
like any others once it is stored.
-/

namespace Blueprint

namespace Ascii

variable {c d : Char}

theorem toNat_of_isAlnum (h : isAlnum c = true) : 48 ≤ c.toNat ∧ c.toNat ≤ 122 := by
  simp only [isAlnum, isLetter, isLower, isUpper, isDigit, Bool.or_eq_true, Bool.and_eq_true,
    decide_eq_true_eq] at h
  rcases h with (⟨hlow, hhigh⟩ | ⟨hlow, hhigh⟩) | ⟨hlow, hhigh⟩
  · exact ⟨Nat.le_trans (by decide) (show 97 ≤ c.toNat from hlow), hhigh⟩
  · exact ⟨Nat.le_trans (by decide) (show 65 ≤ c.toNat from hlow),
      Nat.le_trans (show c.toNat ≤ 90 from hhigh) (by decide)⟩
  · exact ⟨hlow, Nat.le_trans (show c.toNat ≤ 57 from hhigh) (by decide)⟩

theorem isBlank_of_isAlnum (h : isAlnum c = true) : Text.isBlank c = false := by
  obtain ⟨hlow, hhigh⟩ := toNat_of_isAlnum h
  exact Text.isBlank_of_visible (by omega) (by omega)

theorem isAlnum_toUpper (h : isAlnum c = true) : isAlnum c.toUpper = true := by
  rw [isAlnum_eq_isAlphanum] at h ⊢
  by_cases hlower : c.isLower
  · simp [Char.isAlphanum, Char.isAlpha, hlower]
  · rwa [Char.toUpper_eq_of_not_isLower hlower]

theorem ne_of_isAlnum (h : isAlnum c = true) (hd : isAlnum d = false) : c ≠ d := by
  rintro rfl
  exact Bool.false_ne_true (hd.symm.trans h)

end Ascii

namespace Text

variable {cs : List Char} {c : Char}

/-! ## Letter case in ASCII -/

theorem upperChars_of_ascii (h : ∀ c ∈ cs, c.toNat < 128) :
    upperChars cs = cs.map Char.toUpper := by
  rw [upperChars, List.map_eq_flatMap]
  exact List.flatMap_congr fun c hc => if_pos (h c hc)

theorem lowerAfter_of_ascii (before : List Char) (h : ∀ c ∈ cs, c.toNat < 128) :
    lowerAfter before cs = cs.map Char.toLower := by
  induction cs generalizing before with
  | nil => rfl
  | cons c cs ih =>
      obtain ⟨hc, hcs⟩ := List.forall_mem_cons.mp h
      have hsigma : c ≠ 'Σ' := by
        rintro rfl
        exact absurd hc (by decide)
      have hlower : lower c = [c.toLower] := if_pos hc
      rw [lowerAfter, if_neg hsigma, hlower, ih _ hcs]
      rfl

theorem lowerChars_of_ascii (h : ∀ c ∈ cs, c.toNat < 128) :
    lowerChars cs = cs.map Char.toLower :=
  lowerAfter_of_ascii [] h

theorem map_capitalize {fold : Char → Char} (hfold : ∀ c : Char, fold c.toUpper = fold c)
    (h : ∀ c ∈ cs, c.toNat < 128) : (capitalize cs).map fold = cs.map fold := by
  cases cs with
  | nil => rfl
  | cons c cs =>
      have hupper : upper c = [c.toUpper] := if_pos (h c List.mem_cons_self)
      simp [capitalize, hupper, hfold]

/-! ## Words -/

/-- ASCII letters and digits, one at least. -/
structure IsWord (cs : List Char) : Prop where
  ne_nil : cs ≠ []
  alnum : ∀ c ∈ cs, Ascii.isAlnum c = true

namespace IsWord

theorem toNat_lt (h : IsWord cs) (c : Char) (hc : c ∈ cs) : c.toNat < 128 :=
  Nat.lt_of_le_of_lt (Ascii.toNat_of_isAlnum (h.alnum c hc)).2 (by decide)

theorem pieces_eq {separates : Char → Bool} (h : IsWord cs)
    (hseparates : ∀ c, Ascii.isAlnum c = true → separates c = false) :
    pieces separates cs = [cs] :=
  pieces_of_not_separates h.ne_nil fun c hc => hseparates c (h.alnum c hc)

theorem map {fold : Char → Char} (h : IsWord cs)
    (hfold : ∀ c, Ascii.isAlnum c = true → Ascii.isAlnum (fold c) = true) :
    IsWord (cs.map fold) where
  ne_nil := by simpa using h.ne_nil
  alnum := List.forall_mem_map.mpr fun c hc => hfold c (h.alnum c hc)

theorem capitalize (h : IsWord cs) : IsWord (capitalize cs) := by
  cases cs with
  | nil => exact absurd rfl h.ne_nil
  | cons c cs =>
      have hupper : upper c = [c.toUpper] := if_pos (h.toNat_lt c List.mem_cons_self)
      obtain ⟨hc, hcs⟩ := List.forall_mem_cons.mp h.alnum
      rw [Text.capitalize, hupper]
      exact ⟨by simp, List.forall_mem_cons.mpr ⟨Ascii.isAlnum_toUpper hc, hcs⟩⟩

end IsWord

def isCapitalOrDigit (c : Char) : Bool := c.isUpper || c.isDigit

def isSmallOrDigit (c : Char) : Bool := c.isLower || c.isDigit

theorem isAlpha_of_isDigit (h : c.isDigit = true) : c.isAlpha = false := by
  simp [Char.isDigit, Char.isAlpha, Char.isUpper, Char.isLower, UInt32.le_iff_toNat_le] at h ⊢
  omega

theorem isAlnum_of_letterOrDigit {letter : Char → Bool}
    (hletter : ∀ c, letter c = true → c.isAlpha = true) (h : (letter c || c.isDigit) = true) :
    Ascii.isAlnum c = true := by
  rw [Ascii.isAlnum_eq_isAlphanum]
  exact Bool.or_eq_true_iff.mpr ((Bool.or_eq_true_iff.mp h).imp_left (hletter c))

theorem toUpper_of_isCapitalOrDigit (h : isCapitalOrDigit c = true) : c.toUpper = c := by
  refine Char.toUpper_eq_of_not_isLower ?_
  rcases Bool.or_eq_true_iff.mp h with h | h
  · exact Char.not_isLower_of_isUpper h
  · simpa using (Bool.or_eq_false_iff.mp (isAlpha_of_isDigit h)).2

theorem toLower_of_isSmallOrDigit (h : isSmallOrDigit c = true) : c.toLower = c := by
  refine Char.toLower_eq_of_not_isUpper ?_
  rcases Bool.or_eq_true_iff.mp h with h | h
  · exact Char.not_isUpper_of_isLower h
  · simpa using (Bool.or_eq_false_iff.mp (isAlpha_of_isDigit h)).1

/-- Words come back from a change of case that leaves their characters alone. -/
theorem map_fold_eq {fold : Char → Char} {words : List String}
    (h : ∀ word ∈ words, ∀ c ∈ word.toList, fold c = c) :
    words.map (fun word => String.ofList (word.toList.map fold)) = words := by
  refine (List.map_congr_left fun word hmem => ?_).trans (List.map_id words)
  have hchars : word.toList.map fold = word.toList :=
    (List.map_congr_left (h word hmem)).trans (List.map_id _)
  rw [hchars, String.ofList_toList, id_eq]

/-- One or more words of the allowed characters, with a separator between neighbours. -/
def IsJoined (separator : String) (allowed : Char → Bool) (s : String) : Prop :=
  ∃ words : List String, words ≠ [] ∧ s = join separator words ∧
    ∀ word ∈ words, word ≠ "" ∧ word.toList.all allowed = true

theorem IsJoined.exists_words {separator : String} {allowed : Char → Bool} {s : String}
    (h : IsJoined separator allowed s) (separates : Char → Bool)
    (hallowed : ∀ c, allowed c = true → Ascii.isAlnum c = true)
    (hseparator : separator.toList = [c]) (hc : separates c = true)
    (hseparates : ∀ c, Ascii.isAlnum c = true → separates c = false) :
    ∃ words : List String, s = join separator words ∧
      pieces separates s.toList = words.map String.toList ∧
      ∀ word ∈ words, IsWord word.toList ∧ ∀ c ∈ word.toList, allowed c = true := by
  obtain ⟨words, _, rfl, hwords⟩ := h
  have hchars : ∀ word ∈ words, ∀ c ∈ word.toList, allowed c = true := fun word hmem =>
    List.all_eq_true.mp (hwords word hmem).2
  have hword : ∀ word ∈ words, IsWord word.toList := fun word hmem =>
    ⟨by simpa using (hwords word hmem).1, fun c hc => hallowed c (hchars word hmem c hc)⟩
  refine ⟨words, rfl, ?_, fun word hmem => ⟨hword word hmem, hchars word hmem⟩⟩
  have hpieces := pieces_join id (fun _ _ => rfl) hseparator hc words
  rw [List.map_eq_flatMap]
  exact hpieces.trans (List.flatMap_congr fun word hmem => (hword word hmem).pieces_eq hseparates)

end Text

namespace DisplayForm

open Text

variable {word : List Char}

/-! ## Operators -/

/-- The words that a phrase is stored as. -/
def storedWords (display : String) : List String :=
  (pieces isBlank (display.toList.filter fun c => c ≠ '(' && c ≠ ')')).map fun word =>
    String.ofList (upperChars word)

theorem operatorStored_eq (display : String) :
    operatorStored display = join "_" (storedWords display) := rfl

theorem storedWords_join (texts : List String) :
    storedWords (join " " texts) = texts.flatMap storedWords := by
  rw [storedWords, pieces_join (List.filter fun c => c ≠ '(' && c ≠ ')')
    (fun _ _ => List.filter_append _ _) (c := ' ') (by decide) (by decide), List.map_flatMap]
  rfl

theorem storedWords_operatorWord (h : IsWord word) :
    storedWords (operatorWord word) = [String.ofList (word.map Char.toUpper)] := by
  have hlower : IsWord (word.map Char.toLower) := h.map fun _ => Ascii.isAlnum_toLower
  have hshown : (operatorWord word).toList = capitalize (word.map Char.toLower) := by
    rw [operatorWord, String.toList_ofList, lowerChars_of_ascii h.toNat_lt]
  have hbare : (capitalize (word.map Char.toLower)).filter (fun c => c ≠ '(' && c ≠ ')') =
      capitalize (word.map Char.toLower) := by
    refine List.filter_eq_self.mpr fun c hc => ?_
    have halnum := hlower.capitalize.alnum c hc
    simp [Ascii.ne_of_isAlnum halnum (show Ascii.isAlnum '(' = false by decide),
      Ascii.ne_of_isAlnum halnum (show Ascii.isAlnum ')' = false by decide)]
  rw [storedWords, hshown, hbare, hlower.capitalize.pieces_eq fun _ => Ascii.isBlank_of_isAlnum,
    List.map_singleton, upperChars_of_ascii hlower.capitalize.toNat_lt,
    map_capitalize Char.toUpper_toUpper_eq_toUpper hlower.toNat_lt, List.map_map]
  congr 2
  exact List.map_congr_left fun c _ => Char.toUpper_toLower_eq_toUpper c

theorem storedWords_operatorWords {base : List Char}
    (h : ∀ word ∈ pieces (· = '_') base, IsWord word) :
    (operatorWords base).flatMap storedWords =
      (pieces (· = '_') base).map fun word => String.ofList (word.map Char.toUpper) := by
  rw [operatorWords, List.flatMap_map, List.map_eq_flatMap]
  exact List.flatMap_congr fun word hmem => storedWords_operatorWord (h word hmem)

/-- An operator is stored as its words in capitals, also if it is shown with the ending in
brackets. -/
theorem storedWords_operatorDisplay {stored : String}
    (h : ∀ word ∈ pieces (· = '_') stored.toList, IsWord word) :
    storedWords (operatorDisplay stored) =
      (pieces (· = '_') stored.toList).map fun word => String.ofList (word.map Char.toUpper) := by
  unfold operatorDisplay
  split
  · next base hbase =>
      have hparts := beforeEnding_eq_some_iff.mp hbase
      have hpieces : pieces (· = '_') stored.toList =
          pieces (· = '_') base ++ ["IGNORE".toList, "CASE".toList] := by
        have hending : ignoreCase.toList = '_' :: "IGNORE_CASE".toList := by decide
        have hlast : pieces (· = '_') "IGNORE_CASE".toList = ["IGNORE".toList, "CASE".toList] := by
          decide
        rw [hparts, hending, pieces_append_cons (by decide), hlast]
      have hending : storedWords "(Ignore Case)" =
          ["IGNORE".toList, "CASE".toList].map fun word =>
            String.ofList (word.map Char.toUpper) := by decide
      rw [storedWords_join, List.flatMap_append, hpieces, List.map_append,
        storedWords_operatorWords fun word hmem => h word (by simp [hpieces, hmem]),
        List.flatMap_singleton, hending]
  · rw [storedWords_join, storedWords_operatorWords h]

theorem operatorStored_operatorDisplay {s : String} (h : IsJoined "_" isCapitalOrDigit s) :
    operatorStored (operatorDisplay s) = s := by
  obtain ⟨words, hjoined, hpieces, hwords⟩ := h.exists_words (· = '_')
    (fun _ => isAlnum_of_letterOrDigit fun _ hupper => Bool.or_eq_true_iff.mpr (.inl hupper))
    (c := '_') (by decide) (by decide)
    fun c hc => decide_eq_false (Ascii.ne_of_isAlnum hc (by decide))
  have hplain : ∀ word ∈ pieces (· = '_') s.toList, IsWord word := by
    simpa [hpieces] using fun word hmem => (hwords word hmem).1
  have hsame : (pieces (· = '_') s.toList).map (fun word => String.ofList (word.map Char.toUpper)) =
      words := by
    rw [hpieces, List.map_map]
    exact map_fold_eq fun word hmem c hc => toUpper_of_isCapitalOrDigit ((hwords word hmem).2 c hc)
  rw [operatorStored_eq, storedWords_operatorDisplay hplain, hsame, ← hjoined]

/-! ## Endpoints -/

/-- The words that endpoints are stored as. -/
def endpointsWords (display : String) : List String :=
  (pieces isBlank (lowerChars display.toList)).map String.ofList

theorem endpointsStored_eq (display : String) :
    endpointsStored display = join "-" (endpointsWords display) := rfl

theorem isWord_and : IsWord "and".toList := by
  have hchars : "and".toList = ['a', 'n', 'd'] := by decide
  rw [hchars]
  exact ⟨by simp, List.all_eq_true.mp (by decide)⟩

/-- A word of endpoints is shown as a word that differs from it in case only. -/
theorem isWord_endpointsWord (h : IsWord word) :
    IsWord (endpointsWord word).toList ∧
      (endpointsWord word).toList.map Char.toLower = word.map Char.toLower := by
  unfold endpointsWord
  split
  · next hand => exact ⟨isWord_and, (eq_of_beq hand).symm⟩
  · rw [String.toList_ofList]
    exact ⟨h.capitalize, map_capitalize Char.toLower_toUpper_eq_toLower h.toNat_lt⟩

theorem endpointsWords_join {texts : List String} (h : ∀ text ∈ texts, IsWord text.toList) :
    endpointsWords (join " " texts) =
      texts.map fun text => String.ofList (text.toList.map Char.toLower) := by
  have hascii : ∀ c ∈ (join " " texts).toList, c.toNat < 128 := by
    intro c hc
    by_cases hspace : c = ' '
    · rw [hspace]
      decide
    · obtain ⟨text, htext, hmem⟩ := (mem_join_iff (by simpa using hspace)).mp hc
      exact (h text htext).toNat_lt c hmem
  rw [endpointsWords, lowerChars_of_ascii hascii,
    pieces_join (List.map Char.toLower) (fun _ _ => List.map_append) (c := ' ') (by decide)
      (by decide), List.map_flatMap, List.map_eq_flatMap]
  refine List.flatMap_congr fun text htext => ?_
  have hlower : IsWord (text.toList.map Char.toLower) :=
    (h text htext).map fun _ => Ascii.isAlnum_toLower
  rw [hlower.pieces_eq fun _ => Ascii.isBlank_of_isAlnum, List.map_singleton]

theorem endpointsStored_endpointsDisplay {s : String} (h : IsJoined "-" isSmallOrDigit s) :
    endpointsStored (endpointsDisplay s) = s := by
  obtain ⟨words, hjoined, hpieces, hwords⟩ := h.exists_words
    (fun c => c = '-' || c = ' ')
    (fun _ => isAlnum_of_letterOrDigit fun _ hlower => Bool.or_eq_true_iff.mpr (.inr hlower))
    (c := '-') (by decide) (by decide) fun c hc => by
      simp [Ascii.ne_of_isAlnum hc (show Ascii.isAlnum '-' = false by decide),
        Ascii.ne_of_isAlnum hc (show Ascii.isAlnum ' ' = false by decide)]
  have hshown : ∀ text ∈ words.map fun word => endpointsWord word.toList, IsWord text.toList :=
    List.forall_mem_map.mpr fun word hmem => (isWord_endpointsWord (hwords word hmem).1).1
  have hsame : (words.map fun word => endpointsWord word.toList).map
      (fun text => String.ofList (text.toList.map Char.toLower)) = words := by
    rw [List.map_map]
    have hsmall := map_fold_eq fun word hmem c hc =>
      toLower_of_isSmallOrDigit ((hwords word hmem).2 c hc)
    refine (List.map_congr_left fun word hmem => ?_).trans hsmall
    rw [Function.comp_apply, (isWord_endpointsWord (hwords word hmem).1).2]
  have hdisplay : endpointsDisplay s =
      join " " (words.map fun word => endpointsWord word.toList) := by
    rw [endpointsDisplay, hpieces, List.map_map]
    rfl
  rw [endpointsStored_eq, hdisplay, endpointsWords_join hshown, hsame, ← hjoined]

/-- What the form does with the endpoints of the options. -/
theorem exists_endpointsField :
    ∃ field, Kind.options.schema.field? "endpoints" = some field ∧
      (∀ r, field.shown r = endpointsDisplay (r.textOr "endpoints" "")) ∧
      ∀ r, field.entered r =
        r.insert "endpoints" (.text (endpointsStored (r.textOr "endpoints" ""))) :=
  ⟨_, rfl, fun _ => rfl, fun _ => rfl⟩

/-- What is stored as words with one separator between neighbours is shown and stored again as
it was: the operators of conditions in capitals, and the endpoints of the options in small
letters. -/
theorem display_forms_stored_back :
    (∀ s, IsJoined "_" isCapitalOrDigit s → operatorStored (operatorDisplay s) = s) ∧
      ∀ s, IsJoined "-" isSmallOrDigit s →
        ∃ field, Kind.options.schema.field? "endpoints" = some field ∧
          ∀ r : Record, r.text? "endpoints" = some s →
            field.entered (r.insert "endpoints" (.text (field.shown r))) =
              r.insert "endpoints" (.text s) := by
  refine ⟨fun _ => operatorStored_operatorDisplay, fun s h => ?_⟩
  obtain ⟨field, hfield, hshown, hentered⟩ := exists_endpointsField
  refine ⟨field, hfield, fun r hr => ?_⟩
  have hstored : r.textOr "endpoints" "" = s := by rw [Record.textOr, hr, Option.getD_some]
  have hdisplay (display : String) :
      (r.insert "endpoints" (.text display)).textOr "endpoints" "" = display := by
    rw [Record.textOr, Record.text?, Record.get?_insert_self]
    rfl
  rw [hentered, hshown, hdisplay, hstored, endpointsStored_endpointsDisplay h,
    Record.insert_insert]

/-- Options of which nothing but the endpoints is given. -/
def sampleEndpoints : Record := [("endpoints", .text "public-and-private")]

theorem display_forms_stored_back_sample :
    (IsJoined "_" isCapitalOrDigit "NOT_IGNORE_CASE_IGNORE_CASE" ∧
      operatorStored (operatorDisplay "NOT_IGNORE_CASE_IGNORE_CASE") =
        "NOT_IGNORE_CASE_IGNORE_CASE") ∧
      IsJoined "-" isSmallOrDigit "public-and-private" ∧
      ∃ field, Kind.options.schema.field? "endpoints" = some field ∧
        field.entered (sampleEndpoints.insert "endpoints" (.text (field.shown sampleEndpoints))) =
          sampleEndpoints := by
  have hoperator : IsJoined "_" isCapitalOrDigit "NOT_IGNORE_CASE_IGNORE_CASE" :=
    ⟨["NOT", "IGNORE", "CASE", "IGNORE", "CASE"], by decide, by decide, by decide⟩
  have hendpoints : IsJoined "-" isSmallOrDigit "public-and-private" :=
    ⟨["public", "and", "private"], by decide, by decide, by decide⟩
  refine ⟨⟨hoperator, display_forms_stored_back.1 _ hoperator⟩, hendpoints, ?_⟩
  obtain ⟨field, hfield, hstored⟩ := display_forms_stored_back.2 _ hendpoints
  refine ⟨field, hfield, (hstored sampleEndpoints rfl).trans ?_⟩
  simp [sampleEndpoints, Record.insert]

end DisplayForm

end Blueprint
