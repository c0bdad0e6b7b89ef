import Mathlib
import Blueprint.Proofs.FamilyTexts
import Blueprint.Proofs.NameGrammar
import Blueprint.Terraform.Addresses

/-!
# Words of names

Of the names that it is made of, a label keeps the words: the longest runs of ASCII
letters and digits, in small letters. Whatever puts names together keeps their words in a
row, so what two labels say is compared word by word.
-/

namespace Blueprint

namespace Text

variable {separates : Char → Bool} {c : Char}

theorem pieces_cons_of_pos (h : separates c = true) (cs : List Char) :
    pieces separates (c :: cs) = pieces separates cs := by
  simp [pieces, List.splitOnP_cons_eq_if_modifyHead, h]

theorem pieces_append_cons (h : separates c = true) (before after : List Char) :
    pieces separates (before ++ c :: after) =
      pieces separates before ++ pieces separates after := by
  simp [pieces, List.splitOnP_append_cons _ _ h]

theorem pieces_of_not_separates {cs : List Char} (hne : cs ≠ [])
    (h : ∀ c ∈ cs, separates c = false) : pieces separates cs = [cs] := by
  simp [pieces, List.splitOnP_eq_singleton h, hne]

theorem pieces_join (change : List Char → List Char) {separator : String}
    (hchange : ∀ before after, change (before ++ after) = change before ++ change after)
    (hseparator : change separator.toList = [c]) (hc : separates c = true)
    (texts : List String) :
    pieces separates (change (join separator texts).toList) =
      texts.flatMap fun text => pieces separates (change text.toList) := by
  induction texts with
  | nil =>
      have hempty : change [] = [] := by simpa using hchange [] []
      simp [join, hempty, pieces]
  | cons first rest ih =>
      cases rest with
      | nil => simp [join]
      | cons second rest =>
          rw [join_cons_cons, String.toList_append, String.toList_append, hchange, hchange,
            hseparator, List.append_assoc, List.singleton_append, pieces_append_cons hc, ih]
          rfl

theorem pieces_dropWhile (cs : List Char) :
    pieces separates (cs.dropWhile separates) = pieces separates cs := by
  induction cs with
  | nil => rfl
  | cons c cs ih =>
      by_cases h : separates c = true
      · rw [List.dropWhile_cons_of_pos h, ih, pieces_cons_of_pos h]
      · rw [List.dropWhile_cons_of_neg h]

theorem flatten_splitOnP (cs : List Char) :
    (cs.splitOnP separates).flatten = cs.filter (!separates ·) := by
  induction cs with
  | nil => rfl
  | cons c cs ih =>
      rw [List.splitOnP_cons_eq_if_modifyHead]
      by_cases hc : separates c = true
      · simp [hc, ih]
      · cases hpieces : cs.splitOnP separates with
        | nil => exact absurd hpieces (List.splitOnP_ne_nil separates cs)
        | cons piece rest => simp_all

theorem flatten_pieces (cs : List Char) :
    (pieces separates cs).flatten = cs.filter (!separates ·) := by
  rw [pieces, List.flatten_filter_not_isEmpty, flatten_splitOnP]

theorem ne_nil_of_mem_pieces {cs piece : List Char} (h : piece ∈ pieces separates cs) :
    piece ≠ [] := by
  simpa using (List.mem_filter.mp h).2

theorem not_separates_of_mem_pieces {cs piece : List Char} (h : piece ∈ pieces separates cs) :
    ∀ c ∈ piece, separates c = false := by
  intro c hc
  have hmem : c ∈ (pieces separates cs).flatten := List.mem_flatten.mpr ⟨piece, h, hc⟩
  rw [flatten_pieces] at hmem
  simpa using (List.mem_filter.mp hmem).2

theorem intercalate_cons (separator : Char) (first : List Char) (rest : List (List Char)) :
    [separator].intercalate (first :: rest) = first ++ rest.flatMap (separator :: ·) := by
  induction rest generalizing first with
  | nil => simp
  | cons second rest ih => rw [List.intercalate_cons_cons, ih, List.flatMap_cons]; simp

end Text

namespace Ascii

theorem isAlnum_eq_isAlphanum (c : Char) : isAlnum c = c.isAlphanum := by
  simp [isAlnum, isLetter, isLower, isUpper, isDigit, Char.isAlphanum, Char.isAlpha, Char.isLower,
    Char.isUpper, Char.isDigit, Char.le_def, Bool.or_comm]

theorem isAlnum_toLower {c : Char} (h : isAlnum c = true) : isAlnum c.toLower = true := by
  rw [isAlnum_eq_isAlphanum] at h ⊢
  by_cases hupper : c.isUpper
  · simp [Char.isAlphanum, Char.isAlpha, hupper]
  · rwa [Char.toLower_eq_of_not_isUpper hupper]

end Ascii

namespace Terraform

/-- Whether a character stands between words. -/
def isGap (c : Char) : Bool := !Ascii.isAlnum c

/-- The longest runs of letters and digits in a text, in small letters. -/
def wordsIn (cs : List Char) : List (List Char) :=
  (Text.pieces isGap cs).map (List.map Char.toLower)

/-- The words of a name in small letters. -/
def nameWords (name : String) : List String := (wordsIn name.toList).map String.ofList

/-! ## Names side by side -/

theorem wordsIn_append_cons {c : Char} (h : isGap c = true) (before after : List Char) :
    wordsIn (before ++ c :: after) = wordsIn before ++ wordsIn (c :: after) := by
  simp only [wordsIn, Text.pieces_append_cons h, Text.pieces_cons_of_pos h, List.map_append]

theorem wordsIn_cons_of_gap {c : Char} (h : isGap c = true) (cs : List Char) :
    wordsIn (c :: cs) = wordsIn cs := by
  rw [wordsIn, Text.pieces_cons_of_pos h, wordsIn]

/-- Words end where a text begins with a gap. -/
theorem nameWords_append (first : String) {second : String}
    (h : second.toList.head?.any isGap = true) :
    nameWords (first ++ second) = nameWords first ++ nameWords second := by
  cases hsecond : second.toList with
  | nil => simp [hsecond] at h
  | cons c rest =>
      have hgap : isGap c = true := by simpa [hsecond] using h
      simp only [nameWords, String.toList_append, hsecond, wordsIn_append_cons hgap,
        List.map_append]

/-- Words begin where a text has ended with a gap. -/
theorem nameWords_append_of_getLast? {first : String} (second : String)
    (h : first.toList.getLast?.any isGap = true) :
    nameWords (first ++ second) = nameWords first ++ nameWords second := by
  rcases List.eq_nil_or_concat first.toList with hfirst | ⟨start, c, hfirst⟩
  · simp [hfirst] at h
  · rw [List.concat_eq_append] at hfirst
    have hgap : isGap c = true := by simpa [hfirst] using h
    have hempty : wordsIn [c] = [] := wordsIn_cons_of_gap hgap []
    have htail := wordsIn_cons_of_gap hgap second.toList
    simp only [nameWords, String.toList_append, hfirst, List.append_assoc, List.singleton_append,
      wordsIn_append_cons hgap, hempty, htail, List.append_nil, List.map_append]

/-- A text with gaps at both ends keeps what it stands between apart. -/
theorem nameWords_append_append (first : String) {middle : String} (last : String)
    (hhead : middle.toList.head?.any isGap = true)
    (hlast : middle.toList.getLast?.any isGap = true) :
    nameWords (first ++ middle ++ last) =
      nameWords first ++ nameWords middle ++ nameWords last := by
  rw [nameWords_append_of_getLast? last, nameWords_append first hhead]
  cases hend : middle.toList.getLast? with
  | none => simp [hend] at hlast
  | some c => simpa [String.toList_append, List.getLast?_append, hend] using hlast

theorem nameWords_join (names : List String) :
    nameWords (Text.join " " names) = names.flatMap nameWords := by
  have hpieces : Text.pieces isGap (Text.join " " names).toList =
      names.flatMap fun name => Text.pieces isGap name.toList :=
    Text.pieces_join id (fun _ _ => rfl) (c := ' ') (by decide) (by decide) names
  rw [nameWords, wordsIn, hpieces, List.map_flatMap, List.map_flatMap]
  rfl

/-! ## Words one by one -/

section

variable {c : Char}

theorem wordsIn_cons_of_alnum (h : Ascii.isAlnum c = true) (cs : List Char) :
    wordsIn (c :: cs) = (c :: cs.takeWhile Ascii.isAlnum).map Char.toLower ::
      wordsIn (cs.dropWhile Ascii.isAlnum) := by
  have hrun : Text.pieces isGap (c :: cs.takeWhile Ascii.isAlnum) =
      [c :: cs.takeWhile Ascii.isAlnum] := by
    refine Text.pieces_of_not_separates (List.cons_ne_nil _ _) fun d hd => ?_
    rcases List.mem_cons.mp hd with rfl | hd
    · simp [isGap, h]
    · simp [isGap, List.mem_takeWhile_imp hd]
  have hsplit : c :: cs = (c :: cs.takeWhile Ascii.isAlnum) ++ cs.dropWhile Ascii.isAlnum := by
    rw [List.cons_append, List.takeWhile_append_dropWhile]
  rw [hsplit]
  cases hrest : cs.dropWhile Ascii.isAlnum with
  | nil =>
      rw [List.append_nil, wordsIn, hrun]
      rfl
  | cons d rest =>
      have hgap : isGap d = true := by
        have hhead := List.head?_dropWhile_not Ascii.isAlnum cs
        simpa [hrest, isGap] using hhead
      rw [wordsIn_append_cons hgap, wordsIn, hrun]
      rfl

theorem ne_nil_of_mem_wordsIn {cs word : List Char} (h : word ∈ wordsIn cs) : word ≠ [] := by
  obtain ⟨run, hrun, rfl⟩ := List.mem_map.mp h
  simpa using Text.ne_nil_of_mem_pieces hrun

theorem isAlnum_of_mem_wordsIn {cs word : List Char} (h : word ∈ wordsIn cs) (hc : c ∈ word) :
    Ascii.isAlnum c = true := by
  obtain ⟨run, hrun, rfl⟩ := List.mem_map.mp h
  obtain ⟨d, hd, rfl⟩ := List.mem_map.mp hc
  exact Ascii.isAlnum_toLower (by simpa [isGap] using Text.not_separates_of_mem_pieces hrun d hd)

theorem wordsIn_of_mem {cs word : List Char} (h : word ∈ wordsIn cs) : wordsIn word = [word] := by
  have hgap : ∀ c ∈ word, isGap c = false := fun c hc => by
    simp [isGap, isAlnum_of_mem_wordsIn h hc]
  rw [wordsIn, Text.pieces_of_not_separates (ne_nil_of_mem_wordsIn h) hgap]
  obtain ⟨run, -, rfl⟩ := List.mem_map.mp h
  simp [Function.comp_def, Char.toLower_toLower_eq_toLower]

end

/-! ## Names as labels -/

/-- After something was passed over, every word is written behind a separator. Otherwise the
word at hand goes on before that. -/
theorem separate_eq (separator : Char) (cs : List Char) :
    separate separator true cs = (wordsIn cs).flatMap (separator :: ·) ∧
      separate separator false cs = (cs.takeWhile Ascii.isAlnum).map Char.toLower ++
        (wordsIn (cs.dropWhile Ascii.isAlnum)).flatMap (separator :: ·) := by
  induction cs with
  | nil => exact ⟨rfl, rfl⟩
  | cons c cs ih =>
      obtain ⟨hgap, hword⟩ := ih
      cases hc : Ascii.isAlnum c with
      | false =>
          have hpassed : wordsIn (c :: cs) = wordsIn cs :=
            wordsIn_cons_of_gap (by simp [isGap, hc]) cs
          simp [separate, hc, hgap, hpassed]
      | true => simp [separate, hc, hword, wordsIn_cons_of_alnum hc]

theorem separated_eq_join (separator : Char) (name : String) :
    separated separator name = Text.join (String.singleton separator) (nameWords name) := by
  have hwords : wordsIn name.toList = wordsIn (name.toList.dropWhile isGap) := by
    rw [wordsIn, ← Text.pieces_dropWhile, wordsIn]
  rw [← String.toList_inj, separated, String.toList_ofList, Text.toList_join, nameWords, hwords]
  change separate separator false (name.toList.dropWhile isGap) = _
  cases hrest : name.toList.dropWhile isGap with
  | nil => rfl
  | cons c rest =>
      have halnum : Ascii.isAlnum c = true := by
        have hhead := List.head?_dropWhile_not isGap name.toList
        simpa [hrest, isGap] using hhead
      rw [(separate_eq separator _).2, wordsIn_cons_of_alnum halnum]
      simp [halnum, Text.intercalate_cons, Function.comp_def]

theorem nameWords_separated {separator : Char} (h : isGap separator = true) (name : String) :
    nameWords (separated separator name) = nameWords name := by
  have hpieces : Text.pieces isGap (separated separator name).toList =
      (nameWords name).flatMap fun word => Text.pieces isGap word.toList := by
    rw [separated_eq_join]
    exact Text.pieces_join id (fun _ _ => rfl) (String.toList_singleton separator) h _
  have hwords : wordsIn (separated separator name).toList = wordsIn name.toList := calc
    wordsIn (separated separator name).toList = (wordsIn name.toList).flatMap wordsIn := by
      rw [wordsIn, hpieces, List.map_flatMap, nameWords, List.flatMap_map]
      simp only [String.toList_ofList]
      rfl
    _ = (wordsIn name.toList).flatMap fun word => [word] :=
      List.flatMap_congr fun _ hword => wordsIn_of_mem hword
    _ = wordsIn name.toList := List.flatMap_singleton' _
  rw [nameWords, hwords, nameWords]

@[simp] theorem nameWords_snakeCase (name : String) :
    nameWords (snakeCase name) = nameWords name :=
  nameWords_separated (by decide) name

@[simp] theorem nameWords_labelOf (names : List String) :
    nameWords (labelOf names) = names.flatMap nameWords := by
  rw [labelOf, nameWords_snakeCase, nameWords_join]

end Terraform

end Blueprint
