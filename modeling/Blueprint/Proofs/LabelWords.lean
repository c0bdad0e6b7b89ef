import Mathlib
import Blueprint.Proofs.DisplayForms

/-!
# Labels as words

A label is written in one pass over its name, which knows what is written so far and whether
something was passed over since. It comes to the words of the name with one separator between
neighbours, so labels of joined names are joined labels, a label of a label is the label, and
no two record names without doubled hyphens share one.
-/

namespace Blueprint

namespace Text

variable {separator : String} {texts : List String}

theorem join_append {first second : List String} (hfirst : first ≠ []) (hsecond : second ≠ []) :
    join separator (first ++ second) =
      join separator first ++ separator ++ join separator second := by
  induction first with
  | nil => exact absurd rfl hfirst
  | cons text rest ih =>
      cases rest with
      | nil =>
          obtain ⟨next, others, rfl⟩ := List.exists_cons_of_ne_nil hsecond
          rfl
      | cons next others =>
          rw [List.cons_append, List.cons_append, join_cons_cons, ← List.cons_append,
            ih (List.cons_ne_nil _ _), join_cons_cons]
          simp only [String.append_assoc]

theorem join_eq_empty_iff (h : ∀ text ∈ texts, text ≠ "") :
    join separator texts = "" ↔ texts = [] := by
  cases texts with
  | nil => simp [join]
  | cons text rest =>
      have htext := h text List.mem_cons_self
      cases rest with
      | nil => simpa [join] using htext
      | cons next others => simp [join_cons_cons, htext]

/-- Groups of texts may be joined group by group, as long as empty groups are left out. -/
theorem join_filter_join {groups : List (List String)}
    (h : ∀ group ∈ groups, ∀ text ∈ group, text ≠ "") :
    join separator ((groups.map (join separator)).filter (· ≠ "")) =
      join separator groups.flatten := by
  induction groups with
  | nil => rfl
  | cons group groups ih =>
      obtain ⟨hgroup, hgroups⟩ := List.forall_mem_cons.mp h
      have hrest := ih hgroups
      rw [List.map_cons, List.flatten_cons]
      by_cases hempty : group = []
      · subst hempty
        simpa [join] using hrest
      · have hkept : join separator group ≠ "" := (join_eq_empty_iff hgroup).not.mpr hempty
        rw [List.filter_cons_of_pos (by simpa using hkept)]
        have hflatten : ∀ text ∈ groups.flatten, text ≠ "" := fun text htext => by
          obtain ⟨other, hother, hmem⟩ := List.mem_flatten.mp htext
          exact hgroups other hother text hmem
        have hfilled : ∀ text ∈ (groups.map (join separator)).filter (· ≠ ""), text ≠ "" :=
          fun text htext => by simpa using (List.mem_filter.mp htext).2
        -- the other groups join to nothing just when they hold nothing
        have hnone : (groups.map (join separator)).filter (· ≠ "") = [] ↔
            groups.flatten = [] := by
          rw [← join_eq_empty_iff hfilled, hrest, join_eq_empty_iff hflatten]
        by_cases hrow : groups.flatten = []
        · rw [hnone.mpr hrow, hrow, List.append_nil]
          rfl
        · rw [join_append hempty hrow, ← hrest, ← List.singleton_append,
            join_append (List.cons_ne_nil _ _) (hnone.not.mpr hrow)]
          rfl

end Text

namespace Terraform

variable {separator c : Char} {cs : List Char} {name first second : String}

/-! ## The pass over a name -/

/-- What is written of a label, and whether something was passed over since. -/
structure Draft where
  written : List Char
  pending : Bool

namespace Draft

/-- Nothing is written yet. -/
def blank : Draft := ⟨[], false⟩

/-- Reads one more character of the name. A separator stands only where something is written
before it. -/
def read (separator : Char) (draft : Draft) (c : Char) : Draft :=
  if Ascii.isAlnum c then
    if draft.pending && !draft.written.isEmpty then
      ⟨draft.written ++ [separator, c.toLower], false⟩
    else ⟨draft.written ++ [c.toLower], false⟩
  else { draft with pending := true }

/-- What the rest of a name adds to a draft. -/
def remaining (separator : Char) (draft : Draft) (rest : List Char) : List Char :=
  if draft.written.isEmpty then separate separator false (rest.dropWhile isGap)
  else separate separator draft.pending rest

/-- What is written and what the rest adds are one text all along the pass. -/
theorem written_read_append (separator : Char) (draft : Draft) (c : Char) (rest : List Char) :
    (draft.read separator c).written ++ (draft.read separator c).remaining separator rest =
      draft.written ++ draft.remaining separator (c :: rest) := by
  obtain ⟨written, pending⟩ := draft
  -- as long as nothing is written the flag has no effect, so `remaining` must not read it then
  cases hc : Ascii.isAlnum c <;> cases hwritten : written.isEmpty <;> cases pending <;>
    simp [read, remaining, separate, isGap, hc, hwritten]

theorem written_foldl_read (separator : Char) (draft : Draft) (rest : List Char) :
    (rest.foldl (read separator) draft).written =
      draft.written ++ draft.remaining separator rest := by
  induction rest generalizing draft with
  | nil => simp [remaining, separate]
  | cons c rest ih => rw [List.foldl_cons, ih, written_read_append]

end Draft

theorem separated_eq_foldl (separator : Char) (name : String) :
    separated separator name =
      String.ofList (name.toList.foldl (Draft.read separator) .blank).written := by
  rw [Draft.written_foldl_read]
  rfl

/-! ## Separators -/

/-- Whether a separator stands in a text only between two other characters. -/
structure StandsApart (separator : Char) (cs : List Char) : Prop where
  not_leading : cs.head? ≠ some separator
  not_trailing : cs.getLast? ≠ some separator
  not_doubled : ¬[separator, separator] <:+: cs

/-- Where nothing lies between two separators, or between one and an end of the text, the text
has an empty piece. -/
theorem standsApart_of_splitOn (h : ∀ piece ∈ cs.splitOn separator, piece ≠ []) :
    StandsApart separator cs := by
  have hpart : ∀ before after : List Char, cs = before ++ separator :: after →
      cs.splitOn separator = before.splitOn separator ++ after.splitOn separator := by
    rintro before after rfl
    exact List.splitOnP_append_cons before after (by simp)
  refine ⟨fun hhead => ?_, fun hlast => ?_, fun hdoubled => ?_⟩
  · obtain ⟨rest, hrest⟩ := List.head?_eq_some_iff.mp hhead
    have hempty : [] ∈ cs.splitOn separator := by simp [hpart [] rest hrest]
    exact h [] hempty rfl
  · obtain ⟨start, hstart⟩ := List.getLast?_eq_some_iff.mp hlast
    have hempty : [] ∈ cs.splitOn separator := by simp [hpart start [] hstart]
    exact h [] hempty rfl
  · obtain ⟨before, after, hcs⟩ := hdoubled
    have hsplit := hpart before (separator :: after) (by simp [← hcs])
    have hempty : [] ∈ cs.splitOn separator := by
      rw [hsplit, List.mem_append]
      exact .inr (by simp [List.splitOn_eq_splitOnP, List.splitOnP_cons_eq_if_modifyHead])
    exact h [] hempty rfl

theorem standsApart_separated (h : isGap separator = true) (name : String) :
    StandsApart separator (separated separator name).toList := by
  have hlabel : (separated separator name).toList =
      [separator].intercalate (wordsIn name.toList) := by
    rw [separated_eq_join, Text.toList_join, String.toList_singleton, nameWords, List.map_map]
    simp [Function.comp_def]
  rw [hlabel]
  by_cases hwords : wordsIn name.toList = []
  · rw [hwords]
    exact ⟨by simp, by simp, by simp⟩
  · have hnot : ∀ word ∈ wordsIn name.toList, separator ∉ word := fun word hword hmem => by
      simp [isGap, isAlnum_of_mem_wordsIn hword hmem] at h
    refine standsApart_of_splitOn fun piece hpiece => ?_
    rw [List.splitOn_intercalate separator hnot hwords] at hpiece
    exact ne_nil_of_mem_wordsIn hpiece

/-! ## Labels of labels and of joined names -/

theorem snakeCase_eq_join (name : String) : snakeCase name = Text.join "_" (nameWords name) :=
  separated_eq_join '_' name

theorem snakeCase_eq_iff :
    snakeCase first = snakeCase second ↔ nameWords first = nameWords second := by
  constructor
  · intro h
    rw [← nameWords_snakeCase first, h, nameWords_snakeCase]
  · intro h
    rw [snakeCase_eq_join, h, snakeCase_eq_join]

theorem snakeCase_snakeCase (name : String) : snakeCase (snakeCase name) = snakeCase name :=
  snakeCase_eq_iff.mpr (nameWords_snakeCase name)

theorem ne_empty_of_mem_nameWords {word : String} (h : word ∈ nameWords name) : word ≠ "" := by
  obtain ⟨chars, hchars, rfl⟩ := List.mem_map.mp h
  simpa using ne_nil_of_mem_wordsIn hchars

/-- The label of several names joins their labels, those that are empty left out. -/
theorem labelOf_eq_join (names : List String) :
    labelOf names = Text.join "_" ((names.map snakeCase).filter (· ≠ "")) := by
  have hsnake : names.map snakeCase = (names.map nameWords).map (Text.join "_") := by
    rw [List.map_map]
    exact List.map_congr_left fun name _ => snakeCase_eq_join name
  rw [hsnake, Text.join_filter_join, labelOf, snakeCase_eq_join, nameWords_join, List.flatMap_def]
  intro words hwords word hword
  obtain ⟨name, -, rfl⟩ := List.mem_map.mp hwords
  exact ne_empty_of_mem_nameWords hword

/-! ## Record names -/

theorem isAlnum_of_inner (h : Grammar.LabelStyle.recordName.inner c = true) (hne : c ≠ '-') :
    Ascii.isAlnum c = true := by
  simp only [Grammar.LabelStyle.inner, hne, decide_false, Bool.or_false, Bool.or_eq_true] at h
  simp only [Ascii.isAlnum, Ascii.isLetter, Bool.or_eq_true]
  exact h.imp_left .inl

theorem toLower_of_inner (h : Grammar.LabelStyle.recordName.inner c = true) : c.toLower = c := by
  by_cases hne : c = '-'
  · subst hne
    decide
  · refine Text.toLower_of_isSmallOrDigit ?_
    simpa [Grammar.LabelStyle.inner, hne, Ascii.isLower, Ascii.isDigit, Text.isSmallOrDigit,
      Char.isLower, Char.isDigit, Char.le_def] using h

theorem separate_true_cons (h : Ascii.isAlnum c = true) (rest : List Char) :
    separate separator true (c :: rest) = separator :: separate separator false (c :: rest) := by
  simp [separate, h]

theorem separate_of_single_hyphens
    (hinner : ∀ c ∈ cs, Grammar.LabelStyle.recordName.inner c = true)
    (hlast : cs.getLast? ≠ some '-') (hdoubled : ¬['-', '-'] <:+: cs) :
    separate '-' false cs = cs := by
  induction cs with
  | nil => rfl
  | cons c rest ih =>
      obtain ⟨hc, hrest⟩ := List.forall_mem_cons.mp hinner
      have hsame : separate '-' false rest = rest := by
        refine ih hrest (fun h => hlast ?_) fun h => hdoubled ?_
        · rw [List.getLast?_cons, h, Option.getD_some]
        · exact h.trans (List.suffix_cons c rest).isInfix
      by_cases hhyphen : c = '-'
      · -- the next character is a letter or a digit, and what follows the gap starts with it
        subst hhyphen
        have hgap : separate '-' false ('-' :: rest) = separate '-' true rest := rfl
        cases rest with
        | nil => exact absurd rfl hlast
        | cons d rest =>
            have hne : d ≠ '-' := by
              rintro rfl
              exact hdoubled ⟨[], rest, rfl⟩
            have halnum := isAlnum_of_inner (hrest d List.mem_cons_self) hne
            rw [hgap, separate_true_cons halnum, hsame]
      · simp [separate, isAlnum_of_inner hc hhyphen, toLower_of_inner hc, hsame]

theorem kebabCase_of_isRecordName (h : Grammar.isRecordName name = true)
    (hdoubled : ¬['-', '-'] <:+: name.toList) : kebabCase name = name := by
  rw [Grammar.isRecordName, Bool.and_eq_true, Grammar.isLabel_iff] at h
  obtain ⟨⟨first, last, hfirst, hlast, hlower, hhyphen, hinner⟩, -⟩ := h
  obtain ⟨rest, hname⟩ := List.head?_eq_some_iff.mp hfirst
  have halnum : Ascii.isAlnum first = true := by
    simp [Ascii.isAlnum, Ascii.isLetter, show Ascii.isLower first = true from hlower]
  have hdrop : name.toList.dropWhile (!Ascii.isAlnum ·) = name.toList := by
    rw [hname, List.dropWhile_cons_of_neg (by simp [halnum])]
  rw [kebabCase, separated, hdrop, separate_of_single_hyphens hinner ?_ hdoubled,
    String.ofList_toList]
  rw [hlast]
  exact fun heq => hhyphen (Option.some.inj heq)

theorem snakeCase_inj (hfirst : Grammar.isRecordName first = true)
    (hsecond : Grammar.isRecordName second = true)
    (hsingle : ¬['-', '-'] <:+: first.toList) (hsingle' : ¬['-', '-'] <:+: second.toList) :
    snakeCase first = snakeCase second ↔ first = second := by
  refine ⟨fun h => ?_, congrArg snakeCase⟩
  rw [← kebabCase_of_isRecordName hfirst hsingle, ← kebabCase_of_isRecordName hsecond hsingle',
    kebabCase, kebabCase, separated_eq_join, separated_eq_join, snakeCase_eq_iff.mp h]

/-- A label is the longest runs of ASCII letters and digits of its name, in small letters and with
a separator between neighbours, which is what the pass over the name writes. So underscores and
hyphens stand apart in it, a label is its own label, the label of two names joins those of their
labels that are not empty, and record names without doubled hyphens have labels of their own. -/
theorem labels_join_words :
    (∀ separator name,
      separated separator name =
          String.ofList (name.toList.foldl (Draft.read separator) .blank).written ∧
        separated separator name = Text.join (String.singleton separator)
          ((Text.pieces isGap name.toList).map fun run =>
            String.ofList (run.map Char.toLower))) ∧
      (∀ separator, separator = '_' ∨ separator = '-' → ∀ name,
        StandsApart separator (separated separator name).toList) ∧
      (∀ name, snakeCase (snakeCase name) = snakeCase name) ∧
      (∀ first second, snakeCase (first ++ " " ++ second) =
        Text.join "_" ([snakeCase first, snakeCase second].filter (· ≠ ""))) ∧
      ∀ first second, Grammar.isRecordName first = true → Grammar.isRecordName second = true →
        ¬['-', '-'] <:+: first.toList → ¬['-', '-'] <:+: second.toList →
        (snakeCase first = snakeCase second ↔ first = second) := by
  refine ⟨fun separator name => ⟨separated_eq_foldl separator name, ?_⟩, ?_,
    snakeCase_snakeCase, fun first second => ?_, fun first second => snakeCase_inj⟩
  · rw [separated_eq_join, nameWords, wordsIn, List.map_map]
    rfl
  · rintro separator (rfl | rfl) name
    · exact standsApart_separated (by decide) name
    · exact standsApart_separated (by decide) name
  · exact labelOf_eq_join [first, second]

/-- Labels of a name with gaps of all kinds, and of two record names that begin alike. -/
theorem labels_join_words_service :
    StandsApart '_' (snakeCase "-Event  Streams_es-").toList ∧
      StandsApart '-' (kebabCase "-Event  Streams_es-").toList ∧
      Grammar.isRecordName "service" = true ∧ Grammar.isRecordName "service-rg" = true ∧
      ¬['-', '-'] <:+: "service".toList ∧ ¬['-', '-'] <:+: "service-rg".toList ∧
      snakeCase "service" ≠ snakeCase "service-rg" := by
  obtain ⟨-, hapart, -, -, hinj⟩ := labels_join_words
  have hfirst : Grammar.isRecordName "service" = true := by decide
  have hsecond : Grammar.isRecordName "service-rg" = true := by decide
  have hsingle : ¬['-', '-'] <:+: "service".toList := by decide
  have hsingle' : ¬['-', '-'] <:+: "service-rg".toList := by decide
  refine ⟨hapart '_' (.inl rfl) _, hapart '-' (.inr rfl) _, hfirst, hsecond, hsingle, hsingle',
    ?_⟩
  exact (hinj _ _ hfirst hsecond hsingle hsingle').not.mpr (by decide)

end Terraform

end Blueprint
