import Mathlib
import Blueprint.Integrity.Reconcile
import Blueprint.Proofs.NameWords
import Blueprint.Store.Defaults

/-!
# Titles of sections

The title of a section stands in a comment between two banners. It keeps every line end of the
names that it is made of, since only hyphens, underscores and spaces part its words, and brings
in none of its own. So a section is headed by three lines exactly if these names stay on one.
-/

namespace Blueprint

namespace Text

variable {separates : Char → Bool} {separator : String} {texts : List String} {c : Char}
  {cs : List Char}

/-! ## Line ends in texts that are put together -/

theorem exists_mem_pieces_iff (h : separates c = false) :
    (∃ piece ∈ pieces separates cs, c ∈ piece) ↔ c ∈ cs := by
  rw [← List.mem_flatten, flatten_pieces]
  simp [h]

theorem mem_join_iff (h : c ∉ separator.toList) :
    c ∈ (join separator texts).toList ↔ ∃ text ∈ texts, c ∈ text.toList := by
  induction texts with
  | nil => simp [join]
  | cons first rest ih =>
      cases rest with
      | nil => simp [join]
      | cons second rest => simp [join_cons_cons, ih, h]

/-- The lines of a text. -/
def linesOf (s : String) : List String := (s.toList.splitOnP (· = '\n')).map String.ofList

theorem linesOf_ne_nil (s : String) : linesOf s ≠ [] := by simp [linesOf]

theorem linesOf_of_not_mem {s : String} (h : '\n' ∉ s.toList) : linesOf s = [s] := by
  rw [linesOf, List.splitOnP_eq_singleton]
  · simp
  · intro c hc
    have hne : c ≠ '\n' := ne_of_mem_of_not_mem hc h
    simpa using hne

theorem linesOf_append_newline (first second : String) :
    linesOf (first ++ "\n" ++ second) = linesOf first ++ linesOf second := by
  have hnewline : "\n".toList = ['\n'] := by decide
  simp only [linesOf, String.toList_append, hnewline, List.append_assoc, List.singleton_append]
  rw [List.splitOnP_append_cons _ _ (by simp), List.map_append]

theorem head?_linesOf_eq_iff {s : String} : (linesOf s).head? = some s ↔ '\n' ∉ s.toList := by
  constructor
  · intro h hmem
    obtain ⟨before, after, hs, hbefore⟩ := List.eq_append_cons_of_mem hmem
    have hfirst : (linesOf s).head? = some (String.ofList before) := by
      rw [linesOf, hs, List.splitOnP_append_cons_of_forall_mem _ _ (by simp)]
      · rfl
      · intro c hc
        have hne : c ≠ '\n' := ne_of_mem_of_not_mem hc hbefore
        simpa using hne
    rw [h, Option.some.injEq] at hfirst
    rw [hfirst, String.toList_ofList] at hs
    simpa using congrArg List.length hs
  · intro h
    rw [linesOf_of_not_mem h]
    rfl

/-! ## Line ends under changes of case -/

theorem toLower_eq_newline_iff : c.toLower = '\n' ↔ c = '\n' := by
  by_cases hupper : c.isUpper = true
  · have halpha : c.toLower.isLower = true := by simp [Char.isAlpha, hupper]
    constructor
    · intro h
      rw [h] at halpha
      exact absurd halpha (by decide)
    · rintro rfl
      exact absurd hupper (by decide)
  · rw [Char.toLower_eq_of_not_isUpper hupper]

theorem toUpper_eq_newline_iff : c.toUpper = '\n' ↔ c = '\n' := by
  by_cases hlower : c.isLower = true
  · have halpha : c.toUpper.isUpper = true := by simp [Char.isAlpha, hlower]
    constructor
    · intro h
      rw [h] at halpha
      exact absurd halpha (by decide)
    · rintro rfl
      exact absurd hlower (by decide)
  · rw [Char.toUpper_eq_of_not_isLower hlower]

theorem sameLetters_newline {a b : List Char} (h : sameLetters a b = true) :
    '\n' ∈ a ↔ '\n' ∈ b := by
  have hfolded (cs : List Char) : '\n' ∈ cs.map Char.toLower ↔ '\n' ∈ cs := by
    simp only [List.mem_map, toLower_eq_newline_iff, exists_eq_right]
  rw [← hfolded a, ← hfolded b, eq_of_beq h]

namespace CodeMap

/-- Whether no image of a map has a control character. -/
def isPrintable (map : CodeMap) : Bool := map.all fun rule => rule.image.all (31 < ·)

theorem isPrintable_ofText {map : CodeMap} {cs : List Char} (hmap : map = ofText (String.ofList cs))
    (h : isPrintable ((pieces isBlank cs).filterMap CodeRule.ofChars?) = true) :
    map.isPrintable = true := by
  rwa [hmap, ofText, String.toList_ofList]

set_option maxRecDepth 20000 in
theorem isPrintable_upper : CaseData.upper.isPrintable = true :=
  isPrintable_ofText rfl (by decide +kernel)

set_option maxRecDepth 20000 in
theorem isPrintable_lower : CaseData.lower.isPrintable = true :=
  isPrintable_ofText rfl (by decide +kernel)

theorem ofNat_ne_newline {code : Nat} (h : 31 < code) : Char.ofNat code ≠ '\n' := by
  intro heq
  have hcode := congrArg Char.toNat heq
  rw [Char.toNat_ofNat] at hcode
  split at hcode
  · exact absurd (hcode ▸ h) (by decide)
  · exact absurd hcode (by decide)

theorem newline_not_mem_image {map : CodeMap} {image : List Char} (h : map.isPrintable = true)
    (himage : map.image? c = some image) : '\n' ∉ image := by
  obtain ⟨rule, hrule, rfl⟩ := Option.map_eq_some_iff.mp himage
  have hcodes : ∀ code ∈ rule.image, 31 < code := by
    simpa using List.all_eq_true.mp h rule (List.mem_of_find?_eq_some hrule)
  have hmoved : ∀ code ∈ rule.imageOf c.toNat, 31 < code := by
    unfold CodeRule.imageOf
    split
    · next start hstart =>
        have hfirst : 31 < start := hcodes start (by simp [hstart])
        intro code hcode
        rw [List.mem_singleton.mp hcode]
        omega
    · exact hcodes
  rw [List.mem_map]
  rintro ⟨code, hcode, heq⟩
  exact ofNat_ne_newline (hmoved code hcode) heq

/-- Of all characters only the line end has one in its image. -/
theorem newline_mem_cased_iff {map : CodeMap} {fold : Char → Char} (h : map.isPrintable = true)
    (hfold : fold c = '\n' ↔ c = '\n') :
    '\n' ∈ (if c.toNat < 128 then [fold c] else (map.image? c).getD [c]) ↔ c = '\n' := by
  split
  · rw [List.mem_singleton, eq_comm, hfold]
  · next hascii =>
      have hne : c ≠ '\n' := by
        rintro rfl
        exact hascii (by decide)
      cases himage : map.image? c with
      | none => simp [eq_comm]
      | some image => simpa [hne] using newline_not_mem_image h himage

end CodeMap

theorem newline_mem_upper_iff : '\n' ∈ upper c ↔ c = '\n' :=
  CodeMap.newline_mem_cased_iff CodeMap.isPrintable_upper toUpper_eq_newline_iff

theorem newline_mem_lower_iff : '\n' ∈ lower c ↔ c = '\n' :=
  CodeMap.newline_mem_cased_iff CodeMap.isPrintable_lower toLower_eq_newline_iff

theorem newline_mem_titleChars_iff : '\n' ∈ titleChars cs ↔ '\n' ∈ cs := by
  cases cs with
  | nil => rfl
  | cons c rest =>
      simp only [titleChars, List.mem_append, List.mem_flatMap, List.mem_cons,
        newline_mem_upper_iff, newline_mem_lower_iff, exists_eq_right, eq_comm (a := c)]

end Text

namespace Terraform

/-! ## Titles -/

theorem newline_mem_wordInTitle_iff {word : List Char} :
    '\n' ∈ (wordInTitle word).toList ↔ '\n' ∈ word := by
  unfold wordInTitle
  split
  · next hand => exact (Text.sameLetters_newline hand).symm
  · split
    · next acronym hacronym =>
        have hsame := List.find?_some hacronym
        exact Text.sameLetters_newline hsame
    · rw [String.toList_ofList, Text.newline_mem_titleChars_iff]

/-- A line end parts no words, and so it stays in the title of a name. -/
theorem newline_mem_titleCase_iff {name : String} :
    '\n' ∈ (titleCase name).toList ↔ '\n' ∈ name.toList := by
  rw [titleCase, Text.mem_join_iff (by decide)]
  simp only [List.mem_map, exists_exists_and_eq_and, newline_mem_wordInTitle_iff]
  exact Text.exists_mem_pieces_iff (by decide)

namespace Section

/-- A section whose title is one line between the two banners. -/
def IsHeaded (s : Section) : Prop :=
  ∃ rest, Text.linesOf s.render = banner :: ("# " ++ s.title) :: banner :: rest

/-- Whatever lines the title comes to stand after the first banner. -/
theorem linesOf_render (s : Section) :
    ∃ rest, Text.linesOf s.render =
      banner :: (Text.linesOf ("# " ++ s.title) ++ banner :: rest) := by
  obtain ⟨body, hbody⟩ : ∃ body, s.render =
      banner ++ "\n" ++ ("# " ++ s.title) ++ "\n" ++ banner ++ "\n" ++ body := by
    refine ⟨Text.concat ((s.blocks.flatMap (fun b => "" :: b.lines) ++ ["", banner]).map
      (· ++ "\n")), ?_⟩
    simp only [render, lines, List.cons_append, List.nil_append, List.map_cons, Text.concat,
      String.append_assoc]
  have hbanner : Text.linesOf banner = [banner] := Text.linesOf_of_not_mem (by decide)
  exact ⟨Text.linesOf body, by simp [hbody, Text.linesOf_append_newline, hbanner]⟩

theorem isHeaded_iff {s : Section} : s.IsHeaded ↔ '\n' ∉ s.title.toList := by
  have hmark : '\n' ∉ ("# " ++ s.title).toList ↔ '\n' ∉ s.title.toList := by simp
  obtain ⟨body, hlines⟩ := s.linesOf_render
  rw [IsHeaded, hlines, ← hmark]
  constructor
  · rintro ⟨rest, hrest⟩
    obtain ⟨first, others, htitle⟩ :=
      List.exists_cons_of_ne_nil (Text.linesOf_ne_nil ("# " ++ s.title))
    rw [htitle, List.cons_append] at hrest
    have hfirst : first = "# " ++ s.title := (List.cons.inj (List.cons.inj hrest).2).1
    rw [← Text.head?_linesOf_eq_iff, htitle, List.head?_cons, hfirst]
  · intro h
    exact ⟨_, by rw [Text.linesOf_of_not_mem h]; rfl⟩

theorem isHeaded_ofBlocks_iff {title : String} {made : List Block} :
    (∀ s ∈ ofBlocks title made, s.IsHeaded) ↔ (made ≠ [] → '\n' ∉ title.toList) := by
  cases made <;> simp [ofBlocks, isHeaded_iff]

theorem isHeaded_map_iff {records : List Record} {title : Record → String}
    {made : Record → List Block}
    (htitle : ∀ r, '\n' ∈ (title r).toList ↔ '\n' ∈ r.label.toList) :
    (∀ s ∈ records.map fun r => (⟨title r, made r⟩ : Section), s.IsHeaded) ↔
      ∀ name ∈ records.map Record.label, '\n' ∉ name.toList := by
  simp only [List.forall_mem_map, isHeaded_iff, htitle]

end Section

theorem Classic.isHeaded_iff (t : Tree) :
    (∀ s ∈ sections t, s.IsHeaded) ↔
      ∀ datacenter ∈ datacenters t, '\n' ∉ datacenter.toList := by
  simp only [sections, List.mem_flatMap, forall_exists_index, and_imp]
  rw [forall_comm]
  refine forall_congr' fun datacenter => ?_
  rw [forall_comm]
  refine forall_congr' fun hdatacenter => ?_
  have hplaced : located datacenter (t.topLevel .classicSshKey) ≠ [] ∨
      located datacenter (t.topLevel .classicVlan) ≠ [] := by
    rw [datacenters, Text.mem_distinct, List.mem_filterMap] at hdatacenter
    obtain ⟨r, hr, hplace⟩ := hdatacenter
    have hlocated {records : List Record} (hr : r ∈ records) : located datacenter records ≠ [] :=
      List.ne_nil_of_mem (List.mem_filter.mpr ⟨hr, by simp [hplace]⟩)
    exact (List.mem_append.mp hr).imp hlocated hlocated
  have htitle (kind : String) (h : '\n' ∉ kind.toList) :
      '\n' ∈ (titleCase datacenter ++ kind).toList ↔ '\n' ∈ datacenter.toList := by
    simp [newline_mem_titleCase_iff, h]
  simp only [datacenterSections, List.forall_mem_append, Section.isHeaded_ofBlocks_iff,
    htitle _ (show '\n' ∉ " SSH Keys".toList by decide),
    htitle _ (show '\n' ∉ " VLANs".toList by decide), ne_eq, List.map_eq_nil_iff]
  tauto

namespace Family

/-- The names that the titles of a family are made of. -/
def titleNames (t : Tree) : Family → List String
  | vpcs => (t.topLevel .vpc).map Record.label
  | securityGroups => (t.topLevel .securityGroup).map Record.label
  | transitGateways => (t.topLevel .transitGateway).map Record.label
  | dns => (t.topLevel .dns).map Record.label
  | keyManagement => (t.topLevel .keyManagement).map Record.label
  | objectStorage => (t.topLevel .objectStorage).map Record.label
  | accessGroups => (t.topLevel .accessGroup).map Record.label
  | classic => Classic.datacenters t
  | provider | resourceGroups | sshKeys | databases | eventStreams | secretsManager | appId
  | accountSettings | activityTracker => []

/-- Each section of a family is headed by a banner, one comment line with its title and a
banner again, exactly if none of the names in the titles has a line end. -/
theorem sections_headed_iff (t : Tree) (family : Family) :
    (∀ s ∈ family.sections t, s.IsHeaded) ↔
      ∀ name ∈ family.titleNames t, '\n' ∉ name.toList := by
  cases family
  case classic => exact Classic.isHeaded_iff t
  case vpcs | securityGroups | transitGateways | dns | keyManagement | objectStorage
      | accessGroups =>
    exact Section.isHeaded_map_iff fun r => by simp [newline_mem_titleCase_iff]
  -- the other families have one section with a title of its own
  all_goals
    refine iff_of_true ?_ (by simp [titleNames])
    unfold sections
    exact Section.isHeaded_ofBlocks_iff.mpr fun _ => by decide

/-- An access group whose name does not stay on one line. -/
def sampleLongGroup : Record := [("name", .text "ops\nlocals \x7b\x7d #")]

/-- What is loaded for a description with this access group. -/
def sampleLongTree : Tree :=
  (Tree.mk [("access_groups", .list [.object sampleLongGroup])]).withDefaults.reconcileAll.2

/-- The rest of the name stands below the comment, where it is taken for Terraform. -/
theorem sections_not_headed :
    ¬ (∀ s ∈ accessGroups.sections sampleLongTree, s.IsHeaded) ∧
      ∃ s ∈ accessGroups.sections sampleLongTree, ∃ rest,
        Text.linesOf s.render =
          banner :: "# Ops" :: "locals \x7b\x7d # Access Group" :: banner :: rest := by
  have hgroups : sampleLongTree.topLevel .accessGroup = [sampleLongGroup] := by decide +kernel
  have hlines : Text.linesOf ("# " ++ (titleCase sampleLongGroup.label ++ " Access Group")) =
      ["# Ops", "locals \x7b\x7d # Access Group"] := by
    have hbroken : "# " ++ (titleCase sampleLongGroup.label ++ " Access Group") =
        "# Ops" ++ "\n" ++ "locals \x7b\x7d # Access Group" := by decide +kernel
    rw [hbroken, Text.linesOf_append_newline, Text.linesOf_of_not_mem (by decide),
      Text.linesOf_of_not_mem (by decide)]
    rfl
  have hheaded : (∀ s ∈ accessGroups.sections sampleLongTree, s.IsHeaded) ↔
      ∀ name ∈ (sampleLongTree.topLevel .accessGroup).map Record.label, '\n' ∉ name.toList :=
    Section.isHeaded_map_iff fun r => by simp [newline_mem_titleCase_iff]
  constructor
  · rw [hheaded, hgroups]
    decide +kernel
  · simp only [sections, AccessGroups.sections, hgroups, List.map_singleton, List.mem_singleton,
      exists_eq_left]
    obtain ⟨rest, hrest⟩ := Section.linesOf_render
      ⟨titleCase sampleLongGroup.label ++ " Access Group",
        AccessGroups.blocks sampleLongTree sampleLongGroup⟩
    exact ⟨rest, by rw [hrest, hlines]; rfl⟩

end Family

end Terraform

end Blueprint
