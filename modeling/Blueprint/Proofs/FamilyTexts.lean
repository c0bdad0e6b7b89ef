import Mathlib.Data.List.Basic
import Blueprint.Terraform.Document

/-!
# Texts of families

A section starts and ends with a banner, so no family's text ends with more than one line
end: bringing the joined texts to one line end takes nothing away, whatever is written
between the banners.
-/

namespace Blueprint

namespace Text

variable {separator text : String} {texts : List String}

theorem join_cons_cons (separator first second : String) (rest : List String) :
    join separator (first :: second :: rest) =
      first ++ separator ++ join separator (second :: rest) := rfl

theorem join_append_cons (separator start text : String) (rest : List String) :
    join separator ((start ++ text) :: rest) = start ++ join separator (text :: rest) := by
  cases rest with
  | nil => rfl
  | cons second rest => simp only [join_cons_cons, String.append_assoc]

theorem exists_join_of_mem (h : text ∈ texts) :
    ∃ before after, join separator texts = before ++ text ++ after := by
  induction texts with
  | nil => cases h
  | cons first rest ih =>
      rcases List.mem_cons.mp h with rfl | h
      · refine ⟨"", join separator ("" :: rest), ?_⟩
        rw [String.empty_append, ← join_append_cons, String.append_empty]
      · obtain ⟨before, after, hrest⟩ := ih h
        cases rest with
        | nil => cases h
        | cons second rest =>
            refine ⟨first ++ separator ++ before, after, ?_⟩
            simp only [join_cons_cons, hrest, String.append_assoc]

theorem concat_append (first second : List String) :
    concat (first ++ second) = concat first ++ concat second := by
  induction first with
  | nil => simp [concat]
  | cons text rest ih => simp only [List.cons_append, concat, ih, String.append_assoc]

theorem dropEndWhile_append {p : Char → Bool} {cs dropped : List Char} {last : Char}
    (hlast : p last = false) (hdropped : ∀ c ∈ dropped, p c = true) :
    dropEndWhile p (cs ++ [last] ++ dropped) = cs ++ [last] := by
  rw [dropEndWhile, List.reverse_append, List.reverse_append,
    List.dropWhile_append_of_pos fun c hc => hdropped c (List.mem_reverse.mp hc),
    List.reverse_singleton, List.singleton_append, List.dropWhile_cons_of_neg (by simp [hlast]),
    List.reverse_cons, List.reverse_reverse]

end Text

namespace Terraform

/-- A text that starts with the line of a banner and ends with one. -/
structure Bannered (s : String) : Prop where
  starts : ∃ rest, s = banner ++ "\n" ++ rest
  ends : ∃ init, s = init ++ "\n" ++ banner ++ "\n"

/-- What bannered texts are joined with does not matter to the banners at the ends. -/
theorem Bannered.join {separator : String} {texts : List String} (hne : texts ≠ [])
    (h : ∀ text ∈ texts, Bannered text) : Bannered (Text.join separator texts) := by
  induction texts with
  | nil => exact absurd rfl hne
  | cons first rest ih =>
      have hfirst := h first List.mem_cons_self
      cases rest with
      | nil => exact hfirst
      | cons second rest =>
          have hrest := ih (List.cons_ne_nil second rest) fun text htext =>
            h text (List.mem_cons_of_mem _ htext)
          obtain ⟨body, hbody⟩ := hfirst.starts
          obtain ⟨init, hinit⟩ := hrest.ends
          constructor
          · exact ⟨_, by rw [hbody, Text.join_append_cons]⟩
          · refine ⟨first ++ separator ++ init, ?_⟩
            simp only [Text.join_cons_cons, hinit, String.append_assoc]

theorem Bannered.endLine_eq {s : String} (h : Bannered s) : endLine s = s := by
  obtain ⟨init, rfl⟩ := h.ends
  have hbanner : banner.toList = List.replicate 77 '#' ++ ['#'] := by decide
  have htrimmed : Text.dropEndWhile (· = '\n') (init ++ "\n" ++ banner ++ "\n").toList =
      (init ++ "\n" ++ banner).toList := by
    simp only [String.toList_append, hbanner, ← List.append_assoc]
    exact Text.dropEndWhile_append (by decide) (by simp)
  rw [endLine, htrimmed, String.ofList_toList]

namespace Section

theorem bannered_render (s : Section) : Bannered s.render := by
  constructor
  · exact ⟨_, rfl⟩
  · refine ⟨Text.concat (([banner, "# " ++ s.title, banner] ++
      s.blocks.flatMap fun b => "" :: b.lines).map (· ++ "\n")), ?_⟩
    rw [render, lines, List.map_append, Text.concat_append, String.append_assoc,
      String.append_assoc]
    simp only [List.map_cons, List.map_nil, Text.concat, String.empty_append,
      String.append_empty]

theorem bannered_renderAll {sections : List Section} {text : String}
    (h : renderAll sections = some text) : Bannered text := by
  unfold renderAll at h
  split at h
  · cases h
  · next hne =>
      obtain rfl := Option.some.inj h
      refine Bannered.join (by simpa using hne) fun text htext => ?_
      obtain ⟨s, _, rfl⟩ := List.mem_map.mp htext
      exact s.bannered_render

end Section

theorem Family.ofName?_name (family : Family) : Family.ofName? family.name = some family := by
  cases family <;> decide

/-- The texts of all families by name are those of the families. -/
theorem filterMap_familyDocument (t : Tree) :
    (Family.all.map Family.name).filterMap (familyDocument t) =
      Family.all.filterMap (Family.document t) := by
  rw [List.filterMap_map]
  congr 1
  funext family
  rw [Function.comp_apply, familyDocument, Family.ofName?_name, Option.bind_some]

theorem mem_filterMap_of_familyDocument {t : Tree} {name text : String}
    (h : familyDocument t name = some text) :
    text ∈ Family.all.filterMap (Family.document t) := by
  obtain ⟨family, _, hfamily⟩ := Option.bind_eq_some_iff.mp h
  exact List.mem_filterMap.mpr ⟨family, Family.mem_all family, hfamily⟩

theorem filterMap_document_ne_nil (t : Tree) :
    Family.all.filterMap (Family.document t) ≠ [] := by
  obtain ⟨text, htext⟩ : ∃ text, Family.provider.document t = some text := ⟨_, rfl⟩
  exact List.ne_nil_of_mem (List.mem_filterMap.mpr ⟨_, Family.mem_all _, htext⟩)

/-- The document is made of the texts of its families and nothing else. They stand in it
as they are, in order, one line end between two of them, and like each of them the document
starts with a banner and ends with one and its line end. -/
theorem document_joins_families (t : Tree) :
    ∃ text, document t = some text ∧
      text = Text.join "\n" ((Family.all.map Family.name).filterMap (familyDocument t)) ∧
      (∃ rest, text = banner ++ "\n" ++ rest) ∧
      (∃ init, text = init ++ "\n" ++ banner ++ "\n") ∧
      ∀ name part, familyDocument t name = some part →
        ∃ before after, text = before ++ part ++ after := by
  have hne := filterMap_document_ne_nil t
  have hbannered : Bannered (Text.join "\n" (Family.all.filterMap (Family.document t))) := by
    refine Bannered.join hne fun text htext => ?_
    obtain ⟨family, _, hfamily⟩ := List.mem_filterMap.mp htext
    exact Section.bannered_renderAll hfamily
  have hdocument : document t = some (endLine (Text.join "\n"
      (Family.all.filterMap (Family.document t)))) := by
    simp only [document, List.isEmpty_iff, hne, if_false]
  rw [hbannered.endLine_eq] at hdocument
  refine ⟨_, hdocument, ?_, hbannered.starts, hbannered.ends, fun name part hpart => ?_⟩
  · rw [filterMap_familyDocument]
  · exact Text.exists_join_of_mem (mem_filterMap_of_familyDocument hpart)

end Terraform

end Blueprint
