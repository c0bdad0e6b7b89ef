import Mathlib
import Blueprint.Terraform.Block

/-!
# Layout of bodies

The rules by which a body is laid out, and the loop that follows them: round by round it
takes the longest run of attributes at an index, or else the one item there, until the
items are used up. The lines of a body are the only ones that the rules allow.
-/

namespace Blueprint.Terraform

/-! ## The rules -/

/-- Whether a line is that of an entry: the key in its place, filled up to the width, and
the value behind an equals sign. -/
def IsEntryLine (depth width : Nat) (entry : String × Expression) (line : String) : Prop :=
  ∃ start gap, line = start ++ " = " ++ entry.2.render ∧
    start = indentation depth ++ entry.1 ++ Text.spaces gap ∧
    entry.1.utf8ByteSize + gap = width ∧ start.utf8ByteSize = 2 * depth + width

/-- Whether entries stand in lines of their own with their equals signs behind the longest
key. -/
def Aligned (depth : Nat) (entries : List (String × Expression)) (lines : List String) : Prop :=
  ∃ width, (∀ entry ∈ entries, entry.1.utf8ByteSize ≤ width) ∧
    (entries ≠ [] → ∃ entry ∈ entries, entry.1.utf8ByteSize = width) ∧
    List.Forall₂ (IsEntryLine depth width) entries lines

/-- The items for entries that are attributes. -/
def attributes (run : List (String × Expression)) : List Item :=
  run.map fun entry => .attr entry.1 entry.2

def beginsRun : List Item → Bool
  | .attr _ _ :: _ => true
  | _ => false

/-- How the items of a body are laid out, from its first item on or from a later one. -/
inductive LaidOut : Nat → Bool → List Item → List String → Prop
  | done (depth : Nat) (first : Bool) : LaidOut depth first [] []
  | run {depth : Nat} (first : Bool) {entries : List (String × Expression)} {rest : List Item}
      {lines following : List String} (hne : entries ≠ []) (hlongest : beginsRun rest = false)
      (haligned : Aligned depth entries lines) (hrest : LaidOut depth false rest following) :
      LaidOut depth first (attributes entries ++ rest) (lines ++ following)
  | map {depth : Nat} (first : Bool) (key : String) {entries : List (String × Expression)}
      {rest : List Item} {lines following : List String}
      (haligned : Aligned (depth + 1) entries lines)
      (hrest : LaidOut depth false rest following) :
      LaidOut depth first (.map key entries :: rest)
        (blankLine first ++ (indentation depth ++ key ++ " = \x7b") :: lines ++
          closingLine depth :: blankLine rest.isEmpty ++ following)
  | block {depth : Nat} (first : Bool) (keyword : String) (labels : List String)
      {body rest : List Item} {lines following : List String}
      (hbody : LaidOut (depth + 1) true body lines)
      (hrest : LaidOut depth false rest following) :
      LaidOut depth first (.block keyword labels body :: rest)
        (openingLine depth keyword labels :: lines ++ closingLine depth :: following)

variable {depth width index : Nat} {first : Bool} {entries run : List (String × Expression)}
  {entry : String × Expression} {lines : List String} {items rest : List Item}

/-! ## Aligned entries -/

theorem utf8ByteSize_spaces (count : Nat) : (Text.spaces count).utf8ByteSize = count := by
  induction count with
  | zero => rfl
  | succ count ih =>
      have hcons : Text.spaces (count + 1) = " " ++ Text.spaces count := by
        rw [← String.toList_inj]
        simp [Text.spaces, List.replicate_succ]
      rw [hcons, String.utf8ByteSize_append, ih, Nat.add_comm]
      rfl

theorem utf8ByteSize_indentation (depth : Nat) :
    (indentation depth).utf8ByteSize = 2 * depth := utf8ByteSize_spaces _

theorem isEntryLine_attributeLine (depth : Nat) (h : entry.1.utf8ByteSize ≤ width) :
    IsEntryLine depth width entry (attributeLine depth width entry.1 entry.2) := by
  refine ⟨_, width - entry.1.utf8ByteSize, rfl, rfl, by omega, ?_⟩
  rw [String.utf8ByteSize_append, String.utf8ByteSize_append, utf8ByteSize_indentation,
    utf8ByteSize_spaces]
  omega

theorem IsEntryLine.eq_attributeLine {line : String} (h : IsEntryLine depth width entry line) :
    line = attributeLine depth width entry.1 entry.2 := by
  obtain ⟨start, gap, rfl, rfl, hgap, _⟩ := h
  obtain rfl : gap = width - entry.1.utf8ByteSize := by omega
  rfl

theorem entryWidth_cons (entry : String × Expression) (entries : List (String × Expression)) :
    entryWidth (entry :: entries) = max entry.1.utf8ByteSize (entryWidth entries) := rfl

theorem le_entryWidth (h : entry ∈ entries) : entry.1.utf8ByteSize ≤ entryWidth entries := by
  induction entries with
  | nil => cases h
  | cons head entries ih =>
      rw [entryWidth_cons]
      rcases List.mem_cons.mp h with rfl | h
      · exact le_max_left _ _
      · exact (ih h).trans (le_max_right _ _)

theorem exists_eq_entryWidth (h : entries ≠ []) :
    ∃ entry ∈ entries, entry.1.utf8ByteSize = entryWidth entries := by
  induction entries with
  | nil => exact absurd rfl h
  | cons head entries ih =>
      rw [entryWidth_cons]
      rcases le_total (entryWidth entries) head.1.utf8ByteSize with hle | hle
      · exact ⟨head, List.mem_cons_self, (max_eq_left hle).symm⟩
      · cases entries with
        | nil => exact ⟨head, List.mem_cons_self, (max_eq_left (Nat.zero_le _)).symm⟩
        | cons second entries =>
            obtain ⟨entry, hentry, hsize⟩ := ih (List.cons_ne_nil _ _)
            exact ⟨entry, List.mem_cons_of_mem _ hentry, hsize.trans (max_eq_right hle).symm⟩

theorem aligned_entryLines (depth : Nat) (entries : List (String × Expression)) :
    Aligned depth entries (entryLines depth entries) := by
  refine ⟨entryWidth entries, fun _ => le_entryWidth, exists_eq_entryWidth, ?_⟩
  rw [entryLines, List.forall₂_map_right_iff, List.forall₂_same]
  exact fun entry hentry => isEntryLine_attributeLine depth (le_entryWidth hentry)

theorem Aligned.eq_entryLines (h : Aligned depth entries lines) :
    lines = entryLines depth entries := by
  obtain ⟨width, hle, hexists, hlines⟩ := h
  have hwidth : entries ≠ [] → width = entryWidth entries := by
    intro hne
    obtain ⟨entry, hentry, rfl⟩ := hexists hne
    obtain ⟨longest, hlongest, hsize⟩ := exists_eq_entryWidth hne
    exact le_antisymm (le_entryWidth hentry) (hsize ▸ hle longest hlongest)
  by_cases hne : entries = []
  · subst hne
    exact List.forall₂_nil_left_iff.mp hlines
  · rw [hwidth hne] at hlines
    have hsame : List.Forall₂ (· = ·) (entryLines depth entries) lines := by
      rw [entryLines, List.forall₂_map_left_iff]
      exact hlines.imp fun _ _ h => h.eq_attributeLine.symm
    rw [List.forall₂_eq_eq_eq] at hsame
    exact hsame.symm

/-! ## The lines of a body -/

theorem runWidth_of_not_beginsRun (h : beginsRun rest = false) : Item.runWidth rest = 0 := by
  cases rest with
  | nil => rfl
  | cons item rest =>
      cases item with
      | attr => cases h
      | map | block => rfl

theorem lines_some_of_not_beginsRun (depth width : Nat) (h : beginsRun rest = false) :
    Item.lines depth (some width) false rest = Item.lines depth none false rest := by
  cases rest with
  | nil => rw [Item.lines, Item.lines]
  | cons item rest =>
      cases item with
      | attr => cases h
      | map | block => rw [Item.lines, Item.lines]

theorem attributes_cons (entry : String × Expression) (run : List (String × Expression)) :
    attributes (entry :: run) = .attr entry.1 entry.2 :: attributes run := rfl

theorem runWidth_attributes (run : List (String × Expression)) (h : beginsRun rest = false) :
    Item.runWidth (attributes run ++ rest) = entryWidth run := by
  induction run with
  | nil => exact runWidth_of_not_beginsRun h
  | cons entry run ih =>
      rw [attributes_cons, List.cons_append, Item.runWidth, ih, entryWidth_cons]

theorem lines_some_attributes (depth width : Nat) (run : List (String × Expression))
    (h : beginsRun rest = false) :
    Item.lines depth (some width) false (attributes run ++ rest) =
      run.map (fun entry => attributeLine depth width entry.1 entry.2) ++
        Item.lines depth none false rest := by
  induction run with
  | nil => exact lines_some_of_not_beginsRun depth width h
  | cons entry run ih =>
      rw [attributes_cons, List.cons_append, Item.lines, Option.getD_some, ih, List.map_cons,
        List.cons_append]

theorem lines_attributes (depth : Nat) (first : Bool) (hne : run ≠ [])
    (h : beginsRun rest = false) :
    Item.lines depth none first (attributes run ++ rest) =
      entryLines depth run ++ Item.lines depth none false rest := by
  obtain ⟨entry, run, rfl⟩ := List.exists_cons_of_ne_nil hne
  have hwidth := runWidth_attributes (entry :: run) h
  rw [attributes_cons, List.cons_append] at hwidth ⊢
  rw [Item.lines, Option.getD_none, hwidth, lines_some_attributes depth _ run h]
  rfl

theorem LaidOut.eq_lines (h : LaidOut depth first items lines) :
    lines = Item.lines depth none first items := by
  induction h with
  | done => rw [Item.lines]
  | run first hne hlongest haligned _ ih =>
      rw [lines_attributes _ first hne hlongest, haligned.eq_entryLines, ← ih]
  | map first key haligned _ ih => rw [Item.lines, haligned.eq_entryLines, ← ih]
  | block first keyword labels _ _ ihbody ihrest => rw [Item.lines, ← ihbody, ← ihrest]

/-! ## The loop -/

/-- The attributes that items begin with. -/
def leadingRun : List Item → List (String × Expression)
  | .attr key value :: rest => (key, value) :: leadingRun rest
  | _ => []

theorem exists_run (items : List Item) :
    ∃ run rest, items = attributes run ++ rest ∧ beginsRun rest = false := by
  induction items with
  | nil => exact ⟨[], [], rfl, rfl⟩
  | cons item items ih =>
      cases item with
      | attr key value =>
          obtain ⟨run, rest, rfl, hrest⟩ := ih
          exact ⟨(key, value) :: run, rest, rfl, hrest⟩
      | map key entries => exact ⟨[], _, rfl, rfl⟩
      | block keyword labels body => exact ⟨[], _, rfl, rfl⟩

theorem leadingRun_attributes (run : List (String × Expression)) (h : beginsRun rest = false) :
    leadingRun (attributes run ++ rest) = run := by
  induction run with
  | nil =>
      change leadingRun rest = []
      cases rest with
      | nil => rfl
      | cons item rest =>
          cases item with
          | attr => cases h
          | map | block => rfl
  | cons entry run ih => rw [attributes_cons, List.cons_append, leadingRun, ih]

theorem length_attributes (run : List (String × Expression)) :
    (attributes run).length = run.length := List.length_map _

/-- Where the round behind the one at an index begins. -/
def nextIndex (items : List Item) (index : Nat) : Nat :=
  index + max 1 (leadingRun (items.drop index)).length

theorem lt_nextIndex (items : List Item) (index : Nat) : index < nextIndex items index := by
  unfold nextIndex
  omega

/-- A round passes over the run that it writes, or over one item. -/
theorem nextIndex_eq (h : items.drop index = attributes run ++ rest)
    (hrest : beginsRun rest = false) : nextIndex items index = index + max 1 run.length := by
  rw [nextIndex, h, leadingRun_attributes run hrest]

theorem nextIndex_of_not_beginsRun (h : beginsRun (items.drop index) = false) :
    nextIndex items index = index + 1 := by
  have hnone : items.drop index = attributes [] ++ items.drop index := rfl
  rw [nextIndex_eq hnone h]
  rfl

theorem nextIndex_le (h : index < items.length) : nextIndex items index ≤ items.length := by
  obtain ⟨run, rest, hitems, hrest⟩ := exists_run (items.drop index)
  have hlength := congrArg List.length hitems
  rw [List.length_drop, List.length_append, length_attributes] at hlength
  rw [nextIndex_eq hitems hrest]
  omega

theorem drop_nextIndex (hne : run ≠ []) (h : items.drop index = attributes run ++ rest)
    (hrest : beginsRun rest = false) : items.drop (nextIndex items index) = rest := by
  have hpos := List.length_pos_iff.mpr hne
  rw [nextIndex_eq h hrest, Nat.max_eq_right hpos, ← List.drop_drop, h, ← length_attributes,
    List.drop_left]

/-- The lines of a body from an index on, written round by round. -/
def linesFrom (depth : Nat) (items : List Item) (index : Nat) : List String :=
  if _h : index < items.length then
    (match _hitem : items[index] with
      | .attr _ _ => entryLines depth (leadingRun (items.drop index))
      | .map key entries =>
          blankLine (index == 0) ++
            (indentation depth ++ key ++ " = \x7b") :: entryLines (depth + 1) entries ++
            closingLine depth :: blankLine (index + 1 == items.length)
      | .block keyword labels body =>
          openingLine depth keyword labels :: linesFrom (depth + 1) body 0 ++
            [closingLine depth]) ++
      linesFrom depth items (nextIndex items index)
  else []
termination_by (sizeOf items, items.length - index)
decreasing_by
  · have hmem : Item.block keyword labels body ∈ items := _hitem ▸ List.getElem_mem _h
    have hlt := List.sizeOf_lt_of_mem hmem
    simp only [Item.block.sizeOf_spec] at hlt
    exact Prod.Lex.left _ _ (by omega)
  · have hnext := lt_nextIndex items index
    exact Prod.Lex.right _ (by omega)

/-- The loop keeps to the rules from any index on: a round writes what one rule allows, and
the rounds behind it lay out the items behind it. -/
theorem laidOut_linesFrom (depth : Nat) (items : List Item) (index : Nat) :
    LaidOut depth (index == 0) (items.drop index) (linesFrom depth items index) := by
  induction depth, items, index using linesFrom.induct with
  | case1 depth items index h ihbody ihrest =>
      have hdrop := List.drop_eq_getElem_cons h
      have hlater : (nextIndex items index == 0) = false := by
        have hlt := lt_nextIndex items index
        simpa using Nat.ne_of_gt (by omega)
      rw [hlater] at ihrest
      rw [linesFrom, dif_pos h]
      split
      · next key value hitem =>
          obtain ⟨run, rest, hitems, hrest⟩ := exists_run (items.drop index)
          have hne : run ≠ [] := by
            rintro rfl
            have hbegins : beginsRun (items.drop index) = true := by
              rw [hdrop, hitem]
              rfl
            rw [hitems] at hbegins
            exact Bool.false_ne_true (hrest.symm.trans hbegins)
          rw [drop_nextIndex hne hitems hrest] at ihrest
          rw [hitems, leadingRun_attributes run hrest]
          exact .run _ hne hrest (aligned_entryLines depth run) ihrest
      · next key entries hitem =>
          have hnext : nextIndex items index = index + 1 :=
            nextIndex_of_not_beginsRun (by rw [hdrop, hitem]; rfl)
          have hlast : (index + 1 == items.length) = (items.drop (index + 1)).isEmpty := by
            rw [Bool.eq_iff_iff]
            simp
            omega
          rw [hnext] at ihrest ⊢
          rw [hdrop, hitem, hlast]
          exact .map _ key (aligned_entryLines (depth + 1) entries) ihrest
      · next keyword labels body hitem =>
          have hnext : nextIndex items index = index + 1 :=
            nextIndex_of_not_beginsRun (by rw [hdrop, hitem]; rfl)
          rw [hnext] at ihrest ⊢
          rw [hdrop, hitem, List.append_assoc, List.singleton_append]
          exact .block _ keyword labels (ihbody keyword labels body hitem) ihrest
  | case2 depth items index h =>
      rw [linesFrom, dif_neg h, List.drop_eq_nil_of_le (by omega)]
      exact .done depth _

/-! ## The layout of blocks -/

/-- Bodies are laid out by the rules at any depth, and in no other way. Every round of the
loop goes on and none goes past the items, and what it writes from the first item on are the
lines that stand between the opening and the closing line of a block. -/
theorem bodies_laid_out (depth : Nat) (items : List Item) :
    (∀ index < items.length,
        index < nextIndex items index ∧ nextIndex items index ≤ items.length) ∧
      linesFrom depth items 0 = Item.lines depth none true items ∧
      (∀ lines, LaidOut depth true items lines ↔ lines = linesFrom depth items 0) ∧
      ∀ keyword labels, (Block.mk keyword labels items).render = Text.join "\n"
        (openingLine 0 keyword labels :: linesFrom 1 items 0 ++ [closingLine 0]) := by
  have hlaid : ∀ depth, LaidOut depth true items (linesFrom depth items 0) :=
    fun depth => laidOut_linesFrom depth items 0
  refine ⟨fun index h => ⟨lt_nextIndex items index, nextIndex_le h⟩, (hlaid depth).eq_lines,
    fun lines => ⟨fun h => ?_, fun h => h ▸ hlaid depth⟩, fun keyword labels => ?_⟩
  · rw [h.eq_lines, (hlaid depth).eq_lines]
  · rw [(hlaid 1).eq_lines]
    rfl

example : Item.lines 1 none true
    [.attr "name" (.text "a"), .attr "resource_group" (.verbatim "rg.id"),
      .map "parameters" [("k", .ofInt 1)], .attr "tags" (.texts ["x", "y"]),
      .block "timeouts" [] [.attr "create" (.text "1h")]] =
    ["  name           = \x22a\x22", "  resource_group = rg.id", "",
      "  parameters = \x7b", "    k = 1", "  \x7d", "",
      "  tags = [\x22x\x22, \x22y\x22]", "  timeouts \x7b", "    create = \x221h\x22",
      "  \x7d"] := by cbv

end Blueprint.Terraform
