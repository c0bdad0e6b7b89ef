import Blueprint.Proofs.Saving

/-!
# What names denote

A name at a reference denotes the records of the target kind that its scope reaches and
that have the name. Records are told apart by their place in the order of their kind,
which a renaming does not change: after it every name denotes what it denoted before,
the names of the renamed record under their new spelling.
-/

namespace Blueprint

/-- Whether a name at a reference in a row denotes the record of the target kind that
stands at a place. -/
def Row.Denotes (rows : Rows) (kind : Kind) (row : Row) (reference : Reference) (name : String)
    (index : Nat) : Prop :=
  ∃ target, (rows reference.target)[index]? = some target ∧
    (row.reach rows kind reference).admits target.parent = true ∧ target.name = some name

/-- Whether a name at a reference in a record denotes the record of the target kind that
stands at a place. -/
def Tree.Denotes (t : Tree) (kind : Kind) (parent : Option String) (holder : Record)
    (reference : Reference) (name : String) (index : Nat) : Prop :=
  ∃ q target, (t.entries reference.target)[index]? = some (q, target) ∧
    (reference.scope.reach t kind parent holder).admits q = true ∧ target.name? = some name

theorem Tree.denotes_iff (t : Tree) {kind : Kind} {reference : Reference}
    (hmem : reference ∈ kind.schema.references) (parent : Option String) (holder : Record)
    (name : String) (index : Nat) :
    t.Denotes kind parent holder reference name index ↔
      (Row.of kind parent holder).Denotes t.rows kind reference name index := by
  simp only [Denotes, Row.Denotes, rows, List.getElem?_map, reach_eq t hmem]
  constructor
  · rintro ⟨q, target, hindex, hadmits, hname⟩
    exact ⟨_, by rw [hindex]; rfl, hadmits, hname⟩
  · rintro ⟨row, hindex, hadmits, hname⟩
    obtain ⟨⟨q, target⟩, hentry, rfl⟩ := Option.map_eq_some_iff.mp hindex
    exact ⟨q, target, hentry, hadmits, hname⟩

namespace Renaming

variable {ν : Renaming} {rows : Rows}

/-- Whether a reference in a row can tell which parent the records have that it reaches,
as far as the renamed record is concerned. -/
def Pins (ν : Renaming) (rows : Rows) (kind : Kind) (row : Row) (reference : Reference) : Prop :=
  reference.target = ν.kind → ν.kind.parent.isSome →
    row.reach rows kind reference ≠ .everywhere

theorem Fits.parent_eq (h : ν.Fits rows) {kind : Kind} {row : Row} {reference : Reference}
    (hpins : ν.Pins rows kind row reference) (htarget : reference.target = ν.kind) {target : Row}
    (hmem : target ∈ rows ν.kind)
    (hadmits : (row.reach rows kind reference).admits target.parent = true)
    (hmeets : (row.reach rows kind reference).meets ν.parent = true) :
    target.parent = ν.parent := by
  cases hparent : ν.kind.parent with
  | none => rw [h.top hparent target hmem, h.addresses.eq_none hparent]
  | some parentKind =>
      have hnot := hpins htarget (by simp [hparent])
      obtain ⟨name, hname⟩ := h.addresses.eq_some hparent
      cases hreach : row.reach rows kind reference with
      | everywhere => exact absurd hreach hnot
      | under p =>
          rw [hreach] at hadmits hmeets
          have htargetParent : target.parent = some p := by simpa [Reach.admits] using hadmits
          have hrenamed : ν.parent = some p := by simpa [Reach.meets, hname] using hmeets
          rw [htargetParent, hrenamed]
      | nowhere =>
          rw [hreach] at hadmits
          cases hadmits

theorem Fits.scopeName_ne (h : ν.Fits rows) (hconsistent : rows.Consistent) {kind target : Kind}
    (htarget : target.parent = some ν.kind) {field : String}
    (hmem : Reference.scopeSource field target ∈ kind.schema.references) {row : Row}
    (hrow : row ∈ rows kind) : row.scopeName field target ≠ some ν.new := by
  intro hname
  have hsource : (Reference.scopeSource field target).target = ν.kind := by
    simp [Reference.scopeSource, Reference.one, htarget]
  obtain ⟨htop, hnone⟩ := h.parent_eq_none htarget
  rcases hconsistent kind row hrow _ hmem ν.new (List.mem_of_head? hname) with
    hkeep | ⟨other, hother, _, hotherName⟩
  · cases hkeep
  · rw [hsource] at hother
    exact h.fresh other hother ((h.top htop other hother).trans hnone.symm) hotherName

theorem Fits.reach_ne (h : ν.Fits rows) (hconsistent : rows.Consistent) {kind : Kind}
    {reference : Reference} (hmem : reference ∈ kind.schema.references)
    (htarget : reference.target.parent = some ν.kind) {row : Row} (hrow : row ∈ rows kind) :
    row.reach rows kind reference ≠ .under ν.new := by
  cases hscope : reference.scope with
  | anywhere => simp [Row.reach, hscope]
  | sibling =>
      have hparent := h.unheld kind ((Kind.tied_of_sibling hmem hscope).2.trans htarget) row hrow
      simp only [Row.reach, hscope]
      cases hrowParent : row.parent with
      | none => simp [Reach.ofParent]
      | some name =>
          rw [hrowParent] at hparent
          simpa [Reach.ofParent] using hparent
  | underField field =>
      have hsource := (Kind.tied_of_underField hmem hscope).2
      simp only [Row.reach, hscope, ne_eq, Reach.ofName_eq_under]
      exact h.scopeName_ne hconsistent htarget hsource hrow
  | underParentField field =>
      obtain ⟨parentKind, hparent, _, hsource⟩ := Kind.tied_of_underParentField hmem hscope
      rw [Row.reach_underParentField hscope, ne_eq, Reach.ofName_eq_under,
        Option.bind_eq_some_iff]
      rintro ⟨found, hfound, hname⟩
      obtain ⟨hkind, hholder, _⟩ := Row.mem_of_holder? hfound
      obtain rfl := Option.some.inj (hkind.symm.trans hparent)
      exact h.scopeName_ne hconsistent htarget hsource hholder hname

/-- What is admitted under the new name of its parent was admitted before. -/
theorem admits_of_parentOf {reach : Reach} {target : Kind} {parent : Option String}
    (hreach : target.parent = some ν.kind → reach ≠ .under ν.new)
    (hparent : target.parent = some ν.kind → parent ≠ some ν.new)
    (h : (ν.reach target reach).admits (ν.parentOf target parent) = true) :
    reach.admits parent = true := by
  cases reach with
  | everywhere => rfl
  | nowhere => cases h
  | under name =>
      by_cases hheld : target.parent = some ν.kind
      · have hname : name ≠ ν.new := fun heq => hreach hheld (congrArg Reach.under heq)
        have hother := hparent hheld
        simp only [Renaming.reach, parentOf, Reach.admits, hheld, true_and, decide_eq_true_eq]
          at h ⊢
        by_cases hold : name = ν.old <;> by_cases hparentOld : parent = some ν.old
        · rw [hparentOld, hold]
        · rw [if_neg hparentOld, if_pos hold] at h
          exact absurd h hother
        · rw [if_pos hparentOld, if_neg hold] at h
          exact absurd (Option.some.inj h).symm hname
        · rwa [if_neg hparentOld, if_neg hold] at h
      · simpa [Renaming.reach, parentOf, hheld] using h

theorem keep_eq_none {kind : Kind} {reference : Reference}
    (hmem : reference ∈ kind.schema.references) {row : Row}
    (hpins : ν.Pins rows kind row reference) (htarget : reference.target = ν.kind) :
    reference.keep = none := by
  have htied := Kind.scopeIsTied_of_mem hmem
  unfold Kind.scopeIsTied at htied
  cases hscope : reference.scope with
  | anywhere =>
      rw [hscope] at htied
      rcases Bool.or_eq_true_iff.mp htied with hkeep | hheld
      · simpa using hkeep
      · rw [htarget] at hheld
        exact absurd (by simp [Row.reach, hscope]) (hpins htarget hheld)
  | sibling | underField _ => simp_all
  | underParentField _ => cases hparent : kind.parent <;> simp_all

theorem Fits.nameOf_eq_iff (h : ν.Fits rows) (hconsistent : rows.Consistent) {kind : Kind}
    {reference : Reference} (hmem : reference ∈ kind.schema.references) {row : Row}
    (hrow : row ∈ rows kind) (hpins : ν.Pins rows kind row reference) {name : String}
    (hname : name ∈ row.mentions reference) {target : Row}
    (htarget : target ∈ rows reference.target)
    (hadmits : (row.reach rows kind reference).admits target.parent = true) :
    ν.nameOf reference.target target.parent target.name =
        some (ν.mentionOf rows kind row reference name) ↔ target.name = some name := by
  by_cases hmeans : ν.Means rows kind row reference name
  · obtain ⟨hkind, hmeets, rfl⟩ := id hmeans
    rw [hkind] at htarget
    have hparent := h.parent_eq hpins hkind htarget hadmits hmeets
    have hfresh := h.fresh target htarget hparent
    simp only [nameOf, mentionOf, hkind, hparent, hmeans, true_and, if_true]
    by_cases hold : target.name = some ν.old
    · simp [hold]
    · rw [if_neg hold]
      exact iff_of_false hfresh hold
  · rw [mentionOf, if_neg hmeans]
    by_cases his : reference.target = ν.kind ∧ target.parent = ν.parent ∧
        target.name = some ν.old
    · obtain ⟨hkind, hparent, hold⟩ := id his
      have hmeets : (row.reach rows kind reference).meets ν.parent = true :=
        hparent ▸ Reach.meets_of_admits hadmits
      rw [nameOf, if_pos his, hold]
      refine iff_of_false (fun hnew => ?_) fun heq => ?_
      · -- No sibling has the new name, so nothing could mention it.
        obtain rfl := Option.some.inj hnew
        rcases hconsistent kind row hrow reference hmem ν.new hname with
          hkeep | ⟨other, hother, hotherAdmits, hotherName⟩
        · rw [keep_eq_none hmem hpins hkind] at hkeep
          cases hkeep
        · rw [hkind] at hother
          exact h.fresh other hother (h.parent_eq hpins hkind hother hotherAdmits hmeets)
            hotherName
      · exact hmeans ⟨hkind, hmeets, (Option.some.inj heq).symm⟩
    · rw [nameOf, if_neg his]

/-- After a renaming every name denotes what it denoted before. -/
theorem Fits.denotes_finalRow (h : ν.Fits rows) (hconsistent : rows.Consistent) {kind : Kind}
    {reference : Reference} (hmem : reference ∈ kind.schema.references) {row : Row}
    (hrow : row ∈ rows kind) (hpins : ν.Pins rows kind row reference) {name : String}
    (hname : name ∈ row.mentions reference) (index : Nat) :
    (ν.finalRow rows kind row).Denotes (ν.finalRows rows) kind reference
        (ν.mentionOf rows kind row reference name) index ↔
      row.Denotes rows kind reference name index := by
  have hreach := h.reach_finalRow hmem hrow
  unfold Row.Denotes
  rw [finalRows_eq, hreach]
  simp only [List.getElem?_map]
  constructor
  · rintro ⟨final, hfinal, hadmits, hfinalName⟩
    obtain ⟨target, hindex, rfl⟩ := Option.map_eq_some_iff.mp hfinal
    have htarget := List.mem_of_getElem? hindex
    have hadmitted : (row.reach rows kind reference).admits target.parent = true :=
      admits_of_parentOf (fun hheld => h.reach_ne hconsistent hmem hheld hrow)
        (fun hheld => h.unheld reference.target hheld target htarget) hadmits
    refine ⟨target, hindex, hadmitted, ?_⟩
    exact (h.nameOf_eq_iff hconsistent hmem hrow hpins hname htarget hadmitted).mp hfinalName
  · rintro ⟨target, hindex, hadmits, htargetName⟩
    have htarget := List.mem_of_getElem? hindex
    refine ⟨ν.finalRow rows reference.target target, by rw [hindex]; rfl,
      admits_parentOf hadmits, ?_⟩
    exact (h.nameOf_eq_iff hconsistent hmem hrow hpins hname htarget hadmits).mpr htargetName

theorem Fits.means_iff (h : ν.Fits rows) {kind : Kind} {reference : Reference}
    (hmem : reference ∈ kind.schema.references) {row renamed : Row} {index : Nat}
    (hindex : (rows ν.kind)[index]? = some renamed) (hrenamed : ν.IsRenamed ν.kind renamed)
    (name : String) :
    ν.Means rows kind row reference name ↔
      reference.target = ν.kind ∧ row.Denotes rows kind reference name index := by
  obtain ⟨_, hparent, hold⟩ := hrenamed
  refine and_congr_right fun htarget => ?_
  constructor
  · rintro ⟨hmeets, rfl⟩
    refine ⟨renamed, htarget ▸ hindex, ?_, hold⟩
    rw [hparent]
    exact Row.admits_of_meets hmem (htarget ▸ h.addresses) hmeets
  · rintro ⟨target, htargetIndex, hadmits, hname⟩
    rw [htarget, hindex] at htargetIndex
    obtain rfl := Option.some.inj htargetIndex
    refine ⟨hparent ▸ Reach.meets_of_admits hadmits, ?_⟩
    rw [hold] at hname
    exact (Option.some.inj hname).symm

end Renaming

end Blueprint
