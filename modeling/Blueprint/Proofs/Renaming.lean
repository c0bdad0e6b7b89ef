import Blueprint.Proofs.Cascades
import Blueprint.Proofs.Labels

/-!
# Renaming

A renaming gives a record a new name, tells it to the records that it holds, and
follows the references to the record. Renaming a parent changes the very names that
scopes read, together with the names of the parents they lead to: every reference
reaches after it what it reached before.
-/

namespace Blueprint

/-- A new name for the record of a kind that has a name under a parent. -/
structure Renaming where
  kind : Kind
  parent : Option String
  old : String
  new : String

namespace Renaming

variable (ν : Renaming)

/-- The name of a parent of records of a kind. -/
def parentOf (kind : Kind) (parent : Option String) : Option String :=
  if kind.parent = some ν.kind ∧ parent = some ν.old then some ν.new else parent

/-- The name of a record of a kind under a parent. -/
def nameOf (kind : Kind) (parent name : Option String) : Option String :=
  if kind = ν.kind ∧ parent = ν.parent ∧ name = some ν.old then some ν.new else name

/-- A row with its own name and that of its parent renamed. -/
def row (kind : Kind) (row : Row) : Row :=
  { parent := ν.parentOf kind row.parent
    name := ν.nameOf kind row.parent row.name
    mentions := row.mentions }

def rows (rows : Rows) : Rows := fun kind => (rows kind).map (ν.row kind)

/-- The verdicts on the names that the references in renamed rows still hold. -/
def judge (rows : Rows) : Judge :=
  .following (ν.rows rows) ν.kind ν.parent (.rename ν.old ν.new)

/-- A row after the renaming. -/
def finalRow (rows : Rows) (kind : Kind) (row : Row) : Row :=
  (ν.row kind row).revise (ν.judge rows kind (ν.row kind row))

@[simp] theorem parent_finalRow (rows : Rows) (kind : Kind) (row : Row) :
    (ν.finalRow rows kind row).parent = ν.parentOf kind row.parent := rfl

@[simp] theorem name_finalRow (rows : Rows) (kind : Kind) (row : Row) :
    (ν.finalRow rows kind row).name = ν.nameOf kind row.parent row.name := rfl

/-- The rows after the renaming. -/
def finalRows (rows : Rows) : Rows := (ν.rows rows).revise (ν.judge rows)

theorem finalRows_eq (rows : Rows) (kind : Kind) :
    ν.finalRows rows kind = (rows kind).map (ν.finalRow rows kind) := by
  simp only [finalRows, Rows.revise, Renaming.rows, List.map_map]
  rfl

/-- Where the records under a kind's parents are found afterwards. -/
def reach (target : Kind) : Reach → Reach
  | .everywhere => .everywhere
  | .under name => .under (if target.parent = some ν.kind ∧ name = ν.old then ν.new else name)
  | .nowhere => .nowhere

/-- The renaming fits rows: there is a record with the old name, and none with the new
one, under the parent. -/
structure Fits (rows : Rows) : Prop where
  addresses : ν.kind.Addresses ν.parent
  nonempty : ν.new.isEmpty = false
  present : ∃ row ∈ rows ν.kind, row.parent = ν.parent ∧ row.name = some ν.old
  fresh : ∀ row ∈ rows ν.kind, row.parent = ν.parent → row.name ≠ some ν.new
  unheld : ∀ kind : Kind, kind.parent = some ν.kind → ∀ row ∈ rows kind, row.parent ≠ some ν.new
  top : ν.kind.parent = none → ∀ row ∈ rows ν.kind, row.parent = none

variable {ν} {rows : Rows}

theorem Fits.parent_eq_none (h : ν.Fits rows) {kind : Kind} (hkind : kind.parent = some ν.kind) :
    ν.kind.parent = none ∧ ν.parent = none := by
  have htop : ν.kind.parent = none := Kind.parent_of_holder hkind
  exact ⟨htop, h.addresses.eq_none htop⟩

theorem Fits.find?_rows (h : ν.Fits rows) {kind parentKind : Kind}
    (hparent : kind.parent = some parentKind) {row : Row} (hrow : row ∈ rows kind) :
    ((ν.rows rows) parentKind).find? (fun holder => holder.name = ν.parentOf kind row.parent) =
      ((rows parentKind).find? fun holder => holder.name = row.parent).map (ν.row parentKind) := by
  rw [Renaming.rows, List.find?_map]
  congr 1
  apply List.find?_congr
  intro holder hholder
  refine decide_eq_decide.mpr ?_
  simp only [Renaming.row, nameOf, parentOf, hparent, Option.some.injEq]
  by_cases hkind : parentKind = ν.kind
  · subst hkind
    obtain ⟨htop, hnone⟩ := h.parent_eq_none hparent
    have hholderParent := h.top htop holder hholder
    have hfresh := h.fresh holder hholder (hholderParent.trans hnone.symm)
    have hunheld := h.unheld kind hparent row hrow
    simp only [hholderParent, hnone, true_and]
    -- nothing has the new name before, and nothing is held under it
    by_cases hholderOld : holder.name = some ν.old <;> by_cases hrowOld : row.parent = some ν.old
    · simp [hholderOld, hrowOld]
    · simp only [hholderOld, hrowOld, if_true, if_false]
      exact iff_of_false (Ne.symm hunheld) (Ne.symm hrowOld)
    · simp only [hholderOld, hrowOld, if_true, if_false]
      exact iff_of_false hfresh id
    · simp only [hholderOld, hrowOld, if_false]
  · simp only [hkind, false_and, if_false]

/-! ## What references reach -/

private theorem flatMap_left_rename (old : String) {new : String} (h : new.isEmpty = false)
    (names : List String) :
    (names.flatMap fun name => (Verdict.rename old new name).left name) =
      names.map fun name => if name = old then new else name := by
  induction names with
  | nil => rfl
  | cons name rest ih =>
      rw [List.flatMap_cons, ih, List.map_cons]
      by_cases hname : name = old <;> simp [Verdict.rename, Verdict.left, hname, h]

theorem mentions_finalRow (rows : Rows) (kind : Kind) (row : Row) (reference : Reference) :
    (ν.finalRow rows kind row).mentions reference = (row.mentions reference).flatMap
      fun name => (ν.judge rows kind (ν.row kind row) reference name).left name := rfl

/-- The name that a scope reads is renamed if it names the record. -/
theorem Fits.scopeName_finalRow (h : ν.Fits rows) {kind target : Kind} {field : String}
    (htarget : target.parent.isSome) (row : Row) :
    (ν.finalRow rows kind row).scopeName field target = (row.scopeName field target).map
      fun name => if target.parent = some ν.kind ∧ name = ν.old then ν.new else name := by
  obtain ⟨parent, hparent⟩ := Option.isSome_iff_exists.mp htarget
  have hsource := Reference.target_scopeSource hparent field
  by_cases hkind : parent = ν.kind
  · have hjudge : ν.judge rows kind (ν.row kind row) (.scopeSource field target) =
        .rename ν.old ν.new := by
      funext name
      have hscope : (Reference.scopeSource field target).scope = .anywhere := rfl
      simp [judge, Judge.following, hsource, hkind, Row.reach, hscope, Reach.meets]
    rw [Row.scopeName, mentions_finalRow, hjudge, flatMap_left_rename ν.old h.nonempty,
      List.head?_map, Row.scopeName]
    simp only [hparent, hkind, true_and]
  · have hjudge : ν.judge rows kind (ν.row kind row) (.scopeSource field target) =
        fun _ => .keep := by
      apply Judge.following_of_ne
      rw [hsource]
      exact hkind
    have hid : (fun name => if target.parent = some ν.kind ∧ name = ν.old then ν.new else name) =
        id := by
      funext name
      rw [if_neg fun hsame => hkind (Option.some.inj (hparent.symm.trans hsame.1))]
      rfl
    rw [hid, Option.map_id_fun, id, Row.scopeName, mentions_finalRow, hjudge, Row.scopeName]
    simp

theorem Fits.holder?_finalRow (h : ν.Fits rows) {kind : Kind} {row : Row} (hrow : row ∈ rows kind) :
    (ν.finalRow rows kind row).holder? (ν.finalRows rows) kind =
      (row.holder? rows kind).map fun found => (found.1, ν.finalRow rows found.1 found.2) := by
  unfold Row.holder?
  rw [parent_finalRow]
  cases hparent : kind.parent with
  | none => rfl
  | some parentKind =>
      have hfind := h.find?_rows hparent hrow
      cases hname : row.parent with
      | none => simp [parentOf]
      | some name =>
          obtain ⟨other, hother⟩ : ∃ other, ν.parentOf kind (some name) = some other := by
            unfold parentOf
            split
            · exact ⟨_, rfl⟩
            · exact ⟨_, rfl⟩
          rw [hname, hother] at hfind
          simp only [hother, Option.bind_some, finalRows, Rows.find?_revise, hfind,
            Option.map_map]
          rfl

theorem reach_ofName (target : Kind) (name? : Option String) :
    ν.reach target (.ofName name?) = .ofName (name?.map fun name =>
      if target.parent = some ν.kind ∧ name = ν.old then ν.new else name) := by
  cases name? <;> rfl

/-- After the renaming a reference reaches the same records. -/
theorem Fits.reach_finalRow (h : ν.Fits rows) {kind : Kind} {reference : Reference}
    (hmem : reference ∈ kind.schema.references) {row : Row} (hrow : row ∈ rows kind) :
    (ν.finalRow rows kind row).reach (ν.finalRows rows) kind reference =
      ν.reach reference.target (row.reach rows kind reference) := by
  cases hscope : reference.scope with
  | anywhere => simp only [Row.reach, hscope, reach]
  | sibling =>
      have htied := (Kind.tied_of_sibling hmem hscope).2
      simp only [Row.reach, hscope, parent_finalRow, parentOf, htied]
      cases row.parent with
      | none => simp [Reach.ofParent, reach]
      | some name =>
          by_cases hold : reference.target.parent = some ν.kind ∧ name = ν.old
          · simp [hold, Reach.ofParent, reach]
          · simp [hold, Reach.ofParent, reach]
  | underField field =>
      have htarget := (Kind.tied_of_underField hmem hscope).1
      simp only [Row.reach, hscope, h.scopeName_finalRow htarget, reach_ofName]
  | underParentField field =>
      obtain ⟨_, _, htarget, _⟩ := Kind.tied_of_underParentField hmem hscope
      rw [Row.reach_underParentField hscope, Row.reach_underParentField hscope,
        h.holder?_finalRow hrow, reach_ofName, Option.bind_map, Option.map_bind]
      congr 1
      refine Option.bind_congr fun found _ => ?_
      exact h.scopeName_finalRow htarget found.2

/-! ## What references mention -/

/-- The target of a renaming is not held by records of its own kind. -/
theorem reach_of_target {target : Kind} (h : target = ν.kind) (reach : Reach) :
    ν.reach target reach = reach := by
  have hparent : target.parent ≠ some ν.kind := h ▸ Kind.parent_ne_self target
  cases reach <;> simp [Renaming.reach, hparent]

theorem Fits.reach_row (h : ν.Fits rows) {kind : Kind} {reference : Reference}
    (hmem : reference ∈ kind.schema.references) (htarget : reference.target = ν.kind) {row : Row}
    (hrow : row ∈ rows kind) :
    (ν.row kind row).reach (ν.rows rows) kind reference = row.reach rows kind reference := by
  have hscopes : (ν.judge rows).KeepsScopes reference.target :=
    htarget ▸ Judge.keepsScopes_following _ _ _ _
  calc (ν.row kind row).reach (ν.rows rows) kind reference
      _ = (ν.finalRow rows kind row).reach (ν.rows rows) kind reference :=
          (Row.reach_revise hmem (fun field => hscopes kind _ field) _ _).symm
      _ = (ν.finalRow rows kind row).reach (ν.finalRows rows) kind reference :=
          (Row.reach_revise_rows hmem hscopes _ _).symm
      _ = ν.reach reference.target (row.reach rows kind reference) := h.reach_finalRow hmem hrow
      _ = row.reach rows kind reference := reach_of_target htarget _

/-- Whether a name at a reference in a row means the record that is renamed. -/
def Means (ν : Renaming) (rows : Rows) (kind : Kind) (row : Row) (reference : Reference)
    (name : String) : Prop :=
  reference.target = ν.kind ∧ (row.reach rows kind reference).meets ν.parent = true ∧
    name = ν.old

instance (rows : Rows) (kind : Kind) (row : Row) (reference : Reference) (name : String) :
    Decidable (ν.Means rows kind row reference name) :=
  inferInstanceAs (Decidable (_ ∧ _ ∧ _))

/-- What becomes of a name at a reference in a row. -/
def mentionOf (ν : Renaming) (rows : Rows) (kind : Kind) (row : Row) (reference : Reference)
    (name : String) : String :=
  if ν.Means rows kind row reference name then ν.new else name

theorem Fits.judge_eq (h : ν.Fits rows) {kind : Kind} {reference : Reference}
    (hmem : reference ∈ kind.schema.references) {row : Row} (hrow : row ∈ rows kind)
    (name : String) :
    ν.judge rows kind (ν.row kind row) reference name =
      if ν.Means rows kind row reference name then .replace ν.new else .keep := by
  unfold judge Judge.following Means
  by_cases htarget : reference.target = ν.kind
  · rw [h.reach_row hmem htarget hrow]
    by_cases hmeets : (row.reach rows kind reference).meets ν.parent = true
    · simp only [htarget, hmeets, true_and, and_self, if_true, Verdict.rename]
    · simp only [htarget, hmeets, false_and, and_false, if_false, Bool.false_eq_true]
  · simp only [htarget, false_and, if_false]

/-- The names that mean the record are renamed where they stand. -/
theorem Fits.mentions_finalRow (h : ν.Fits rows) {kind : Kind} {reference : Reference}
    (hmem : reference ∈ kind.schema.references) {row : Row} (hrow : row ∈ rows kind) :
    (ν.finalRow rows kind row).mentions reference =
      (row.mentions reference).map (ν.mentionOf rows kind row reference) := by
  rw [Renaming.mentions_finalRow]
  induction row.mentions reference with
  | nil => rfl
  | cons name rest ih =>
      rw [List.flatMap_cons, List.map_cons, ih, h.judge_eq hmem hrow, mentionOf]
      by_cases hmeans : ν.Means rows kind row reference name
      · simp [hmeans, Verdict.left, h.nonempty]
      · simp [hmeans]

/-! ## What names mean -/

theorem admits_parentOf {reach : Reach} {target : Kind} {parent : Option String}
    (h : reach.admits parent = true) :
    (ν.reach target reach).admits (ν.parentOf target parent) = true := by
  cases reach with
  | everywhere => rfl
  | under name =>
      have hparent : parent = some name := by simpa [Reach.admits] using h
      subst hparent
      by_cases hheld : target.parent = some ν.kind ∧ name = ν.old
      · simp [Renaming.reach, parentOf, Reach.admits, hheld]
      · simp [Renaming.reach, parentOf, Reach.admits, hheld]
  | nowhere => cases h

theorem mem_finalRows {kind : Kind} {row : Row} (h : row ∈ rows kind) :
    ν.finalRow rows kind row ∈ ν.finalRows rows kind := by
  rw [finalRows_eq]
  exact List.mem_map_of_mem h

/-- A name that meant something means something afterwards. -/
theorem Fits.resolves_finalRow (h : ν.Fits rows) {kind : Kind} {reference : Reference}
    (hmem : reference ∈ kind.schema.references) {row : Row} (hrow : row ∈ rows kind)
    {name : String} (hname : row.Resolves rows kind reference name) :
    (ν.finalRow rows kind row).Resolves (ν.finalRows rows) kind reference
      (ν.mentionOf rows kind row reference name) := by
  have hreach := h.reach_finalRow hmem hrow
  by_cases hmeans : ν.Means rows kind row reference name
  · -- The renamed record is reached, whichever record the name was found at.
    obtain ⟨htarget, hmeets, rfl⟩ := id hmeans
    obtain ⟨renamed, hrenamed, hparent, hold⟩ := h.present
    rw [← htarget] at hrenamed
    refine .inr ⟨ν.finalRow rows reference.target renamed, mem_finalRows hrenamed, ?_, ?_⟩
    · rw [hreach]
      apply admits_parentOf
      rw [hparent]
      exact Row.admits_of_meets hmem (htarget ▸ h.addresses) hmeets
    · simp [nameOf, mentionOf, hmeans, htarget, hparent, hold]
  · rw [mentionOf, if_neg hmeans]
    rcases hname with hkeep | ⟨target, htarget, hadmits, hname⟩
    · exact .inl hkeep
    · refine .inr ⟨ν.finalRow rows reference.target target, mem_finalRows htarget, ?_, ?_⟩
      · rw [hreach]
        exact admits_parentOf hadmits
      · have hother : ¬(reference.target = ν.kind ∧ target.parent = ν.parent ∧
            target.name = some ν.old) := by
          rintro ⟨hkind, hparent, hold⟩
          rw [hold] at hname
          exact hmeans ⟨hkind, hparent ▸ Reach.meets_of_admits hadmits,
            (Option.some.inj hname).symm⟩
        rw [name_finalRow, nameOf, if_neg hother, hname]

end Renaming

end Blueprint
