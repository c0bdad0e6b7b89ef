import Blueprint.Proofs.Denotation
import Blueprint.Proofs.InPlace

/-!
# Renamed trees

What a tree is after one of its records is saved under a new name and nothing else was
set: the record has the name, and with it whatever carries the name along; the records
that it holds are linked to the name; and the references follow that reached the record
in the tree as it was.
-/

namespace Blueprint

/-! ## The renamed record -/

namespace Kind

/-- A record under a new name. Connections and invitations carry the name of the record
that they are in. -/
def named (kind : Kind) (name : String) (r : Record) : Record :=
  match kind with
  | transitGateway => TransitGateway.addressConnections (r.insert "name" (.text name))
  | accessGroup => AccessGroup.nameInvitations (r.insert "name" (.text name))
  | _ => r.insert "name" (.text name)

theorem saved_name {kind : Kind} (h : kind.location ≠ .single) (t : Tree) (stored : Record)
    (name : String) :
    (kind.schema.saved t stored (stored.extend [("name", .text name)])).2 =
      kind.named name stored := by
  cases kind with
  | options | accountSettings => exact absurd rfl h
  | _ => rfl

theorem named_agrees (kind : Kind) (name : String) (r : Record) :
    kind.Agrees (kind.named name r) (r.insert "name" (.text name)) := by
  by_cases h : kind.location = .single
  · cases kind with
    | options | accountSettings | activityTracker => exact Agrees.refl _ _
    | _ => exact absurd h (by decide)
  · rw [← saved_name h Tree.empty]
    exact (saved_agrees h Tree.empty r _).2

theorem name?_named (kind : Kind) (name : String) (r : Record) :
    (kind.named name r).name? = some name := by
  rw [(named_agrees kind name r).name?_eq, Record.name?_insert_name]

theorem row_named (kind : Kind) (parent : Option String) (name : String) (r : Record) :
    Row.of kind parent (kind.named name r) = { Row.of kind parent r with name := some name } := by
  rw [(named_agrees kind name r).row_eq, Row.of_insert_name]

theorem get?_named_held {kind child : Kind} {field : String}
    (h : child.location = .nested kind field) (name : String) (r : Record) :
    (kind.named name r).get? field = r.get? field := by
  rw [(named_agrees kind name r).held child field h,
    Record.get?_insert_of_ne _ _ (holdingField_ne_name h)]

theorem mapHeld_insert {kind : Kind} {field : String} (h : kind.heldIn? field = none)
    (f : Kind → Record → Record) (value : Value) (r : Record) :
    kind.mapHeld (fun child _ held => f child held) (r.insert field value) =
      (kind.mapHeld (fun child _ held => f child held) r).insert field value := by
  unfold mapHeld
  exact Record.mapValues_insert (fun value => by simp only [h]) value r

private theorem nameInvitations_mapHeld (f : Kind → Record → Record) (r : Record) :
    AccessGroup.nameInvitations (accessGroup.mapHeld (fun child _ held => f child held) r) =
      accessGroup.mapHeld (fun child _ held => f child held) (AccessGroup.nameInvitations r) := by
  have hinvites : accessGroup.heldIn? "invites" = none := by decide
  have hobject : (accessGroup.mapHeld (fun child _ held => f child held) r).object? "invites" =
      r.object? "invites" := by
    rw [Record.object?, get?_mapHeld_of_none hinvites, Record.object?]
  have hlabel : (accessGroup.mapHeld (fun child _ held => f child held) r).label = r.label := by
    rw [Record.label, Record.textOr, Record.text?, get?_mapHeld_of_none (heldIn?_name _)]
    rfl
  unfold AccessGroup.nameInvitations
  rw [hobject, hlabel]
  cases r.object? "invites" with
  | none => exact (mapHeld_insert hinvites f _ r).symm
  | some invites => exact (mapHeld_insert hinvites f _ r).symm

theorem mapHeld_named (kind : Kind) (f : Kind → Record → Record) (name : String) (r : Record) :
    kind.mapHeld (fun child _ held => f child held) (kind.named name r) =
      kind.named name (kind.mapHeld (fun child _ held => f child held) r) := by
  have hname := mapHeld_insert kind.heldIn?_name f (.text name) r
  cases kind with
  | accessGroup =>
      simp only [named]
      rw [← nameInvitations_mapHeld, hname]
  | transitGateway =>
      have hchildless : ∀ child : Kind, child.parent ≠ some transitGateway := by
        intro child
        cases child <;> decide
      rw [mapHeld_of_childless hchildless, mapHeld_of_childless hchildless]
  | _ => exact hname

end Kind

/-! ## New labels -/

namespace Renaming

variable (ν : Renaming)

/-- Whether a record is the one that is renamed. -/
def Renames (kind : Kind) (parent : Option String) (r : Record) : Prop :=
  kind = ν.kind ∧ (kind.location = .single ∨ parent = ν.parent ∧ r.name? = some ν.old)

instance (kind : Kind) (parent : Option String) (r : Record) :
    Decidable (ν.Renames kind parent r) :=
  inferInstanceAs (Decidable (_ ∧ (_ ∨ _ ∧ _)))

/-- Whether records are held by one that gets another name. -/
def Relinks (kind : Kind) (parent : Option String) : Prop :=
  ν.old ≠ ν.new ∧ kind.parent = some ν.kind ∧ parent = some ν.old

instance (kind : Kind) (parent : Option String) : Decidable (ν.Relinks kind parent) :=
  inferInstanceAs (Decidable (_ ∧ _ ∧ _))

/-- A record with its new name, or with the new name of its holder. -/
def relabel (kind : Kind) (parent : Option String) (r : Record) : Record :=
  if ν.Renames kind parent r then kind.named ν.new r
  else if ν.Relinks kind parent then kind.linkTo ν.new r
  else r

/-- The renamed record with what it holds. -/
def relabeled (r : Record) : Record :=
  if ν.old ≠ ν.new then
    ν.kind.mapHeld (fun child _ held => child.linkTo ν.new held) (ν.kind.named ν.new r)
  else ν.kind.named ν.new r

variable {ν}

theorem relabel_of_not {kind : Kind} {parent : Option String} {r : Record}
    (h : ¬ν.Renames kind parent r) (hlinks : ¬ν.Relinks kind parent) :
    ν.relabel kind parent r = r := by
  rw [relabel, if_neg h, if_neg hlinks]

theorem renames_mapHeld (kind : Kind) (parent : Option String)
    (f : Kind → Option String → Record → Record) (r : Record) :
    ν.Renames kind parent (kind.mapHeld f r) ↔ ν.Renames kind parent r := by
  rw [Renames, Renames, Kind.name?_mapHeld]

theorem not_relinks_of_top {kind : Kind} (h : kind.parent = none) (parent : Option String) :
    ¬ν.Relinks kind parent := by
  rintro ⟨_, hparent, _⟩
  rw [h] at hparent
  cases hparent

theorem mapHeld_relabel_of_not {top : Kind} {r : Record}
    (h : ∀ child : Kind, child.parent = some top → child ≠ ν.kind ∧ ¬ν.Relinks child r.name?) :
    top.mapHeld ν.relabel r = r := by
  have hid : top.mapHeld ν.relabel r = top.mapHeld (fun _ _ held => held) r := by
    apply Kind.mapHeld_congr
    intro child field hlocation held _
    obtain ⟨hne, hlinks⟩ := h child (Kind.parent_eq_some_iff.mpr ⟨field, hlocation⟩)
    exact relabel_of_not (fun hrenames => hne hrenames.1) hlinks
  rw [hid, Kind.mapHeld_id]

private theorem ne_of_parent {child top : Kind} (hchild : child.parent = some top)
    (htop : ν.kind.parent = none) : child ≠ ν.kind := by
  rintro rfl
  rw [htop] at hchild
  cases hchild

/-- At the top level the renamed record changes as a whole. -/
private theorem relabel_top (htop : ν.kind.parent = none) (hnone : ν.parent = none) {top : Kind}
    (h : top.parent = none) (r : Record) :
    ν.relabel top none (top.mapHeld ν.relabel r) =
      if ν.Renames top none r then ν.relabeled r else r := by
  by_cases hrenames : ν.Renames top none r
  · have hheld : top.mapHeld ν.relabel r = if ν.old ≠ ν.new then
        top.mapHeld (fun child _ held => child.linkTo ν.new held) r else r := by
      by_cases hsame : ν.old = ν.new
      · rw [if_neg fun hne => hne hsame]
        apply mapHeld_relabel_of_not
        intro child hchild
        exact ⟨ne_of_parent hchild htop, fun hlinks => hlinks.1 hsame⟩
      · rw [if_pos hsame]
        apply Kind.mapHeld_congr
        intro child field hlocation held _
        have hchild : child.parent = some top := Kind.parent_eq_some_iff.mpr ⟨field, hlocation⟩
        have hlinks : ν.Relinks child r.name? := by
          refine ⟨hsame, hrenames.1 ▸ hchild, ?_⟩
          rcases hrenames.2 with hsingle | ⟨_, hname⟩
          · have hcollection := Kind.location_of_parent hchild
            rw [hsingle] at hcollection
            cases hcollection
          · exact hname
        rw [relabel, if_neg fun hself => ne_of_parent hchild htop hself.1, if_pos hlinks]
    rw [if_pos hrenames, relabel, if_pos ((renames_mapHeld top none _ r).mpr hrenames), hheld,
      relabeled, hrenames.1]
    split
    · rw [Kind.mapHeld_named ν.kind fun child held => child.linkTo ν.new held]
    · rfl
  · have hheld : top.mapHeld ν.relabel r = r := by
      apply mapHeld_relabel_of_not
      intro child hchild
      refine ⟨ne_of_parent hchild htop, ?_⟩
      rintro ⟨_, hparent, hname⟩
      rw [hchild] at hparent
      exact hrenames ⟨Option.some.inj hparent, .inr ⟨hnone.symm, hname⟩⟩
    rw [if_neg hrenames, hheld, relabel_of_not hrenames (not_relinks_of_top h none)]

/-- Among held records the renamed one changes where it stands. -/
private theorem relabel_holder {parentKind : Kind} {field : String}
    (hlocation : ν.kind.location = .nested parentKind field) {top : Kind} (h : top.parent = none)
    (r : Record) :
    ν.relabel top none (top.mapHeld ν.relabel r) =
      if top = parentKind then r.modify field (Value.mapItems fun held =>
        if ν.Renames ν.kind r.name? held then ν.relabeled held else held)
      else r := by
  have hparent : ν.kind.parent = some parentKind := Kind.parent_eq_some_iff.mpr ⟨field, hlocation⟩
  have hchildless : ∀ child : Kind, child.parent ≠ some ν.kind :=
    Kind.parent_ne_of_not_collection (by simp [hlocation])
  have hnotLinks : ∀ (child : Kind) (q : Option String), ¬ν.Relinks child q :=
    fun child q hlinks => hchildless child hlinks.2.1
  have hnotSelf : top ≠ ν.kind := by
    rintro rfl
    rw [h] at hparent
    cases hparent
  have hrelabeled : ∀ held : Record, ν.relabeled held = ν.kind.named ν.new held := by
    intro held
    rw [relabeled, Kind.mapHeld_of_childless hchildless, ite_self]
  rw [relabel_of_not (fun hself => hnotSelf hself.1) (hnotLinks top none)]
  by_cases htop : top = parentKind
  · subst htop
    simp only [if_true, Kind.mapHeld, Record.modify_eq_mapValues]
    congr 1
    funext key value
    by_cases hkey : key = field
    · subst hkey
      simp only [Kind.heldIn?_of_location hlocation, if_true]
      congr 1
      funext held
      rw [relabel, if_neg (hnotLinks _ _), hrelabeled]
    · -- whatever else is held there is of another kind
      rw [if_neg hkey]
      cases hchild : top.heldIn? key with
      | none => rfl
      | some child =>
          have hne : child ≠ ν.kind := Kind.ne_of_heldIn? hlocation hkey hchild
          have hid : ν.relabel child r.name? = fun held => held := by
            funext held
            exact relabel_of_not (fun hself => hne hself.1) (hnotLinks _ _)
          simp only [hid, Value.mapItems_id]
  · rw [if_neg htop]
    apply mapHeld_relabel_of_not
    intro child hchild
    refine ⟨?_, hnotLinks _ _⟩
    rintro rfl
    rw [hparent] at hchild
    exact htop (Option.some.inj hchild).symm

theorem mapAll_relabel (haddress : ν.kind.Addresses ν.parent) (t : Tree) :
    t.mapAll ν.relabel = t.mapKind ν.kind fun q r =>
      if ν.Renames ν.kind q r then ν.relabeled r else r := by
  apply Tree.mapTop_congr
  intro top htop r _
  cases hparent : ν.kind.parent with
  | none =>
      rw [relabel_top hparent (haddress.eq_none hparent) htop, Kind.lift_of_top hparent]
      simp only
      by_cases hkind : top = ν.kind
      · rw [if_pos hkind, hkind]
      · rw [if_neg hkind, if_neg fun hrenames => hkind hrenames.1]
  | some parentKind =>
      obtain ⟨field, hlocation⟩ := Kind.parent_eq_some_iff.mp hparent
      rw [relabel_holder hlocation htop, Kind.lift_of_nested hlocation]

/-! ## The rows under new labels -/

theorem row_relabel (hsingle : ν.kind.location ≠ .single) (kind : Kind) (q : Option String)
    (r : Record) :
    Row.of kind (ν.parentOf kind q) (ν.relabel kind q r) = ν.row kind (Row.of kind q r) := by
  unfold relabel
  by_cases hrenames : ν.Renames kind q r
  · have his : kind = ν.kind ∧ q = ν.parent ∧ r.name? = some ν.old := by
      obtain ⟨hkind, hlocation | hold⟩ := hrenames
      · exact absurd (hkind ▸ hlocation) hsingle
      · exact ⟨hkind, hold⟩
    rw [if_pos hrenames, Kind.row_named, Renaming.row, Row.parent_of, Row.name_of, nameOf,
      if_pos his]
    rfl
  · have hname : ν.nameOf kind q r.name? = r.name? :=
      if_neg fun his => hrenames ⟨his.1, .inr his.2⟩
    have hrow : ν.row kind (Row.of kind q r) = Row.of kind (ν.parentOf kind q) r := by
      simp only [Renaming.row, Row.of, hname]
    rw [if_neg hrenames, hrow]
    split
    · exact (kind.linkTo_agrees ν.new r).row_eq _
    · rfl

theorem get?_relabel_held {kind child : Kind} {field : String}
    (h : child.location = .nested kind field) (q : Option String) (r : Record) :
    (ν.relabel kind q r).get? field = r.get? field := by
  have htop : kind.parent = none :=
    Kind.parent_of_holder (Kind.parent_eq_some_iff.mpr ⟨field, h⟩)
  unfold relabel
  rw [if_neg (not_relinks_of_top htop q)]
  split
  · exact Kind.get?_named_held h ν.new r
  · rfl

theorem name?_relabel_holder (haddress : ν.kind.Addresses ν.parent) {kind child : Kind}
    (h : child.parent = some kind) (r : Record) :
    (ν.relabel kind none r).name? = ν.parentOf child r.name? := by
  have hcollection := Kind.location_of_parent h
  have htop : kind.parent = none := Kind.parent_of_collection hcollection
  have hrenames : ν.Renames kind none r ↔ child.parent = some ν.kind ∧ r.name? = some ν.old := by
    rw [Renames, h, Option.some.injEq]
    refine and_congr_right fun hkind => ?_
    have hnone : ν.parent = none := haddress.eq_none (hkind ▸ htop)
    simp [hcollection, hnone]
  unfold relabel parentOf
  rw [if_neg (not_relinks_of_top htop none)]
  by_cases hrenamed : ν.Renames kind none r
  · rw [if_pos hrenamed, if_pos (hrenames.mp hrenamed), Kind.name?_named]
  · rw [if_neg hrenamed, if_neg fun his => hrenamed (hrenames.mpr his)]

theorem entries_relabel (haddress : ν.kind.Addresses ν.parent) (t : Tree) (kind : Kind) :
    (t.mapAll ν.relabel).entries kind = (t.entries kind).map fun entry =>
      (ν.parentOf kind entry.1, ν.relabel kind entry.1
        (if kind.parent = none then kind.mapHeld ν.relabel entry.2 else entry.2)) := by
  cases hparent : kind.parent with
  | none =>
      have hnone : ν.parentOf kind none = none := by simp [parentOf]
      rw [Tree.entries_mapAll_of_top _ _ hparent, Tree.entries_of_top _ hparent]
      simp [hnone]
  | some parent =>
      obtain ⟨field, hlocation⟩ := Kind.parent_eq_some_iff.mp hparent
      rw [Tree.entries_mapAll_of_nested (ν.parentOf kind) hlocation]
      · simp
      · intro r _
        exact get?_relabel_held hlocation none _
      · intro r _
        rw [name?_relabel_holder haddress hparent, Kind.name?_mapHeld]

theorem rows_relabel (hsingle : ν.kind.location ≠ .single) (haddress : ν.kind.Addresses ν.parent)
    (t : Tree) : (t.mapAll ν.relabel).rows = ν.rows t.rows := by
  funext kind
  simp only [Tree.rows, Renaming.rows, entries_relabel haddress, List.map_map]
  apply List.map_congr_left
  intro entry _
  simp only [Function.comp_apply, row_relabel hsingle, Row.of_ite_mapHeld]

/-- The new label of a single record is all that its row shows. -/
theorem rows_relabel_of_single (hsingle : ν.kind.location = .single)
    (haddress : ν.kind.Addresses ν.parent) (t : Tree) (kind : Kind) :
    (t.mapAll ν.relabel).rows kind = (t.rows kind).map fun row =>
      if kind = ν.kind then { row with name := some ν.new } else row := by
  have hchildless : ∀ child : Kind, child.parent ≠ some ν.kind :=
    Kind.parent_ne_of_not_collection (by simp [hsingle])
  have hrow : ∀ q r, Row.of kind (ν.parentOf kind q) (ν.relabel kind q r) =
      if kind = ν.kind then { Row.of kind q r with name := some ν.new } else Row.of kind q r := by
    intro q r
    have hparent : ν.parentOf kind q = q := if_neg fun hheld => hchildless kind hheld.1
    unfold relabel
    rw [hparent, if_neg fun hlinks : ν.Relinks kind q => hchildless kind hlinks.2.1]
    by_cases hkind : kind = ν.kind
    · have hrenames : ν.Renames kind q r := ⟨hkind, .inl (hkind ▸ hsingle)⟩
      rw [if_pos hrenames, if_pos hkind, Kind.row_named]
    · rw [if_neg fun hrenames : ν.Renames kind q r => hkind hrenames.1, if_neg hkind]
  simp only [Tree.rows, entries_relabel haddress, List.map_map]
  apply List.map_congr_left
  intro entry _
  simp only [Function.comp_apply, hrow, Row.of_ite_mapHeld]

/-! ## New labels before other changes -/

theorem relabel_mapHeld {top : Kind} (h : top.parent = none) (q : Option String)
    (f : Kind → Record → Record) (r : Record) :
    top.mapHeld (fun child _ held => f child held) (ν.relabel top q r) =
      ν.relabel top q (top.mapHeld (fun child _ held => f child held) r) := by
  have hlinks := not_relinks_of_top (ν := ν) h q
  unfold relabel
  rw [if_neg hlinks, if_neg hlinks]
  by_cases hrenames : ν.Renames top q r
  · rw [if_pos hrenames, if_pos ((renames_mapHeld top q _ r).mpr hrenames), Kind.mapHeld_named]
  · rw [if_neg hrenames, if_neg fun his => hrenames ((renames_mapHeld top q _ r).mp his)]

theorem mapAll_mapAll_relabel (haddress : ν.kind.Addresses ν.parent)
    (f : Kind → Option String → Record → Record) (t : Tree) :
    (t.mapAll ν.relabel).mapAll f = t.mapAll fun kind q r =>
      f kind (ν.parentOf kind q) (ν.relabel kind q r) := by
  simp only [Tree.mapAll, Tree.mapTop_mapTop]
  apply Tree.mapTop_congr
  intro top htop r _
  have hnone : ν.parentOf top none = none := by simp [parentOf]
  rw [hnone]
  congr 1
  -- What is held is changed under the name that its holder has by then.
  have hname : ∀ child : Kind, child.parent = some top →
      (ν.relabel top none (top.mapHeld ν.relabel r)).name? = ν.parentOf child r.name? := by
    intro child hchild
    rw [name?_relabel_holder haddress hchild, Kind.name?_mapHeld]
  generalize hlabel : (ν.relabel top none (top.mapHeld ν.relabel r)).name? = name at hname
  calc top.mapHeld f (ν.relabel top none (top.mapHeld ν.relabel r))
      _ = top.mapHeld (fun child _ held => f child name held)
            (ν.relabel top none (top.mapHeld ν.relabel r)) := by rw [← hlabel]; rfl
      _ = ν.relabel top none (top.mapHeld (fun child _ held => f child name held)
            (top.mapHeld ν.relabel r)) := relabel_mapHeld htop none (fun child => f child name) _
      _ = ν.relabel top none (top.mapHeld
            (fun child q held => f child (ν.parentOf child q) (ν.relabel child q held)) r) := by
          rw [Kind.mapHeld_mapHeld]
          congr 1
          apply Kind.mapHeld_congr
          intro child field hlocation held _
          rw [hname child (Kind.parent_eq_some_iff.mpr ⟨field, hlocation⟩)]

end Renaming

end Blueprint
