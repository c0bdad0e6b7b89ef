import Blueprint.Proofs.Operations
import Blueprint.Proofs.Renaming

/-!
# Consistency is kept

Every accepted operation on a consistent tree leaves a consistent one. A new record
only adds to what may be meant; a removed one takes the names along that meant it or
what it held; and a saved one gives up its own dangling names before its new name is
carried to the others.
-/

namespace Blueprint

theorem Kind.all_targets_listed (kind : Kind) :
    (kind.schema.references.all fun reference => reference.target.location ≠ .single) = true := by
  cases kind <;> decide

theorem Kind.target_listed {kind : Kind} {reference : Reference}
    (h : reference ∈ kind.schema.references) : reference.target.location ≠ .single := by
  simpa using List.all_eq_true.mp kind.all_targets_listed reference h

/-! ## Rows that are added -/

/-- Rows among which all names mean what they meant among others. -/
structure Rows.Extends (rows more : Rows) : Prop where
  mem : ∀ kind : Kind, kind.location ≠ .single → ∀ row ∈ rows kind, row ∈ more kind
  holder : ∀ (kind : Kind) (name : String) (row : Row), kind.location = .collection →
    (rows kind).find? (fun row => row.name = some name) = some row →
      (more kind).find? (fun row => row.name = some name) = some row

namespace Row

variable {rows more : Rows} {kind : Kind} {reference : Reference} {row : Row}

theorem holder?_extends (hext : rows.Extends more) {found : Kind × Row}
    (h : row.holder? rows kind = some found) : row.holder? more kind = some found := by
  obtain ⟨parentKind, hparent, h⟩ := Option.bind_eq_some_iff.mp h
  obtain ⟨name, hname, h⟩ := Option.bind_eq_some_iff.mp h
  obtain ⟨holder, hfind, rfl⟩ := Option.map_eq_some_iff.mp h
  simp only [holder?, hparent, hname, Option.bind_some,
    hext.holder parentKind name holder (Kind.location_of_parent hparent) hfind, Option.map_some]

theorem admits_extends (hext : rows.Extends more) {q : Option String}
    (h : (row.reach rows kind reference).admits q = true) :
    (row.reach more kind reference).admits q = true := by
  cases hscope : reference.scope with
  | anywhere => simp only [reach, hscope, Reach.admits]
  | sibling | underField _ => simpa only [reach, hscope] using h
  | underParentField field =>
      rw [reach_underParentField hscope] at h ⊢
      obtain ⟨name, hname, hq⟩ := Reach.admits_ofName.mp h
      obtain ⟨found, hfound, hread⟩ := Option.bind_eq_some_iff.mp hname
      rw [holder?_extends hext hfound]
      exact Reach.admits_ofName.mpr ⟨name, hread, hq⟩

theorem Resolves.extends (hext : rows.Extends more) (hmem : reference ∈ kind.schema.references)
    {name : String} (h : row.Resolves rows kind reference name) :
    row.Resolves more kind reference name := by
  rcases h with hkeep | ⟨target, htarget, hadmits, hname⟩
  · exact .inl hkeep
  · exact .inr ⟨target, hext.mem _ (Kind.target_listed hmem) target htarget,
      admits_extends hext hadmits, hname⟩

end Row

namespace Tree

/-- A tree stays consistent if what is added to it means something already. -/
theorem consistent_of_extends {t u : Tree} (ht : t.Consistent) (hext : t.rows.Extends u.rows)
    (h : ∀ kind, ∀ row ∈ u.rows kind, row ∈ t.rows kind ∨
      ∀ reference ∈ kind.schema.references, ∀ name ∈ row.mentions reference,
        row.Resolves t.rows kind reference name) : u.Consistent := by
  rw [consistent_iff] at ht ⊢
  intro kind row hrow reference hmem name hname
  rcases h kind row hrow with hold | hnew
  · exact (ht kind row hold reference hmem name hname).extends hext hmem
  · exact (hnew reference hmem name hname).extends hext hmem

/-! ## Creating -/

section

variable {t : Tree} {kind : Kind} {parent : Option String} {items : List Value}
  {before after : List (Option String × Record)} {r : Record}

private theorem rows_append_self (hplace : t.Place kind parent items before after) (r : Record) :
    (t.setItems kind parent (items ++ [.object r])).rows kind =
      before.map (fun entry => Row.of kind entry.1 entry.2) ++
        ((items.filterMap Value.object?).map (Row.of kind parent) ++ [Row.of kind parent r]) ++
          after.map fun entry => Row.of kind entry.1 entry.2 := by
  rw [hplace.rows_setItems_self, List.filterMap_append, List.map_append]
  rfl

private theorem rows_append_of_ne (hplace : t.Place kind parent items before after)
    (hitems : t.items? kind parent = some items)
    (hheld : ∀ (child : Kind) (field : String), child.location = .nested kind field →
      r.records field = []) {other : Kind} (hne : other ≠ kind) :
    (t.setItems kind parent (items ++ [.object r])).rows other = t.rows other := by
  by_cases hchild : other.parent = some kind
  · obtain ⟨field, hlocation⟩ := Kind.parent_eq_some_iff.mp hchild
    have hrecords : (items ++ [Value.object r]).filterMap Value.object? =
        items.filterMap Value.object? ++ [r] := List.filterMap_append
    rw [rows_setItems_held hlocation, rows_held hlocation hitems, hrecords]
    simp [rowsHeld, hheld other field hlocation]
  · exact hplace.rows_setItems _ other hne hchild

theorem extends_append (haddress : kind.Addresses parent)
    (hplace : t.Place kind parent items before after) (hitems : t.items? kind parent = some items)
    (hheld : ∀ (child : Kind) (field : String), child.location = .nested kind field →
      r.records field = []) :
    t.rows.Extends (t.setItems kind parent (items ++ [.object r])).rows where
  mem other _ row hrow := by
    by_cases hne : other = kind
    · subst hne
      rw [hplace.rows_eq] at hrow
      rw [rows_append_self hplace]
      simp only [List.mem_append] at hrow ⊢
      rcases hrow with (hrow | hrow) | hrow
      · exact .inl (.inl hrow)
      · exact .inl (.inr (.inl hrow))
      · exact .inr hrow
    · rwa [rows_append_of_ne hplace hitems hheld hne]
  holder other name row hcollection hfind := by
    by_cases hne : other = kind
    · subst hne
      -- At the top level the new record comes last.
      have hnone := haddress.eq_none (Kind.parent_of_collection hcollection)
      obtain ⟨rfl, rfl⟩ := List.append_eq_nil_iff.mp (hplace.alone hnone)
      rw [hplace.rows_eq] at hfind
      rw [rows_append_self hplace]
      simp only [List.map_nil, List.nil_append, List.append_nil] at hfind ⊢
      rw [List.find?_append, hfind, Option.some_or]
    · rwa [rows_append_of_ne hplace hitems hheld hne]

theorem mem_rows_append (hplace : t.Place kind parent items before after)
    (hitems : t.items? kind parent = some items)
    (hheld : ∀ (child : Kind) (field : String), child.location = .nested kind field →
      r.records field = []) {other : Kind} {row : Row}
    (hrow : row ∈ (t.setItems kind parent (items ++ [.object r])).rows other) :
    row ∈ t.rows other ∨ other = kind ∧ row = Row.of kind parent r := by
  by_cases hne : other = kind
  · subst hne
    rw [rows_append_self hplace] at hrow
    rw [hplace.rows_eq]
    simp only [List.mem_append, List.mem_singleton] at hrow ⊢
    rcases hrow with (hrow | hrow | hrow) | hrow
    · exact .inl (.inl (.inl hrow))
    · exact .inl (.inl (.inr hrow))
    · exact .inr ⟨trivial, hrow⟩
    · exact .inl (.inr hrow)
  · exact .inl (by rwa [rows_append_of_ne hplace hitems hheld hne] at hrow)

end

/-- A new record keeps a tree consistent if all its names mean something already. -/
theorem consistent_create {t u : Tree} (hkeyed : t.Keyed) (ht : t.Consistent) {kind : Kind}
    {fields : Record} {op : Context} (hspares : kind.sparesHeld fields = true)
    (hresolves : ∀ draft, Draft.ofFields kind fields op = .ok draft →
      t.append kind draft = .ok u → (t.reconcileRecord kind draft.parent draft.record).1 = false)
    (h : t.create kind fields op = .ok u) : u.Consistent := by
  obtain ⟨draft, items, hdraft, happend, hitems, rfl⟩ := create_eq_ok h
  obtain ⟨_, hop, hrecord, _⟩ := Draft.ofFields_eq_ok hdraft
  have haddress := Context.addresses_of_addressed hop
  obtain ⟨before, after, hplace⟩ := hkeyed.exists_place haddress hitems
  have hheld : ∀ (child : Kind) (field : String), child.location = .nested kind field →
      draft.record.records field = [] := by
    intro child field hlocation
    have hempty := Draft.itemsIn?_recordOf hspares hlocation draft.parent
    rw [hrecord, records_of_itemsIn? hempty]
    rfl
  have hnew := (reconcileRecord_eq_false_iff t kind draft.parent draft.record).mp
    (hresolves draft hdraft happend)
  apply consistent_of_extends ht (extends_append haddress hplace hitems hheld)
  intro other row hrow
  rcases mem_rows_append hplace hitems hheld hrow with hold | ⟨rfl, rfl⟩
  · exact .inl hold
  · refine .inr fun reference hmem name hname => hnew reference hmem name ?_
    rwa [Row.mentions_of hmem] at hname

/-! ## Saving a single record -/

theorem consistent_saveSingle {t : Tree} (ht : t.Consistent) {kind : Kind}
    (hsingle : kind.location = .single) (fields : Record) :
    (t.saveSingle kind fields).Consistent := by
  have hrows := (t.quiet_prepared kind fields).rows_eq
  have hext : t.rows.Extends (t.saveSingle kind fields).rows := by
    refine ⟨fun other hother row hrow => ?_, fun other name row hother hfind => ?_⟩
    · have hne : other ≠ kind := fun heq => hother (heq.symm ▸ hsingle)
      rwa [t.rows_saveSingle hsingle fields hne]
    · have hne : other ≠ kind := by
        rintro rfl
        rw [hsingle] at hother
        cases hother
      rwa [t.rows_saveSingle hsingle fields hne]
  have hself : (t.saveSingle kind fields).rows kind =
      [(Row.of kind none (t.mergedSingle kind fields)).revise
        ((t.prepared kind fields).dangling kind
          (Row.of kind none (t.mergedSingle kind fields)))] := by
    rw [rows_of_top _ (Kind.parent_of_single hsingle), saveSingle_eq, tops_set,
      if_pos rfl, reconcileRecord_eq]
    simp [Value.placed, hsingle, Value.object?, Row.of_reviseBy]
  apply consistent_of_extends ht hext
  intro other row hrow
  by_cases hne : other = kind
  · subst hne
    rw [hself, List.mem_singleton] at hrow
    subst hrow
    right
    intro reference hmem left hleft
    rw [← hrows]
    exact resolves_of_left hmem hleft
  · exact .inl (by rwa [t.rows_saveSingle hsingle fields hne] at hrow)

/-! ## Deleting -/

/-- A tree is what is left of another one when a record is taken out with what it
holds. -/
structure Without (u t : Tree) (kind : Kind) (parent : Option String) (name : String)
    (removed : Record) : Prop where
  mem : ∀ other, ∀ row ∈ u.rows other, row ∈ t.rows other
  gone : ∀ other : Kind, other.location ≠ .single → ∀ row ∈ t.rows other,
    row ∈ u.rows other ∨ ∃ rowName, row.name = some rowName ∧
      (other, row.parent, rowName) ∈ kind.removedWith parent name removed
  holder : ∀ other parentKind : Kind, other.parent = some parentKind → ∀ row ∈ u.rows other,
    (u.rows parentKind).find? (fun holder => holder.name = row.parent) =
      (t.rows parentKind).find? fun holder => holder.name = row.parent
  orphans : ∀ other : Kind, other.parent = some kind → ∀ row ∈ u.rows other,
    row.parent ≠ some name

namespace Without

variable {t u : Tree} {kind : Kind} {parent : Option String} {name : String} {removed : Record}

theorem reach_eq (h : u.Without t kind parent name removed) {other : Kind} {row : Row}
    (hrow : row ∈ u.rows other) (reference : Reference) :
    row.reach u.rows other reference = row.reach t.rows other reference := by
  refine Row.reach_of_holder?_eq (Row.holder?_congr fun parentKind name hparent hname => ?_)
    reference
  rw [← hname]
  exact h.holder other parentKind hparent row hrow

/-- The names of parents that still hold something are not dropped. -/
theorem keeps_scopeSource (h : u.Without t kind parent name removed) {target : Kind}
    (htarget : target.parent.isSome) {held : Row} (hheld : held ∈ u.rows target) {p : String}
    (hp : held.parent = some p) (other : Kind) (row : Row) (field : String) :
    Judge.dropping u.rows (kind.removedWith parent name removed) other row
      (.scopeSource field target) p = .keep := by
  obtain ⟨parentKind, hparent⟩ := Option.isSome_iff_exists.mp htarget
  have htop : parentKind.parent = none := Kind.parent_of_holder hparent
  rw [Judge.dropping_eq_keep_iff, Reference.target_scopeSource hparent]
  rintro ⟨q, hgone, _⟩
  rcases Kind.mem_removedWith.mp hgone with ⟨hchild, _, _⟩ | ⟨rfl, _, rfl⟩
  · rw [hchild] at htop
    cases htop
  · exact h.orphans target hparent held hheld hp

theorem consistent (h : u.Without t kind parent name removed) (ht : t.Consistent)
    (hname : removed.name? = some name) :
    (u.dropAllReferences kind parent removed).2.Consistent := by
  rw [consistent_iff] at ht ⊢
  rw [rows_dropAllReferences u kind parent hname]
  intro other revised hrevised reference hmem left hleft
  obtain ⟨row, hrow, rfl⟩ := List.mem_map.mp hrevised
  have hcases := Judge.dropping_cases u.rows (kind.removedWith parent name removed) other row
    reference
  obtain ⟨hmention, hkeep⟩ := (Verdict.mem_flatMap_left hcases).mp hleft
  rcases ht other row (h.mem other row hrow) reference hmem left hmention with
    hsentinel | ⟨target, htarget, hadmits, htargetName⟩
  · exact .inl hsentinel
  · rw [← h.reach_eq hrow] at hadmits
    rcases h.gone reference.target (Kind.target_listed hmem) target htarget with
      hstays | ⟨goneName, hgoneName, hgone⟩
    · refine .inr ⟨_, List.mem_map_of_mem hstays, ?_, htargetName⟩
      obtain ⟨q, r, _, rfl⟩ := mem_rows.mp hrow
      apply Row.admits_revise_rows hmem
      · apply Row.admits_revise hmem hadmits
        intro field p hheld hp
        exact h.keeps_scopeSource hheld hstays hp other _ field
      · intro holderKind holder field p hheld hp
        exact h.keeps_scopeSource hheld hstays hp holderKind holder field
    · -- The name meant a record that was taken out, so it was dropped.
      rw [htargetName] at hgoneName
      obtain rfl := Option.some.inj hgoneName
      rw [Judge.dropping_eq_drop_iff.mpr ⟨_, hgone, Reach.meets_of_admits hadmits⟩] at hkeep
      cases hkeep

end Without

theorem mem_rowsHeld {child : Kind} {field : String} {holders : List Record} {row : Row} :
    row ∈ rowsHeld child field holders ↔
      ∃ holder ∈ holders, ∃ held ∈ holder.records field, Row.of child holder.name? held = row := by
  simp [rowsHeld]

section

variable {t : Tree} {kind : Kind} {parent : Option String} {items rest : List Value}
  {beforeEntries afterEntries : List (Option String × Record)} {before after : List Record}
  {removed : Record} {name : String}

private theorem rows_of_firstNamed (hplace : t.Place kind parent items beforeEntries afterEntries)
    (hfirst : FirstNamed name (items.filterMap Value.object?) before removed after) :
    t.rows kind = beforeEntries.map (fun entry => Row.of kind entry.1 entry.2) ++
      (before.map (Row.of kind parent) ++ Row.of kind parent removed ::
        after.map (Row.of kind parent)) ++
          afterEntries.map fun entry => Row.of kind entry.1 entry.2 := by
  rw [hplace.rows_eq, hfirst.split, List.map_append, List.map_cons]

private theorem rows_of_rest (hplace : t.Place kind parent items beforeEntries afterEntries)
    (hrest : rest.filterMap Value.object? = before ++ after) :
    (t.setItems kind parent rest).rows kind =
      beforeEntries.map (fun entry => Row.of kind entry.1 entry.2) ++
        (before.map (Row.of kind parent) ++ after.map (Row.of kind parent)) ++
          afterEntries.map fun entry => Row.of kind entry.1 entry.2 := by
  rw [hplace.rows_setItems_self rest, hrest, List.map_append]

private theorem mem_of_mem_rest (hplace : t.Place kind parent items beforeEntries afterEntries)
    (hitems : t.items? kind parent = some items)
    (hfirst : FirstNamed name (items.filterMap Value.object?) before removed after)
    (hrest : rest.filterMap Value.object? = before ++ after) {other : Kind} {row : Row}
    (hrow : row ∈ (t.setItems kind parent rest).rows other) : row ∈ t.rows other := by
  by_cases hne : other = kind
  · subst hne
    rw [rows_of_rest hplace hrest] at hrow
    rw [rows_of_firstNamed hplace hfirst]
    simp only [List.mem_append, List.mem_cons] at hrow ⊢
    tauto
  · by_cases hchild : other.parent = some kind
    · obtain ⟨field, hlocation⟩ := Kind.parent_eq_some_iff.mp hchild
      rw [rows_setItems_held hlocation, hrest, mem_rowsHeld] at hrow
      rw [rows_held hlocation hitems, hfirst.split, mem_rowsHeld]
      obtain ⟨holder, hholder, hheld⟩ := hrow
      refine ⟨holder, ?_, hheld⟩
      simp only [List.mem_append, List.mem_cons] at hholder ⊢
      tauto
    · rwa [hplace.rows_setItems rest other hne hchild] at hrow

private theorem mem_rest_or_removed (hkeyed : t.Keyed)
    (hplace : t.Place kind parent items beforeEntries afterEntries)
    (hitems : t.items? kind parent = some items)
    (hfirst : FirstNamed name (items.filterMap Value.object?) before removed after)
    (hrest : rest.filterMap Value.object? = before ++ after) {other : Kind}
    (hlisted : other.location ≠ .single) {row : Row} (hrow : row ∈ t.rows other) :
    row ∈ (t.setItems kind parent rest).rows other ∨ ∃ rowName, row.name = some rowName ∧
      (other, row.parent, rowName) ∈ kind.removedWith parent name removed := by
  by_cases hne : other = kind
  · subst hne
    rw [rows_of_firstNamed hplace hfirst] at hrow
    rw [rows_of_rest hplace hrest]
    have hlast : (other, parent, name) ∈ other.removedWith parent name removed :=
      Kind.mem_removedWith.mpr (.inr ⟨rfl, rfl, rfl⟩)
    simp only [List.mem_append, List.mem_cons] at hrow ⊢
    rcases hrow with (hrow | hrow | rfl | hrow) | hrow
    · exact .inl (.inl (.inl hrow))
    · exact .inl (.inl (.inr (.inl hrow)))
    · exact .inr ⟨name, hfirst.named, hlast⟩
    · exact .inl (.inl (.inr (.inr hrow)))
    · exact .inl (.inr hrow)
  · by_cases hchild : other.parent = some kind
    · obtain ⟨field, hlocation⟩ := Kind.parent_eq_some_iff.mp hchild
      obtain ⟨_, heldName, hheldName⟩ := hkeyed.named_row hlisted hrow
      rw [rows_held hlocation hitems, hfirst.split, mem_rowsHeld] at hrow
      rw [rows_setItems_held hlocation, hrest, mem_rowsHeld]
      obtain ⟨holder, hholder, held, hheld, rfl⟩ := hrow
      by_cases hstays : holder ∈ before ++ after
      · exact .inl ⟨holder, hstays, held, hheld, rfl⟩
      · -- what the removed record held goes with it
        right
        obtain rfl : holder = removed := by
          simp only [List.mem_append, List.mem_cons] at hholder hstays
          tauto
        refine ⟨heldName, hheldName, Kind.mem_removedWith.mpr (.inl ⟨hchild, hfirst.named, ?_⟩)⟩
        simp only [Kind.namesIn, Kind.holdingField, hlocation]
        exact List.mem_filterMap.mpr ⟨held, hheld, hheldName⟩
    · left
      rwa [hplace.rows_setItems rest other hne hchild]

private theorem find?_rest (haddress : kind.Addresses parent)
    (hplace : t.Place kind parent items beforeEntries afterEntries)
    (hfirst : FirstNamed name (items.filterMap Value.object?) before removed after)
    (hrest : rest.filterMap Value.object? = before ++ after)
    (hother : ∀ x ∈ before ++ after, x.name? ≠ some name) {other parentKind : Kind}
    (hparent : other.parent = some parentKind) {row : Row}
    (hrow : row ∈ (t.setItems kind parent rest).rows other) :
    ((t.setItems kind parent rest).rows parentKind).find?
        (fun holder => holder.name = row.parent) =
      (t.rows parentKind).find? fun holder => holder.name = row.parent := by
  have htop : parentKind.parent = none := Kind.parent_of_holder hparent
  by_cases hne : parentKind = kind
  · subst hne
    -- The holder is not the record that was taken out.
    obtain ⟨rfl, rfl⟩ := List.append_eq_nil_iff.mp (hplace.alone (haddress.eq_none htop))
    obtain ⟨field, hlocation⟩ := Kind.parent_eq_some_iff.mp hparent
    rw [rows_setItems_held hlocation, hrest, mem_rowsHeld] at hrow
    obtain ⟨holder, hholder, held, _, rfl⟩ := hrow
    have hnot : ¬(removed.name? = holder.name?) := by
      rw [hfirst.named]
      exact (hother holder hholder).symm
    rw [rows_of_rest hplace hrest, rows_of_firstNamed hplace hfirst]
    simp [hnot]
  · rw [hplace.rows_setItems rest parentKind hne (by simp [htop])]

theorem without_setItems (hkeyed : t.Keyed) (hsingle : kind.location ≠ .single)
    (haddress : kind.Addresses parent) (hitems : t.items? kind parent = some items)
    (hfirst : FirstNamed name (items.filterMap Value.object?) before removed after)
    (hrest : rest.filterMap Value.object? = before ++ after) :
    (t.setItems kind parent rest).Without t kind parent name removed := by
  obtain ⟨beforeEntries, afterEntries, hplace⟩ := hkeyed.exists_place haddress hitems
  have hother : ∀ x ∈ before ++ after, x.name? ≠ some name :=
    hkeyed.name?_ne hsingle haddress (hplace.collection_eq ▸ hfirst)
  refine ⟨fun _ _ => mem_of_mem_rest hplace hitems hfirst hrest,
    fun _ hlisted _ => mem_rest_or_removed hkeyed hplace hitems hfirst hrest hlisted,
    fun _ _ hparent _ => find?_rest haddress hplace hfirst hrest hother hparent, ?_⟩
  intro other hchild row hrow
  obtain ⟨field, hlocation⟩ := Kind.parent_eq_some_iff.mp hchild
  rw [rows_setItems_held hlocation, hrest, mem_rowsHeld] at hrow
  obtain ⟨holder, hholder, held, _, rfl⟩ := hrow
  exact hother holder hholder

end

theorem consistent_delete {t u : Tree} (hkeyed : t.Keyed) (ht : t.Consistent) {kind : Kind}
    {op : Context} (h : t.delete kind op = .ok u) : u.Consistent := by
  obtain ⟨parent, hparent, hdelete⟩ := bind_eq_ok_iff.mp h
  obtain rfl := Except.ok.inj hdelete
  have hsingle : kind.location ≠ .single := by
    intro hlocation
    simp [deletionParent, hlocation] at hparent
  have haddress : kind.Addresses parent := by
    simp only [deletionParent, hsingle, if_false] at hparent
    exact Context.addresses_of_addressed hparent
  by_cases hmem : op.name.getD "" ∈ t.names kind parent
  · cases hitems : t.items? kind parent with
    | none => simpa only [erase, hitems, ite_self] using ht
    | some items =>
        obtain ⟨beforeEntries, afterEntries, hplace⟩ := hkeyed.exists_place haddress hitems
        obtain ⟨r, hr, hname⟩ := List.mem_filterMap.mp hmem
        rw [hplace.collection_eq] at hr
        obtain ⟨before, removed, after, hfirst⟩ := FirstNamed.exists_of_mem ⟨r, hr, hname⟩
        obtain ⟨rest, hrest, herase⟩ := erase_of_firstNamed hitems hmem hfirst
        rw [herase]
        exact (without_setItems hkeyed hsingle haddress hitems hfirst hrest).consistent ht
          hfirst.named
  · rwa [erase_of_not_mem hmem]

end Tree

end Blueprint
