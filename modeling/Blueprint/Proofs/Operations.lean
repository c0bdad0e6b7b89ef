import Blueprint.Proofs.Cascades
import Blueprint.Proofs.Cleanup
import Blueprint.Proofs.Labels
import Blueprint.Proofs.Records

/-!
# Operations

What creating, saving and deleting come to, case by case: the error, or the list
that is written and the revisions that follow. Revisions change neither labels nor
lists, so these are settled by the list that is written.
-/

namespace Blueprint

theorem bind_eq_ok_iff {α β : Type} {first : Except StoreError α} {rest : α → Except StoreError β}
    {b : β} : first >>= rest = .ok b ↔ ∃ a, first = .ok a ∧ rest a = .ok b := by
  cases first with
  | error e => simp [bind, Except.bind]
  | ok a => simp [bind, Except.bind]

theorem Context.addresses_of_addressed {op : Context} {kind : Kind} {parent : Option String}
    (h : op.addressed kind = .ok parent) : kind.Addresses parent := by
  unfold addressed at h
  cases hlocation : kind.location with
  | single | collection =>
      simp only [hlocation, Except.ok.injEq] at h
      subst h
      exact Kind.addresses_none (Kind.parent_eq_none_iff.mpr (by simp [hlocation]))
  | nested parentKind field =>
      simp only [hlocation] at h
      have hparent : kind.parent = some parentKind :=
        Kind.parent_eq_some_iff.mpr ⟨field, hlocation⟩
      cases hop : op.parent with
      | none => simp [hop] at h
      | some name =>
          simp only [hop, Except.ok.injEq] at h
          subst h
          simp [Kind.Addresses, hparent]

theorem Draft.ofFields_eq_ok {kind : Kind} {fields : Record} {op : Context} {draft : Draft}
    (h : Draft.ofFields kind fields op = .ok draft) :
    kind.location ≠ .single ∧ op.addressed kind = .ok draft.parent ∧
      draft.record = Draft.recordOf kind fields draft.parent ∧
        draft.record.name? = some draft.name := by
  unfold Draft.ofFields at h
  split at h
  · cases h
  · next hsingle =>
      obtain ⟨parent, hop, h⟩ := bind_eq_ok_iff.mp h
      cases hname : (Draft.recordOf kind fields parent).name? with
      | none => simp only [hname, reduceCtorEq] at h
      | some name =>
          simp only [hname] at h
          obtain rfl := Except.ok.inj h
          exact ⟨hsingle, hop, rfl, hname⟩

namespace Tree

/-! ## Creating -/

theorem create_eq (t : Tree) (kind : Kind) (fields : Record) (op : Context) :
    t.create kind fields op =
      if kind.location = .single then .error (.unsupported kind "create")
      else op.addressed kind >>= fun parent =>
        match fields.givenName.bind Value.text? with
        | none => .error (.missingName kind)
        | some name => t.append kind ⟨parent, name, Draft.recordOf kind fields parent⟩ := by
  unfold create Draft.ofFields
  by_cases hsingle : kind.location = .single
  · simp only [hsingle, if_true]
    rfl
  · simp only [hsingle, if_false]
    cases op.addressed kind with
    | error e => rfl
    | ok parent =>
        simp only [bind, Except.bind, Draft.name?_recordOf]
        cases fields.givenName.bind Value.text? <;> rfl

theorem append_eq (t : Tree) (kind : Kind) (draft : Draft) :
    t.append kind draft =
      if draft.name ∈ t.names kind draft.parent then .error (.duplicateName kind draft.name)
      else match t.items? kind draft.parent with
        | some items => .ok (t.setItems kind draft.parent (items ++ [.object draft.record]))
        | none => .error (.noCollection kind draft.parent) := by
  by_cases h : draft.name ∈ t.names kind draft.parent
  · simp [append, h]
  · cases hitems : t.items? kind draft.parent with
    | none => simp [append, h, hitems]
    | some items => simp [append, h, hitems]

theorem append_eq_ok {t u : Tree} {kind : Kind} {draft : Draft} (h : t.append kind draft = .ok u) :
    draft.name ∉ t.names kind draft.parent ∧ ∃ items, t.items? kind draft.parent = some items ∧
      u = t.setItems kind draft.parent (items ++ [.object draft.record]) := by
  rw [append_eq] at h
  split at h
  · cases h
  · next hfresh =>
      split at h
      · next items hitems => exact ⟨hfresh, items, hitems, (Except.ok.inj h).symm⟩
      · cases h

/-- A creation that is accepted writes one list. -/
theorem create_eq_ok {t u : Tree} {kind : Kind} {fields : Record} {op : Context}
    (h : t.create kind fields op = .ok u) :
    ∃ draft items, Draft.ofFields kind fields op = .ok draft ∧ t.append kind draft = .ok u ∧
      t.items? kind draft.parent = some items ∧
      u = t.setItems kind draft.parent (items ++ [.object draft.record]) := by
  obtain ⟨draft, hdraft, happend⟩ := bind_eq_ok_iff.mp h
  obtain ⟨_, items, hitems, heq⟩ := append_eq_ok happend
  exact ⟨draft, items, hdraft, happend, hitems, heq⟩

/-! ## Saving -/

/-- The record that saving puts back. -/
def kept (t : Tree) (kind : Kind) (parent : Option String) (old : String) (draft : Draft) :
    Record :=
  if draft.name ≠ old then
    linkHeldRecords kind draft.name (t.reconcileRecord kind parent draft.record).2
  else (t.reconcileRecord kind parent draft.record).2

/-- The tree after the references to a saved record are settled. -/
def settled (t : Tree) (kind : Kind) (parent : Option String) (old name : String) : Tree :=
  ((if name ≠ old then (t.renameReferences kind parent old name).2
    else t).reconcileChildren kind name).2

theorem store_eq (t : Tree) (kind : Kind) (parent : Option String) (index : Nat) (old : String)
    (draft : Draft) :
    t.store kind parent index old draft =
      match t.items? kind parent with
      | none => .error (.noCollection kind parent)
      | some items => .ok ((t.setItems kind parent
          (replaceRecord (t.kept kind parent old draft) index items)).settled kind parent old
            draft.name) := by
  unfold store kept settled
  cases t.items? kind parent with
  | none => rfl
  | some items =>
      by_cases h : draft.name = old <;> simp [h]

theorem findIdx?_of_not_mem (t : Tree) {kind : Kind} {parent : Option String} {name : String}
    (h : name ∉ t.names kind parent) :
    (t.collection kind parent).findIdx? (fun r => r.name? = some name) = none := by
  rw [List.findIdx?_eq_none_iff]
  intro r hr
  have hne : r.name? ≠ some name := fun hname => h (List.mem_filterMap.mpr ⟨r, hr, hname⟩)
  simpa using hne

theorem saveNamed_of_not_mem (t : Tree) {kind : Kind} {op : Context} {parent : Option String}
    (hop : op.addressed kind = .ok parent) (h : op.name.getD "" ∉ t.names kind parent)
    (fields : Record) : t.saveNamed kind fields op = .error (.notFound kind (op.name.getD "")) := by
  simp only [saveNamed, hop, t.findIdx?_of_not_mem h, bind, Except.bind]

theorem saveNamed_of_firstNamed (t : Tree) {kind : Kind} {op : Context} {parent : Option String}
    (hop : op.addressed kind = .ok parent) {before after : List Record} {stored : Record}
    (h : FirstNamed (op.name.getD "") (t.collection kind parent) before stored after)
    (hlocation : kind.location ≠ .single) (fields : Record) :
    t.saveNamed kind fields op =
      match (stored.extend fields).name? with
      | none => .error (.missingName kind)
      | some name =>
          if name ≠ op.name.getD "" ∧ name ∈ t.names kind parent then
            .error (.duplicateName kind name)
          else t.store kind parent before.length (op.name.getD "")
            ⟨parent, name, (kind.schema.saved t stored (stored.extend fields)).2⟩ := by
  simp only [saveNamed, hop, h.findIdx?, h.getElem?, Option.getD_some, bind, Except.bind]
  cases (stored.extend fields).name? with
  | none => rfl
  | some name =>
      have htree := (Kind.saved_agrees hlocation t stored (stored.extend fields)).1
      simp only [List.contains_eq_mem, Bool.and_eq_true, decide_eq_true_eq]
      split
      · rfl
      · exact congrArg (fun u : Tree => u.store kind parent before.length (op.name.getD "")
          ⟨parent, name, (kind.schema.saved t stored (stored.extend fields)).2⟩) htree

theorem store_eq_ok {t u : Tree} {kind : Kind} {parent : Option String} {index : Nat}
    {old : String} {draft : Draft} (h : t.store kind parent index old draft = .ok u) :
    ∃ items, t.items? kind parent = some items ∧
      u = (t.setItems kind parent (replaceRecord (t.kept kind parent old draft) index
        items)).settled kind parent old draft.name := by
  rw [store_eq] at h
  split at h
  · cases h
  · next items hitems => exact ⟨items, hitems, (Except.ok.inj h).symm⟩

/-- A save that is accepted: the record is found, its name is free, and it is put
back. -/
theorem saveNamed_eq_ok {t u : Tree} {kind : Kind} {fields : Record} {op : Context}
    (hsingle : kind.location ≠ .single) (h : t.saveNamed kind fields op = .ok u) :
    ∃ parent before stored after name, op.addressed kind = .ok parent ∧
      FirstNamed (op.name.getD "") (t.collection kind parent) before stored after ∧
      (stored.extend fields).name? = some name ∧
      ¬(name ≠ op.name.getD "" ∧ name ∈ t.names kind parent) ∧
      t.store kind parent before.length (op.name.getD "")
        ⟨parent, name, (kind.schema.saved t stored (stored.extend fields)).2⟩ = .ok u := by
  have hbind := h
  unfold saveNamed at hbind
  obtain ⟨parent, hop, _⟩ := bind_eq_ok_iff.mp hbind
  by_cases hmem : op.name.getD "" ∈ t.names kind parent
  · obtain ⟨r, hr, hname⟩ := List.mem_filterMap.mp hmem
    obtain ⟨before, stored, after, hfirst⟩ := FirstNamed.exists_of_mem ⟨r, hr, hname⟩
    rw [t.saveNamed_of_firstNamed hop hfirst hsingle] at h
    split at h
    · cases h
    · next name hmerged =>
        split at h
        · cases h
        · next hfree => exact ⟨parent, before, stored, after, name, hop, hfirst, hmerged, hfree, h⟩
  · rw [t.saveNamed_of_not_mem hop hmem] at h
    cases h

/-! ## The record that is put back -/

theorem name?_kept (t : Tree) (kind : Kind) (parent : Option String) (old : String)
    (draft : Draft) : (t.kept kind parent old draft).name? = draft.record.name? := by
  have hrevised : (t.reconcileRecord kind parent draft.record).2.name? = draft.record.name? := by
    rw [reconcileRecord_eq, Record.name?_eq,
      Record.get?_reviseBy_of_ne fun _ hmem => Kind.root_ne_name hmem, ← Record.name?_eq]
  unfold kept
  split
  · rw [linkHeldRecords_eq, Kind.name?_mapHeld, hrevised]
  · exact hrevised

theorem row_kept (t : Tree) (kind : Kind) (parent : Option String) (old : String)
    (draft : Draft) :
    Row.of kind parent (t.kept kind parent old draft) =
      (Row.of kind parent draft.record).revise
        (t.dangling kind (Row.of kind parent draft.record)) := by
  unfold kept
  split
  · rw [linkHeldRecords_eq, Row.of_mapHeld, reconcileRecord_eq, Row.of_reviseBy]
  · rw [reconcileRecord_eq, Row.of_reviseBy]

/-- The held records are put back as they are, or with a new name in their links. -/
theorem get?_kept_eq (t : Tree) {kind child : Kind} {field : String}
    (h : child.location = .nested kind field) (parent : Option String) (old : String)
    (draft : Draft) :
    (t.kept kind parent old draft).get? field =
      if draft.name ≠ old then
        (draft.record.get? field).map (Value.mapItems (child.linkTo draft.name))
      else draft.record.get? field := by
  unfold kept
  split
  · rw [linkHeldRecords_eq, Kind.get?_mapHeld_of_some (Kind.heldIn?_of_location h),
      reconcileRecord_eq, Record.get?_reviseBy_of_ne (Kind.root_ne_held h)]
  · rw [reconcileRecord_eq, Record.get?_reviseBy_of_ne (Kind.root_ne_held h)]

theorem get?_kept_held (t : Tree) {kind child : Kind} {field : String}
    (h : child.location = .nested kind field) (parent : Option String) (old : String)
    (draft : Draft) :
    ∃ g : Record → Record, (∀ held, child.Agrees (g held) held) ∧
      (t.kept kind parent old draft).get? field =
        (draft.record.get? field).map (Value.mapItems g) := by
  rw [t.get?_kept_eq h]
  split
  · exact ⟨child.linkTo draft.name, child.linkTo_agrees draft.name, rfl⟩
  · refine ⟨fun held => held, Kind.Agrees.refl child, ?_⟩
    have hid : Value.mapItems (fun held => held) = id := funext Value.mapItems_id
    rw [hid, Option.map_id_fun, id]

theorem records_kept (t : Tree) {kind child : Kind} {field : String}
    (h : child.location = .nested kind field) (parent : Option String) (old : String)
    (draft : Draft) :
    ∃ g : Record → Record, (∀ held, child.Agrees (g held) held) ∧
      (t.kept kind parent old draft).records field = (draft.record.records field).map g := by
  obtain ⟨g, hg, hget⟩ := t.get?_kept_held h parent old draft
  refine ⟨g, hg, ?_⟩
  rw [Record.records_eq, Record.records_eq, hget]
  cases draft.record.get? field with
  | none => rfl
  | some value => exact Value.records_mapItems g value

theorem isSome_itemsIn?_kept (t : Tree) {kind child : Kind} {field : String}
    (h : child.location = .nested kind field) (parent : Option String) (old : String)
    (draft : Draft) (hrecord : (itemsIn? field draft.record).isSome) :
    (itemsIn? field (t.kept kind parent old draft)).isSome := by
  obtain ⟨g, _, hget⟩ := t.get?_kept_held h parent old draft
  unfold itemsIn? at hrecord ⊢
  rw [hget]
  cases hvalue : draft.record.get? field with
  | none => rfl
  | some value =>
      rw [hvalue] at hrecord
      cases value with
      | list items => rfl
      | null | bool _ | number _ | text _ | object _ => cases hrecord

theorem settled_preserves {P : Tree → Prop}
    (hrevise : ∀ (u : Tree) (judge : Judge), P u → P (u.reviseAll judge)) {t : Tree} (ht : P t)
    (kind : Kind) (parent : Option String) (old name : String) :
    P (t.settled kind parent old name) := by
  unfold settled
  rw [reconcileChildren_eq]
  apply hrevise
  split
  · rw [renameReferences, reviseReferences_eq]
    exact hrevise t _ ht
  · exact ht

/-! ## Kinds with a single record -/

theorem mapRecords_eq (t : Tree) {kind : Kind} (h : kind.parent = none) (f : Record → Record) :
    t.mapRecords kind f = t.mapTop fun top r => if top = kind then f r else r := by
  rw [mapRecords, visit_eq (f := fun _ _ r => ((), f r)) (fun _ _ _ => rfl), mapKind,
    Kind.lift_of_top h]

/-- A change of records that agrees with what was there. -/
def Quiet (t u : Tree) : Prop :=
  ∃ f : Kind → Record → Record, (∀ (top : Kind) (r : Record), top.Agrees (f top r) r) ∧
    u = t.mapTop f

namespace Quiet

variable {t u : Tree}

theorem refl (t : Tree) : t.Quiet t := ⟨fun _ r => r, fun top r => .refl top r, t.mapTop_id.symm⟩

theorem trans {v : Tree} (h : t.Quiet u) (h' : u.Quiet v) : t.Quiet v := by
  obtain ⟨f, hf, rfl⟩ := h
  obtain ⟨g, hg, rfl⟩ := h'
  exact ⟨fun top r => g top (f top r), fun top r => (hg top (f top r)).trans (hf top r),
    mapTop_mapTop g f t⟩

theorem rows_eq (h : t.Quiet u) : u.rows = t.rows := by
  obtain ⟨f, hf, rfl⟩ := h
  funext kind
  cases hparent : kind.parent with
  | none =>
      rw [rows_of_top _ hparent, rows_of_top _ hparent, tops_mapTop _ _ hparent, List.map_map]
      apply List.map_congr_left
      intro r _
      exact (hf kind r).row_eq none
  | some parent =>
      obtain ⟨field, hlocation⟩ := Kind.parent_eq_some_iff.mp hparent
      have htop : parent.parent = none := Kind.parent_of_holder hparent
      rw [rows_of_nested _ hlocation, rows_of_nested _ hlocation, tops_mapTop _ _ htop,
        List.flatMap_map]
      apply List.flatMap_congr
      intro r _
      rw [(hf parent r).name?_eq, Record.records_eq, Record.records_eq,
        (hf parent r).held kind field hlocation]

theorem hasLists (h : t.Quiet u) {kind : Kind} (hlists : t.HasLists kind) : u.HasLists kind := by
  obtain ⟨f, hf, rfl⟩ := h
  apply hlists.mapTop
  intro parentKind field hlocation holder _ hholder
  rwa [itemsIn?_congr ((hf parentKind holder).held kind field hlocation)]

theorem mapRecords (t : Tree) {kind : Kind} (h : kind.parent = none) {f : Record → Record}
    (hf : ∀ r, kind.Agrees (f r) r) : t.Quiet (t.mapRecords kind f) := by
  refine ⟨fun top r => if top = kind then f r else r, fun top r => ?_, mapRecords_eq t h f⟩
  by_cases htop : top = kind
  · subst htop
    simpa using hf r
  · simpa [htop] using Kind.Agrees.refl top r

end Quiet

private theorem quiet_moveLocations (t : Tree) (stored merged : Record) :
    t.Quiet (Options.moveLocations t stored merged) := by
  have hplain : Kind.activityTracker.isPlain "locations" = true := by decide
  unfold Options.moveLocations
  split
  · split
    · exact .refl t
    · exact .mapRecords t rfl fun r => .modify hplain r _
  · exact .refl t

theorem quiet_saved (t : Tree) (kind : Kind) (stored merged : Record) :
    t.Quiet (kind.schema.saved t stored merged).1 := by
  by_cases hsingle : kind.location = .single
  · cases kind <;> simp only [Kind.location, reduceCtorEq] at hsingle
    · have hplain : Kind.vpc.isPlain "address_prefixes" = true := by decide
      simp only [Kind.schema, Options.schema, Options.saved]
      refine Quiet.trans ?_ (quiet_moveLocations _ stored merged)
      split
      · exact .mapRecords t rfl fun r => .insert hplain r _
      · exact .refl t
    · simp only [Kind.schema, AccountSettings.schema, AccountSettings.saved]
      split
      · exact .refl t
      · exact .refl t
    · exact .refl t
  · rw [(Kind.saved_agrees hsingle t stored merged).1]
    exact .refl t

/-- The tree that the single record of a kind is saved into. -/
def prepared (t : Tree) (kind : Kind) (fields : Record) : Tree :=
  (kind.schema.saved t ((t.single? kind).getD []) (((t.single? kind).getD []).extend fields)).1

/-- The single record of a kind with fields set, as it is saved. -/
def mergedSingle (t : Tree) (kind : Kind) (fields : Record) : Record :=
  (kind.schema.saved t ((t.single? kind).getD []) (((t.single? kind).getD []).extend fields)).2

theorem saveSingle_eq (t : Tree) (kind : Kind) (fields : Record) :
    t.saveSingle kind fields = (t.prepared kind fields).set kind.tag
      (.object ((t.prepared kind fields).reconcileRecord kind none
        (t.mergedSingle kind fields)).2) := rfl

theorem quiet_prepared (t : Tree) (kind : Kind) (fields : Record) :
    t.Quiet (t.prepared kind fields) := t.quiet_saved kind _ _

/-- Only the kind itself has other records after its single record is saved. -/
theorem rows_saveSingle (t : Tree) {kind : Kind} (h : kind.location = .single) (fields : Record)
    {other : Kind} (hother : other ≠ kind) :
    (t.saveSingle kind fields).rows other = t.rows other := by
  rw [← (t.quiet_prepared kind fields).rows_eq]
  apply rows_congr
  apply entries_congr
  intro top htop
  rw [saveSingle_eq, tops_set, if_neg]
  rintro rfl
  rcases htop with htop | htop
  · exact hother htop.symm
  · have hcollection := Kind.location_of_parent htop
    rw [h] at hcollection
    cases hcollection

theorem hasLists_saveSingle {t : Tree} {kind : Kind} (h : kind.location = .single)
    (fields : Record) {other : Kind} (hother : t.HasLists other) :
    (t.saveSingle kind fields).HasLists other := by
  have hlists := (t.quiet_prepared kind fields).hasLists hother
  rw [saveSingle_eq]
  cases hlocation : other.location with
  | single => simp [HasLists, hlocation]
  | collection =>
      have htag : other.tag ≠ kind.tag := by
        intro htag
        rw [Kind.tag_injective htag, h] at hlocation
        cases hlocation
      rw [hasLists_collection hlocation] at hlists ⊢
      rwa [set, itemsIn?_congr (Record.get?_insert_of_ne _ _ htag)]
  | nested parentKind field =>
      have hne : parentKind ≠ kind := by
        rintro rfl
        have hcollection := Kind.location_of_parent
          (Kind.parent_eq_some_iff.mpr ⟨field, hlocation⟩)
        rw [h] at hcollection
        cases hcollection
      rw [hasLists_nested hlocation] at hlists ⊢
      rwa [tops_set, if_neg hne]

/-! ## Deleting -/

theorem erase_of_not_mem {t : Tree} {kind : Kind} {parent : Option String} {name : String}
    (h : name ∉ t.names kind parent) : t.erase kind parent name = t := by
  simp [erase, h]

theorem erase_of_firstNamed {t : Tree} {kind : Kind} {parent : Option String} {name : String}
    {items : List Value} (hitems : t.items? kind parent = some items)
    (hmem : name ∈ t.names kind parent) {before after : List Record} {removed : Record}
    (h : FirstNamed name (items.filterMap Value.object?) before removed after) :
    ∃ rest, rest.filterMap Value.object? = before ++ after ∧
      t.erase kind parent name =
        ((t.setItems kind parent rest).dropAllReferences kind parent removed).2 := by
  obtain ⟨rest, htake, hrest⟩ := takeNamed_of_firstNamed h
  exact ⟨rest, hrest, by simp [erase, hmem, hitems, htake]⟩

theorem takeNamed_sublist {name : String} {removed : Record} {items rest : List Value}
    (h : takeNamed name items = some (removed, rest)) : rest.Sublist items := by
  induction items generalizing rest with
  | nil => cases h
  | cons item items ih =>
      cases item with
      | object head =>
          unfold takeNamed at h
          split at h
          · obtain ⟨rfl, rfl⟩ := Prod.mk.inj (Option.some.inj h)
            exact List.sublist_cons_self _ _
          · obtain ⟨⟨taken, left⟩, hleft, heq⟩ := Option.map_eq_some_iff.mp h
            obtain ⟨rfl, rfl⟩ := Prod.mk.inj heq
            exact (ih hleft).cons_cons _
      | null | bool _ | number _ | text _ | list _ =>
          obtain ⟨⟨taken, left⟩, hleft, heq⟩ := Option.map_eq_some_iff.mp h
          obtain ⟨rfl, rfl⟩ := Prod.mk.inj heq
          exact (ih hleft).cons_cons _

/-- Deleting keeps what shorter lists and dropped references keep. -/
theorem erase_preserves {P : Tree → Prop} {t : Tree} (h : P t) {kind : Kind}
    {parent : Option String}
    (hwrite : ∀ items rest, t.items? kind parent = some items → rest.Sublist items →
      P (t.setItems kind parent rest))
    (hdrop : ∀ u removed, P u → P (u.dropAllReferences kind parent removed).2) (name : String) :
    P (t.erase kind parent name) := by
  unfold erase
  split
  · split
    · exact h
    · next items hitems =>
        split
        · next removed rest htake =>
            exact hdrop _ removed (hwrite items rest hitems (takeNamed_sublist htake))
        · exact hwrite items items hitems (.refl _)
  · exact h

/-- What deleting may come to, wherever the list of the record is. -/
theorem erase_cases (t : Tree) (kind : Kind) (parent : Option String) (name : String) :
    t.erase kind parent name = t ∨
      ∃ items new, t.items? kind parent = some items ∧
        (t.erase kind parent name = t.setItems kind parent new ∨
          ∃ removed, t.erase kind parent name =
            ((t.setItems kind parent new).dropAllReferences kind parent removed).2) := by
  unfold erase
  split
  · split
    · exact .inl rfl
    · next items hitems =>
        split
        · next removed rest _ => exact .inr ⟨items, rest, hitems, .inr ⟨removed, rfl⟩⟩
        · exact .inr ⟨items, items, hitems, .inl rfl⟩
  · exact .inl rfl

end Tree

end Blueprint
