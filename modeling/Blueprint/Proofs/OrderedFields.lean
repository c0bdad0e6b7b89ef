import Blueprint.Proofs.InPlace
import Blueprint.Proofs.Operations
import Blueprint.Proofs.Runs

/-!
# Fields in order

Where a field is put that a record does not have yet depends on the order of the fields it
has. Calls whose fields stand in the order of their names, in every record that they give,
leave only such records in a tree, so a record of a run can be written over itself.
-/

namespace Blueprint

mutual

/-- Whether every record in a value lists its fields in order. -/
def Value.inOrder : Value → Bool
  | .null | .bool _ | .number _ | .text _ => true
  | .list items => Value.itemsInOrder items
  | .object fields => decide (Record.Ordered fields) && Value.fieldsInOrder fields

def Value.itemsInOrder : List Value → Bool
  | [] => true
  | item :: rest => item.inOrder && Value.itemsInOrder rest

def Value.fieldsInOrder : List (String × Value) → Bool
  | [] => true
  | (_, value) :: rest => value.inOrder && Value.fieldsInOrder rest

end

/-- Whether a record and every record in it list their fields in order. -/
def Record.inOrder (r : Record) : Bool := (Value.object r).inOrder

/-- Whether every record of a tree lists its fields in order. -/
def Tree.inOrder (t : Tree) : Bool := t.root.inOrder

namespace Value

theorem inOrder_list_iff {items : List Value} :
    (list items).inOrder ↔ ∀ item ∈ items, item.inOrder := by
  rw [inOrder]
  induction items with
  | nil => simp [itemsInOrder]
  | cons item rest ih => simp [itemsInOrder, ih]

theorem fieldsInOrder_iff {fields : List (String × Value)} :
    fieldsInOrder fields ↔ ∀ entry ∈ fields, entry.2.inOrder := by
  induction fields with
  | nil => simp [fieldsInOrder]
  | cons entry rest ih => simp [fieldsInOrder, ih]

end Value

namespace Record

variable {r fields : Record} {value : Value}

theorem inOrder_iff : r.inOrder ↔ r.Ordered ∧ ∀ entry ∈ r, entry.2.inOrder := by
  rw [inOrder, Value.inOrder, Bool.and_eq_true, decide_eq_true_iff, Value.fieldsInOrder_iff]

/-! ## Setting fields -/

theorem mem_insert {entry : String × Value} {field : String} (h : entry ∈ insert field value r) :
    entry = (field, value) ∨ entry ∈ r := by
  induction r with
  | nil => exact .inl (List.mem_singleton.mp h)
  | cons first rest ih =>
      obtain ⟨key, old⟩ := first
      unfold insert at h
      split at h
      · next hkey =>
          subst hkey
          exact (List.mem_cons.mp h).imp_right (List.mem_cons_of_mem _)
      · split at h
        · exact List.mem_cons.mp h
        · rcases List.mem_cons.mp h with rfl | hrest
          · exact .inr List.mem_cons_self
          · exact (ih hrest).imp_right (List.mem_cons_of_mem _)

theorem Ordered.insert (h : r.Ordered) (field : String) (value : Value) :
    (insert field value r).Ordered := by
  induction r with
  | nil => exact List.pairwise_singleton _ _
  | cons first rest ih =>
      obtain ⟨key, old⟩ := first
      obtain ⟨hfirst, hrest⟩ := List.pairwise_cons.mp h
      unfold Record.insert
      split
      · exact h
      · next hne =>
          split
          · next hlt =>
              refine List.pairwise_cons.mpr ⟨List.forall_mem_cons.mpr ⟨hlt, ?_⟩, h⟩
              exact fun other hother => hlt.trans (hfirst other hother)
          · next hnot =>
              refine List.pairwise_cons.mpr ⟨fun other hother => ?_, ih hrest⟩
              obtain ⟨entry, hentry, rfl⟩ := List.mem_map.mp hother
              rcases mem_insert hentry with rfl | hmem
              · exact lt_of_le_of_ne (not_lt.mp hnot) (Ne.symm hne)
              · exact hfirst _ (List.mem_map_of_mem hmem)

theorem inOrder_insert (h : r.inOrder) (hvalue : value.inOrder) (field : String) :
    (insert field value r).inOrder := by
  obtain ⟨hordered, hvalues⟩ := inOrder_iff.mp h
  refine inOrder_iff.mpr ⟨hordered.insert field value, fun entry hentry => ?_⟩
  rcases mem_insert hentry with rfl | hmem
  · exact hvalue
  · exact hvalues entry hmem

theorem inOrder_extend (h : r.inOrder) (hfields : fields.inOrder) : (r.extend fields).inOrder := by
  have hvalues := (inOrder_iff.mp hfields).2
  exact List.foldlRecOn (motive := fun merged : Record => merged.inOrder) fields _ h
    fun merged hmerged entry hentry => inOrder_insert hmerged (hvalues entry hentry) entry.1

theorem inOrder_mapValues {f : String → Value → Value} (h : r.inOrder)
    (hf : ∀ key value, value.inOrder → (f key value).inOrder) : (mapValues f r).inOrder := by
  obtain ⟨hordered, hvalues⟩ := inOrder_iff.mp h
  refine inOrder_iff.mpr ⟨ordered_mapValues.mpr hordered, ?_⟩
  clear h hordered
  induction r generalizing f with
  | nil => exact fun _ hentry => nomatch hentry
  | cons first rest ih =>
      obtain ⟨hfirst, hrest⟩ := List.forall_mem_cons.mp hvalues
      refine List.forall_mem_cons.mpr ⟨hf _ _ hfirst, ih (fun key value hvalue => ?_) hrest⟩
      split
      · exact hvalue
      · exact hf key value hvalue

theorem inOrder_modify {f : Value → Value} (h : r.inOrder)
    (hf : ∀ value, value.inOrder → (f value).inOrder) (field : String) :
    (r.modify field f).inOrder := by
  rw [modify_eq_mapValues]
  refine inOrder_mapValues h fun key value hvalue => ?_
  split
  · exact hf value hvalue
  · exact hvalue

theorem inOrder_of_get? (h : r.inOrder) {field : String} (hvalue : r.get? field = some value) :
    value.inOrder :=
  (inOrder_iff.mp h).2 _ (mem_of_get? hvalue)

theorem inOrder_of_object? (h : r.inOrder) {field : String} {held : Record}
    (hheld : r.object? field = some held) : held.inOrder := by
  obtain ⟨value, hvalue, hobject⟩ := Option.bind_eq_some_iff.mp hheld
  obtain rfl := Value.object?_eq_some_iff.mp hobject
  exact inOrder_of_get? h hvalue

theorem inOrder_of_list? (h : r.inOrder) {field : String} {items : List Value}
    (hitems : r.list? field = some items) : (Value.list items).inOrder := by
  obtain ⟨value, hvalue, hlist⟩ := Option.bind_eq_some_iff.mp hitems
  obtain rfl := Value.list?_eq_some_iff.mp hlist
  exact inOrder_of_get? h hvalue

theorem inOrder_of_mem_records (h : r.inOrder) {field : String} {held : Record}
    (hheld : held ∈ r.records field) : held.inOrder := by
  obtain ⟨item, hitem, hobject⟩ := List.mem_filterMap.mp hheld
  obtain rfl := Value.object?_eq_some_iff.mp hobject
  cases hitems : r.list? field with
  | none => simp [hitems] at hitem
  | some items =>
      rw [hitems] at hitem
      exact Value.inOrder_list_iff.mp (inOrder_of_list? h hitems) _ hitem

end Record

/-! ## Changing values -/

namespace Value

variable {value : Value} {items : List Value}

theorem inOrder_mapObject {f : Record → Record} (hf : ∀ r : Record, r.inOrder → (f r).inOrder)
    (h : value.inOrder) : (mapObject f value).inOrder := by
  cases value with
  | object r => exact hf r h
  | null | bool _ | number _ | text _ | list _ => exact h

theorem inOrder_map {f : Value → Value} (hf : ∀ item : Value, item.inOrder → (f item).inOrder)
    (h : (list items).inOrder) : (list (items.map f)).inOrder := by
  rw [inOrder_list_iff, List.forall_mem_map]
  exact fun item hitem => hf item (inOrder_list_iff.mp h item hitem)

theorem inOrder_filterMap {f : Value → Option Value}
    (hf : ∀ item changed : Value, item.inOrder → f item = some changed → changed.inOrder)
    (h : (list items).inOrder) : (list (items.filterMap f)).inOrder := by
  refine inOrder_list_iff.mpr fun changed hchanged => ?_
  obtain ⟨item, hitem, heq⟩ := List.mem_filterMap.mp hchanged
  exact hf item changed (inOrder_list_iff.mp h item hitem) heq

theorem inOrder_mapItems {f : Record → Record} (hf : ∀ r : Record, r.inOrder → (f r).inOrder)
    (h : value.inOrder) : (mapItems f value).inOrder := by
  cases value with
  | list items => exact inOrder_map (fun _ => inOrder_mapObject hf) h
  | null | bool _ | number _ | text _ | object _ => exact h

theorem inOrder_mapPlaced {kind : Kind} {f : Record → Record}
    (hf : ∀ r : Record, r.inOrder → (f r).inOrder) (h : value.inOrder) :
    (mapPlaced kind f value).inOrder := by
  unfold mapPlaced
  cases kind.location with
  | single => exact inOrder_mapObject hf h
  | collection | nested _ _ => exact inOrder_mapItems hf h

theorem inOrder_reviseName (judge : String → Verdict) (h : value.inOrder) :
    (reviseName judge value).inOrder := by
  unfold reviseName
  split
  · exact h
  · rfl
  · rfl

theorem inOrder_reviseNames (judge : String → Verdict) (h : value.inOrder) :
    (reviseNames judge value).inOrder := by
  cases value with
  | list items =>
      refine inOrder_filterMap (fun item changed hitem hchanged => ?_) h
      unfold reviseEntry at hchanged
      split at hchanged
      · obtain rfl := Option.some.inj hchanged
        exact hitem
      · obtain rfl := Option.some.inj hchanged
        rfl
      · cases hchanged
  | null | bool _ | number _ | text _ | object _ => exact h

theorem inOrder_reviseFieldEntries (field : String) (judge : String → Verdict)
    (h : value.inOrder) : (reviseFieldEntries field judge value).inOrder := by
  cases value with
  | list items =>
      refine inOrder_filterMap (fun item changed hitem hchanged => ?_) h
      cases item with
      | object r =>
          simp only [reviseFieldEntry] at hchanged
          split at hchanged
          · obtain rfl := Option.some.inj hchanged
            exact hitem
          · obtain rfl := Option.some.inj hchanged
            exact Record.inOrder_insert hitem rfl field
          · cases hchanged
      | null | bool _ | number _ | text _ | list _ =>
          obtain rfl := Option.some.inj hchanged
          exact hitem
  | null | bool _ | number _ | text _ | object _ => exact h

end Value

theorem Arity.inOrder_revise (arity : Arity) (judge : String → Verdict) {value : Value}
    (h : value.inOrder) : (arity.revise judge value).inOrder := by
  cases arity with
  | one => exact Value.inOrder_reviseName judge h
  | many => exact Value.inOrder_reviseNames judge h

theorem Reference.inOrder_reviseAt (reference : Reference) (judge : String → Verdict)
    {value : Value} (h : value.inOrder) : (reference.reviseAt judge value).inOrder := by
  unfold reviseAt
  cases reference.path with
  | field _ => exact reference.arity.inOrder_revise judge h
  | inside _ field =>
      refine Value.inOrder_mapObject (fun r hr => ?_) h
      exact Record.inOrder_modify hr (fun _ => reference.arity.inOrder_revise judge) field
  | each _ field => exact Value.inOrder_reviseFieldEntries field judge h

theorem Record.inOrder_reviseBy {r : Record} (h : r.inOrder) (references : List Reference)
    (judge : Reference → String → Verdict) : (r.reviseBy references judge).inOrder := by
  refine inOrder_mapValues h fun key value hvalue => ?_
  split
  · next reference _ => exact reference.inOrder_reviseAt (judge reference) hvalue
  · exact hvalue

theorem Kind.inOrder_mapHeld {kind : Kind} {f : Kind → Option String → Record → Record}
    (hf : ∀ child q (r : Record), r.inOrder → (f child q r).inOrder) {r : Record}
    (h : r.inOrder) : (kind.mapHeld f r).inOrder := by
  refine Record.inOrder_mapValues h fun key value hvalue => ?_
  split
  · exact Value.inOrder_mapItems (hf _ _) hvalue
  · exact hvalue

theorem Kind.inOrder_linkTo (kind : Kind) (name : String) {r : Record} (h : r.inOrder) :
    (kind.linkTo name r).inOrder := by
  unfold linkTo
  split
  · next link _ => exact Record.inOrder_insert h rfl link
  · exact h

/-! ## What schemas do -/

namespace AccessGroup

theorem inOrder_nameInvitations {r : Record} (h : r.inOrder) : (nameInvitations r).inOrder := by
  unfold nameInvitations
  split
  · next invites hinvites =>
      have hname : (Value.text r.label).inOrder := rfl
      have hinner := Record.inOrder_insert (Record.inOrder_of_object? h hinvites) hname "group"
      exact Record.inOrder_insert h hinner "invites"
  · have hkeys : ["group", "ibm_ids"].Pairwise (· < ·) := by decide
    have hgroup : Record.inOrder [("group", .text r.label), ("ibm_ids", .list [])] :=
      Record.inOrder_iff.mpr ⟨hkeys, by simp [Value.inOrder, Value.itemsInOrder]⟩
    exact Record.inOrder_insert h hgroup "invites"

end AccessGroup

namespace TransitGateway

theorem inOrder_addressConnections {r : Record} (h : r.inOrder) :
    (addressConnections r).inOrder := by
  unfold addressConnections
  split
  · refine Record.inOrder_modify h (fun value hvalue => ?_) "connections"
    cases value with
    | list items =>
        refine Value.inOrder_map (fun item hitem => ?_) hvalue
        cases item with
        | object connection => exact Record.inOrder_insert hitem rfl "tgw"
        | null | bool _ | number _ | text _ | list _ => exact hitem
    | null | bool _ | number _ | text _ | object _ => exact hvalue
  · exact h

end TransitGateway

namespace AccountSettings

theorem inOrder_saved {t : Tree} {stored merged : Record} (h : merged.inOrder) :
    (saved t stored merged).2.inOrder := by
  obtain ⟨hordered, hvalues⟩ := Record.inOrder_iff.mp h
  unfold saved
  split
  · refine Record.inOrder_iff.mpr ⟨?_, List.forall_mem_map.mpr fun entry hentry => ?_⟩
    · simpa only [Record.Ordered, List.map_map, Function.comp_def] using hordered
    · dsimp only
      split
      · exact hvalues entry hentry
      · rfl
  · exact h

end AccountSettings

namespace Tree

variable {t u : Tree} {kind : Kind} {parent : Option String} {items : List Value}

theorem inOrder_mapTop {f : Kind → Record → Record} (h : t.inOrder)
    (hf : ∀ top (r : Record), r.inOrder → (f top r).inOrder) : (t.mapTop f).inOrder := by
  refine Record.inOrder_mapValues h fun key value hvalue => ?_
  split
  · exact Value.inOrder_mapPlaced (hf _) hvalue
  · exact hvalue

theorem inOrder_reviseAll (h : t.inOrder) (judge : Judge) : (t.reviseAll judge).inOrder := by
  refine inOrder_mapTop h fun top r hr => Record.inOrder_reviseBy ?_ _ _
  exact Kind.inOrder_mapHeld (fun _ _ _ hheld => Record.inOrder_reviseBy hheld _ _) hr

theorem inOrder_mapRecords (h : t.inOrder) (hkind : kind.parent = none) {f : Record → Record}
    (hf : ∀ r : Record, r.inOrder → (f r).inOrder) : (t.mapRecords kind f).inOrder := by
  rw [mapRecords_eq t hkind]
  refine inOrder_mapTop h fun top r hr => ?_
  split
  · exact hf r hr
  · exact hr

end Tree

namespace Options

variable {t : Tree} {r stored merged : Record}

theorem inOrder_prefixOfSubnet (h : r.inOrder) (vpc : String) :
    (prefixOfSubnet vpc r).inOrder := by
  have hcopied : ∀ field, ((r.get? field).getD .null).inOrder := by
    intro field
    cases hvalue : r.get? field with
    | none => rfl
    | some value => exact Record.inOrder_of_get? h hvalue
  have hkeys : ["cidr", "name", "vpc", "zone"].Pairwise (· < ·) := by decide
  refine Record.inOrder_iff.mpr ⟨hkeys, ?_⟩
  simp [hcopied, Value.inOrder]

theorem inOrder_pinPrefixes (h : r.inOrder) : (pinPrefixes r).inOrder := by
  refine Record.inOrder_insert h (Value.inOrder_list_iff.mpr ?_) "address_prefixes"
  rw [List.forall_mem_map]
  intro subnet hsubnet
  exact inOrder_prefixOfSubnet (Record.inOrder_of_mem_records h hsubnet) r.label

theorem inOrder_moveLocations (h : t.inOrder) : (moveLocations t stored merged).inOrder := by
  unfold moveLocations
  split
  · split
    · exact h
    · refine Tree.inOrder_mapRecords h rfl fun r hr => ?_
      refine Record.inOrder_modify hr (fun value hvalue => ?_) "locations"
      cases value with
      | list items =>
          refine Value.inOrder_map (fun item hitem => ?_) hvalue
          split
          · rfl
          · exact hitem
      | null | bool _ | number _ | text _ | object _ => exact hvalue
  · exact h

theorem inOrder_saved (h : t.inOrder) : (saved t stored merged).1.inOrder := by
  apply inOrder_moveLocations
  split
  · exact Tree.inOrder_mapRecords h rfl fun _ => inOrder_pinPrefixes
  · exact h

end Options

namespace Kind

theorem inOrder_defaultRecord (kind : Kind) : kind.schema.defaultRecord.inOrder := by
  cases kind <;> rfl

theorem inOrder_created (kind : Kind) {r : Record} (h : r.inOrder) :
    (kind.schema.created r).inOrder := by
  cases kind with
  | accessGroup => exact AccessGroup.inOrder_nameInvitations h
  | _ => exact h

theorem inOrder_saved (kind : Kind) {t : Tree} (ht : t.inOrder) (stored : Record)
    {merged : Record} (h : merged.inOrder) :
    (kind.schema.saved t stored merged).1.inOrder ∧
      (kind.schema.saved t stored merged).2.inOrder := by
  cases kind with
  | accessGroup => exact ⟨ht, AccessGroup.inOrder_nameInvitations h⟩
  | transitGateway => exact ⟨ht, TransitGateway.inOrder_addressConnections h⟩
  | options => exact ⟨Options.inOrder_saved ht, h⟩
  | accountSettings =>
      refine ⟨?_, AccountSettings.inOrder_saved h⟩
      simp only [schema, AccountSettings.schema, AccountSettings.saved]
      split <;> exact ht
  | _ => exact ⟨ht, h⟩

end Kind

theorem Draft.inOrder_recordOf (kind : Kind) {fields : Record} (h : fields.inOrder)
    (parent : Option String) : (recordOf kind fields parent).inOrder := by
  have hmerged := Record.inOrder_extend kind.inOrder_defaultRecord h
  apply kind.inOrder_created
  split
  · exact Record.inOrder_insert hmerged rfl _
  · exact hmerged

/-! ## What calls leave in a tree -/

namespace Tree

variable {t u : Tree} {kind : Kind} {parent : Option String} {items : List Value}

theorem inOrder_set (h : t.inOrder) (key : String) {value : Value} (hvalue : value.inOrder) :
    (t.set key value).inOrder := Record.inOrder_insert h hvalue key

theorem inOrder_of_mem_entries (h : t.inOrder) {q : Option String} {r : Record}
    (hentry : (q, r) ∈ t.entries kind) : r.inOrder := by
  have htops : ∀ {top : Kind} {r : Record}, top.parent = none → r ∈ t.tops top → r.inOrder := by
    intro top r hparent hr
    rcases Kind.parent_eq_none_iff.mp hparent with hlocation | hlocation
    · rw [tops_eq_single t hlocation, Option.mem_toList] at hr
      exact Record.inOrder_of_object? h hr
    · rw [tops_eq_topLevel t hlocation] at hr
      exact Record.inOrder_of_mem_records h hr
  cases hparent : kind.parent with
  | none => exact htops hparent ((mem_entries_of_top hparent).mp hentry).2
  | some parentKind =>
      obtain ⟨field, hlocation⟩ := Kind.parent_eq_some_iff.mp hparent
      obtain ⟨holder, hholder, _, hr⟩ := (mem_entries_of_nested hlocation).mp hentry
      exact Record.inOrder_of_mem_records (htops (Kind.parent_of_holder hparent) hholder) hr

theorem ordered_of_inOrder (h : t.inOrder) : t.Ordered :=
  ⟨(Record.inOrder_iff.mp h).1, fun _ _ hentry =>
    (Record.inOrder_iff.mp (inOrder_of_mem_entries h hentry)).1⟩

theorem inOrder_of_items? (h : t.inOrder) (hitems : t.items? kind parent = some items) :
    (Value.list items).inOrder := by
  have hfield : ∀ {r : Record} {field : String}, r.inOrder → itemsIn? field r = some items →
      (Value.list items).inOrder := by
    intro r field hr hitems
    unfold itemsIn? at hitems
    split at hitems
    · obtain rfl := Option.some.inj hitems
      rfl
    · next value hvalue =>
        obtain rfl := Value.list?_eq_some_iff.mp hitems
        exact Record.inOrder_of_get? hr hvalue
  unfold items? at hitems
  split at hitems
  · cases hitems
  · exact hfield h hitems
  · next parentKind field _ =>
      simp only [Option.bind_eq_bind, Option.bind_eq_some_iff] at hitems
      obtain ⟨name, _, holder, hholder, hitems⟩ := hitems
      exact hfield (Record.inOrder_of_mem_records h (List.mem_of_find?_eq_some hholder)) hitems

theorem inOrder_modifyNamed {name : String} {f : Record → Record}
    (hf : ∀ r : Record, r.inOrder → (f r).inOrder) {changed : List Value}
    (h : (Value.list items).inOrder) (hchanged : modifyNamed name f items = some changed) :
    (Value.list changed).inOrder := by
  rw [Value.inOrder_list_iff] at h ⊢
  induction items generalizing changed with
  | nil => cases hchanged
  | cons item rest ih =>
      obtain ⟨hitem, hrest⟩ := List.forall_mem_cons.mp h
      have hlater : ∀ {later : List Value}, modifyNamed name f rest = some later →
          ∀ entry ∈ item :: later, entry.inOrder :=
        fun hlater => List.forall_mem_cons.mpr ⟨hitem, ih hrest hlater⟩
      cases item with
      | object r =>
          unfold modifyNamed at hchanged
          split at hchanged
          · obtain rfl := Option.some.inj hchanged
            exact List.forall_mem_cons.mpr ⟨hf r hitem, hrest⟩
          · obtain ⟨later, hmodified, rfl⟩ := Option.map_eq_some_iff.mp hchanged
            exact hlater hmodified
      | null | bool _ | number _ | text _ | list _ =>
          obtain ⟨later, hmodified, rfl⟩ := Option.map_eq_some_iff.mp hchanged
          exact hlater hmodified

theorem inOrder_setItems (h : t.inOrder) (hitems : (Value.list items).inOrder) (kind : Kind)
    (parent : Option String) : (t.setItems kind parent items).inOrder := by
  unfold setItems
  split
  · exact inOrder_set h _ hitems
  · next parentKind field name _ =>
      cases hchanged : t.modifyRecord? parentKind name (·.insert field (.list items)) with
      | none => exact h
      | some u =>
          simp only [modifyRecord?, Option.bind_eq_bind, Option.bind_eq_some_iff,
            Option.pure_def, Option.some.injEq] at hchanged
          obtain ⟨holders, hholders, changed, hmodified, rfl⟩ := hchanged
          refine inOrder_set h _ (inOrder_modifyNamed (fun r hr => ?_)
            (Record.inOrder_of_list? h hholders) hmodified)
          exact Record.inOrder_insert hr hitems field
  · exact h

theorem inOrder_replaceRecord {r : Record} (hr : r.inOrder) (index : Nat)
    (h : (Value.list items).inOrder) : (Value.list (replaceRecord r index items)).inOrder := by
  rw [Value.inOrder_list_iff] at h ⊢
  fun_induction replaceRecord r index items with
  | case1 => exact h
  | case2 => exact List.forall_mem_cons.mpr ⟨hr, (List.forall_mem_cons.mp h).2⟩
  | case3 _ _ _ ih => exact List.forall_mem_cons.mpr ((List.forall_mem_cons.mp h).imp_right ih)
  | case4 _ _ _ _ _ ih => exact List.forall_mem_cons.mpr ((List.forall_mem_cons.mp h).imp_right ih)

theorem inOrder_kept {draft : Draft} (h : draft.record.inOrder) (t : Tree) (kind : Kind)
    (parent : Option String) (old : String) : (t.kept kind parent old draft).inOrder := by
  have hreconciled : (t.reconcileRecord kind parent draft.record).2.inOrder := by
    rw [reconcileRecord_eq]
    exact Record.inOrder_reviseBy h _ _
  unfold kept
  split
  · rw [linkHeldRecords_eq]
    exact Kind.inOrder_mapHeld (fun child _ _ => child.inOrder_linkTo draft.name) hreconciled
  · exact hreconciled

theorem inOrder_saveSingle (h : t.inOrder) (kind : Kind) {fields : Record}
    (hfields : fields.inOrder) : (t.saveSingle kind fields).inOrder := by
  have hstored : ((t.single? kind).getD []).inOrder := by
    cases hsingle : t.single? kind with
    | none => rfl
    | some r => exact Record.inOrder_of_object? h hsingle
  obtain ⟨hprepared, hmerged⟩ := kind.inOrder_saved h ((t.single? kind).getD [])
    (Record.inOrder_extend hstored hfields)
  rw [saveSingle_eq, reconcileRecord_eq]
  exact inOrder_set hprepared _ (Record.inOrder_reviseBy hmerged _ _)

theorem inOrder_saveNamed (h : t.inOrder) (hsingle : kind.location ≠ .single) {fields : Record}
    (hfields : fields.inOrder) {op : Context} (hu : t.saveNamed kind fields op = .ok u) :
    u.inOrder := by
  obtain ⟨parent, before, stored, after, name, _, hfirst, _, _, hstore⟩ :=
    saveNamed_eq_ok hsingle hu
  obtain ⟨items, hitems, rfl⟩ := store_eq_ok hstore
  obtain ⟨_, hentry, _⟩ := mem_collection.mp hfirst.mem
  have hmerged := Record.inOrder_extend (inOrder_of_mem_entries h hentry) hfields
  apply settled_preserves (P := fun u => u.inOrder) fun _ judge hv => inOrder_reviseAll hv judge
  apply inOrder_setItems h
  exact inOrder_replaceRecord (inOrder_kept (kind.inOrder_saved h stored hmerged).2 t kind _ _) _
    (inOrder_of_items? h hitems)

theorem inOrder_create (h : t.inOrder) {fields : Record} (hfields : fields.inOrder) {op : Context}
    (hu : t.create kind fields op = .ok u) : u.inOrder := by
  obtain ⟨draft, items, hdraft, _, hitems, rfl⟩ := create_eq_ok hu
  obtain ⟨_, _, hrecord, _⟩ := Draft.ofFields_eq_ok hdraft
  apply inOrder_setItems h
  rw [Value.inOrder_list_iff, List.forall_mem_append, List.forall_mem_singleton, hrecord]
  exact ⟨Value.inOrder_list_iff.mp (inOrder_of_items? h hitems),
    Draft.inOrder_recordOf kind hfields draft.parent⟩

theorem inOrder_erase (h : t.inOrder) (kind : Kind) (parent : Option String) (name : String) :
    (t.erase kind parent name).inOrder := by
  refine erase_preserves (P := fun u => u.inOrder) h (fun items rest hitems hrest => ?_)
    (fun u removed hu => dropAllReferences_preserves (P := fun u => u.inOrder)
      (fun _ judge hv => inOrder_reviseAll hv judge) hu kind parent removed) name
  have hstored := Value.inOrder_list_iff.mp (inOrder_of_items? h hitems)
  exact inOrder_setItems h (Value.inOrder_list_iff.mpr fun item hitem =>
    hstored item (hrest.subset hitem)) kind parent

theorem inOrder_apply (h : t.inOrder) {call : Call} (hcall : call.fields.inOrder)
    (hu : t.apply call = .ok u) : u.inOrder := by
  cases accepts_of_apply hu with
  | create hu => exact inOrder_create h hcall hu
  | saveSingle _ fields _ => exact inOrder_saveSingle h _ hcall
  | saveNamed hsingle hu => exact inOrder_saveNamed h hsingle hcall hu
  | delete _ => exact inOrder_erase h _ _ _
  | reconcile => exact inOrder_reviseAll h _

theorem default_inOrder : default.inOrder := by decide +kernel

theorem inOrder_after {calls : List Call} (hcalls : ∀ call ∈ calls, call.fields.inOrder) :
    (default.after calls).inOrder :=
  after_preserves default_inOrder fun call hcall _ _ hu => inOrder_apply hu (hcalls call hcall)

end Tree

end Blueprint
