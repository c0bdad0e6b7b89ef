import Blueprint.Proofs.Consistency
import Blueprint.Proofs.OrderedFields
import Blueprint.Proofs.SavedProperties

/-!
# Saving back

A record that is saved with the fields it has is merged into itself, and then its kind, the
reconciliation and the cascades all find it as they would leave it. For access groups this
takes invitations that carry the name of their group, as those of a run do. Transit gateways
are left out: connections that a new one is given may be changed by the first save.
-/

namespace Blueprint

/-! ## Setting fields to what they are -/

namespace Record

variable {r : Record}

theorem insert_of_get? (h : r.Ordered) {field : String} {value : Value}
    (hvalue : r.get? field = some value) : insert field value r = r := by
  rw [insert_eq_modify h hvalue fun value => value]
  exact modify_of_same fun _ _ => rfl

theorem get?_of_mem (h : r.Ordered) {entry : String × Value} (hentry : entry ∈ r) :
    r.get? entry.1 = some entry.2 := by
  induction r with
  | nil => cases hentry
  | cons first rest ih =>
      obtain ⟨hfirst, hrest⟩ := List.pairwise_cons.mp h
      rw [get?_cons]
      rcases List.mem_cons.mp hentry with rfl | hmem
      · rw [if_pos rfl]
      · rw [if_neg (hfirst entry.1 (List.mem_map_of_mem hmem)).ne', ih hrest hmem]

theorem extend_self (h : r.Ordered) : r.extend r = r := by
  refine List.foldlRecOn (motive := fun merged => merged = r) r _ rfl ?_
  rintro _ rfl entry hentry
  exact insert_of_get? h (get?_of_mem h hentry)

end Record

/-! ## Invitations -/

namespace AccessGroup

variable {r : Record}

/-- The invitations of a group carry its name. -/
def Invited (r : Record) : Prop :=
  ∃ invites, r.object? "invites" = some invites ∧ invites.get? "group" = some (.text r.label)

theorem invited_congr {u : Record} (hinvites : u.get? "invites" = r.get? "invites")
    (hname : u.get? "name" = r.get? "name") (h : Invited r) : Invited u := by
  have hlabel : u.label = r.label := by
    rw [Record.label, Record.textOr, Record.text?, hname]
    rfl
  unfold Invited at h ⊢
  rwa [Record.object?, hinvites, hlabel]

theorem invited_nameInvitations (r : Record) : Invited (nameInvitations r) := by
  have hinsert : ∀ invites : Record, invites.get? "group" = some (.text r.label) →
      Invited (r.insert "invites" (.object invites)) := by
    intro invites hgroup
    have hlabel : (r.insert "invites" (.object invites)).label = r.label := by
      rw [Record.label, Record.textOr, Record.text?, Record.get?_insert_of_ne _ _ (by decide)]
      rfl
    refine ⟨invites, ?_, hlabel ▸ hgroup⟩
    rw [Record.object?, Record.get?_insert_self]
    rfl
  unfold nameInvitations
  split
  · next invites _ => exact hinsert _ (Record.get?_insert_self _ _ _)
  · exact hinsert _ rfl

theorem establishes_invited : Kind.accessGroup.Establishes Invited where
  collection := rfl
  unwritten := by decide
  congr h hr := invited_congr (h "invites" (by decide)) (h "name" (by decide)) hr
  revise {r} judge hr := by
    have hnone : Kind.accessGroup.schema.references = [] := rfl
    have hsame : ∀ field, (r.reviseBy Kind.accessGroup.schema.references judge).get? field =
        r.get? field :=
      fun field => Record.get?_reviseBy_of_ne (by simp [hnone]) judge r
    exact invited_congr (hsame "invites") (hsame "name") hr
  saved _ _ merged _ _ := invited_nameInvitations merged

/-- Invitations that carry the name of their group are left alone. -/
theorem nameInvitations_eq (hordered : r.inOrder) (h : Invited r) : nameInvitations r = r := by
  obtain ⟨invites, hinvites, hgroup⟩ := h
  have hinner := (Record.inOrder_iff.mp (Record.inOrder_of_object? hordered hinvites)).1
  simp only [nameInvitations, hinvites, Record.insert_of_get? hinner hgroup]
  apply Record.insert_of_get? (Record.inOrder_iff.mp hordered).1
  obtain ⟨value, hvalue, hobject⟩ := Option.bind_eq_some_iff.mp hinvites
  rw [hvalue, Value.object?_eq_some_iff.mp hobject]

end AccessGroup

/-! ## What schemas do -/

/-- Where nothing is new, saving writes to no other record, and puts nothing right but the
invitations of groups and the connections of gateways. -/
theorem Kind.saved_self {kind : Kind} (hgateway : kind ≠ .transitGateway) {r : Record}
    (hgroup : kind = .accessGroup → AccessGroup.nameInvitations r = r) (t : Tree) :
    kind.schema.saved t r r = (t, r) := by
  cases kind with
  | transitGateway => exact absurd rfl hgateway
  | accessGroup => exact Prod.ext rfl (hgroup rfl)
  | options =>
      have hmove : Options.moveLocations t r r = t := by
        unfold Options.moveLocations
        split
        · next hold hnew => rw [if_pos (Option.some.inj (hold.symm.trans hnew))]
        · rfl
      simp [schema, Options.schema, Options.saved, hmove]
  | accountSettings => simp [schema, AccountSettings.schema, AccountSettings.saved,
      AccountSettings.isOff]
  | _ => rfl

namespace Tree

variable {t : Tree} {kind : Kind} {parent : Option String} {r : Record}

/-! ## Writing back -/

theorem modifyItems_id (t : Tree) (kind : Kind) (parent : Option String) :
    (t.modifyItems kind parent fun value => value) = t := by
  have hmodify : ∀ (field : String) (r : Record), (r.modify field fun value => value) = r :=
    fun field r => Record.modify_of_same fun _ _ => rfl
  unfold modifyItems
  split
  · rfl
  · rw [hmodify]
  · simp only [hmodify, ite_self, mapTop_id]

theorem replaceRecord_self {items : List Value} {before after : List Record}
    (h : items.filterMap Value.object? = before ++ r :: after) :
    replaceRecord r before.length items = items := by
  rw [replaceRecord_eq_map (f := fun r => r) h fun _ _ => rfl]
  exact Value.list.inj (Value.mapItems_id (.list items))

theorem saveSingle_self (hordered : t.Ordered) (hconsistent : t.Consistent)
    (hsingle : kind.location = .single) (hentry : (parent, r) ∈ t.entries kind)
    (hsaved : ∀ u, kind.schema.saved u r r = (u, r)) : t.saveSingle kind r = t := by
  have hreconcile := congrArg Prod.snd (hconsistent.reconcileRecord_eq hentry)
  have hextend := Record.extend_self (hordered.2 kind _ hentry)
  obtain ⟨rfl, hr⟩ := (mem_entries_of_top (Kind.parent_of_single hsingle)).mp hentry
  rw [tops_eq_single t hsingle, Option.mem_toList] at hr
  have hfound : t.single? kind = some r := hr
  obtain ⟨value, hvalue, hobject⟩ := Option.bind_eq_some_iff.mp hfound
  rw [Value.object?_eq_some_iff.mp hobject] at hvalue
  simp only [saveSingle, hfound, Option.getD_some, hextend, hsaved, hreconcile]
  exact congrArg Tree.mk (Record.insert_of_get? hordered.1 hvalue)

theorem saveNamed_self (hordered : t.Ordered) (hkeyed : t.Keyed) (hconsistent : t.Consistent)
    (hsingle : kind.location ≠ .single) (hentry : (parent, r) ∈ t.entries kind)
    (hsaved : ∀ u, kind.schema.saved u r r = (u, r)) {op : Context}
    (hop : op.addressed kind = .ok parent) (hname : op.name = r.name?) :
    t.saveNamed kind r op = .ok t := by
  have haddress := Context.addresses_of_addressed hop
  obtain ⟨name, hrowName⟩ :=
    (hkeyed.named_row hsingle (mem_rows.mpr ⟨parent, r, hentry, rfl⟩)).2
  have hnamed : r.name? = some name := hrowName
  have hcollection : r ∈ t.collection kind parent := mem_collection.mpr ⟨parent, hentry, .inr rfl⟩
  obtain ⟨before, after, hfirst⟩ :=
    FirstNamed.of_find? (hkeyed.find?_eq_some hsingle haddress hcollection hnamed)
  obtain ⟨beforeItems, afterItems, hitems⟩ := hkeyed.exists_items? hsingle hentry
  obtain ⟨_, _, hplace⟩ := hkeyed.exists_place haddress hitems
  have hold : op.name.getD "" = name := by rw [hname, hnamed, Option.getD_some]
  have hkept : t.kept kind parent name ⟨parent, name, r⟩ = r := by
    simp only [kept, ne_eq, not_true_eq_false, if_false]
    exact congrArg Prod.snd (hconsistent.reconcileRecord_eq hentry)
  have hsettled : t.settled kind parent name name = t := by
    simp only [settled, ne_eq, not_true_eq_false, if_false]
    exact hconsistent.reconcileChildren_eq kind name
  have hreplace := replaceRecord_self (hplace.collection_eq ▸ hfirst.split)
  have hwrite := setItems_eq_modifyItems hordered hkeyed haddress hitems (by simp)
    (g := fun value => value) rfl
  rw [modifyItems_id] at hwrite
  rw [saveNamed_of_firstNamed t hop (hold ▸ hfirst) hsingle, hold,
    Record.extend_self (hordered.2 kind _ hentry)]
  simp only [hnamed, ne_eq, not_true_eq_false, false_and, if_false, hsaved, store_eq, hitems,
    hkept, hreplace, hwrite, hsettled]

theorem each_invited_after (calls : List Call) :
    (default.after calls).Each .accessGroup AccessGroup.Invited := by
  have hnone : default.tops .accessGroup = [] := by decide +kernel
  refine after_preserves (P := fun t => t.Each .accessGroup AccessGroup.Invited) ?_ ?_
  · simp [Each, hnone]
  · intro call _ u v hu hv
    refine (AccessGroup.establishes_invited.apply_iff hu hv).mpr fun fields op _ => ?_
    exact AccessGroup.invited_nameInvitations _

end Tree

/-- Saving a record back unchanged is a no-op. Where names are unique and nothing dangles,
any record of a run, single ones included, may be saved with its own fields under its own
name and parent, and the store stays as it is. The fields that calls give stand in order, as
they do in a map. -/
theorem run_saves_back {σ : Type} (seen : σ) {calls : List Call}
    (hcalls : ∀ call ∈ calls, call.fields.inOrder) {t : Tree}
    (ht : ((Store.new seen).run calls).snapshot = .ok t) (hkeyed : t.Keyed)
    (hconsistent : t.Consistent) {kind : Kind} (hgateway : kind ≠ .transitGateway)
    {parent : Option String} {r : Record} (hr : (parent, r) ∈ t.entries kind) {op : Context}
    (hop : kind.location = .single ∨ op.addressed kind = .ok parent ∧ op.name = r.name?) :
    ((Store.new seen).run calls).save kind r op = (.ok (), (Store.new seen).run calls) := by
  rw [Store.snapshot_run_new] at ht
  obtain rfl := Except.ok.inj ht
  have hinOrder := Tree.inOrder_after hcalls
  have hordered := Tree.ordered_of_inOrder hinOrder
  have hgroup : kind = .accessGroup → AccessGroup.nameInvitations r = r := by
    rintro rfl
    apply AccessGroup.nameInvitations_eq (Tree.inOrder_of_mem_entries hinOrder hr)
    exact Tree.each_invited_after calls r ((Tree.mem_entries_of_top rfl).mp hr).2
  have hsave : (Tree.default.after calls).save kind r op = .ok (Tree.default.after calls) := by
    have hsaved := Kind.saved_self hgateway hgroup
    unfold Tree.save
    by_cases hsingle : kind.location = .single
    · rw [if_pos hsingle, Tree.saveSingle_self hordered hconsistent hsingle hr hsaved]
    · obtain ⟨hop, hname⟩ := hop.resolve_left hsingle
      rw [if_neg hsingle, Tree.saveNamed_self hordered hkeyed hconsistent hsingle hr hsaved hop
        hname]
  rw [Store.run_new]
  have hperform := Store.perform_eq (Tree.default.after calls) seen (.save kind r op)
  rw [Tree.next, Tree.apply, hsave] at hperform
  exact hperform

/-- A group is given invitations that carry another name. -/
def sampleGroup : List Call := [
  .create .accessGroup [
    ("invites", .object [("group", .text "others"), ("ibm_ids", .texts ["ada"])]),
    ("name", .text "admins")] .blank,
  .create .accessPolicy [("name", .text "read"), ("roles", .texts ["Viewer"])]
    ⟨none, some "admins", []⟩]

theorem run_saves_back_group :
    (∀ call ∈ sampleGroup, call.fields.inOrder) ∧
    ∃ t r, ((Store.new ()).run sampleGroup).snapshot = .ok t ∧ t.Keyed ∧ t.Consistent ∧
      (none, r) ∈ t.entries .accessGroup ∧ r.name? = some "admins" ∧
      ((Store.new ()).run sampleGroup).save .accessGroup r (.editing "admins" none) =
        (.ok (), (Store.new ()).run sampleGroup) := by
  obtain ⟨hcalls, hgrounds, hplace⟩ : (∀ call ∈ sampleGroup, call.fields.inOrder) ∧
      Tree.default.groundsRun sampleGroup = true ∧
      ((Tree.default.after sampleGroup).entries .accessGroup)[0]?.map
        (fun entry => (entry.1, entry.2.name?)) = some (none, some "admins") := by
    decide +kernel
  have hsound := Tree.sound_after hgrounds
  have hkeyed := hsound.keyed
  have hconsistent := hsound.2
  obtain ⟨⟨_, r⟩, hentry, hnames⟩ := Option.map_eq_some_iff.mp hplace
  obtain ⟨rfl, hname⟩ := Prod.mk.inj hnames
  have hr := List.mem_of_getElem? hentry
  have hsnapshot := Store.snapshot_run_new () sampleGroup
  exact ⟨hcalls, _, r, hsnapshot, hkeyed, hconsistent, hr, hname,
    run_saves_back () hcalls hsnapshot hkeyed hconsistent (by decide) hr
      (.inr ⟨rfl, hname.symm⟩)⟩

end Blueprint
