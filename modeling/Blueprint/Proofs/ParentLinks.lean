import Blueprint.Proofs.Consistency

/-!
# Links to parents

Records of some kinds hold the name of their parent in a field of their own. Creating a
record writes it there over whatever the fields give, and renaming the parent writes it
anew into every record held. Saving a held record does neither: it takes the link from the
fields as it takes any other value. So the links of a run are right throughout exactly if
no save that is accepted gives another link than the name of the parent it addresses.
-/

namespace Blueprint

namespace Kind

variable {kind : Kind} {link : String}

theorem exists_location_of_parentLink (h : kind.schema.parentLink = some link) :
    ∃ parentKind field, kind.location = .nested parentKind field := by
  have hheld : (kind.schema.parentLink.isSome → kind.parent.isSome) := by
    cases kind <;> decide
  obtain ⟨parentKind, hparent⟩ := Option.isSome_iff_exists.mp (hheld (by rw [h]; rfl))
  obtain ⟨field, hlocation⟩ := parent_eq_some_iff.mp hparent
  exact ⟨parentKind, field, hlocation⟩

theorem created_of_parentLink (h : kind.schema.parentLink = some link) (r : Record) :
    kind.schema.created r = r := by
  cases kind with
  | accessGroup => cases h
  | _ => rfl

theorem saved_of_parentLink (h : kind.schema.parentLink = some link) (t : Tree)
    (stored merged : Record) : kind.schema.saved t stored merged = (t, merged) := by
  cases kind with
  | options | transitGateway | accountSettings | accessGroup => cases h
  | _ => rfl

theorem link_ne_root (h : kind.schema.parentLink = some link) :
    ∀ reference ∈ kind.schema.references, reference.path.root ≠ link := by
  have hplain := isPlain_parentLink h
  simp only [isPlain, Bool.and_eq_true, List.all_eq_true, decide_eq_true_eq] at hplain
  exact hplain.2

/-- A record names its parent, if its kind has a field for that. -/
def NamesParent (kind : Kind) (parent : Option String) (r : Record) : Prop :=
  ∀ link, kind.schema.parentLink = some link →
    ∃ name, parent = some name ∧ r.get? link = some (.text name)

theorem namesParent_linkTo (kind : Kind) (name : String) (r : Record) :
    kind.NamesParent (some name) (kind.linkTo name r) := by
  intro link hlink
  refine ⟨name, rfl, ?_⟩
  simp only [linkTo, hlink, Record.get?_insert_self]

/-- The records that a record holds name it. -/
def NamedByHeld (kind : Kind) (r : Record) : Prop :=
  ∀ (child : Kind) (field : String), child.location = .nested kind field →
    ∀ held ∈ r.records field, child.NamesParent r.name? held

theorem NamesParent.congr {parent : Option String} {first second : Record}
    (h : ∀ link, kind.schema.parentLink = some link → first.get? link = second.get? link) :
    kind.NamesParent parent first ↔ kind.NamesParent parent second := by
  refine forall₂_congr fun link hlink => ?_
  rw [h link hlink]

theorem NamedByHeld.congr {first second : Record} (hname : first.name? = second.name?)
    (hheld : ∀ (child : Kind) (field : String), child.location = .nested kind field →
      first.get? field = second.get? field) :
    kind.NamedByHeld first ↔ kind.NamedByHeld second := by
  refine forall₃_congr fun child field hlocation => ?_
  rw [hname, Record.records_eq, Record.records_eq, hheld child field hlocation]

theorem NamedByHeld.insert {holder : Record} (h : kind.NamedByHeld holder) {child : Kind}
    {field : String} (hlocation : child.location = .nested kind field) {new : List Value}
    (hnew : ∀ r ∈ new.filterMap Value.object?, child.NamesParent holder.name? r) :
    kind.NamedByHeld (holder.insert field (.list new)) := by
  intro other otherField hother held hheld
  rw [Record.name?_insert_of_ne _ _ (holdingField_ne_name hlocation)]
  by_cases hfield : otherField = field
  · subst hfield
    have hsame := (heldIn?_of_location hother).symm.trans (heldIn?_of_location hlocation)
    obtain rfl := Option.some.inj hsame
    rw [Record.records_eq, Record.get?_insert_self] at hheld
    exact hnew held (by simpa using hheld)
  · rw [Record.records_eq, Record.get?_insert_of_ne _ _ hfield, ← Record.records_eq] at hheld
    exact h other otherField hother held hheld

theorem namedByHeld_of_not_collection (h : kind.location ≠ .collection) (r : Record) :
    kind.NamedByHeld r := fun child field hlocation =>
  absurd (parent_eq_some_iff.mpr ⟨field, hlocation⟩) (parent_ne_of_not_collection h child)

end Kind

namespace Tree

variable {t u : Tree} {kind : Kind} {parent : Option String}

/-- Every record with a field for the name of its parent holds it there. -/
def Linked (t : Tree) : Prop :=
  ∀ kind, ∀ entry ∈ t.located kind, kind.NamesParent entry.parent entry.record

theorem linked_iff_entries :
    t.Linked ↔ ∀ kind, ∀ entry ∈ t.entries kind, kind.NamesParent entry.1 entry.2 := by
  simp only [Linked, entries, List.forall_mem_map]

theorem linked_iff : t.Linked ↔ ∀ kind, ∀ r ∈ t.tops kind, kind.NamedByHeld r := by
  rw [linked_iff_entries]
  constructor
  · intro h kind r hr child field hlocation held hheld
    exact h child (r.name?, held) ((mem_entries_of_nested hlocation).mpr ⟨r, hr, rfl, hheld⟩)
  · rintro h kind ⟨q, r⟩ hentry link hlink
    obtain ⟨parentKind, field, hlocation⟩ := Kind.exists_location_of_parentLink hlink
    obtain ⟨holder, hholder, rfl, hr⟩ := (mem_entries_of_nested hlocation).mp hentry
    exact h parentKind holder hholder kind field hlocation r hr link hlink

/-! ## What does not touch links -/

/-- A link is no reference: revisions leave it alone. -/
theorem linked_reviseAll (t : Tree) (judge : Judge) : (t.reviseAll judge).Linked ↔ t.Linked := by
  rw [linked_iff_entries, linked_iff_entries]
  refine forall_congr' fun kind => ?_
  rw [entries_reviseAll, List.forall_mem_map]
  refine forall₂_congr fun entry _ => Kind.NamesParent.congr fun link hlink => ?_
  obtain ⟨parentKind, field, hlocation⟩ := Kind.exists_location_of_parentLink hlink
  have hheld : kind.parent ≠ none := by
    rw [Kind.parent_eq_some_iff.mpr ⟨field, hlocation⟩]
    exact Option.some_ne_none _
  rw [if_neg hheld, Record.get?_reviseBy_of_ne (Kind.link_ne_root hlink)]

theorem linked_settled (t : Tree) (kind : Kind) (parent : Option String) (old name : String) :
    (t.settled kind parent old name).Linked ↔ t.Linked :=
  settled_preserves (P := fun u => u.Linked ↔ t.Linked)
    (fun u judge hu => (u.linked_reviseAll judge).trans hu) Iff.rfl kind parent old name

theorem Linked.dropAllReferences (h : t.Linked) (kind : Kind) (parent : Option String)
    (removed : Record) : (t.dropAllReferences kind parent removed).2.Linked :=
  dropAllReferences_preserves (P := Linked) (fun u judge => (u.linked_reviseAll judge).mpr) h kind
    parent removed

theorem Linked.quiet (h : t.Linked) (hquiet : t.Quiet u) : u.Linked := by
  obtain ⟨f, hf, rfl⟩ := hquiet
  rw [linked_iff] at h ⊢
  intro kind r hr
  by_cases hcollection : kind.location = .collection
  · rw [tops_mapTop _ _ (Kind.parent_of_collection hcollection)] at hr
    obtain ⟨stored, hstored, rfl⟩ := List.mem_map.mp hr
    exact (Kind.NamedByHeld.congr (hf kind stored).name?_eq (hf kind stored).held).mpr
      (h kind stored hstored)
  · exact Kind.namedByHeld_of_not_collection hcollection r

theorem Linked.saveSingle (h : t.Linked) (hsingle : kind.location = .single) (fields : Record) :
    (t.saveSingle kind fields).Linked := by
  have hprepared := linked_iff.mp (h.quiet (t.quiet_prepared kind fields))
  rw [linked_iff]
  intro other r hr
  by_cases hother : other = kind
  · exact Kind.namedByHeld_of_not_collection (by simp [hother, hsingle]) r
  · rw [saveSingle_eq, tops_set, if_neg hother] at hr
    exact hprepared other r hr

/-! ## Writing lists -/

/-- A list may be written if what is new in it names its parent and is named by what it
holds. -/
theorem Linked.setItems (h : t.Linked) {items new : List Value}
    (hitems : t.items? kind parent = some items)
    (hnew : ∀ r ∈ new.filterMap Value.object?, r ∈ items.filterMap Value.object? ∨
      kind.NamesParent parent r ∧ kind.NamedByHeld r) :
    (t.setItems kind parent new).Linked := by
  rw [linked_iff] at h ⊢
  intro other r hr
  cases standing_of_items? hitems with
  | top _ htops hset =>
      rw [hset] at hr
      split at hr
      · next hsame =>
          subst hsame
          rw [← htops] at hnew
          exact (hnew r hr).elim (h other r) And.right
      · exact h other r hr
  | @held _ field _ _ before after holder hlocation hfirst hholder hset =>
      rw [hset] at hr
      split at hr
      · next hsame =>
          subst hsame
          rcases List.mem_append.mp hr with hr | hr
          · exact h other r (hfirst.split ▸ List.mem_append_left _ hr)
          rcases List.mem_cons.mp hr with rfl | hr
          · -- the holder, which names what is new as it named what it held
            have hstored := h other holder hfirst.mem
            refine hstored.insert hlocation fun held hheld => ?_
            rw [hfirst.named]
            refine (hnew held hheld).elim (fun hkept => ?_) And.left
            rw [← records_of_itemsIn? hholder] at hkept
            exact hfirst.named ▸ hstored kind field hlocation held hkept
          · exact h other r (hfirst.split ▸ List.mem_append_right _ (List.mem_cons_of_mem _ hr))
      · exact h other r hr

/-! ## What operations put into lists -/

theorem Linked.erase (h : t.Linked) (kind : Kind) (parent : Option String) (name : String) :
    (t.erase kind parent name).Linked :=
  erase_preserves h
    (fun _ _ hitems hrest => h.setItems hitems fun _ hr =>
      .inl ((hrest.filterMap Value.object?).subset hr))
    (fun _ removed hu => hu.dropAllReferences kind parent removed) name

end Tree

namespace Draft

variable {kind : Kind} {fields : Record}

theorem namesParent_recordOf {parent : Option String} (haddress : kind.Addresses parent) :
    kind.NamesParent parent (recordOf kind fields parent) := by
  intro link hlink
  obtain ⟨parentKind, field, hlocation⟩ := Kind.exists_location_of_parentLink hlink
  obtain ⟨name, rfl⟩ := haddress.eq_some (Kind.parent_eq_some_iff.mpr ⟨field, hlocation⟩)
  refine ⟨name, rfl, ?_⟩
  simp only [recordOf, hlink, Kind.created_of_parentLink hlink, Record.get?_insert_self]

theorem namedByHeld_recordOf (hspares : kind.sparesHeld fields = true)
    (parent : Option String) : kind.NamedByHeld (recordOf kind fields parent) := by
  intro child field hlocation held hheld
  rw [Tree.records_of_itemsIn? (itemsIn?_recordOf hspares hlocation parent)] at hheld
  cases hheld

end Draft

namespace Tree

variable {t u : Tree} {kind : Kind} {parent : Option String} {fields : Record} {op : Context}

theorem Linked.create (h : t.Linked) (hspares : kind.sparesHeld fields = true)
    (hu : t.create kind fields op = .ok u) : u.Linked := by
  obtain ⟨draft, items, hdraft, _, hitems, rfl⟩ := create_eq_ok hu
  obtain ⟨_, hop, hrecord, _⟩ := Draft.ofFields_eq_ok hdraft
  refine h.setItems hitems fun r hr => ?_
  rw [List.filterMap_append] at hr
  refine (List.mem_append.mp hr).imp_right fun hr => ?_
  obtain rfl : r = draft.record := by simpa [Value.object?] using hr
  rw [hrecord]
  exact ⟨Draft.namesParent_recordOf (Context.addresses_of_addressed hop),
    Draft.namedByHeld_recordOf hspares draft.parent⟩

/-! ## Saving -/

theorem get?_kept_link {link : String} (hlink : kind.schema.parentLink = some link) (t : Tree)
    (parent : Option String) (old : String) (draft : Draft) :
    (t.kept kind parent old draft).get? link = draft.record.get? link := by
  obtain ⟨parentKind, field, hlocation⟩ := Kind.exists_location_of_parentLink hlink
  have hreconciled : (t.reconcileRecord kind parent draft.record).2.get? link =
      draft.record.get? link := by
    rw [reconcileRecord_eq, Record.get?_reviseBy_of_ne (Kind.link_ne_root hlink)]
  unfold kept
  split
  · rw [linkHeldRecords_eq, Kind.mapHeld_of_childless
      (Kind.parent_ne_of_not_collection (by simp [hlocation])), hreconciled]
  · exact hreconciled

theorem Linked.namesParent (h : t.Linked) (haddress : kind.Addresses parent) {r : Record}
    (hr : r ∈ t.collection kind parent) : kind.NamesParent parent r := by
  intro link hlink
  obtain ⟨parentKind, field, hlocation⟩ := Kind.exists_location_of_parentLink hlink
  obtain ⟨name, rfl⟩ := haddress.eq_some (Kind.parent_eq_some_iff.mpr ⟨field, hlocation⟩)
  obtain ⟨q, hentry, hq⟩ := mem_collection.mp hr
  obtain rfl := hq.resolve_left (Option.some_ne_none name)
  exact linked_iff_entries.mp h kind _ hentry link hlink

theorem Linked.namedByHeld (h : t.Linked) (haddress : kind.Addresses parent) {r : Record}
    (hr : r ∈ t.collection kind parent) : kind.NamedByHeld r := by
  by_cases hcollection : kind.location = .collection
  · have htop := Kind.parent_of_collection hcollection
    obtain rfl := haddress.eq_none htop
    rw [collection_of_top t htop] at hr
    exact linked_iff.mp h kind r hr
  · exact Kind.namedByHeld_of_not_collection hcollection r

/-- A record that is put back is named by what it holds: a new name is written into the
held records, and under the old one they are as they were. -/
theorem namedByHeld_kept {stored : Record} (hstored : kind.NamedByHeld stored) {old : String}
    (hold : stored.name? = some old) {draft : Draft} (hname : draft.record.name? = some draft.name)
    (hheld : ∀ (child : Kind) (field : String), child.location = .nested kind field →
      draft.record.get? field = stored.get? field) :
    kind.NamedByHeld (t.kept kind parent old draft) := by
  by_cases hrenamed : draft.name = old
  · refine (Kind.NamedByHeld.congr ?_ fun child field hlocation => ?_).mpr hstored
    · rw [name?_kept, hname, hold, hrenamed]
    · rw [t.get?_kept_eq hlocation, if_neg (not_not.mpr hrenamed), hheld child field hlocation]
  · intro child field hlocation held hmem
    rw [Record.records_eq, t.get?_kept_eq hlocation, if_pos hrenamed] at hmem
    rw [name?_kept, hname]
    cases hvalue : draft.record.get? field with
    | none => simp [hvalue] at hmem
    | some value =>
        rw [hvalue, Option.map_some, Option.map_some, Option.getD_some,
          Value.records_mapItems] at hmem
        obtain ⟨before, _, rfl⟩ := List.mem_map.mp hmem
        exact child.namesParent_linkTo draft.name before

end Tree

/-- Whether a call that saves a record gives nothing for the link to its parent but the name
of the parent it addresses. -/
def Call.sparesLink : Call → Bool
  | .save kind fields op =>
      kind.schema.parentLink.all fun link => ((Record.ofFields fields).get? link).all fun value =>
        op.parent.any fun name => value = .text name
  | .create _ _ _ | .delete _ _ | .reconcile => true

theorem Call.sparesLink_save {kind : Kind} {fields : Record} {op : Context} :
    (Call.save kind fields op).sparesLink = true ↔
      ∀ link, kind.schema.parentLink = some link →
        ∀ value, (Record.ofFields fields).get? link = some value →
          ∃ name, op.parent = some name ∧ value = .text name := by
  simp only [sparesLink, Option.all_eq_true, Option.any_eq_true, decide_eq_true_eq]

theorem Context.parent_of_addressed {op : Context} {kind parentKind : Kind} {field : String}
    {parent : Option String} (h : op.addressed kind = .ok parent)
    (hlocation : kind.location = .nested parentKind field) : op.parent = parent := by
  unfold addressed at h
  cases hop : op.parent with
  | none => simp [hlocation, hop] at h
  | some name => simpa [hlocation, hop] using h

namespace Tree

variable {t u : Tree} {kind : Kind} {parent : Option String} {fields : Record} {op : Context}

theorem Linked.saveNamed (h : t.Linked) (hsingle : kind.location ≠ .single)
    (hspares : kind.sparesHeld fields = true) (hlink : (Call.save kind fields op).sparesLink = true)
    (hu : t.saveNamed kind fields op = .ok u) : u.Linked := by
  obtain ⟨parent, before, stored, after, name, hop, hfirst, hmerged, _, hstore⟩ :=
    saveNamed_eq_ok hsingle hu
  obtain ⟨items, hitems, rfl⟩ := store_eq_ok hstore
  have haddress := Context.addresses_of_addressed hop
  have hsaved := (Kind.saved_agrees hsingle t stored (stored.extend fields)).2
  rw [linked_settled]
  refine h.setItems hitems fun r hr => (mem_records_replaceRecord hr).imp_right ?_
  rintro rfl
  constructor
  -- Its own link is as it was, or the one that the fields give.
  · intro link hparentLink
    obtain ⟨parentKind, field, hlocation⟩ := Kind.exists_location_of_parentLink hparentLink
    obtain ⟨parentName, hparent, hheld⟩ := h.namesParent haddress hfirst.mem link hparentLink
    refine ⟨parentName, hparent, ?_⟩
    rw [get?_kept_link hparentLink, Kind.saved_of_parentLink hparentLink,
      Record.get?_extend_ofFields]
    cases hvalue : (Record.ofFields fields).get? link with
    | none => rw [Option.none_or, hheld]
    | some value =>
        obtain ⟨given, hgiven, rfl⟩ := Call.sparesLink_save.mp hlink link hparentLink value hvalue
        rw [Context.parent_of_addressed hop hlocation, hparent] at hgiven
        rw [Option.some_or, Option.some.inj hgiven]
  -- The fields leave out what it holds, so that only a new name is to be told there.
  · refine namedByHeld_kept (h.namedByHeld haddress hfirst.mem) hfirst.named ?_ ?_
    · rw [hsaved.name?_eq, hmerged]
    · intro child field hlocation
      rw [hsaved.held child field hlocation,
        Record.get?_extend_of_none (Kind.get?_of_sparesHeld hspares hlocation)]

theorem Linked.apply (h : t.Linked) {call : Call} (hspares : call.sparesHeld = true)
    (hlink : call.sparesLink = true) (hu : t.apply call = .ok u) : u.Linked := by
  cases accepts_of_apply hu with
  | create hu => exact h.create hspares hu
  | saveSingle hsingle fields _ => exact h.saveSingle hsingle fields
  | saveNamed hsingle hu => exact h.saveNamed hsingle hspares hlink hu
  | delete _ => exact h.erase _ _ _
  | reconcile => exact (t.linked_reviseAll t.dangling).mpr h

theorem Linked.sparesLink_of_saveNamed (hkeyed : t.Keyed) (hsingle : kind.location ≠ .single)
    (hu : t.saveNamed kind fields op = .ok u) (h : u.Linked) :
    (Call.save kind fields op).sparesLink = true := by
  rw [Call.sparesLink_save]
  intro link hlink value hvalue
  obtain ⟨parentKind, field, hlocation⟩ := Kind.exists_location_of_parentLink hlink
  obtain ⟨parent, before, stored, after, name, hop, hfirst, hmerged, _, hstore⟩ :=
    saveNamed_eq_ok hsingle hu
  obtain ⟨items, hitems, rfl⟩ := store_eq_ok hstore
  rw [linked_settled, linked_iff_entries] at h
  obtain ⟨_, _, hplace⟩ := hkeyed.exists_place (Context.addresses_of_addressed hop) hitems
  have hrecords := hfirst.split
  rw [hplace.collection_eq] at hrecords
  rw [Kind.saved_of_parentLink hlink] at h
  -- The saved record stands among the entries, so its link names the parent.
  obtain ⟨parentName, hname, hheld⟩ := h kind (parent, t.kept kind parent (op.name.getD "")
    ⟨parent, name, stored.extend fields⟩) (by
      rw [hplace.entries_setItems, records_replaceRecord _ hrecords]
      simp) link hlink
  rw [get?_kept_link hlink, Record.get?_extend_ofFields, hvalue, Option.some_or] at hheld
  exact ⟨parentName, (Context.parent_of_addressed hop hlocation).trans hname,
    Option.some.inj hheld⟩

theorem Linked.sparesLink_of_apply (hkeyed : t.Keyed) {call : Call} (hu : t.apply call = .ok u)
    (h : u.Linked) : call.sparesLink = true := by
  cases accepts_of_apply hu with
  | create _ | delete _ | reconcile => rfl
  | saveSingle hsingle fields op =>
      rw [Call.sparesLink_save]
      intro link hlink
      obtain ⟨parentKind, field, hlocation⟩ := Kind.exists_location_of_parentLink hlink
      rw [hsingle] at hlocation
      cases hlocation
  | saveNamed hsingle hu => exact sparesLink_of_saveNamed hkeyed hsingle hu h

/-! ## Runs -/

theorem Linked.after (h : t.Linked) {calls : List Call}
    (hcalls : ∀ call ∈ calls, call.sparesHeld = true)
    (hlinks : ∀ before call after, calls = before ++ call :: after →
      ((t.after before).apply call).isOk = true → call.sparesLink = true) :
    (t.after calls).Linked := by
  induction calls using List.reverseRecOn with
  | nil => exact h
  | append_singleton calls call ih =>
      have hcalls' : ∀ earlier ∈ calls, earlier.sparesHeld = true :=
        fun earlier hearlier => hcalls earlier (List.mem_append_left _ hearlier)
      have hbefore : (t.after calls).Linked := by
        refine ih hcalls' fun before earlier after hsplit => ?_
        refine hlinks before earlier (after ++ [call]) ?_
        rw [hsplit, List.append_assoc, List.cons_append]
      rw [after_append, Tree.next]
      split
      · next u hu =>
          have hspared := hlinks calls call [] rfl (by rw [hu]; rfl)
          exact hbefore.apply (hcalls call (by simp)) hspared hu
      · exact hbefore

theorem default_linked : default.Linked :=
  linked_iff_entries.mpr fun kind entry hentry link hlink =>
    (default_startsWell kind).linked link hlink entry hentry

end Tree

/-- In a run whose calls leave out what records hold, every link names the parent at every
moment exactly if no accepted save gives another link than the parent's name. -/
theorem run_links_iff {σ : Type} (seen : σ) {calls : List Call}
    (hcalls : ∀ call ∈ calls, call.sparesHeld = true) :
    (∀ before, before <+: calls →
      ∃ t, ((Store.new seen).run before).snapshot = .ok t ∧ t.Linked) ↔
    ∀ before call after, calls = before ++ call :: after →
      (((Store.new seen).run before).perform call).1 = .ok () → call.sparesLink = true := by
  have hstate : ∀ before, (Store.new seen).run before =
      ⟨some (Tree.default.after before), none, seen⟩ := Store.run_new seen
  simp only [hstate, Store.perform_eq]
  constructor
  · intro hlinked before call after hsplit haccepted
    cases hu : (Tree.default.after before).apply call with
    | error e => simp [hu, Except.map] at haccepted
    | ok u =>
        have hbefore : ∀ earlier ∈ before, earlier.sparesHeld = true := fun earlier hearlier =>
          hcalls earlier (by rw [hsplit]; exact List.mem_append_left _ hearlier)
        have hkeyed := (Tree.default_showsAll.after hbefore).keyed
        obtain ⟨t, ht, hlinkedAfter⟩ := hlinked (before ++ [call]) ⟨after, by simp [hsplit]⟩
        obtain rfl : Tree.default.after (before ++ [call]) = t := Except.ok.inj ht
        rw [Tree.after_append, Tree.next, hu] at hlinkedAfter
        exact hlinkedAfter.sparesLink_of_apply hkeyed hu
  · rintro hlinks before ⟨rest, rfl⟩
    refine ⟨_, rfl, Tree.default_linked.after
      (fun call hcall => hcalls call (List.mem_append_left _ hcall)) ?_⟩
    intro earlier call later hsplit haccepted
    refine hlinks earlier call (later ++ rest) (by simp [hsplit]) ?_
    cases hu : (Tree.default.after earlier).apply call with
    | error e => simp [hu, Except.isOk, Except.toBool] at haccepted
    | ok u => rfl

/-- A VPC with a subnet is renamed, and the subnet saved under the new name. -/
def sampleLinks : List Call := [
  .create .vpc [("name", .text "edge"), ("resource_group", .text "service-rg")] .blank,
  .create .subnet [("name", .text "app"), ("vpc", .text "workload"), ("zone", .ofInt 1)]
    ⟨none, some "edge", []⟩,
  .save .vpc [("name", .text "core")] (.editing "edge" none),
  .save .subnet [("vpc", .text "core"), ("zone", .ofInt 2)] (.editing "app" (some "core"))]

theorem run_links_iff_sample :
    (∀ call ∈ sampleLinks, call.sparesHeld = true) ∧
      ∀ before, before <+: sampleLinks →
        ∃ t, ((Store.new ()).run before).snapshot = .ok t ∧ t.Linked := by
  have hheld : ∀ call ∈ sampleLinks, call.sparesHeld = true := by decide
  have hspared : ∀ call ∈ sampleLinks, call.sparesLink = true := by decide
  refine ⟨hheld, (run_links_iff () hheld).mpr ?_⟩
  intro before call after hsplit _
  exact hspared call (by rw [hsplit]; simp)

/-- One of the subnets of a VPC is said to be another VPC's. -/
def strayLink : List Call := [
  .save .subnet [("vpc", .text "workload")] (.editing "vsi-zone-1" (some "management"))]

/-- The save is accepted, and the subnet names a VPC that does not hold it. -/
theorem save_strays_from_parent :
    (∀ call ∈ strayLink, call.sparesHeld = true) ∧
      ∃ t, ((Store.new ()).run strayLink).snapshot = .ok t ∧
        (t.find? .subnet (some "management") "vsi-zone-1").bind (·.get? "vpc") =
          some (.text "workload") ∧
        ¬t.Linked := by
  have hlink : ((Tree.default.after strayLink).find? .subnet (some "management")
      "vsi-zone-1").bind (·.get? "vpc") = some (.text "workload") := by
    decide +kernel
  refine ⟨by decide, Tree.default.after strayLink, Store.snapshot_run_new () strayLink, hlink, ?_⟩
  generalize Tree.default.after strayLink = t at hlink
  intro hlinked
  obtain ⟨r, hfind, hvpc⟩ := Option.bind_eq_some_iff.mp hlink
  obtain ⟨name, hname, hnamed⟩ :=
    hlinked.namesParent (show Kind.subnet.Addresses (some "management") from rfl)
      (List.mem_of_find?_eq_some hfind) "vpc" rfl
  obtain rfl := Option.some.inj hname
  rw [hvpc] at hnamed
  exact absurd hnamed (by decide)

end Blueprint
