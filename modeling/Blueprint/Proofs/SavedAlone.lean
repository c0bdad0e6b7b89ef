import Blueprint.Proofs.FollowedNames
import Blueprint.Proofs.ParentLinks
import Blueprint.Proofs.StoredFields

/-!
# What a save leaves alone

A save writes one list, follows the new name and settles what the record holds. The list
differs from what it was in the saved record alone, and what is settled lies within
that record. So beyond its place a save is seen only where its name is followed.
-/

namespace Blueprint

namespace Tree

variable {t : Tree} {kind : Kind} {parent : Option String} {items : List Value}
  {before after : List Record} {name : String} {r : Record}

/-! ## The record in its list -/

theorem exists_replaceRecord_eq_set (h : items.filterMap Value.object? = before ++ r :: after) :
    ∃ index, items[index]? = some (.object r) ∧
      ∀ new, replaceRecord new before.length items = items.set index (.object new) := by
  induction items generalizing before with
  | nil => simp at h
  | cons item items ih =>
      cases item with
      | object head =>
          cases before with
          | nil =>
              obtain ⟨rfl, _⟩ := List.cons.inj h
              exact ⟨0, rfl, fun _ => rfl⟩
          | cons first before =>
              obtain ⟨index, hindex, hset⟩ := ih (List.cons.inj h).2
              refine ⟨index + 1, hindex, fun new => ?_⟩
              rw [List.length_cons, replaceRecord, hset, List.set_cons_succ]
      | null | bool _ | number _ | text _ | list _ =>
          have hrest : items.filterMap Value.object? = before ++ r :: after := h
          obtain ⟨index, hindex, hset⟩ := ih hrest
          refine ⟨index + 1, hindex, fun new => ?_⟩
          cases before <;> simp_all [replaceRecord]

theorem index_eq_of_name?_eq
    (hnodup : ((items.filterMap Value.object?).filterMap Record.name?).Nodup) {first second : Nat}
    {r other : Record} (hfirst : items[first]? = some (.object r))
    (hsecond : items[second]? = some (.object other)) (hname : r.name? = some name)
    (hother : other.name? = some name) : first = second := by
  rw [List.filterMap_filterMap, List.Nodup, List.pairwise_filterMap,
    List.pairwise_iff_getElem] at hnodup
  have hnot : ∀ {i j : Nat} {a b : Record}, items[i]? = some (.object a) →
      items[j]? = some (.object b) → a.name? = some name → b.name? = some name → ¬i < j := by
    intro i j a b hi hj ha hb hlt
    obtain ⟨hone, hi⟩ := List.getElem?_eq_some_iff.mp hi
    obtain ⟨htwo, hj⟩ := List.getElem?_eq_some_iff.mp hj
    refine hnodup i j hone htwo hlt name ?_ name ?_ rfl
    · simp [hi, Value.object?, ha]
    · simp [hj, Value.object?, hb]
  exact le_antisymm (not_lt.mp (hnot hsecond hfirst hother hname))
    (not_lt.mp (hnot hfirst hsecond hname hother))

/-- Where a list stands that can be written, and that writing it changes no more than the
item that is exchanged. -/
structure Slot (t : Tree) (kind : Kind) (parent : Option String) (items : List Value)
    (list : Route) : Prop where
  stands : ∀ index, kind.Stands (list ++ [.item index])
  held : ∀ parentKind, kind.parent = some parentKind → ∀ index,
    ∃ (holder : Record) (name : String),
      t.part? (List.take 2 (list ++ [Route.Step.item index])) = some (.object holder) ∧
        holder.name? = some name ∧ parent = some name
  listed : t.part? list = some (.list items)
  written : ∀ new, (t.setItems kind parent new).part? list = some (.list new)
  alone : ∀ index item, items[index]? = some item → ∀ new,
    t.ChangesOnly (.within (list ++ [.item index])) (t.setItems kind parent (items.set index new))

theorem changesOnly_set_within {index : Nat} {item : Value} (hitem : items[index]? = some item)
    (new : Value) :
    Value.ChangesOnly (.within [.item index]) (.list items) (.list (items.set index new)) := by
  refine .set hitem ?_
  rw [Change.beyond_within]
  exact .within_nil _ _

theorem slot_of_collection (hlocation : kind.location = .collection)
    (hitems : t.items? kind parent = some items) (hne : items ≠ []) :
    t.Slot kind parent items [.field kind.tag] := by
  have hroot : t.root.get? kind.tag = some (.list items) :=
    get?_of_itemsIn? (by simpa only [items?, hlocation] using hitems) hne
  have hset : ∀ new, t.setItems kind parent new = t.set kind.tag (.list new) := by
    intro new
    simp only [setItems, hlocation]
  refine ⟨fun index => ?_, fun parentKind hparent => ?_, ?_, fun new => ?_,
    fun index item hitem new => ?_⟩
  · simp only [Kind.Stands, hlocation]
    exact ⟨index, rfl⟩
  · simp [Kind.parent, hlocation] at hparent
  · simp [part?, hroot]
  · simp [part?, hset, set]
  · rw [hset]
    refine .insert hroot ?_
    rw [List.cons_append, Change.beyond_within]
    exact changesOnly_set_within hitem new

theorem slot_of_nested {parentKind : Kind} {field : String}
    (hlocation : kind.location = .nested parentKind field)
    (hitems : t.items? kind (some name) = some items) (hne : items ≠ []) :
    ∃ index, t.Slot kind (some name) items
      [.field parentKind.tag, .item index, .field field] := by
  simp only [items?, hlocation, Option.bind_eq_bind, Option.bind_some,
    Option.bind_eq_some_iff] at hitems
  obtain ⟨holder, hfind, hholder⟩ := hitems
  obtain ⟨before, after, hfirst⟩ := FirstNamed.of_find? hfind
  obtain ⟨values, hroot, hrecords⟩ := exists_list_of_mem hfirst.mem
  rw [hrecords] at hfirst
  obtain ⟨index, hindex, hreplace⟩ := exists_replaceRecord_eq_set hfirst.split
  have hheld := get?_of_itemsIn? hholder hne
  have hvalues := Record.list?_of_get? hroot
  have hset : ∀ new, t.setItems kind (some name) new = t.set parentKind.tag
      (.list (values.set index (.object (holder.insert field (.list new))))) := by
    intro new
    simp only [setItems, hlocation, modifyRecord?, hvalues,
      modifyNamed_eq_replaceRecord _ hfirst, hreplace, Option.bind_eq_bind, Option.bind_some,
      Option.pure_def, Option.getD_some]
  have hlt : index < values.length := (List.getElem?_eq_some_iff.mp hindex).1
  refine ⟨index, fun index => ?_, fun other hparent => ?_, ?_, fun new => ?_,
    fun item value hitem new => ?_⟩
  · simp only [Kind.Stands, hlocation]
    exact ⟨_, index, rfl⟩
  · intro _
    obtain rfl : other = parentKind := by simpa [Kind.parent, hlocation] using hparent.symm
    exact ⟨holder, name, by simp [part?, hroot, hindex], hfirst.named, rfl⟩
  · simp [part?, hroot, hindex, hheld]
  · simp [part?, hset, set, hlt]
  · rw [hset]
    refine .insert hroot ?_
    simp only [List.cons_append, List.nil_append, Change.beyond_within]
    refine .set hindex ?_
    rw [Change.beyond_within]
    refine .insert hheld ?_
    rw [Change.beyond_within]
    exact changesOnly_set_within hitem new

theorem exists_slot (haddress : kind.Addresses parent)
    (hitems : t.items? kind parent = some items) (hne : items ≠ []) :
    ∃ list, t.Slot kind parent items list := by
  cases hlocation : kind.location with
  | single => simp [items?, hlocation] at hitems
  | collection => exact ⟨_, slot_of_collection hlocation hitems hne⟩
  | nested parentKind field =>
      obtain ⟨name, rfl⟩ := haddress.eq_some (Kind.parent_eq_some_iff.mpr ⟨field, hlocation⟩)
      obtain ⟨index, hslot⟩ := slot_of_nested hlocation hitems hne
      exact ⟨_, hslot⟩

/-! ## What revisions make of a record -/

theorem part?_mapTop (hparent : kind.parent = none) {place : Route} (hplace : kind.Stands place)
    (f : Kind → Record → Record) (t : Tree) :
    (t.mapTop f).part? place = (t.part? place).map (Value.mapObject (f kind)) := by
  unfold Kind.Stands at hplace
  cases hlocation : kind.location with
  | nested parent field => simp [Kind.parent, hlocation] at hparent
  | single =>
      simp only [hlocation] at hplace
      subst hplace
      simp only [part?, mapTop, Value.part?_cons, Value.part?_nil, Value.step?_field,
        Record.get?_mapValues, Kind.topOf?_tag hparent, Value.mapPlaced, hlocation]
      cases t.root.get? kind.tag <;> rfl
  | collection =>
      simp only [hlocation] at hplace
      obtain ⟨index, rfl⟩ := hplace
      simp only [part?, mapTop, Value.part?_cons, Value.part?_nil, Value.step?_field,
        Record.get?_mapValues, Kind.topOf?_tag hparent, Value.mapPlaced, hlocation]
      cases t.root.get? kind.tag with
      | none => rfl
      | some value => simp [Value.step?_mapItems]

theorem exists_part?_reviseAll {place : Route} (hplace : kind.Stands place) (t : Tree)
    (judge : Judge) : ∃ g : Record → Record, (∀ r, kind.Keeps (g r) r) ∧
      (t.reviseAll judge).part? place = (t.part? place).map (Value.mapObject g) := by
  have hrevised : ∀ (child : Kind) (q : Option String) (held : Record), child.Keeps
      (held.reviseBy child.schema.references (judge child (Row.of child q held))) held :=
    fun child _ held => child.keeps_reviseBy _ held
  cases hparent : kind.parent with
  | none =>
      refine ⟨_, fun r => ?_, part?_mapTop hparent hplace _ t⟩
      exact (kind.keeps_reviseBy _ _).trans
        (kind.keeps_mapHeld (fun child q held => (hrevised child q held).name?_eq) r)
  | some parentKind =>
      obtain ⟨field, hlocation⟩ := Kind.parent_eq_some_iff.mp hparent
      have hcollection := Kind.location_of_parent hparent
      unfold Kind.Stands at hplace
      simp only [hlocation] at hplace
      obtain ⟨outer, index, rfl⟩ := hplace
      -- a held record is read through its holder, whose own references sit elsewhere
      have hholder : parentKind.Stands [.field parentKind.tag, .item outer] := by
        simp only [Kind.Stands, hcollection]
        exact ⟨outer, rfl⟩
      have hsplit : ∀ u : Tree, u.part? [.field parentKind.tag, .item outer, .field field,
          .item index] = (u.part? [.field parentKind.tag, .item outer]).bind fun holder =>
            holder.part? [.field field, .item index] := by
        intro u
        exact Value.part?_append _ [.field parentKind.tag, .item outer] [.field field, .item index]
      simp only [hsplit, reviseAll, mapAll, part?_mapTop (Kind.parent_of_holder hparent) hholder]
      cases t.part? [.field parentKind.tag, .item outer] with
      | none => exact ⟨id, .refl kind, rfl⟩
      | some holder =>
          cases holder with
          | object holder =>
              refine ⟨fun held => held.reviseBy kind.schema.references
                (judge kind (Row.of kind (Record.name? holder) held)), hrevised kind _, ?_⟩
              simp only [Option.map_some, Value.mapObject, Option.bind_some, Value.part?_cons,
                Value.step?_field, Value.part?_nil, Record.get?_reviseBy_of_ne
                  (Kind.root_ne_held hlocation),
                Kind.get?_mapHeld_of_some (Kind.heldIn?_of_location hlocation)]
              cases Record.get? holder field with
              | none => rfl
              | some value => simp [Value.step?_mapItems]
          | null | bool _ | number _ | text _ | list _ => exact ⟨id, .refl kind, rfl⟩

theorem exists_part?_settled {place : Route} (hplace : kind.Stands place) (t : Tree)
    (target : Kind) (parent : Option String) (old name : String) :
    ∃ g : Record → Record, (∀ r, kind.Keeps (g r) r) ∧
      (t.settled target parent old name).part? place = (t.part? place).map (Value.mapObject g) := by
  refine settled_preserves (P := fun u => ∃ g : Record → Record, (∀ r, kind.Keeps (g r) r) ∧
    u.part? place = (t.part? place).map (Value.mapObject g)) ?_ ?_ target parent old name
  · rintro u judge ⟨g, hg, hu⟩
    obtain ⟨f, hf, hrevised⟩ := exists_part?_reviseAll hplace u judge
    refine ⟨fun r => f (g r), fun r => (hf (g r)).trans (hg r), ?_⟩
    rw [hrevised, hu, Option.map_map]
    congr 1
    funext value
    exact Value.mapObject_mapObject f g value
  · refine ⟨id, .refl kind, ?_⟩
    have hid : Value.mapObject id = id := funext Value.mapObject_id
    rw [hid, Option.map_id, id]

/-! ## What settling leaves alone -/

/-- Whether no record of a top-level kind but the one at a place has a name. -/
def OnlyNamed (t : Tree) (kind : Kind) (name : String) (place : Route) : Prop :=
  kind.location = .collection → ∀ (other : Route) (r : Record), kind.Stands other →
    t.part? other = some (.object r) → r.name? = some name → other = place

theorem changesOnly_reconcileChildren {place : Route} (h : t.OnlyNamed kind name place) :
    t.ChangesOnly (.within place) (t.reconcileChildren kind name).2 := by
  rw [reconcileChildren_eq]
  refine changesOnly_mapTop fun top htop other r hother hr => ?_
  by_cases hsaved : kind.location = .collection ∧ top = kind ∧ r.name? = some name
  · obtain ⟨hcollection, rfl, hname⟩ := hsaved
    rw [h hcollection other r hother hr hname]
    exact fun route => .inr (List.prefix_append place route)
  · -- Any other record is no child itself, and holds none of the children that are settled.
    have hself : top ∉ kind.children := by
      intro hmem
      rw [Kind.mem_children, htop] at hmem
      cases hmem
    have hheld : top.mapHeld (fun child q held => held.reviseBy child.schema.references
        (((t.dangling.under fun q => q = some name).on kind.children) child
          (Row.of child q held))) r = r := by
      refine (Kind.mapHeld_congr fun child field hlocation held _ => ?_).trans (top.mapHeld_id r)
      refine Record.reviseBy_of_keep fun reference _ mentioned _ => ?_
      have hparent := Kind.parent_eq_some_iff.mpr ⟨field, hlocation⟩
      by_cases hchild : child ∈ kind.children
      · have hkind : top = kind :=
          Option.some.inj (hparent.symm.trans (Kind.mem_children.mp hchild))
        have hne : r.name? ≠ some name := fun hname =>
          hsaved ⟨hkind ▸ Kind.location_of_parent hparent, hkind, hname⟩
        simp only [Judge.on, Judge.under, hchild, if_true, Row.parent_of, hne, decide_false,
          Bool.false_eq_true, if_false]
      · simp only [Judge.on, hchild, if_false]
    have hsame : r.reviseBy top.schema.references
        (((t.dangling.under fun q => q = some name).on kind.children) top
          (Row.of top none r)) = r := by
      refine Record.reviseBy_of_keep fun reference _ mentioned _ => ?_
      simp only [Judge.on, hself, if_false]
    simp only [hheld, hsame]
    exact .refl _ _

/-- Settling a saved record changes names that are followed, and nothing else beyond the
record. -/
theorem shape?_settled {place : Route} {old : String} (h : t.OnlyNamed kind name place)
    {route : Route} (hroute : ¬place <+: route) :
    t.shape? route = (t.settled kind parent old name).shape? route ∨
      name ≠ old ∧ Change.rename kind.Mentioned old name route (t.shape? route)
        ((t.settled kind parent old name).shape? route) := by
  unfold settled
  split
  · next hne =>
      have honly : (t.renameReferences kind parent old name).2.OnlyNamed kind name place := by
        intro hcollection other r hother hr hname
        rw [renameReferences, reviseReferences_eq] at hr
        obtain ⟨g, hg, hrevised⟩ := exists_part?_reviseAll hother t
          (.following t.rows kind parent (.rename old name))
        rw [hrevised, Option.map_eq_some_iff] at hr
        obtain ⟨value, hvalue, hmapped⟩ := hr
        cases value with
        | object before =>
            obtain rfl : g before = r := Value.object.inj hmapped
            exact h hcollection other before hother hvalue ((hg before).name?_eq ▸ hname)
        | null | bool _ | number _ | text _ | list _ => cases hmapped
      have hsettled := changesOnly_reconcileChildren honly route
      have hfollowed := t.changesOnly_renameReferences kind parent old name route
      rw [← shape?, ← shape?] at hsettled hfollowed
      rw [← hsettled.resolve_right hroute]
      exact hfollowed.imp_right fun hchanged => ⟨hne, hchanged⟩
  · exact .inl ((changesOnly_reconcileChildren h route).resolve_right hroute)

/-! ## Saving -/

/-- No two records under one parent have the same name. -/
def DistinctNames (t : Tree) : Prop :=
  ∀ (kind : Kind) (parent : Option String), kind.location ≠ .single → kind.Addresses parent →
    (t.names kind parent).Nodup

theorem DistinctNames.of_all (h : ∀ kind ∈ Kind.all, (t.names kind none).Nodup) :
    t.DistinctNames := by
  intro kind parent _ _
  refine (h kind kind.mem_all).sublist ?_
  simp only [names, collection_eq, Option.isNone_none, Bool.true_or, List.filter_true]
  exact (List.filter_sublist.map _).filterMap _

theorem DistinctNames.nodup_items (h : t.DistinctNames) (hsingle : kind.location ≠ .single)
    (haddress : kind.Addresses parent) (hitems : t.items? kind parent = some items) :
    ((items.filterMap Value.object?).filterMap Record.name?).Nodup := by
  obtain ⟨rest, hcollection, _⟩ := exists_rest haddress hitems
  have hnodup := h kind parent hsingle haddress
  rw [names, hcollection, List.filterMap_append] at hnodup
  exact hnodup.of_append_left

theorem Slot.part?_listed {list : Route} (h : t.Slot kind parent items list) (index : Nat) :
    t.part? (list ++ [.item index]) = items[index]? := by
  have hpart := h.listed
  rw [part?] at hpart ⊢
  rw [Value.part?_append, hpart]
  simp

theorem Slot.part?_written {list : Route} (h : t.Slot kind parent items list) (new : List Value)
    (index : Nat) : (t.setItems kind parent new).part? (list ++ [.item index]) = new[index]? := by
  have hpart := h.written new
  rw [part?] at hpart ⊢
  rw [Value.part?_append, hpart]
  simp

theorem Slot.onlyNamed {list : Route} (h : t.Slot kind parent items list) {index : Nat}
    (hfree : ∀ (other : Nat) (r : Record), items[other]? = some (.object r) →
      r.name? = some name → other = index) (new : Value) :
    (t.setItems kind parent (items.set index new)).OnlyNamed kind name
      (list ++ [.item index]) := by
  intro hcollection other r hother hr hname
  have hplace := h.stands index
  simp only [Kind.Stands, hcollection] at hother hplace
  obtain ⟨second, rfl⟩ := hother
  obtain ⟨first, hfirst⟩ := hplace
  obtain rfl : list = [.field kind.tag] := by simpa using congrArg List.dropLast hfirst
  by_cases hsecond : index = second
  · rw [hsecond]
    rfl
  · rw [← List.singleton_append, h.part?_written, List.getElem?_set_ne hsecond] at hr
    exact absurd (hfree second r hr hname) (Ne.symm hsecond)

/-- A save writes a record to the place of the one that it finds, under a name that no other
record of the list has. -/
theorem save_eq_ok (hdistinct : t.DistinctNames) (hsingle : kind.location ≠ .single)
    {fields : Record} {op : Context} {u : Tree} (hu : t.save kind fields op = .ok u) :
    ∃ (parent : Option String) (items : List Value) (list : Route) (index : Nat)
      (stored r : Record) (name : String), op.addressed kind = .ok parent ∧
      t.Slot kind parent items list ∧ items[index]? = some (.object stored) ∧
      stored.name? = some (op.name.getD "") ∧ (stored.extend fields).name? = some name ∧
      kind.Keeps r (stored.extend fields) ∧
      (∀ (other : Nat) (sibling : Record), items[other]? = some (.object sibling) →
        sibling.name? = some name → other = index) ∧
      u = (t.setItems kind parent (items.set index (.object r))).settled kind parent
        (op.name.getD "") name := by
  rw [save, if_neg hsingle] at hu
  obtain ⟨parent, before, stored, after, name, hop, hfirst, hmerged, hfree, hstore⟩ :=
    saveNamed_eq_ok hsingle hu
  obtain ⟨items, hitems, hwritten⟩ := store_eq_ok hstore
  have haddress := Context.addresses_of_addressed hop
  have hheld : t.HeldFirst kind parent (op.name.getD "") := by
    refine heldFirst_of_nodup haddress (fun parentKind hparent => ?_) hsingle
      (List.mem_filterMap.mpr ⟨stored, hfirst.mem, hfirst.named⟩)
    have hcollection := Kind.location_of_parent hparent
    exact hdistinct parentKind none (by simp [hcollection])
      (Kind.addresses_none (Kind.parent_of_collection hcollection))
  obtain ⟨later, hlist⟩ := hheld.exists_firstNamed haddress hitems hfirst
  obtain ⟨index, hitem, hreplace⟩ := exists_replaceRecord_eq_set hlist.split
  obtain ⟨list, hslot⟩ := exists_slot haddress hitems (by rintro rfl; cases hitem)
  refine ⟨parent, items, list, index, stored, _, name, hop, hslot, hitem, hfirst.named, hmerged,
    t.keeps_kept_saved hsingle parent (op.name.getD "") name stored (stored.extend fields), ?_,
    hreplace _ ▸ hwritten⟩
  intro other sibling hother hnamed
  by_cases hnew : name = op.name.getD ""
  · exact index_eq_of_name?_eq (hdistinct.nodup_items hsingle haddress hitems) hother hitem hnamed
      (hnew ▸ hfirst.named)
  · have hnames : name ∉ t.names kind parent := fun hmem => hfree ⟨hnew, hmem⟩
    refine absurd hnamed (name?_ne_of_not_mem haddress hitems hnames sibling ?_)
    exact List.mem_filterMap.mpr ⟨_, List.mem_of_getElem? hother, rfl⟩

/-- Where the record stands that an operation names. -/
structure Finds (t : Tree) (kind : Kind) (op : Context) (place : Route) (stored : Record) :
    Prop where
  stands : kind.Stands place
  found : t.part? place = some (.object stored)
  named : stored.name? = some (op.name.getD "")
  held : ∀ parentKind, kind.parent = some parentKind → ∃ (holder : Record) (name : String),
    t.part? (place.take 2) = some (.object holder) ∧ holder.name? = some name ∧
      op.parent = some name

theorem Slot.finds {op : Context} {list : Route} (h : t.Slot kind parent items list)
    (hop : op.addressed kind = .ok parent) {index : Nat} {stored : Record}
    (hitem : items[index]? = some (.object stored))
    (hnamed : stored.name? = some (op.name.getD "")) :
    t.Finds kind op (list ++ [.item index]) stored where
  stands := h.stands index
  found := by rw [h.part?_listed, hitem]
  named := hnamed
  held parentKind hparent := by
    obtain ⟨holder, name, hholder, hname, hparentName⟩ := h.held parentKind hparent index
    obtain ⟨field, hlocation⟩ := Kind.parent_eq_some_iff.mp hparent
    exact ⟨holder, name, hholder, hname,
      (Context.parent_of_addressed hop hlocation).trans hparentName⟩

end Tree

/-- Saving changes exactly what it says. The saved record stays where it is, in a list of the
same length, and each field of its own has the given value, or the one it had. Beyond its
place everything shows what it showed, whatever else stands in the list or around it, except
for names at the places of references to the kind, which change only if the record is renamed,
and then from its old name to the new one. -/
theorem save_changes_only {t u : Tree} {kind : Kind} {fields : Record} {op : Context}
    (hdistinct : t.DistinctNames) (hsingle : kind.location ≠ .single)
    (hu : t.save kind fields op = .ok u) :
    ∃ (place : Route) (stored saved : Record) (name : String), t.Finds kind op place stored ∧
      u.part? place = some (.object saved) ∧ saved.name? = some name ∧
      (∀ field, kind.isOwn field = true →
        saved.get? field = ((Record.ofFields fields).get? field).or (stored.get? field)) ∧
      (∃ length, t.shape? place.dropLast = some (.list length) ∧
        u.shape? place.dropLast = some (.list length)) ∧
      ∀ route, ¬place <+: route → t.shape? route = u.shape? route ∨
        name ≠ op.name.getD "" ∧ kind.Mentioned route ∧
          t.shape? route = some (.text (op.name.getD "")) ∧
          u.shape? route = some (.text name) := by
  obtain ⟨parent, items, list, index, stored, r, name, hop, hslot, hitem, hnamed, hmerged, hkeeps,
    hsiblings, heq⟩ := Tree.save_eq_ok hdistinct hsingle hu
  obtain ⟨g, hg, hsaved⟩ := Tree.exists_part?_settled (hslot.stands index)
    (t.setItems kind parent (items.set index (.object r))) kind parent (op.name.getD "") name
  have hlt : index < items.length := (List.getElem?_eq_some_iff.mp hitem).1
  rw [← heq, hslot.part?_written, List.getElem?_set_self hlt] at hsaved
  have hkept : kind.Keeps (g r) (stored.extend fields) := (hg r).trans hkeeps
  have hbeyond : ∀ route, ¬list ++ [.item index] <+: route → t.shape? route = u.shape? route ∨
      name ≠ op.name.getD "" ∧
        Change.rename kind.Mentioned (op.name.getD "") name route (t.shape? route)
          (u.shape? route) := by
    intro route hroute
    have hwritten := (hslot.alone index _ hitem (.object r) route).resolve_right hroute
    rw [Tree.shape?, hwritten, heq]
    exact Tree.shape?_settled (hslot.onlyNamed hsiblings (.object r)) hroute
  have hlist : t.shape? list = some (.list items.length) := by
    have hlisted := hslot.listed
    rw [Tree.part?] at hlisted
    rw [Tree.shape?, Value.shape?, hlisted]
    rfl
  refine ⟨list ++ [.item index], stored, g r, name, hslot.finds hop hitem hnamed, hsaved,
    hkept.name?_eq.trans hmerged, fun field hown => ?_, ⟨items.length, ?_, ?_⟩, hbeyond⟩
  · rw [hkept.own field hown, Record.get?_extend_ofFields]
  · rw [List.dropLast_concat, hlist]
  · -- The list is beyond its item, and what it shows is no name.
    rw [List.dropLast_concat]
    rcases hbeyond list fun hprefix => by simpa using hprefix.length_le with
      hsame | ⟨_, _, htext, _⟩
    · rw [← hsame, hlist]
    · rw [hlist] at htext
      cases htext

/-- A tree with entries in its lists that are no records, and records without names. -/
def sampleStrays : Tree := ⟨[
  ("key_management", .list [.null, .object [("kept", .bool true), ("name", .text "vault")],
    .object [("name", .null)]]),
  ("object_storage", .list [
    .object [("buckets", .text "none"), ("kms", .text "vault"), ("name", .text "store")]]),
  ("vaults", .list [.text "vault"])]⟩

theorem save_changes_only_strays :
    sampleStrays.DistinctNames ∧ Kind.keyManagement.location ≠ .single ∧
    ∃ u, sampleStrays.save .keyManagement [("name", .text "strongbox")]
        (.editing "vault" none) = .ok u ∧
      ∃ (place : Route) (stored saved : Record) (name : String),
        sampleStrays.Finds .keyManagement (.editing "vault" none) place stored ∧
        u.part? place = some (.object saved) ∧ saved.name? = some name ∧
        (∀ field, Kind.keyManagement.isOwn field = true → saved.get? field =
          ((Record.ofFields [("name", .text "strongbox")]).get? field).or (stored.get? field)) ∧
        (∃ length, sampleStrays.shape? place.dropLast = some (.list length) ∧
          u.shape? place.dropLast = some (.list length)) ∧
        ∀ route, ¬place <+: route → sampleStrays.shape? route = u.shape? route ∨
          name ≠ "vault" ∧ Kind.keyManagement.Mentioned route ∧
            sampleStrays.shape? route = some (.text "vault") ∧
            u.shape? route = some (.text name) := by
  have hdistinct : sampleStrays.DistinctNames := Tree.DistinctNames.of_all (by decide +kernel)
  have hsingle : Kind.keyManagement.location ≠ .single := by decide
  have hsaves : (sampleStrays.save .keyManagement [("name", .text "strongbox")]
      (.editing "vault" none)).toOption.isSome = true := by decide +kernel
  cases hsave : sampleStrays.save .keyManagement [("name", .text "strongbox")]
      (.editing "vault" none) with
  | error e =>
      rw [hsave] at hsaves
      cases hsaves
  | ok u => exact ⟨hdistinct, hsingle, u, rfl, save_changes_only hdistinct hsingle hsave⟩

end Blueprint
