import Blueprint.Proofs.Placement
import Blueprint.Proofs.Revision

/-!
# Labels

The labels of a kind under a parent are the names of its records there, one for
each record, and nothing for a record without a name. They do not change by
revisions, and what is written to the list of a kind shows in its own labels and in
those of the kinds it holds only.
-/

namespace Blueprint

/-- Whether a parent is what an address of a kind has: none at the top level. -/
def Kind.Addresses (kind : Kind) (parent : Option String) : Prop :=
  parent.isSome = kind.parent.isSome

theorem Kind.addresses_none {kind : Kind} (h : kind.parent = none) : kind.Addresses none := by
  simp [Addresses, h]

theorem Kind.Addresses.eq_none {kind : Kind} {parent : Option String} (h : kind.Addresses parent)
    (hkind : kind.parent = none) : parent = none := by
  simpa [Addresses, hkind] using h

theorem Kind.Addresses.eq_some {kind : Kind} {parent : Option String} (h : kind.Addresses parent)
    {parentKind : Kind} (hkind : kind.parent = some parentKind) : ∃ name, parent = some name := by
  have hsome : parent.isSome = true := by simpa [Addresses, hkind] using h
  exact Option.isSome_iff_exists.mp hsome

/-- Only the references to buckets and to storage keys reach held records everywhere. -/
theorem Kind.all_scoped (kind : Kind) :
    (kind.schema.references.all fun reference =>
      reference.target.parent.isNone || reference.target = .bucket ||
        reference.target = .storageKey || reference.scope ≠ .anywhere) = true := by
  cases kind <;> decide

namespace Tree

/-- The names of the records of a kind under a parent, or under any parent. -/
def labels (t : Tree) (kind : Kind) (parent : Option String) : List (Option String) :=
  (t.collection kind parent).map Record.name?

theorem names_eq_labels (t : Tree) (kind : Kind) (parent : Option String) :
    t.names kind parent = (t.labels kind parent).filterMap id := by
  simp only [names, labels, List.filterMap_map]
  rfl

theorem labels_eq_map_some {t : Tree} {kind : Kind} {parent : Option String}
    (h : ∀ r ∈ t.collection kind parent, r.name?.isSome) :
    t.labels kind parent = (t.names kind parent).map some := by
  unfold labels names
  generalize t.collection kind parent = records at h ⊢
  induction records with
  | nil => rfl
  | cons r rest ih =>
      obtain ⟨hr, hrest⟩ := List.forall_mem_cons.mp h
      obtain ⟨name, hname⟩ := Option.isSome_iff_exists.mp hr
      rw [List.map_cons, List.filterMap_cons_some hname, List.map_cons, ih hrest, hname]

theorem labels_eq_rows (t : Tree) (kind : Kind) (parent : Option String) :
    t.labels kind parent =
      ((t.rows kind).filter fun row => parent.isNone || row.parent = parent).map Row.name := by
  simp only [labels, collection_eq, rows, List.filter_map, List.map_map]
  rfl

theorem labels_congr {t u : Tree} {kind : Kind} (h : t.rows kind = u.rows kind)
    (parent : Option String) : t.labels kind parent = u.labels kind parent := by
  rw [labels_eq_rows, labels_eq_rows, h]

theorem labels_reviseAll (t : Tree) (judge : Judge) (kind : Kind) (parent : Option String) :
    (t.reviseAll judge).labels kind parent = t.labels kind parent := by
  simp only [labels_eq_rows, rows_reviseAll, Rows.revise, List.filter_map, List.map_map]
  rfl

theorem labels_of_top (t : Tree) {kind : Kind} (h : kind.parent = none) :
    t.labels kind none = (t.tops kind).map Record.name? := by
  rw [labels_eq_rows, rows_of_top t h]
  simp [Function.comp_def]

theorem nodup_names {t : Tree} {kind : Kind} {parent : Option String}
    (h : ((t.rows kind).map fun row => (row.parent, row.name)).Nodup)
    (haddress : kind.Addresses parent) : (t.names kind parent).Nodup := by
  have hnames : t.names kind parent =
      ((t.rows kind).map fun row => (row.parent, row.name)).filterMap
        fun key => if key.1 = parent then key.2 else none := by
    rw [names_eq_labels, labels_eq_rows, List.filterMap_map, List.filterMap_map,
      List.filterMap_filter]
    apply List.filterMap_congr
    intro row hrow
    cases parent with
    | some name => simp
    | none =>
        obtain ⟨q, r, hentry, rfl⟩ := mem_rows.mp hrow
        have htop : kind.parent = none := by simpa [Kind.Addresses] using haddress.symm
        simp [((mem_entries_of_top htop).mp hentry).1]
  rw [hnames]
  refine h.filterMap fun first second name hfirst hsecond => ?_
  simp only [Option.mem_def, Option.ite_none_right_eq_some] at hfirst hsecond
  exact Prod.ext (hfirst.1.trans hsecond.1.symm) (hfirst.2.trans hsecond.2.symm)

theorem name?_ne_of_distinct {names : List String} (hnodup : names.Nodup)
    {before after : List Record} {r : Record} {name : String}
    (h : (before ++ r :: after).map Record.name? = names.map some) (hr : r.name? = some name) :
    ∀ other ∈ before ++ after, other.name? ≠ some name := by
  have hlabels := hnodup.map (Option.some_injective String)
  rw [← h, List.map_append, List.map_cons, List.nodup_middle, List.nodup_cons, hr,
    ← List.map_append] at hlabels
  intro other hother hname
  exact hlabels.1 (hname ▸ List.mem_map_of_mem hother)

theorem find?_of_distinct {records : List Record} (h : (records.filterMap Record.name?).Nodup)
    {r : Record} (hr : r ∈ records) {name : String} (hname : r.name? = some name) :
    (records.find? fun r => r.name? = some name) = some r := by
  induction records with
  | nil => cases hr
  | cons head rest ih =>
      rcases List.mem_cons.mp hr with rfl | hrest
      · simp [hname]
      · have hmem : name ∈ rest.filterMap Record.name? := List.mem_filterMap.mpr ⟨r, hrest, hname⟩
        cases hhead : head.name? with
        | none =>
            rw [List.filterMap_cons_none hhead] at h
            rw [List.find?_cons_of_neg (by simp [hhead]), ih h hrest]
        | some other =>
            rw [List.filterMap_cons_some hhead, List.nodup_cons] at h
            have hne : other ≠ name := fun heq => h.1 (heq ▸ hmem)
            rw [List.find?_cons_of_neg (by simp [hhead, hne]), ih h.2 hrest]

/-- Every record has a name, and no two records at one address have the same. -/
def Keyed (t : Tree) : Prop :=
  ∀ (kind : Kind) (parent : Option String), kind.location ≠ .single → kind.Addresses parent →
    (t.names kind parent).Nodup ∧ ∀ r ∈ t.collection kind parent, ∃ name, r.name? = some name

namespace Keyed

variable {t : Tree}

theorem nodup_holders (h : t.Keyed) {kind parentKind : Kind}
    (hparent : kind.parent = some parentKind) : (t.names parentKind none).Nodup := by
  have hcollection := Kind.location_of_parent hparent
  exact (h parentKind none (by simp [hcollection])
    (Kind.addresses_none (Kind.parent_of_collection hcollection))).1

theorem find?_eq_some (h : t.Keyed) {kind : Kind} {parent : Option String}
    (hsingle : kind.location ≠ .single) (haddress : kind.Addresses parent) {r : Record}
    (hr : r ∈ t.collection kind parent) {name : String} (hname : r.name? = some name) :
    t.find? kind parent name = some r :=
  find?_of_distinct (h kind parent hsingle haddress).1 hr hname

theorem name?_ne (h : t.Keyed) {kind : Kind} {parent : Option String}
    (hsingle : kind.location ≠ .single) (haddress : kind.Addresses parent) {name : String}
    {before after : List Record} {r : Record}
    (hfirst : FirstNamed name (t.collection kind parent) before r after) :
    ∀ other ∈ before ++ after, other.name? ≠ some name := by
  obtain ⟨hnodup, hnamed⟩ := h kind parent hsingle haddress
  have hlabels := labels_eq_map_some fun r hr => Option.isSome_iff_exists.mpr (hnamed r hr)
  rw [labels, hfirst.split] at hlabels
  exact name?_ne_of_distinct hnodup hlabels hfirst.named

theorem named_row (h : t.Keyed) {kind : Kind} (hsingle : kind.location ≠ .single) {row : Row}
    (hrow : row ∈ t.rows kind) : kind.Addresses row.parent ∧ ∃ name, row.name = some name := by
  obtain ⟨q, r, hentry, rfl⟩ := mem_rows.mp hrow
  have haddress : kind.Addresses q := by
    cases hparent : kind.parent with
    | none =>
        obtain ⟨rfl, _⟩ := (mem_entries_of_top hparent).mp hentry
        exact Kind.addresses_none hparent
    | some parentKind =>
        obtain ⟨field, hlocation⟩ := Kind.parent_eq_some_iff.mp hparent
        have hcollection := Kind.location_of_parent hparent
        have htop : parentKind.parent = none := Kind.parent_of_collection hcollection
        rw [entries_of_nested t hlocation] at hentry
        obtain ⟨holder, hholder, hheld⟩ := List.mem_flatMap.mp hentry
        obtain ⟨_, _, heq⟩ := List.mem_map.mp hheld
        rw [← collection_of_top t htop] at hholder
        obtain ⟨name, hname⟩ :=
          (h parentKind none (by simp [hcollection]) (Kind.addresses_none htop)).2 holder hholder
        obtain rfl : holder.name? = q := congrArg Prod.fst heq
        simp [Kind.Addresses, hname, hparent]
  exact ⟨haddress, (h kind q hsingle haddress).2 r (mem_collection.mpr ⟨q, hentry, .inr rfl⟩)⟩

/-- The scopes of references to held records tell their parents. -/
theorem reach_ne_everywhere (h : t.Keyed) {kind : Kind} {reference : Reference}
    (hmem : reference ∈ kind.schema.references) (hheld : reference.target.parent.isSome)
    (hbucket : reference.target ≠ .bucket) (hkey : reference.target ≠ .storageKey) {row : Row}
    (hrow : row ∈ t.rows kind) : row.reach t.rows kind reference ≠ .everywhere := by
  have hscoped := List.all_eq_true.mp kind.all_scoped reference hmem
  unfold Row.reach
  cases hscope : reference.scope with
  | anywhere => simp_all
  | sibling =>
      obtain ⟨parentKind, hparent⟩ := Option.isSome_iff_exists.mp
        ((Kind.tied_of_sibling hmem hscope).2 ▸ hheld)
      obtain ⟨field, hlocation⟩ := Kind.parent_eq_some_iff.mp hparent
      have haddress := (h.named_row (by simp [hlocation]) hrow).1
      obtain ⟨name, hname⟩ := haddress.eq_some hparent
      simp [hname, Reach.ofParent]
  | underField field =>
      cases hname : row.scopeName field reference.target <;> simp [hname, Reach.ofName]
  | underParentField field =>
      simp only
      split
      · unfold Reach.ofName
        split <;> simp
      · simp

theorem mem_names_iff (h : t.Keyed) {kind : Kind} (hsingle : kind.location ≠ .single)
    {parent : Option String} (haddress : kind.Addresses parent) {name : String} :
    name ∈ t.names kind parent ↔
      ∃ row ∈ t.rows kind, row.parent = parent ∧ row.name = some name := by
  rw [mem_names]
  constructor
  · rintro ⟨q, r, hentry, hq, hname⟩
    have hrow : Row.of kind q r ∈ t.rows kind := mem_rows.mpr ⟨q, r, hentry, rfl⟩
    have haddressed : kind.Addresses q := (h.named_row hsingle hrow).1
    refine ⟨_, hrow, ?_, hname⟩
    rcases hq with rfl | rfl
    · have htop : kind.parent = none := by simpa [Kind.Addresses] using haddress.symm
      exact haddressed.eq_none htop
    · rfl
  · rintro ⟨row, hrow, hparent, hname⟩
    obtain ⟨q, r, hentry, rfl⟩ := mem_rows.mp hrow
    exact ⟨q, r, hentry, .inr hparent, hname⟩

end Keyed

/-- The records that the holders with a name hold. -/
def heldUnder (holders : List Record) (field parent : String) : List Record :=
  (holders.filter fun holder => holder.name? = some parent).flatMap fun holder =>
    holder.records field

theorem labels_of_nested (t : Tree) {kind parentKind : Kind} {field : String}
    (h : kind.location = .nested parentKind field) (parent : String) :
    t.labels kind (some parent) =
      (heldUnder (t.tops parentKind) field parent).map Record.name? := by
  rw [labels_eq_rows, rows_of_nested t h, heldUnder]
  induction t.tops parentKind with
  | nil => rfl
  | cons holder rest ih =>
      rw [List.flatMap_cons, List.filter_append, List.map_append, ih, List.filter_cons]
      by_cases hname : holder.name? = some parent
      · simp [hname, Function.comp_def, List.filter_map]
      · simp [hname, Function.comp_def, List.filter_map]

/-! ## What writing a list does to the labels -/

theorem exists_place {t : Tree} {kind : Kind} {parent : Option String} {items : List Value}
    (haddress : kind.Addresses parent)
    (hunique : ∀ parentKind, kind.parent = some parentKind → (t.names parentKind none).Nodup)
    (hitems : t.items? kind parent = some items) :
    ∃ before after, t.Place kind parent items before after := by
  cases hlocation : kind.location with
  | single => simp [items?, hlocation] at hitems
  | collection =>
      have hnone := haddress.eq_none (Kind.parent_of_collection hlocation)
      subst hnone
      exact ⟨[], [], place_of_collection hlocation hitems⟩
  | nested parentKind field =>
      have hparent : kind.parent = some parentKind :=
        Kind.parent_eq_some_iff.mpr ⟨field, hlocation⟩
      obtain ⟨name, rfl⟩ := haddress.eq_some hparent
      exact place_of_nested hlocation (hunique parentKind hparent) hitems

theorem Keyed.exists_place {t : Tree} (h : t.Keyed) {kind : Kind} {parent : Option String}
    {items : List Value} (haddress : kind.Addresses parent)
    (hitems : t.items? kind parent = some items) :
    ∃ before after, t.Place kind parent items before after :=
  Tree.exists_place haddress (fun _ hparent => h.nodup_holders hparent) hitems

theorem Keyed.name?_ne_of_items? {t : Tree} (h : t.Keyed) {kind : Kind}
    (hsingle : kind.location ≠ .single) {parent : Option String}
    (haddress : kind.Addresses parent) {before after : List Value} {r : Record}
    (hitems : t.items? kind parent = some (before ++ .object r :: after)) {name : String}
    (hname : r.name? = some name) :
    ∀ other ∈ (before ++ after).filterMap Value.object?, other.name? ≠ some name := by
  obtain ⟨_, _, hplace⟩ := h.exists_place haddress hitems
  obtain ⟨hnodup, hnamed⟩ := h kind parent hsingle haddress
  have hlabels := labels_eq_map_some fun r hr => Option.isSome_iff_exists.mpr (hnamed r hr)
  have hobject : Value.object? (.object r) = some r := rfl
  rw [labels, hplace.collection_eq, List.filterMap_append,
    List.filterMap_cons_some hobject] at hlabels
  rw [List.filterMap_append]
  exact name?_ne_of_distinct hnodup hlabels hname

theorem exists_append_of_mem_records {field : String} {holder r : Record}
    (h : r ∈ holder.records field) :
    ∃ before after, itemsIn? field holder = some (before ++ .object r :: after) := by
  rw [Record.records_eq] at h
  unfold itemsIn?
  cases hvalue : holder.get? field with
  | none => simp [hvalue] at h
  | some value =>
      cases value with
      | list items =>
          obtain ⟨item, hitem, hobject⟩ : ∃ item ∈ items, item.object? = some r := by
            simpa [hvalue] using h
          cases item with
          | object _ =>
              obtain rfl := Option.some.inj hobject
              obtain ⟨before, after, rfl⟩ := List.append_of_mem hitem
              exact ⟨before, after, rfl⟩
          | null | bool _ | number _ | text _ | list _ => cases hobject
      | null | bool _ | number _ | text _ | object _ =>
          simp [hvalue, Value.records, Value.list?] at h

theorem Keyed.exists_items? {t : Tree} (h : t.Keyed) {kind : Kind}
    (hsingle : kind.location ≠ .single) {parent : Option String} {r : Record}
    (hentry : (parent, r) ∈ t.entries kind) :
    ∃ before after, t.items? kind parent = some (before ++ .object r :: after) := by
  cases hlocation : kind.location with
  | single => exact absurd hlocation hsingle
  | collection =>
      have htop : kind.parent = none := Kind.parent_of_collection hlocation
      obtain ⟨_, hr⟩ := (mem_entries_of_top htop).mp hentry
      rw [tops_eq_topLevel t hlocation] at hr
      simp only [items?, hlocation]
      exact exists_append_of_mem_records hr
  | nested parentKind field =>
      have hparent : kind.parent = some parentKind :=
        Kind.parent_eq_some_iff.mpr ⟨field, hlocation⟩
      have hcollection := Kind.location_of_parent hparent
      obtain ⟨holder, hholder, rfl, hr⟩ := (mem_entries_of_nested hlocation).mp hentry
      obtain ⟨name, hname⟩ : ∃ name, holder.name? = some name :=
        (h.named_row hsingle (mem_rows.mpr ⟨_, _, hentry, rfl⟩)).1.eq_some hparent
      have hnames := h.nodup_holders hparent
      rw [names_eq_filterMap_tops t (Kind.parent_of_collection hcollection)] at hnames
      have hfind := find?_of_distinct hnames hholder hname
      rw [tops_eq_topLevel t hcollection] at hfind
      simp only [items?, hlocation, hname, Option.bind_eq_bind, Option.bind_some, hfind]
      exact exists_append_of_mem_records hr

namespace Place

variable {t : Tree} {kind : Kind} {parent : Option String} {items : List Value}
  {before after : List (Option String × Record)}

theorem labels_eq (h : t.Place kind parent items before after) :
    t.labels kind parent = (items.filterMap Value.object?).map Record.name? := by
  rw [labels, h.collection_eq]

theorem labels_setItems (h : t.Place kind parent items before after) (new : List Value) :
    (t.setItems kind parent new).labels kind parent =
      (new.filterMap Value.object?).map Record.name? := by
  rw [labels, h.collection_setItems]

theorem labels_setItems_of_ne (h : t.Place kind parent items before after) (new : List Value)
    {other : String} (hother : some other ≠ parent) :
    (t.setItems kind parent new).labels kind (some other) = t.labels kind (some other) := by
  rw [labels, labels, h.collection_setItems_of_ne new hother]

end Place

/-! ## Lists that can be written -/

/-- Whether every list of a kind is a list, or absent. -/
def HasLists (t : Tree) (kind : Kind) : Prop :=
  match kind.location with
  | .single => True
  | .collection => (itemsIn? kind.tag t.root).isSome
  | .nested parentKind field => ∀ holder ∈ t.tops parentKind, (itemsIn? field holder).isSome

theorem hasLists_collection {t : Tree} {kind : Kind} (h : kind.location = .collection) :
    t.HasLists kind ↔ (itemsIn? kind.tag t.root).isSome := by
  simp [HasLists, h]

theorem hasLists_nested {t : Tree} {kind parentKind : Kind} {field : String}
    (h : kind.location = .nested parentKind field) :
    t.HasLists kind ↔ ∀ holder ∈ t.tops parentKind, (itemsIn? field holder).isSome := by
  simp [HasLists, h]

instance (t : Tree) (kind : Kind) : Decidable (t.HasLists kind) :=
  match h : kind.location with
  | .single => isTrue (by simp [HasLists, h])
  | .collection => decidable_of_iff _ (hasLists_collection h).symm
  | .nested _ _ => decidable_of_iff _ (hasLists_nested h).symm

theorem HasLists.isSome_items? {t : Tree} {kind : Kind} (h : t.HasLists kind)
    {parent : Option String} (haddress : kind.Addresses parent)
    (hsingle : kind.location ≠ .single) :
    (t.items? kind parent).isSome ↔
      ∀ parentKind name, kind.parent = some parentKind → parent = some name →
        name ∈ t.names parentKind none := by
  cases hlocation : kind.location with
  | single => exact absurd hlocation hsingle
  | collection =>
      have htop : kind.parent = none := Kind.parent_of_collection hlocation
      have hsome := (hasLists_collection hlocation).mp h
      simp [items?, hlocation, hsome, htop]
  | nested parentKind field =>
      have hparent : kind.parent = some parentKind :=
        Kind.parent_eq_some_iff.mpr ⟨field, hlocation⟩
      have hcollection := Kind.location_of_parent hparent
      have htop : parentKind.parent = none := Kind.parent_of_collection hcollection
      obtain ⟨name, rfl⟩ := haddress.eq_some hparent
      have hholders := (hasLists_nested hlocation).mp h
      rw [tops_eq_topLevel t hcollection] at hholders
      have hnames : name ∈ t.names parentKind none ↔
          ∃ holder ∈ t.topLevel parentKind, holder.name? = some name := by
        rw [names_eq_filterMap_tops t htop, tops_eq_topLevel t hcollection, List.mem_filterMap]
      have hgoal : (∀ otherKind other, kind.parent = some otherKind → some name = some other →
          other ∈ t.names otherKind none) ↔ name ∈ t.names parentKind none := by
        rw [hparent]
        constructor
        · intro hall
          exact hall parentKind name rfl rfl
        · intro hmem otherKind other hkind hother
          rwa [← Option.some.inj hkind, ← Option.some.inj hother]
      rw [hgoal, hnames]
      simp only [items?, hlocation, Option.bind_eq_bind, Option.bind_some]
      cases hfind : (t.topLevel parentKind).find? fun r => r.name? = some name with
      | none =>
          have hnot := List.find?_eq_none.mp hfind
          simpa using hnot
      | some holder =>
          have hmem := List.mem_of_find?_eq_some hfind
          have hnamed := List.find?_some hfind
          simp only [Option.bind_some]
          exact iff_of_true (hholders holder hmem) ⟨holder, hmem, by simpa using hnamed⟩

theorem isSome_itemsIn?_mapValues {f : String → Value → Value} {field : String} {r : Record}
    (hf : ∀ items, ∃ changed, f field (.list items) = .list changed)
    (h : (itemsIn? field r).isSome) : (itemsIn? field (r.mapValues f)).isSome := by
  unfold itemsIn? at h ⊢
  rw [Record.get?_mapValues]
  cases hvalue : r.get? field with
  | none => rfl
  | some value =>
      rw [hvalue] at h
      cases value with
      | list items =>
          obtain ⟨changed, hchanged⟩ := hf items
          simp [hchanged, Value.list?]
      | null | bool _ | number _ | text _ | object _ => cases h

theorem HasLists.mapTop {t : Tree} {kind : Kind} {f : Kind → Record → Record}
    (h : t.HasLists kind)
    (hf : ∀ parentKind field, kind.location = .nested parentKind field →
      ∀ holder ∈ t.tops parentKind, (itemsIn? field holder).isSome →
        (itemsIn? field (f parentKind holder)).isSome) : (t.mapTop f).HasLists kind := by
  cases hlocation : kind.location with
  | single => simp [HasLists, hlocation]
  | collection =>
      have htop : kind.parent = none := Kind.parent_of_collection hlocation
      rw [hasLists_collection hlocation] at h ⊢
      apply isSome_itemsIn?_mapValues _ h
      intro items
      simp only [Kind.topOf?_tag htop, Value.mapPlaced, hlocation]
      exact ⟨_, rfl⟩
  | nested parentKind field =>
      have hcollection : parentKind.location = .collection :=
        Kind.location_of_parent (Kind.parent_eq_some_iff.mpr ⟨field, hlocation⟩)
      have htop : parentKind.parent = none := Kind.parent_of_collection hcollection
      rw [hasLists_nested hlocation] at h ⊢
      rw [tops_mapTop _ _ htop]
      intro changed hchanged
      obtain ⟨holder, hholder, rfl⟩ := List.mem_map.mp hchanged
      exact hf parentKind field hlocation holder hholder (h holder hholder)

theorem HasLists.reviseAll {t : Tree} {kind : Kind} (h : t.HasLists kind) (judge : Judge) :
    (t.reviseAll judge).HasLists kind := by
  apply h.mapTop
  intro parentKind field hlocation holder _ hholder
  have hheld := Kind.heldIn?_of_location hlocation
  rw [itemsIn?_congr (Record.get?_reviseBy_of_ne (Kind.root_ne_held hlocation) _ _)]
  apply isSome_itemsIn?_mapValues _ hholder
  intro items
  simp only [hheld]
  exact ⟨_, rfl⟩

private theorem exists_setItems_eq (t : Tree) (kind : Kind) (parent : Option String)
    (items : List Value) :
    t.setItems kind parent items = t ∨
      ∃ (top : Kind) (values : List Value),
        t.setItems kind parent items = t.set top.tag (.list values) := by
  unfold setItems
  split
  · exact .inr ⟨kind, items, rfl⟩
  · next parentKind field name _ =>
      unfold modifyRecord?
      cases t.root.list? parentKind.tag with
      | none => exact .inl rfl
      | some values =>
          cases hmodify : modifyNamed name (Record.insert field (.list items)) values with
          | none => exact .inl (by simp [hmodify])
          | some changed => exact .inr ⟨parentKind, changed, by simp [hmodify]⟩
  · exact .inl rfl

theorem isSome_itemsIn?_insert {field : String} {r : Record} (h : (itemsIn? field r).isSome)
    (written : String) (new : List Value) :
    (itemsIn? field (r.insert written (.list new))).isSome := by
  by_cases hfield : field = written
  · simp [itemsIn?, hfield, Value.list?]
  · rwa [itemsIn?_congr (Record.get?_insert_of_ne _ _ hfield)]

/-- Writing a list keeps the lists of all kinds, if the records in it have lists. -/
theorem HasLists.setItems {t : Tree} {kind : Kind} {parent : Option String} {items : List Value}
    (hitems : t.items? kind parent = some items) {other : Kind} (h : t.HasLists other)
    {new : List Value}
    (hnew : ∀ field, other.location = .nested kind field →
      ∀ r ∈ new.filterMap Value.object?, (itemsIn? field r).isSome) :
    (t.setItems kind parent new).HasLists other := by
  cases hother : other.location with
  | single => simp [HasLists, hother]
  | collection =>
      rw [hasLists_collection hother] at h ⊢
      rcases t.exists_setItems_eq kind parent new with heq | ⟨top, values, heq⟩
      · rwa [heq]
      · rw [heq, set]
        exact isSome_itemsIn?_insert h top.tag values
  | nested holderKind field =>
      rw [hasLists_nested hother] at h ⊢
      cases standing_of_items? hitems with
      | top _ _ hset =>
          rw [hset]
          by_cases hsame : holderKind = kind
          · subst hsame
            rw [if_pos rfl]
            exact hnew field hother
          · rwa [if_neg hsame]
      | @held parentKind written _ _ _ _ _ _ hfirst _ hset =>
          rw [hset]
          by_cases hsame : holderKind = parentKind
          · subst hsame
            rw [hfirst.split, List.forall_mem_append, List.forall_mem_cons] at h
            rw [if_pos rfl, List.forall_mem_append, List.forall_mem_cons]
            exact ⟨h.1, isSome_itemsIn?_insert h.2.1 written new, h.2.2⟩
          · rwa [if_neg hsame]

end Tree

end Blueprint
