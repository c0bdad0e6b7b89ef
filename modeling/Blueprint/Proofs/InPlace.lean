import Blueprint.Proofs.Cascades
import Blueprint.Proofs.Labels

/-!
# Writing in place

A field that is there keeps its place when it is set, as long as the fields of a record
stand in the order of their names. Writing a list whose records were changed is then
the same as changing the records where they stand.
-/

namespace Blueprint

namespace Record

/-- Fields in the order of their names, each of them once. -/
def Ordered (r : Record) : Prop := (r.map Prod.fst).Pairwise (· < ·)

instance (r : Record) : Decidable r.Ordered :=
  inferInstanceAs (Decidable ((r.map Prod.fst).Pairwise (· < ·)))

theorem ordered_mapValues {f : String → Value → Value} {r : Record} :
    (mapValues f r).Ordered ↔ r.Ordered := by
  have hkeys : (mapValues f r).map Prod.fst = r.map Prod.fst := by
    induction r generalizing f with
    | nil => rfl
    | cons entry rest ih => simp only [mapValues, List.map_cons, ih]
  rw [Ordered, hkeys, Ordered]

theorem get?_eq_none_of_lt {r : Record} {field : String} (h : ∀ key ∈ r.map Prod.fst, field < key) :
    r.get? field = none := by
  rw [get?, List.lookup_eq_none_iff]
  intro entry hentry
  simpa using (h entry.1 (List.mem_map_of_mem hentry)).ne

theorem insert_eq_modify {r : Record} (h : r.Ordered) {field : String} {old : Value}
    (hold : r.get? field = some old) (f : Value → Value) :
    insert field (f old) r = modify field f r := by
  induction r with
  | nil => cases hold
  | cons entry rest ih =>
      obtain ⟨key, first⟩ := entry
      obtain ⟨hfirst, hrest⟩ := List.pairwise_cons.mp h
      rw [get?_cons] at hold
      by_cases hkey : field = key
      · rw [if_pos hkey] at hold
        obtain rfl := Option.some.inj hold
        simp [insert, modify, hkey]
      · rw [if_neg hkey] at hold
        have hlt : ¬field < key := by
          intro hlt
          rw [get?_eq_none_of_lt fun other hother => hlt.trans (hfirst other hother)] at hold
          cases hold
        simp only [insert, modify, hkey, hlt, if_false, ih hrest hold]

theorem mapValues_insert {f : String → Value → Value} {field : String}
    (hf : ∀ value, f field value = value) (value : Value) (r : Record) :
    mapValues f (insert field value r) = insert field value (mapValues f r) := by
  induction r generalizing f with
  | nil => simp [insert, mapValues, hf]
  | cons entry rest ih =>
      obtain ⟨key, old⟩ := entry
      by_cases hkey : field = key
      · subst hkey
        simp [insert, mapValues, hf]
      · have htail : ∀ value, (fun other old => if other = key then old else f other old) field
            value = value := by
          intro value
          simp [hkey, hf]
        by_cases hlt : field < key
        · have hskip : (fun other old => if other = field then old else f other old) = f := by
            funext other old
            by_cases hother : other = field
            · simp [hother, hf]
            · simp [hother]
          calc mapValues f (insert field value ((key, old) :: rest))
              _ = mapValues f ((field, value) :: (key, old) :: rest) := by
                  simp only [insert, hkey, hlt, if_true, if_false]
              _ = (field, value) :: mapValues f ((key, old) :: rest) := by
                  rw [mapValues, hf, hskip]
              _ = insert field value (mapValues f ((key, old) :: rest)) := by
                  simp only [mapValues, insert, hkey, hlt, if_true, if_false]
        · have hrest := ih (f := fun other old => if other = key then old else f other old) htail
          simp only [insert, hkey, hlt, if_false, mapValues, hrest]

end Record

namespace Tree

/-- The root and all records of a tree list their fields in order. -/
def Ordered (t : Tree) : Prop :=
  t.root.Ordered ∧ ∀ kind, ∀ entry ∈ t.entries kind, entry.2.Ordered

instance (t : Tree) : Decidable t.Ordered :=
  decidable_of_iff
    (t.root.Ordered ∧ ∀ kind ∈ Kind.all, ∀ entry ∈ t.entries kind, entry.2.Ordered)
    (by simp [Ordered, Kind.mem_all])

theorem Ordered.reviseAll {t : Tree} (h : t.Ordered) (judge : Judge) :
    (t.reviseAll judge).Ordered := by
  refine ⟨Record.ordered_mapValues.mpr h.1, fun kind entry hentry => ?_⟩
  rw [entries_reviseAll] at hentry
  obtain ⟨before, hbefore, rfl⟩ := List.mem_map.mp hentry
  refine Record.ordered_mapValues.mpr ?_
  split
  · exact Record.ordered_mapValues.mpr (h.2 kind before hbefore)
  · exact h.2 kind before hbefore

/-! ## Lists of records -/

variable {items : List Value} {before after : List Record} {stored : Record}

private theorem map_mapObject_of_same {f : Record → Record} {items : List Value}
    (h : ∀ r ∈ items.filterMap Value.object?, f r = r) : items.map (Value.mapObject f) = items := by
  have hsame : Value.mapItems f (.list items) = Value.mapItems (fun r => r) (.list items) :=
    Value.mapItems_congr h
  rw [Value.mapItems_id] at hsame
  exact Value.list.inj hsame

theorem replaceRecord_eq_map (h : items.filterMap Value.object? = before ++ stored :: after)
    {f : Record → Record} (hother : ∀ r ∈ before ++ after, f r = r) :
    replaceRecord (f stored) before.length items = items.map (Value.mapObject f) := by
  induction items generalizing before with
  | nil => simp at h
  | cons item items ih =>
      cases item with
      | object head =>
          cases before with
          | nil =>
              obtain ⟨rfl, htail⟩ := List.cons.inj h
              simp only [replaceRecord, List.length_nil, List.map_cons, Value.mapObject]
              rw [map_mapObject_of_same (htail ▸ hother)]
          | cons first before =>
              obtain ⟨rfl, htail⟩ := List.cons.inj h
              obtain ⟨hfirst, hothers⟩ := List.forall_mem_cons.mp hother
              simp only [List.length_cons, replaceRecord, List.map_cons, Value.mapObject, hfirst,
                ih htail hothers]
      | null | bool _ | number _ | text _ | list _ =>
          cases before with
          | nil => simpa [replaceRecord, Value.mapObject] using ih h hother
          | cons first before => simpa [replaceRecord, Value.mapObject] using ih h hother

theorem modifyNamed_eq_map {name : String} {f g : Record → Record}
    (h : FirstNamed name (items.filterMap Value.object?) before stored after)
    (hstored : g stored = f stored) (hother : ∀ r ∈ before ++ after, g r = r) :
    modifyNamed name f items = some (items.map (Value.mapObject g)) := by
  induction items generalizing before with
  | nil => simpa using h.mem
  | cons item items ih =>
      cases item with
      | object head =>
          rcases h.eq_cons with ⟨hnamed, rfl, rfl, rfl⟩ | ⟨hne, before, rfl, htail⟩
          · simp only [modifyNamed, hnamed, if_true, List.map_cons, Value.mapObject, hstored]
            rw [map_mapObject_of_same hother]
          · obtain ⟨hfirst, hothers⟩ := List.forall_mem_cons.mp hother
            simp only [modifyNamed, hne, if_false, ih htail hothers, Option.map_some, List.map_cons,
              Value.mapObject, hfirst]
      | null | bool _ | number _ | text _ | list _ =>
          simp only [modifyNamed, ih h hother, Option.map_some, List.map_cons, Value.mapObject]

/-! ## Writing a list -/

theorem get?_of_itemsIn? {field : String} {r : Record} (h : itemsIn? field r = some items)
    (hne : items ≠ []) : r.get? field = some (.list items) := by
  unfold itemsIn? at h
  cases hvalue : r.get? field with
  | none =>
      rw [hvalue] at h
      exact absurd (Option.some.inj h).symm hne
  | some value =>
      rw [hvalue] at h
      cases value with
      | list entries => rw [Option.some.inj h]
      | null | bool _ | number _ | text _ | object _ => cases h

theorem setTops_map {t : Tree} (h : t.root.Ordered) {kind : Kind}
    (hlocation : kind.location = .collection)
    (hitems : t.root.get? kind.tag = some (.list items)) (f : Record → Record) :
    t.set kind.tag (.list (items.map (Value.mapObject f))) =
      t.mapTop fun top r => if top = kind then f r else r := by
  have hplaced : Value.mapPlaced kind f = Value.mapItems f := by
    funext value
    simp [Value.mapPlaced, hlocation]
  rw [mapTop_ite t (Kind.parent_of_collection hlocation), hplaced,
    ← Record.insert_eq_modify h hitems]
  rfl

/-- Changes the list of a kind under a parent where it stands. -/
def modifyItems (t : Tree) (kind : Kind) (parent : Option String) (g : Value → Value) : Tree :=
  match kind.location with
  | .single => t
  | .collection => ⟨t.root.modify kind.tag g⟩
  | .nested parentKind field =>
      t.mapTop fun top r => if top = parentKind ∧ r.name? = parent then r.modify field g else r

private theorem setItems_eq_modifyItems_of_nested {t : Tree} (hordered : t.Ordered)
    (hkeyed : t.Keyed) {kind parentKind : Kind} {field name : String}
    (hlocation : kind.location = .nested parentKind field)
    (hitems : t.items? kind (some name) = some items) (hne : items ≠ []) {g : Value → Value}
    {new : List Value} (hg : g (.list items) = .list new) :
    t.setItems kind (some name) new = t.modifyItems kind (some name) g := by
  have hcollection := Kind.location_of_parent (Kind.parent_eq_some_iff.mpr ⟨field, hlocation⟩)
  have htop : parentKind.parent = none := Kind.parent_of_collection hcollection
  obtain ⟨before, holder, after, hfirst, hholder, _⟩ := setItems_of_nested hlocation hitems
  rw [tops_eq_topLevel t hcollection] at hfirst
  obtain ⟨values, hroot, hrecords⟩ := exists_list_of_mem hfirst.mem
  have hentry : (none, holder) ∈ t.entries parentKind := by
    rw [entries_of_top t htop, tops_eq_topLevel t hcollection]
    exact List.mem_map_of_mem hfirst.mem
  have hothers : ∀ other ∈ before ++ after, other.name? ≠ some name := by
    apply hkeyed.name?_ne (by simp [hcollection]) (Kind.addresses_none htop) (r := holder)
    rwa [collection_of_top t htop, tops_eq_topLevel t hcollection]
  -- The holder is the only one with its name, and the list keeps its place in it.
  have hmodify : modifyNamed name (Record.insert field (.list new)) values =
      some (values.map (Value.mapObject fun r =>
        if r.name? = some name then r.modify field g else r)) := by
    rw [hrecords] at hfirst
    apply modifyNamed_eq_map hfirst
    · have hinsert := Record.insert_eq_modify (hordered.2 parentKind _ hentry)
        (get?_of_itemsIn? hholder hne) g
      rw [hg] at hinsert
      rw [if_pos hfirst.named, hinsert]
    · intro other hother
      rw [if_neg (hothers other hother)]
  simp only [setItems, hlocation, modifyRecord?, Record.list?_of_get? hroot, hmodify,
    Option.bind_eq_bind, Option.bind_some, Option.pure_def, Option.getD_some]
  rw [setTops_map hordered.1 hcollection hroot, modifyItems]
  simp only [hlocation]
  congr 1
  funext top r
  by_cases htopKind : top = parentKind <;> simp only [htopKind, true_and, false_and, if_true,
    if_false]

/-- Writing the list that a change makes of the one that is there is making the change
where the list stands. -/
theorem setItems_eq_modifyItems {t : Tree} (hordered : t.Ordered) (hkeyed : t.Keyed) {kind : Kind}
    {parent : Option String} (haddress : kind.Addresses parent)
    (hitems : t.items? kind parent = some items) (hne : items ≠ []) {g : Value → Value}
    {new : List Value} (hg : g (.list items) = .list new) :
    t.setItems kind parent new = t.modifyItems kind parent g := by
  cases hlocation : kind.location with
  | single => simp [items?, hlocation] at hitems
  | collection =>
      have hroot : itemsIn? kind.tag t.root = some items := by
        simpa only [items?, hlocation] using hitems
      have hinsert := Record.insert_eq_modify hordered.1 (get?_of_itemsIn? hroot hne) g
      rw [hg] at hinsert
      simp only [setItems, modifyItems, hlocation, set, hinsert]
  | nested parentKind field =>
      obtain ⟨name, rfl⟩ := haddress.eq_some (Kind.parent_eq_some_iff.mpr ⟨field, hlocation⟩)
      exact setItems_eq_modifyItems_of_nested hordered hkeyed hlocation hitems hne hg

theorem setItems_map {t : Tree} (hordered : t.Ordered) (hkeyed : t.Keyed) {kind : Kind}
    {parent : Option String} (haddress : kind.Addresses parent)
    (hitems : t.items? kind parent = some items) (hne : items ≠ []) (f : Record → Record) :
    t.setItems kind parent (items.map (Value.mapObject f)) =
      t.mapKind kind fun q r => if q = parent then f r else r := by
  rw [setItems_eq_modifyItems hordered hkeyed haddress hitems hne (g := Value.mapItems f) rfl,
    modifyItems]
  cases hlocation : kind.location with
  | single => simp [items?, hlocation] at hitems
  | collection =>
      have htop : kind.parent = none := Kind.parent_of_collection hlocation
      have hplaced : Value.mapPlaced kind f = Value.mapItems f := by
        funext value
        simp [Value.mapPlaced, hlocation]
      rw [mapKind, Kind.lift_of_top htop, haddress.eq_none htop]
      simp only [if_true]
      rw [mapTop_ite t htop, hplaced]
  | nested parentKind field =>
      simp only [mapKind, Kind.lift_of_nested hlocation]
      congr 1
      funext top r
      by_cases htop : top = parentKind
      · by_cases hname : r.name? = parent
        · simp only [htop, hname, true_and, if_true]
        · simp only [htop, hname, true_and, if_true, if_false, Record.modify_mapItems_id]
      · simp only [htop, false_and, if_false]

end Tree

end Blueprint
