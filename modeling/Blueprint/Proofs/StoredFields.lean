import Blueprint.Proofs.Shown

/-!
# Fields of a stored record

What an accepted save leaves in the tree. The fields of a record that are its own come
through as they are merged; what comes after a save is written, the reconciliation and the
cascades, changes no more than references and links. The list that is written is that of
the first parent with the name, so the record that was found is replaced if it stands
there, and no record is replaced otherwise.
-/

namespace Blueprint

/-! ## What a record keeps -/

namespace Kind

/-- The field that a kind itself writes when a record is created or saved. -/
def hookedField? : Kind → Option String
  | accessGroup => some "invites"
  | transitGateway => some "connections"
  | _ => none

/-- Whether a field is a record's own: it holds no records and no reference, and it is not
written by the kind. -/
def isOwn (kind : Kind) (field : String) : Bool :=
  (kind.heldIn? field).isNone && kind.hookedField? ≠ some field &&
    kind.schema.references.all fun reference => reference.path.root ≠ field

theorem isOwn_name (kind : Kind) : kind.isOwn "name" = true := by
  cases kind <;> decide

theorem isOwn_iff {kind : Kind} {field : String} :
    kind.isOwn field = true ↔ kind.heldIn? field = none ∧ kind.hookedField? ≠ some field ∧
      ∀ reference ∈ kind.schema.references, reference.path.root ≠ field := by
  simp [isOwn, and_assoc]

/-- A record has the own fields of another one, and the records that it holds have the same
names. -/
structure Keeps (kind : Kind) (first second : Record) : Prop where
  own : ∀ field, kind.isOwn field = true → first.get? field = second.get? field
  held : ∀ (child : Kind) (field : String), child.location = .nested kind field →
    (first.records field).map Record.name? = (second.records field).map Record.name?

namespace Keeps

variable {kind : Kind} {first second : Record}

theorem refl (kind : Kind) (r : Record) : kind.Keeps r r := ⟨fun _ _ => rfl, fun _ _ _ => rfl⟩

theorem trans {third : Record} (h : kind.Keeps first second) (h' : kind.Keeps second third) :
    kind.Keeps first third where
  own field hown := (h.own field hown).trans (h'.own field hown)
  held child field hlocation := (h.held child field hlocation).trans (h'.held child field hlocation)

theorem name?_eq (h : kind.Keeps first second) : first.name? = second.name? := by
  rw [Record.name?_eq, Record.name?_eq, h.own "name" kind.isOwn_name]

end Keeps

theorem keeps_reviseBy (kind : Kind) (judge : Reference → String → Verdict) (r : Record) :
    kind.Keeps (r.reviseBy kind.schema.references judge) r where
  own _ hown := Record.get?_reviseBy_of_ne (isOwn_iff.mp hown).2.2 judge r
  held _ field hlocation := by
    rw [Record.records_eq, Record.get?_reviseBy_of_ne (root_ne_held hlocation),
      ← Record.records_eq]

theorem keeps_mapHeld (kind : Kind) {f : Kind → Option String → Record → Record}
    (hf : ∀ child q held, (f child q held).name? = held.name?) (r : Record) :
    kind.Keeps (kind.mapHeld f r) r where
  own _ hown := get?_mapHeld_of_none (isOwn_iff.mp hown).1 f r
  held child field hlocation := by
    rw [Record.records_eq, Record.records_eq, get?_mapHeld_of_some (heldIn?_of_location hlocation)]
    cases r.get? field with
    | none => rfl
    | some value => simp [Value.records_mapItems, hf]

theorem keeps_saved {kind : Kind} (hsingle : kind.location ≠ .single) (t : Tree)
    (stored merged : Record) : kind.Keeps (kind.schema.saved t stored merged).2 merged := by
  have hagrees := (saved_agrees hsingle t stored merged).2
  refine ⟨fun field hown => ?_, fun child field hlocation => ?_⟩
  · have hhook := (isOwn_iff.mp hown).2.1
    -- Two kinds write to a record of their own, each to the field that is named for it.
    cases kind with
    | accessGroup =>
        have hfield : field ≠ "invites" := fun h => hhook (congrArg some h.symm)
        simp only [schema, AccessGroup.schema, AccessGroup.nameInvitations]
        split <;> exact Record.get?_insert_of_ne _ _ hfield
    | transitGateway =>
        have hfield : field ≠ "connections" := fun h => hhook (congrArg some h.symm)
        simp only [schema, TransitGateway.schema, TransitGateway.addressConnections]
        split
        · rw [Record.get?_modify, if_neg hfield]
        · rfl
    | options | accountSettings => exact absurd rfl hsingle
    | _ => rfl
  · rw [Record.records_eq, Record.records_eq, hagrees.held child field hlocation]

end Kind

namespace Tree

variable {t u : Tree} {kind : Kind} {parent : Option String}

theorem keeps_kept (t : Tree) (kind : Kind) (parent : Option String) (old : String)
    (draft : Draft) : kind.Keeps (t.kept kind parent old draft) draft.record := by
  have hrevised : kind.Keeps (t.reconcileRecord kind parent draft.record).2 draft.record := by
    rw [reconcileRecord_eq]
    exact kind.keeps_reviseBy _ _
  unfold kept
  split
  · rw [linkHeldRecords_eq]
    exact (kind.keeps_mapHeld (fun child _ held =>
      (child.linkTo_agrees draft.name held).name?_eq) _).trans hrevised
  · exact hrevised

/-! ## What a tree retains -/

/-- The records of a kind are those that were there before, as they keep themselves. -/
def Retains (t u : Tree) (kind : Kind) : Prop :=
  ∃ g : Option String → Record → Record, (∀ q r, kind.Keeps (g q r) r) ∧
    u.entries kind = (t.entries kind).map fun entry => (entry.1, g entry.1 entry.2)

namespace Retains

theorem refl (t : Tree) (kind : Kind) : t.Retains t kind :=
  ⟨fun _ r => r, fun _ r => .refl kind r, (List.map_id _).symm⟩

theorem reviseAll (h : t.Retains u kind) (judge : Judge) : t.Retains (u.reviseAll judge) kind := by
  obtain ⟨g, hg, hentries⟩ := h
  let revised : Option String → Record → Record := fun q r =>
    (if kind.parent = none then
        kind.mapHeld (fun kind parent r =>
          r.reviseBy kind.schema.references (judge kind (Row.of kind parent r))) r
      else r).reviseBy kind.schema.references (judge kind (Row.of kind q r))
  have hrevised : ∀ q r, kind.Keeps (revised q r) r := by
    intro q r
    refine (kind.keeps_reviseBy _ _).trans ?_
    split
    · exact kind.keeps_mapHeld (fun child _ held => (child.keeps_reviseBy _ held).name?_eq) r
    · exact .refl kind r
  refine ⟨fun q r => revised q (g q r), fun q r => (hrevised q (g q r)).trans (hg q r), ?_⟩
  rw [entries_reviseAll, hentries, List.map_map]
  rfl

theorem settled (h : t.Retains u kind) (target : Kind) (parent : Option String)
    (old name : String) : t.Retains (u.settled target parent old name) kind :=
  settled_preserves (P := fun v => t.Retains v kind) (fun _ judge hv => hv.reviseAll judge) h
    target parent old name

theorem dropAllReferences (h : t.Retains u kind) (target : Kind) (parent : Option String)
    (removed : Record) : t.Retains (u.dropAllReferences target parent removed).2 kind :=
  dropAllReferences_preserves (P := fun v => t.Retains v kind)
    (fun _ judge hv => hv.reviseAll judge) h target parent removed

end Retains

theorem find?_eq_entries (t : Tree) (kind : Kind) (parent : Option String) (name : String) :
    t.find? kind parent name = ((t.entries kind).find? fun entry =>
      (parent.isNone || entry.1 = parent) && entry.2.name? = some name).map (·.2) := by
  rw [find?, collection_eq, List.find?_map, List.find?_filter]
  simp only [Function.comp_def, Bool.decide_and, Bool.decide_eq_true]

namespace Retains

variable {name : String}

private theorem find?_map (h : t.Retains u kind) (parent : Option String) (name : String) :
    ∃ g : Record → Record, (∀ r, kind.Keeps (g r) r) ∧
      u.find? kind parent name = (t.find? kind parent name).map g := by
  obtain ⟨g, hg, hentries⟩ := h
  rw [find?_eq_entries, find?_eq_entries, hentries, List.find?_map]
  simp only [Function.comp_def, (hg _ _).name?_eq]
  cases (t.entries kind).find? fun entry =>
      (parent.isNone || entry.1 = parent) && entry.2.name? = some name with
  | none => exact ⟨fun r => r, .refl kind, rfl⟩
  | some entry => exact ⟨g entry.1, hg entry.1, rfl⟩

theorem exists_find? (h : t.Retains u kind) {r : Record}
    (hfind : t.find? kind parent name = some r) :
    ∃ r', u.find? kind parent name = some r' ∧ kind.Keeps r' r := by
  obtain ⟨g, hg, hfound⟩ := h.find?_map parent name
  exact ⟨g r, by rw [hfound, hfind, Option.map_some], hg r⟩

theorem find?_eq_none (h : t.Retains u kind) (hfind : t.find? kind parent name = none) :
    u.find? kind parent name = none := by
  obtain ⟨g, _, hfound⟩ := h.find?_map parent name
  rw [hfound, hfind, Option.map_none]

theorem names_eq (h : t.Retains u kind) (parent : Option String) :
    u.names kind parent = t.names kind parent := by
  obtain ⟨g, hg, hentries⟩ := h
  simp only [names, collection_eq, hentries, List.filter_map, List.map_map, List.filterMap_map]
  apply List.filterMap_congr
  intro entry _
  exact (hg entry.1 entry.2).name?_eq

end Retains

theorem find?_eq_none_of_not_mem {name : String} (h : name ∉ t.names kind parent) :
    t.find? kind parent name = none := by
  rw [Tree.find?, List.find?_eq_none]
  intro r hr hnamed
  exact h (List.mem_filterMap.mpr ⟨r, hr, of_decide_eq_true hnamed⟩)

/-! ## The list of the first parent -/

theorem collection_of_nested (t : Tree) {parentKind : Kind} {field : String}
    (h : kind.location = .nested parentKind field) (parent : String) :
    t.collection kind (some parent) = heldUnder (t.tops parentKind) field parent := by
  rw [collection_eq, entries_of_nested t h, heldUnder]
  induction t.tops parentKind with
  | nil => rfl
  | cons holder rest ih =>
      rw [List.flatMap_cons, List.filter_append, List.map_append, ih, List.filter_cons]
      by_cases hname : holder.name? = some parent
      · simp [hname, heldBy, Function.comp_def, List.filter_map]
      · simp [hname, heldBy, Function.comp_def, List.filter_map]

/-- The list that is written comes first among the records under a parent. -/
theorem exists_rest (haddress : kind.Addresses parent) {items : List Value}
    (hitems : t.items? kind parent = some items) :
    ∃ rest, t.collection kind parent = items.filterMap Value.object? ++ rest ∧
      ∀ new, (t.setItems kind parent new).collection kind parent =
        new.filterMap Value.object? ++ rest := by
  cases hlocation : kind.location with
  | single => simp [items?, hlocation] at hitems
  | collection =>
      have htop := Kind.parent_of_collection hlocation
      obtain rfl := haddress.eq_none htop
      refine ⟨[], ?_, fun new => ?_⟩
      · rw [collection_of_top t htop, tops_of_items? hlocation hitems, List.append_nil]
      · rw [collection_of_top _ htop, tops_setItems_of_collection hlocation, if_pos rfl,
          List.append_nil]
  | nested parentKind field =>
      obtain ⟨name, rfl⟩ := haddress.eq_some (Kind.parent_eq_some_iff.mpr ⟨field, hlocation⟩)
      obtain ⟨before, holder, after, hfirst, hholder, hset⟩ := setItems_of_nested hlocation hitems
      have hnamed : ∀ new : List Value, (holder.insert field (.list new)).name? = some name := by
        intro new
        rw [Record.name?_insert_of_ne _ _ (Kind.holdingField_ne_name hlocation), hfirst.named]
      refine ⟨heldUnder after field name, ?_, fun new => ?_⟩
      · rw [collection_of_nested t hlocation, hfirst.split, heldUnder_append,
          heldUnder_eq_nil hfirst.first, List.nil_append, heldUnder_cons, if_pos hfirst.named,
          records_of_itemsIn? hholder]
      · rw [collection_of_nested _ hlocation, hset, if_pos rfl, heldUnder_append,
          heldUnder_eq_nil hfirst.first, List.nil_append, heldUnder_cons, if_pos (hnamed new),
          Record.records_eq, Record.get?_insert_self]
        rfl

theorem name?_ne_of_not_mem (haddress : kind.Addresses parent) {items : List Value}
    (hitems : t.items? kind parent = some items) {name : String}
    (h : name ∉ t.names kind parent) :
    ∀ other ∈ items.filterMap Value.object?, other.name? ≠ some name := by
  obtain ⟨rest, hcollection, _⟩ := exists_rest haddress hitems
  intro other hother hnamed
  refine h (List.mem_filterMap.mpr ⟨other, ?_, hnamed⟩)
  exact hcollection ▸ List.mem_append_left _ hother

/-- Whether the first parent with the name holds a record of a given name. -/
def HeldFirst (t : Tree) (kind : Kind) (parent : Option String) (name : String) : Prop :=
  ∃ items, t.items? kind parent = some items ∧
    ∃ r ∈ items.filterMap Value.object?, r.name? = some name

theorem heldFirst_of_nodup (haddress : kind.Addresses parent)
    (hunique : ∀ parentKind, kind.parent = some parentKind → (t.names parentKind none).Nodup)
    (hsingle : kind.location ≠ .single) {name : String} (hmem : name ∈ t.names kind parent) :
    t.HeldFirst kind parent name := by
  obtain ⟨r, hr, hname⟩ := List.mem_filterMap.mp hmem
  cases hlocation : kind.location with
  | single => exact absurd hlocation hsingle
  | collection =>
      have htop := Kind.parent_of_collection hlocation
      obtain rfl := haddress.eq_none htop
      rw [collection_of_top t htop, tops_eq_topLevel t hlocation] at hr
      obtain ⟨before, after, hitems⟩ := exists_append_of_mem_records hr
      refine ⟨before ++ .object r :: after, by simpa only [items?, hlocation] using hitems, r, ?_,
        hname⟩
      simp [Value.object?]
  | nested parentKind field =>
      have hparent := Kind.parent_eq_some_iff.mpr ⟨field, hlocation⟩
      have hcollection := Kind.location_of_parent hparent
      obtain ⟨parentName, rfl⟩ := haddress.eq_some hparent
      rw [collection_of_nested t hlocation, heldUnder] at hr
      obtain ⟨holder, hholder, hheld⟩ := List.mem_flatMap.mp hr
      obtain ⟨hholder, hnamed⟩ := List.mem_filter.mp hholder
      have hnames := hunique parentKind hparent
      rw [names_eq_filterMap_tops t (Kind.parent_of_collection hcollection)] at hnames
      have hfind := find?_of_distinct hnames hholder (of_decide_eq_true hnamed)
      rw [tops_eq_topLevel t hcollection] at hfind
      obtain ⟨before, after, hitems⟩ := exists_append_of_mem_records hheld
      refine ⟨before ++ .object r :: after, ?_, r, by simp [Value.object?], hname⟩
      simp only [items?, hlocation, Option.bind_eq_bind, Option.bind_some, hfind, hitems]

end Tree

theorem FirstNamed.eq {name : String} {records before before' after after' : List Record}
    {r r' : Record} (h : FirstNamed name records before r after)
    (h' : FirstNamed name records before' r' after') :
    before = before' ∧ r = r' ∧ after = after' := by
  have hlength : before.length = before'.length :=
    Option.some.inj (h.findIdx?.symm.trans h'.findIdx?)
  obtain ⟨hbefore, hrest⟩ := List.append_inj (h.split.symm.trans h'.split) hlength
  exact ⟨hbefore, List.cons.inj hrest⟩

theorem FirstNamed.append {name : String} {records before after : List Record} {r : Record}
    (h : FirstNamed name records before r after) (rest : List Record) :
    FirstNamed name (records ++ rest) before r (after ++ rest) :=
  ⟨by rw [h.split, List.append_assoc, List.cons_append], h.named, h.first⟩

namespace Tree

variable {t u : Tree} {kind : Kind} {parent : Option String} {old : String} {items : List Value}
  {before after : List Record} {stored : Record}

theorem replaceRecord_of_le (new : Record) {index : Nat}
    (h : (items.filterMap Value.object?).length ≤ index) :
    replaceRecord new index items = items := by
  induction items generalizing index with
  | nil => rfl
  | cons item items ih =>
      cases item with
      | object r =>
          cases index with
          | zero => simp [Value.object?] at h
          | succ index => rw [replaceRecord, ih (Nat.le_of_succ_le_succ h)]
      | null | bool _ | number _ | text _ | list _ =>
          rw [List.filterMap_cons_none rfl] at h
          cases index <;> simp [replaceRecord, ih h]

theorem takeNamed_eq_none {name : String}
    (h : ∀ r ∈ items.filterMap Value.object?, r.name? ≠ some name) :
    takeNamed name items = none := by
  induction items with
  | nil => rfl
  | cons item items ih =>
      cases item with
      | object r =>
          obtain ⟨hr, hrest⟩ := List.forall_mem_cons.mp h
          rw [takeNamed, if_neg hr, ih hrest, Option.map_none]
      | null | bool _ | number _ | text _ | list _ => simp [takeNamed, ih h]

/-- The first record with a name under all parents of a name is the first one of the first
parent, if that has one. -/
theorem HeldFirst.exists_firstNamed (hheld : t.HeldFirst kind parent old)
    (haddress : kind.Addresses parent) (hitems : t.items? kind parent = some items)
    (hfirst : FirstNamed old (t.collection kind parent) before stored after) :
    ∃ later, FirstNamed old (items.filterMap Value.object?) before stored later := by
  obtain ⟨rest, hcollection, _⟩ := exists_rest haddress hitems
  obtain ⟨_, hitems', hnamed⟩ := hheld
  obtain rfl := Option.some.inj (hitems.symm.trans hitems')
  obtain ⟨first, found, later, hlist⟩ := FirstNamed.exists_of_mem hnamed
  rw [hcollection] at hfirst
  obtain ⟨rfl, rfl, _⟩ := hfirst.eq (hlist.append rest)
  exact ⟨later, hlist⟩

theorem find?_setItems_replaceRecord (haddress : kind.Addresses parent)
    (hitems : t.items? kind parent = some items)
    (hfirst : FirstNamed old (t.collection kind parent) before stored after)
    (hheld : t.HeldFirst kind parent old) {r : Record} {name : String}
    (hr : r.name? = some name) (hfree : ∀ other ∈ before, other.name? ≠ some name) :
    (t.setItems kind parent (replaceRecord r before.length items)).find? kind parent name =
      some r := by
  obtain ⟨rest, _, hset⟩ := exists_rest haddress hitems
  obtain ⟨later, hlist⟩ := hheld.exists_firstNamed haddress hitems hfirst
  have hwritten : FirstNamed name (before ++ r :: later) before r later := ⟨rfl, hr, hfree⟩
  rw [Tree.find?, hset, records_replaceRecord r hlist.split]
  exact (hwritten.append rest).find?

theorem collection_setItems_replaceRecord (haddress : kind.Addresses parent)
    (hitems : t.items? kind parent = some items)
    (hfirst : FirstNamed old (t.collection kind parent) before stored after)
    (hheld : ¬t.HeldFirst kind parent old) (r : Record) :
    (t.setItems kind parent (replaceRecord r before.length items)).collection kind parent =
      t.collection kind parent := by
  obtain ⟨rest, hcollection, hset⟩ := exists_rest haddress hitems
  have hlength : (items.filterMap Value.object?).length ≤ before.length := by
    -- If the index were one of the list, the list would have the record.
    by_contra hlt
    have hget := hfirst.getElem?
    rw [hcollection, List.getElem?_append_left (by omega)] at hget
    exact hheld ⟨items, hitems, stored, List.mem_of_getElem? hget, hfirst.named⟩
  rw [replaceRecord_of_le r hlength, hset, hcollection]

/-! ## Saving -/

variable {fields : Record} {op : Context}

theorem name?_of_find? {name : String} {r : Record} (h : t.find? kind parent name = some r) :
    r.name? = some name := by
  unfold Tree.find? at h
  simpa using List.find?_some h

theorem nameAfter_eq {stored : Record} {name old : String} (hold : stored.name? = some old)
    (hmerged : (stored.extend fields).name? = some name) :
    Catalog.nameAfter old fields = some name := by
  rw [← hmerged, Record.name?_extend, hold]
  rfl

/-- The record that a save puts back is the merged one, as it keeps itself. -/
theorem keeps_kept_saved (t : Tree) (hsingle : kind.location ≠ .single) (parent : Option String)
    (old name : String) (stored merged : Record) :
    kind.Keeps (t.kept kind parent old ⟨parent, name, (kind.schema.saved t stored merged).2⟩)
      merged :=
  (t.keeps_kept kind parent old _).trans (Kind.keeps_saved hsingle t stored merged)

/-- A save replaces the record that it finds by what it merges, if the first parent holds
the record. -/
theorem saveNamed_of_heldFirst (hsingle : kind.location ≠ .single)
    (hop : op.addressed kind = .ok parent) (hheld : t.HeldFirst kind parent (op.name.getD ""))
    (hu : t.saveNamed kind fields op = .ok u) :
    ∃ stored name r, t.find? kind parent (op.name.getD "") = some stored ∧
      (stored.extend fields).name? = some name ∧ u.find? kind parent name = some r ∧
      kind.Keeps r (stored.extend fields) := by
  obtain ⟨addressed, before, stored, after, name, haddressed, hfirst, hmerged, hfree, hstore⟩ :=
    saveNamed_eq_ok hsingle hu
  obtain rfl := Except.ok.inj (haddressed.symm.trans hop)
  obtain ⟨items, hitems, rfl⟩ := store_eq_ok hstore
  have hkeeps := t.keeps_kept_saved hsingle addressed (op.name.getD "") name stored
    (stored.extend fields)
  -- The new name is free, so that it finds no record before the one that is written.
  have hbefore : ∀ other ∈ before, other.name? ≠ some name := by
    by_cases hnew : name = op.name.getD ""
    · rw [hnew]
      exact hfirst.first
    · intro other hother hnamed
      have hmem : other ∈ t.collection kind addressed :=
        hfirst.split ▸ List.mem_append_left _ hother
      exact hfree ⟨hnew, List.mem_filterMap.mpr ⟨other, hmem, hnamed⟩⟩
  have hwritten := find?_setItems_replaceRecord (Context.addresses_of_addressed hop) hitems hfirst
    hheld (hkeeps.name?_eq.trans hmerged) hbefore
  obtain ⟨r, hfound, hr⟩ := ((Retains.refl _ kind).settled kind addressed (op.name.getD "")
    name).exists_find? hwritten
  exact ⟨stored, name, r, hfirst.find?, hmerged, hfound, hr.trans hkeeps⟩

/-- Otherwise a save leaves the record that it finds as it is, and finds none by a new
name. -/
theorem saveNamed_of_not_heldFirst (hsingle : kind.location ≠ .single)
    (hop : op.addressed kind = .ok parent) (hheld : ¬t.HeldFirst kind parent (op.name.getD ""))
    (hu : t.saveNamed kind fields op = .ok u) :
    ∃ stored name, t.find? kind parent (op.name.getD "") = some stored ∧
      (stored.extend fields).name? = some name ∧
      if name = op.name.getD "" then
        ∃ r, u.find? kind parent name = some r ∧ kind.Keeps r stored
      else u.find? kind parent name = none := by
  obtain ⟨addressed, before, stored, after, name, haddressed, hfirst, hmerged, hfree, hstore⟩ :=
    saveNamed_eq_ok hsingle hu
  obtain rfl := Except.ok.inj (haddressed.symm.trans hop)
  obtain ⟨items, hitems, rfl⟩ := store_eq_ok hstore
  have hsame : ∀ r name, (t.setItems kind addressed
      (replaceRecord r before.length items)).find? kind addressed name =
        t.find? kind addressed name := by
    intro r name
    rw [Tree.find?, Tree.find?, collection_setItems_replaceRecord
      (Context.addresses_of_addressed hop) hitems hfirst hheld]
  refine ⟨stored, name, hfirst.find?, hmerged, ?_⟩
  have hretains := (Retains.refl (t.setItems kind addressed (replaceRecord
    (t.kept kind addressed (op.name.getD "") ⟨addressed, name,
      (kind.schema.saved t stored (stored.extend fields)).2⟩) before.length items))
    kind).settled kind addressed (op.name.getD "") name
  split
  · next hold =>
      subst hold
      exact hretains.exists_find? ((hsame _ _).trans hfirst.find?)
  · next hnew =>
      refine hretains.find?_eq_none ((hsame _ _).trans (find?_eq_none_of_not_mem ?_))
      exact fun hmem => hfree ⟨hnew, hmem⟩

end Tree

end Blueprint
