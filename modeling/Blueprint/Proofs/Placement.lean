import Blueprint.Proofs.Rows
import Blueprint.Store.Mutation

/-!
# Places in a tree

An operation finds a record by scanning the records under a parent and writes to
the list that holds them. `items?` is that list; what is written to it stands at
the same place among the records of the kind, and nothing else in the tree moves.
-/

namespace Blueprint

/-! ## The first record with a name -/

/-- Splits records around the first one with a name. -/
structure FirstNamed (name : String) (records before : List Record) (r : Record)
    (after : List Record) : Prop where
  split : records = before ++ r :: after
  named : r.name? = some name
  first : ∀ other ∈ before, other.name? ≠ some name

namespace FirstNamed

variable {name : String} {records before after : List Record} {r : Record}

theorem exists_of_mem (h : ∃ r ∈ records, r.name? = some name) :
    ∃ before r after, FirstNamed name records before r after := by
  have hsome : (records.find? fun r => r.name? = some name).isSome := by
    rw [List.find?_isSome]
    simpa using h
  obtain ⟨r, hfind⟩ := Option.isSome_iff_exists.mp hsome
  obtain ⟨hnamed, before, after, hsplit, hfirst⟩ := List.find?_eq_some_iff_append.mp hfind
  exact ⟨before, r, after, hsplit, by simpa using hnamed, by simpa using hfirst⟩

theorem of_find? (h : (records.find? fun r => r.name? = some name) = some r) :
    ∃ before after, FirstNamed name records before r after := by
  obtain ⟨hnamed, before, after, hsplit, hfirst⟩ := List.find?_eq_some_iff_append.mp h
  exact ⟨before, after, hsplit, by simpa using hnamed, by simpa using hfirst⟩

theorem mem (h : FirstNamed name records before r after) : r ∈ records := by
  rw [h.split]
  exact List.mem_append_cons_self

theorem find? (h : FirstNamed name records before r after) :
    (records.find? fun r => r.name? = some name) = some r := by
  rw [List.find?_eq_some_iff_append]
  exact ⟨by simpa using h.named, before, after, h.split, by simpa using h.first⟩

theorem findIdx? (h : FirstNamed name records before r after) :
    (records.findIdx? fun r => r.name? = some name) = some before.length := by
  rw [List.findIdx?_eq_some_iff_getElem]
  have hlength : before.length < records.length := by
    rw [h.split, List.length_append, List.length_cons]
    omega
  refine ⟨hlength, ?_, ?_⟩
  · simpa [h.split] using h.named
  · intro index hindex
    have hget : records[index] = before[index] := by
      simp only [h.split, List.getElem_append_left hindex]
    simpa [hget] using h.first _ (List.getElem_mem hindex)

theorem getElem? (h : FirstNamed name records before r after) :
    records[before.length]? = some r := by
  simp [h.split]

theorem name?_ne_of_nodup (h : FirstNamed name records before r after)
    (hnodup : (records.filterMap Record.name?).Nodup) {other : Record}
    (hother : other ∈ before ++ after) : other.name? ≠ some name := by
  intro hnamed
  rw [h.split, List.filterMap_append, List.filterMap_cons_some h.named, List.nodup_middle,
    List.nodup_cons, ← List.filterMap_append] at hnodup
  exact hnodup.1 (List.mem_filterMap.mpr ⟨other, hother, hnamed⟩)

theorem cons_iff {head : Record} (hne : head.name? ≠ some name) :
    FirstNamed name (head :: records) (head :: before) r after ↔
      FirstNamed name records before r after := by
  constructor
  · intro h
    exact ⟨(List.cons.inj h.split).2, h.named,
      fun other hother => h.first other (List.mem_cons_of_mem _ hother)⟩
  · intro h
    exact ⟨by rw [h.split, List.cons_append], h.named, List.forall_mem_cons.mpr ⟨hne, h.first⟩⟩

theorem eq_cons {head : Record} (h : FirstNamed name (head :: records) before r after) :
    (head.name? = some name ∧ before = [] ∧ r = head ∧ after = records) ∨
      (head.name? ≠ some name ∧
        ∃ rest, before = head :: rest ∧ FirstNamed name records rest r after) := by
  cases before with
  | nil =>
      obtain ⟨rfl, rfl⟩ := List.cons.inj h.split
      exact .inl ⟨h.named, rfl, rfl, rfl⟩
  | cons first rest =>
      obtain ⟨rfl, _⟩ := List.cons.inj h.split
      have hne : head.name? ≠ some name := h.first head List.mem_cons_self
      exact .inr ⟨hne, rest, rfl, (cons_iff hne).mp h⟩

end FirstNamed

/-! ## Changing lists of values -/

namespace Tree

variable {name : String} {items : List Value} {before after : List Record} {r : Record}

theorem takeNamed_of_firstNamed
    (h : FirstNamed name (items.filterMap Value.object?) before r after) :
    ∃ rest, takeNamed name items = some (r, rest) ∧
      rest.filterMap Value.object? = before ++ after := by
  induction items generalizing before with
  | nil => simpa using h.mem
  | cons item items ih =>
      cases item with
      | object head =>
          rcases h.eq_cons with ⟨hnamed, rfl, rfl, rfl⟩ | ⟨hne, before, rfl, htail⟩
          · exact ⟨items, by simp [takeNamed, hnamed], rfl⟩
          · obtain ⟨rest, htake, hrest⟩ := ih htail
            exact ⟨.object head :: rest, by simp [takeNamed, hne, htake], by
              simp [Value.object?, hrest]⟩
      | null | bool _ | number _ | text _ | list _ =>
          obtain ⟨rest, htake, hrest⟩ := ih h
          simp only [takeNamed, htake, Option.map_some]
          exact ⟨_, rfl, hrest⟩

theorem takeNamed_append {before after : List Value} {removed : Record}
    (hname : removed.name? = some name)
    (hbefore : ∀ r ∈ before.filterMap Value.object?, r.name? ≠ some name) :
    takeNamed name (before ++ .object removed :: after) = some (removed, before ++ after) := by
  induction before with
  | nil => simp [takeNamed, hname]
  | cons item before ih =>
      cases item with
      | object r =>
          obtain ⟨hr, hrest⟩ := List.forall_mem_cons.mp hbefore
          simp [takeNamed, hr, ih hrest]
      | null | bool _ | number _ | text _ | list _ => simp [takeNamed, ih hbefore]

theorem records_replaceRecord (new : Record)
    (h : items.filterMap Value.object? = before ++ r :: after) :
    (replaceRecord new before.length items).filterMap Value.object? = before ++ new :: after := by
  induction items generalizing before with
  | nil => simp at h
  | cons item items ih =>
      cases item with
      | object head =>
          cases before with
          | nil =>
              obtain ⟨_, htail⟩ := List.cons.inj h
              simp [replaceRecord, Value.object?, ← htail]
          | cons first before =>
              obtain ⟨rfl, htail⟩ := List.cons.inj h
              simp [replaceRecord, Value.object?, ih htail]
      | null | bool _ | number _ | text _ | list _ =>
          cases before with
          | nil => exact ih h
          | cons first before => exact ih h

theorem modifyNamed_eq_replaceRecord (f : Record → Record)
    (h : FirstNamed name (items.filterMap Value.object?) before r after) :
    modifyNamed name f items = some (replaceRecord (f r) before.length items) := by
  induction items generalizing before with
  | nil => simpa using h.mem
  | cons item items ih =>
      cases item with
      | object head =>
          rcases h.eq_cons with ⟨hnamed, rfl, rfl, rfl⟩ | ⟨hne, before, rfl, htail⟩
          · simp [modifyNamed, hnamed, replaceRecord]
          · simp [modifyNamed, hne, ih htail, replaceRecord]
      | null | bool _ | number _ | text _ | list _ =>
          simp only [modifyNamed, ih h, Option.map_some]
          cases before <;> rfl

theorem mem_records_replaceRecord {new r : Record} {items : List Value} {index : Nat}
    (h : r ∈ (replaceRecord new index items).filterMap Value.object?) :
    r ∈ items.filterMap Value.object? ∨ r = new := by
  induction items generalizing index with
  | nil => cases h
  | cons item items ih =>
      cases item with
      | object head =>
          cases index with
          | zero =>
              rcases List.mem_cons.mp h with rfl | h
              · exact .inr rfl
              · exact .inl (List.mem_cons_of_mem _ h)
          | succ index =>
              rcases List.mem_cons.mp h with rfl | h
              · exact .inl List.mem_cons_self
              · exact (ih h).imp_left (List.mem_cons_of_mem _)
      | null | bool _ | number _ | text _ | list _ => cases index <;> exact ih h

end Tree

/-! ## Writing to the list of a kind -/

namespace Tree

theorem records_of_itemsIn? {field : String} {r : Record} {items : List Value}
    (h : itemsIn? field r = some items) : r.records field = items.filterMap Value.object? := by
  unfold itemsIn? at h
  rw [Record.records_eq]
  cases hvalue : r.get? field with
  | none =>
      rw [hvalue] at h
      obtain rfl := Option.some.inj h
      rfl
  | some value =>
      rw [hvalue] at h
      cases value with
      | list entries =>
          obtain rfl := Option.some.inj h
          rfl
      | null | bool _ | number _ | text _ | object _ => cases h

theorem itemsIn?_congr {field : String} {first second : Record}
    (h : first.get? field = second.get? field) : itemsIn? field first = itemsIn? field second := by
  simp only [itemsIn?, h]

theorem tops_set (t : Tree) (kind : Kind) (value : Value) (other : Kind) :
    (t.set kind.tag value).tops other = if other = kind then value.placed other
      else t.tops other := by
  unfold tops set
  by_cases h : other = kind
  · simp [h]
  · have htag : other.tag ≠ kind.tag := fun e => h (Kind.tag_injective e)
    simp only [Record.get?_insert_of_ne _ _ htag, h, if_false]

theorem tops_setItems_of_collection {kind : Kind} (h : kind.location = .collection) (t : Tree)
    (parent : Option String) (items : List Value) (other : Kind) :
    (t.setItems kind parent items).tops other =
      if other = kind then items.filterMap Value.object? else t.tops other := by
  unfold setItems
  simp only [h, tops_set]
  by_cases hother : other = kind
  · simp [hother, Value.placed, h]
  · simp [hother]

theorem tops_of_items? {t : Tree} {kind : Kind} {parent : Option String} {items : List Value}
    (h : kind.location = .collection) (hitems : t.items? kind parent = some items) :
    t.tops kind = items.filterMap Value.object? := by
  have hroot : itemsIn? kind.tag t.root = some items := by simpa only [items?, h] using hitems
  rw [tops_eq_topLevel t h, topLevel, records_of_itemsIn? hroot]

theorem exists_list_of_mem {t : Tree} {kind : Kind} {r : Record} (h : r ∈ t.topLevel kind) :
    ∃ values, t.root.get? kind.tag = some (.list values) ∧
      t.topLevel kind = values.filterMap Value.object? := by
  rw [topLevel, Record.records_eq] at h
  rw [topLevel, Record.records_eq]
  cases hvalue : t.root.get? kind.tag with
  | none => simp [hvalue] at h
  | some value =>
      cases value with
      | list values => exact ⟨values, rfl, rfl⟩
      | null | bool _ | number _ | text _ | object _ =>
          simp [hvalue, Value.records, Value.list?] at h

/-- The list of a nested kind is written to the first holder with the name of the
parent. -/
theorem setItems_of_nested {t : Tree} {kind parentKind : Kind} {field parent : String}
    {items : List Value} (h : kind.location = .nested parentKind field)
    (hitems : t.items? kind (some parent) = some items) :
    ∃ before holder after, FirstNamed parent (t.tops parentKind) before holder after ∧
      itemsIn? field holder = some items ∧
      ∀ new other, (t.setItems kind (some parent) new).tops other =
        if other = parentKind then before ++ Record.insert field (.list new) holder :: after
        else t.tops other := by
  have hcollection : parentKind.location = .collection :=
    Kind.location_of_parent (Kind.parent_eq_some_iff.mpr ⟨field, h⟩)
  have htops := t.tops_eq_topLevel hcollection
  simp only [items?, h, Option.bind_eq_bind, Option.bind_some, Option.bind_eq_some_iff] at hitems
  obtain ⟨holder, hfind, hholder⟩ := hitems
  obtain ⟨before, after, hfirst⟩ := FirstNamed.of_find? hfind
  refine ⟨before, holder, after, htops ▸ hfirst, hholder, fun new other => ?_⟩
  obtain ⟨values, hroot, hrecords⟩ := exists_list_of_mem hfirst.mem
  have hvalues := Record.list?_of_get? hroot
  rw [hrecords] at hfirst
  have hmodify := modifyNamed_eq_replaceRecord (Record.insert field (.list new)) hfirst
  have hchanged := records_replaceRecord (Record.insert field (.list new) holder) hfirst.split
  simp only [setItems, h, modifyRecord?, hvalues, hmodify, Option.bind_eq_bind, Option.bind_some,
    Option.pure_def, Option.getD_some, tops_set]
  by_cases hother : other = parentKind
  · simp [hother, Value.placed, hcollection, hchanged]
  · simp [hother]

/-- Where a list that can be read stands: under the tag of its kind, or in the first holder
with the name of the parent. Nothing else at the top level changes when it is written. -/
inductive Standing (t : Tree) (kind : Kind) : Option String → List Value → Prop
  | top {parent : Option String} {items : List Value} (hlocation : kind.location = .collection)
      (htops : t.tops kind = items.filterMap Value.object?)
      (hset : ∀ new other, (t.setItems kind parent new).tops other =
        if other = kind then new.filterMap Value.object? else t.tops other) :
      Standing t kind parent items
  | held {parentKind : Kind} {field name : String} {items : List Value}
      {before after : List Record} {holder : Record}
      (hlocation : kind.location = .nested parentKind field)
      (hfirst : FirstNamed name (t.tops parentKind) before holder after)
      (hholder : itemsIn? field holder = some items)
      (hset : ∀ new other, (t.setItems kind (some name) new).tops other =
        if other = parentKind then before ++ Record.insert field (.list new) holder :: after
        else t.tops other) :
      Standing t kind (some name) items

theorem standing_of_items? {t : Tree} {kind : Kind} {parent : Option String} {items : List Value}
    (h : t.items? kind parent = some items) : t.Standing kind parent items := by
  cases hlocation : kind.location with
  | single => simp [items?, hlocation] at h
  | collection =>
      exact .top hlocation (tops_of_items? hlocation h)
        fun new other => tops_setItems_of_collection hlocation t parent new other
  | nested parentKind field =>
      cases parent with
      | none => simp [items?, hlocation] at h
      | some name =>
          obtain ⟨before, holder, after, hfirst, hholder, hset⟩ := setItems_of_nested hlocation h
          exact .held hlocation hfirst hholder hset

theorem set_set (t : Tree) (key : String) (first second : Value) :
    (t.set key first).set key second = t.set key second := by
  simp only [set, Record.insert_insert]

theorem isSome_modifyNamed (name : String) (f g : Record → Record) (items : List Value) :
    (modifyNamed name f items).isSome = (modifyNamed name g items).isSome := by
  induction items with
  | nil => rfl
  | cons item rest ih =>
      cases item with
      | object r =>
          unfold modifyNamed
          split
          · rfl
          · simp only [Option.isSome_map, ih]
      | null | bool _ | number _ | text _ | list _ => simp only [modifyNamed, Option.isSome_map, ih]

theorem modifyNamed_modifyNamed (name : String) {f : Record → Record}
    (hname : ∀ r : Record, (f r).name? = r.name?) (g : Record → Record) (items : List Value) :
    (modifyNamed name f items).bind (modifyNamed name g) =
      modifyNamed name (fun r => g (f r)) items := by
  induction items with
  | nil => rfl
  | cons item rest ih =>
      cases item with
      | object r =>
          by_cases hr : Record.name? r = some name
          · simp [modifyNamed, hr, hname]
          · simp only [modifyNamed, hr, if_false, ← ih]
            cases modifyNamed name f rest with
            | none => rfl
            | some changed => simp [modifyNamed, hr]
      | null | bool _ | number _ | text _ | list _ =>
          simp only [modifyNamed, ← ih]
          cases modifyNamed name f rest <;> rfl

theorem setItems_setItems (t : Tree) (kind : Kind) (parent : Option String)
    (first second : List Value) :
    (t.setItems kind parent first).setItems kind parent second =
      t.setItems kind parent second := by
  unfold setItems
  cases hlocation : kind.location with
  | single => rfl
  | collection => exact t.set_set kind.tag _ _
  | nested parentKind field =>
      cases parent with
      | none => rfl
      | some name =>
          have hname : ∀ r : Record, (r.insert field (.list first)).name? = r.name? :=
            fun r => Record.name?_insert_of_ne r _ (Kind.holdingField_ne_name hlocation)
          cases hvalues : t.root.list? parentKind.tag with
          | none => simp [modifyRecord?, hvalues]
          | some values =>
              have hsame := isSome_modifyNamed name (Record.insert field (.list first))
                (Record.insert field (.list second)) values
              have htwice := modifyNamed_modifyNamed name hname
                (Record.insert field (.list second)) values
              simp only [Record.insert_insert] at htwice
              cases hfirst : modifyNamed name (Record.insert field (.list first)) values with
              | none => simp [modifyRecord?, hvalues, hfirst]
              | some changed =>
                  rw [hfirst] at hsame htwice
                  obtain ⟨last, hlast⟩ := Option.isSome_iff_exists.mp hsame.symm
                  rw [Option.bind_some] at htwice
                  have hchanged : (t.set parentKind.tag (.list changed)).root.list? parentKind.tag =
                      some changed := by
                    simp [set, Record.list?, Value.list?]
                  simp only [modifyRecord?, hvalues, hfirst, hlast, hchanged, htwice, set_set,
                    Option.bind_eq_bind, Option.bind_some, Option.pure_def, Option.getD_some]

/-- Where the records of a kind under a parent stand among all records of the kind,
and that they alone change when their list is written. -/
structure Place (t : Tree) (kind : Kind) (parent : Option String) (items : List Value)
    (before after : List (Option String × Record)) : Prop where
  entries_eq : t.entries kind =
    before ++ (items.filterMap Value.object?).map (Prod.mk parent) ++ after
  apart : ∀ entry ∈ before ++ after, entry.1 ≠ parent
  alone : parent = none → before ++ after = []
  entries_setItems : ∀ new, (t.setItems kind parent new).entries kind =
    before ++ (new.filterMap Value.object?).map (Prod.mk parent) ++ after
  rows_setItems : ∀ new other, other ≠ kind → other.parent ≠ some kind →
    (t.setItems kind parent new).rows other = t.rows other

theorem collection_of_top (t : Tree) {kind : Kind} (h : kind.parent = none) :
    t.collection kind none = t.tops kind := by
  rw [collection_eq, entries_of_top t h]
  simp [Function.comp_def]

theorem names_eq_filterMap_tops (t : Tree) {kind : Kind} (h : kind.parent = none) :
    t.names kind none = (t.tops kind).filterMap Record.name? := by
  rw [names, collection_of_top t h]

theorem place_of_collection {t : Tree} {kind : Kind} {items : List Value}
    (h : kind.location = .collection) (hitems : t.items? kind none = some items) :
    t.Place kind none items [] [] := by
  have htop : kind.parent = none := Kind.parent_of_collection h
  have hroot : itemsIn? kind.tag t.root = some items := by
    simpa only [items?, h] using hitems
  refine ⟨?_, by simp, fun _ => rfl, fun new => ?_, fun new other hother hparent => ?_⟩
  · rw [entries_of_top t htop, tops_eq_topLevel t h, topLevel, records_of_itemsIn? hroot]
    simp
  · rw [entries_of_top _ htop, tops_setItems_of_collection h]
    simp
  · apply rows_congr
    apply entries_congr
    intro top htopOf
    rw [tops_setItems_of_collection h, if_neg]
    rcases htopOf with rfl | htopOf
    · exact hother
    · rintro rfl
      exact hparent htopOf

/-- Inserting the list of a nested kind into a holder does not change the row of the
holder. -/
theorem row_of_insert_held {kind parentKind : Kind} {field : String}
    (h : kind.location = .nested parentKind field) (parent : Option String) (value : Value)
    (holder : Record) :
    Row.of parentKind parent (holder.insert field value) = Row.of parentKind parent holder := by
  apply Row.of_congr_get?
  · exact Record.get?_insert_of_ne _ _ (Kind.holdingField_ne_name h).symm
  · intro reference hmem
    exact Record.get?_insert_of_ne _ _ (Kind.root_ne_held h reference hmem)

theorem heldBy_of_itemsIn? {field parent : String} {r : Record} {items : List Value}
    (hname : r.name? = some parent) (h : itemsIn? field r = some items) :
    heldBy field r = (items.filterMap Value.object?).map (Prod.mk (some parent)) := by
  rw [heldBy, hname, records_of_itemsIn? h]

/-- A list that is written into a holder does not change what it holds in other fields. -/
theorem heldBy_insert_of_ne {kind parentKind : Kind} {field otherField : String}
    (h : kind.location = .nested parentKind field) (hne : otherField ≠ field) (holder : Record)
    (value : Value) : heldBy otherField (holder.insert field value) = heldBy otherField holder := by
  rw [heldBy, heldBy, Record.name?_insert_of_ne _ _ (Kind.holdingField_ne_name h),
    Record.records_eq, Record.records_eq, Record.get?_insert_of_ne _ _ hne]

/-- Writing the list of a nested kind changes the rows of that kind only. -/
theorem rows_setItems_of_nested {t : Tree} {kind parentKind : Kind} {field parent : String}
    {items : List Value} (h : kind.location = .nested parentKind field)
    (hitems : t.items? kind (some parent) = some items) (new : List Value) {other : Kind}
    (hother : other ≠ kind) : (t.setItems kind (some parent) new).rows other = t.rows other := by
  obtain ⟨before, holder, after, hfirst, _, hset⟩ := setItems_of_nested h hitems
  cases hotherParent : other.parent with
  | none =>
      rw [rows_of_top _ hotherParent, rows_of_top _ hotherParent, hset]
      by_cases hsame : other = parentKind
      · subst hsame
        rw [if_pos rfl, hfirst.split]
        simp only [List.map_append, List.map_cons, row_of_insert_held h]
      · rw [if_neg hsame]
  | some holderKind =>
      obtain ⟨otherField, hlocation⟩ := Kind.parent_eq_some_iff.mp hotherParent
      apply rows_congr
      rw [entries_of_nested _ hlocation, entries_of_nested _ hlocation, hset]
      by_cases hsame : holderKind = parentKind
      · subst hsame
        have hfield := Kind.field_ne_of_ne h hlocation hother
        rw [if_pos rfl, hfirst.split]
        simp only [List.flatMap_append, List.flatMap_cons, heldBy_insert_of_ne h hfield]
      · rw [if_neg hsame]

theorem place_of_nested {t : Tree} {kind parentKind : Kind} {field parent : String}
    {items : List Value} (h : kind.location = .nested parentKind field)
    (hunique : (t.names parentKind none).Nodup)
    (hitems : t.items? kind (some parent) = some items) :
    ∃ before after, t.Place kind (some parent) items before after := by
  have hkind : kind.parent = some parentKind := Kind.parent_eq_some_iff.mpr ⟨field, h⟩
  have hcollection : parentKind.location = .collection := Kind.location_of_parent hkind
  have htop : parentKind.parent = none := Kind.parent_of_collection hcollection
  obtain ⟨before, holder, after, hfirst, hholder, hset⟩ := setItems_of_nested h hitems
  rw [names_eq_filterMap_tops t htop] at hunique
  refine ⟨before.flatMap (heldBy field), after.flatMap (heldBy field), ?_, ?_, ?_, ?_, ?_⟩
  · rw [entries_of_nested t h, hfirst.split, List.flatMap_append, List.flatMap_cons,
      heldBy_of_itemsIn? hfirst.named hholder, List.append_assoc]
  · intro entry hentry
    rw [← List.flatMap_append] at hentry
    obtain ⟨other, hother, hmem⟩ := List.mem_flatMap.mp hentry
    obtain ⟨r, _, rfl⟩ := List.mem_map.mp hmem
    exact hfirst.name?_ne_of_nodup hunique hother
  · intro hnone
    cases hnone
  · intro new
    have hname : (holder.insert field (.list new)).name? = some parent := by
      rw [Record.name?_insert_of_ne _ _ (Kind.holdingField_ne_name h), hfirst.named]
    have hinsert : itemsIn? field (holder.insert field (.list new)) = some new := by
      simp [itemsIn?, Value.list?]
    rw [entries_of_nested _ h, hset, if_pos rfl, List.flatMap_append, List.flatMap_cons,
      heldBy_of_itemsIn? hname hinsert, List.append_assoc]
  · intro new other hother _
    exact rows_setItems_of_nested h hitems new hother

namespace Place

variable {t : Tree} {kind : Kind} {parent : Option String} {items : List Value}
  {before after : List (Option String × Record)}

private theorem filter_entries (h : t.Place kind parent items before after)
    (records : List Record) :
    (before ++ records.map (Prod.mk parent) ++ after).filter
        (fun entry => parent.isNone || entry.1 = parent) = records.map (Prod.mk parent) := by
  have hother : ∀ entry ∈ before ++ after, ¬(parent.isNone || entry.1 = parent) = true := by
    intro entry hentry
    cases parent with
    | none =>
        rw [h.alone rfl] at hentry
        cases hentry
    | some name => simpa using h.apart entry hentry
  have hbefore : before.filter (fun entry => parent.isNone || entry.1 = parent) = [] :=
    List.filter_eq_nil_iff.mpr fun entry hentry => hother entry (List.mem_append_left _ hentry)
  have hafter : after.filter (fun entry => parent.isNone || entry.1 = parent) = [] :=
    List.filter_eq_nil_iff.mpr fun entry hentry => hother entry (List.mem_append_right _ hentry)
  have hself : (records.map (Prod.mk parent)).filter
      (fun entry => parent.isNone || entry.1 = parent) = records.map (Prod.mk parent) := by
    simp [List.filter_map, Function.comp_def]
  rw [List.filter_append, List.filter_append, hbefore, hafter, hself, List.nil_append,
    List.append_nil]

theorem collection_eq (h : t.Place kind parent items before after) :
    t.collection kind parent = items.filterMap Value.object? := by
  rw [Tree.collection_eq, h.entries_eq, h.filter_entries]
  simp [Function.comp_def]

theorem collection_setItems (h : t.Place kind parent items before after) (new : List Value) :
    (t.setItems kind parent new).collection kind parent = new.filterMap Value.object? := by
  rw [Tree.collection_eq, h.entries_setItems, h.filter_entries]
  simp [Function.comp_def]

theorem collection_setItems_of_ne (h : t.Place kind parent items before after)
    (new : List Value) {other : String} (hother : some other ≠ parent) :
    (t.setItems kind parent new).collection kind (some other) =
      t.collection kind (some other) := by
  have hnone : ∀ records : List Record, (records.map (Prod.mk parent)).filter
      (fun entry => (some other).isNone || entry.1 = some other) = [] := by
    intro records
    rw [List.filter_eq_nil_iff]
    intro entry hentry
    obtain ⟨r, _, rfl⟩ := List.mem_map.mp hentry
    simpa using Ne.symm hother
  rw [Tree.collection_eq, Tree.collection_eq, h.entries_setItems, h.entries_eq]
  simp only [List.filter_append, hnone]

private theorem rows_of_split {t : Tree} {records : List Record}
    (h : t.entries kind = before ++ records.map (Prod.mk parent) ++ after) :
    t.rows kind = before.map (fun entry => Row.of kind entry.1 entry.2) ++
      records.map (Row.of kind parent) ++ after.map fun entry => Row.of kind entry.1 entry.2 := by
  simp only [rows, h, List.map_append, List.map_map]
  rfl

theorem rows_eq (h : t.Place kind parent items before after) :
    t.rows kind = before.map (fun entry => Row.of kind entry.1 entry.2) ++
      (items.filterMap Value.object?).map (Row.of kind parent) ++
        after.map fun entry => Row.of kind entry.1 entry.2 :=
  rows_of_split h.entries_eq

theorem rows_setItems_self (h : t.Place kind parent items before after) (new : List Value) :
    (t.setItems kind parent new).rows kind =
      before.map (fun entry => Row.of kind entry.1 entry.2) ++
        (new.filterMap Value.object?).map (Row.of kind parent) ++
          after.map fun entry => Row.of kind entry.1 entry.2 :=
  rows_of_split (h.entries_setItems new)

end Place

/-- The rows of what records hold. -/
def rowsHeld (child : Kind) (field : String) (holders : List Record) : List Row :=
  holders.flatMap fun holder => (holder.records field).map (Row.of child holder.name?)

theorem rows_held {t : Tree} {kind child : Kind} {field : String} {parent : Option String}
    {items : List Value} (h : child.location = .nested kind field)
    (hitems : t.items? kind parent = some items) :
    t.rows child = rowsHeld child field (items.filterMap Value.object?) := by
  have hcollection := Kind.location_of_parent (Kind.parent_eq_some_iff.mpr ⟨field, h⟩)
  rw [rows_of_nested t h, tops_of_items? hcollection hitems, rowsHeld]

theorem rows_setItems_held {kind child : Kind} {field : String}
    (h : child.location = .nested kind field) (t : Tree) (parent : Option String)
    (new : List Value) :
    (t.setItems kind parent new).rows child =
      rowsHeld child field (new.filterMap Value.object?) := by
  have hcollection := Kind.location_of_parent (Kind.parent_eq_some_iff.mpr ⟨field, h⟩)
  rw [rows_of_nested _ h, tops_setItems_of_collection hcollection, if_pos rfl, rowsHeld]

end Tree

end Blueprint
