import Blueprint.Proofs.Fields
import Blueprint.Schema.Options

/-!
# Walks through a tree

Every change of records where they stand is a change of the top-level records:
`mapTop` applies one function to the records of each top-level kind. A walk over
the records of a kind is `mapKind`, and `mapAll` changes all records in one pass,
each of them as it was before, with the name its parent had before.
-/

namespace Blueprint

namespace Kind

/-- The top-level kind with a given tag. -/
def topOf? (tag : String) : Option Kind := (ofTag? tag).filter isTopLevel

/-- The kind whose records a field of the records of a kind holds. -/
def heldIn? (kind : Kind) (field : String) : Option Kind :=
  kind.children.find? fun child => child.holdingField = some field

theorem topOf?_tag {kind : Kind} (h : kind.parent = none) : topOf? kind.tag = some kind := by
  simp [topOf?, ofTag?_tag, isTopLevel, h]

theorem eq_tag_of_topOf? {tag : String} {kind : Kind} (h : topOf? tag = some kind) :
    tag = kind.tag ∧ kind.parent = none := by
  obtain ⟨hfind, htop⟩ := Option.filter_eq_some_iff.mp h
  have htag := List.find?_some hfind
  exact ⟨by simpa using (of_decide_eq_true htag).symm, by simpa [isTopLevel] using htop⟩

theorem tag_injective {first second : Kind} (h : first.tag = second.tag) : first = second := by
  have hfirst := ofTag?_tag first
  rw [h, ofTag?_tag] at hfirst
  exact (Option.some.inj hfirst).symm

theorem parent_eq_some_iff {kind parent : Kind} :
    kind.parent = some parent ↔ ∃ field, kind.location = .nested parent field := by
  unfold Kind.parent
  cases kind.location <;> simp

theorem parent_eq_none_iff {kind : Kind} :
    kind.parent = none ↔ kind.location = .single ∨ kind.location = .collection := by
  unfold Kind.parent
  cases kind.location <;> simp

theorem parent_of_single {kind : Kind} (h : kind.location = .single) : kind.parent = none :=
  parent_eq_none_iff.mpr (.inl h)

theorem parent_of_collection {kind : Kind} (h : kind.location = .collection) :
    kind.parent = none :=
  parent_eq_none_iff.mpr (.inr h)

theorem parent_of_holder {kind child : Kind} (h : child.parent = some kind) :
    kind.parent = none :=
  parent_of_collection (location_of_parent h)

theorem parent_ne_self (kind : Kind) : kind.parent ≠ some kind := by
  intro h
  rw [parent_of_holder h] at h
  cases h

theorem ne_of_parent {kind child : Kind} (h : child.parent = some kind) : child ≠ kind := by
  rintro rfl
  exact parent_ne_self _ h

theorem parent_ne_of_not_collection {kind : Kind} (h : kind.location ≠ .collection)
    (child : Kind) : child.parent ≠ some kind :=
  fun hchild => h (location_of_parent hchild)

theorem mem_children {kind child : Kind} :
    child ∈ kind.children ↔ child.parent = some kind := by
  simp [children, mem_all]

theorem nodup_children (kind : Kind) : kind.children.Nodup := nodup_all.filter _

theorem heldIn?_of_location {kind parent : Kind} {field : String}
    (h : kind.location = .nested parent field) : parent.heldIn? field = some kind := by
  cases kind <;> simp [location] at h <;> obtain ⟨rfl, rfl⟩ := h <;> decide

theorem location_of_heldIn? {kind child : Kind} {field : String}
    (h : kind.heldIn? field = some child) : child.location = .nested kind field := by
  have hmem := mem_children.mp (List.mem_of_find?_eq_some h)
  have hfield : child.holdingField = some field := by
    unfold heldIn? at h
    simpa using List.find?_some h
  obtain ⟨other, hlocation⟩ := parent_eq_some_iff.mp hmem
  simp only [holdingField, hlocation, Option.some.injEq] at hfield
  rw [hlocation, hfield]

/-- The records of a kind are held in one field only. -/
theorem ne_of_heldIn? {kind parent child : Kind} {field other : String}
    (h : kind.location = .nested parent field) (hother : other ≠ field)
    (hchild : parent.heldIn? other = some child) : child ≠ kind := by
  rintro rfl
  rw [location_of_heldIn? hchild] at h
  exact hother (Location.nested.inj h).2

theorem field_ne_of_ne {kind other parent : Kind} {field otherField : String}
    (h : kind.location = .nested parent field) (hother : other.location = .nested parent otherField)
    (hne : other ≠ kind) : otherField ≠ field := by
  rintro rfl
  have hheld := heldIn?_of_location hother
  rw [heldIn?_of_location h] at hheld
  exact hne (Option.some.inj hheld).symm

theorem holdingField_ne_name {kind parent : Kind} {field : String}
    (h : kind.location = .nested parent field) : field ≠ "name" := by
  cases kind <;> simp [location] at h <;> obtain ⟨rfl, rfl⟩ := h <;> decide

end Kind

namespace Value

/-- The records of a top-level kind in the value under its tag. -/
def placed (kind : Kind) (value : Value) : List Record :=
  match kind.location with
  | .single => value.object?.toList
  | _ => value.records

/-- Changes the records of a top-level kind in the value under its tag. -/
def mapPlaced (kind : Kind) (f : Record → Record) : Value → Value :=
  match kind.location with
  | .single => mapObject f
  | _ => mapItems f

theorem placed_mapPlaced (kind : Kind) (f : Record → Record) (value : Value) :
    (mapPlaced kind f value).placed kind = (value.placed kind).map f := by
  unfold placed mapPlaced
  cases kind.location with
  | single => simp only [object?_mapObject]; cases value.object? <;> rfl
  | collection | nested _ _ => exact records_mapItems f value

theorem mapPlaced_mapPlaced (kind : Kind) (f g : Record → Record) (value : Value) :
    mapPlaced kind f (mapPlaced kind g value) = mapPlaced kind (fun r => f (g r)) value := by
  unfold mapPlaced
  cases kind.location with
  | single => exact mapObject_mapObject f g value
  | collection | nested _ _ => exact mapItems_mapItems f g value

theorem mapPlaced_congr {kind : Kind} {f g : Record → Record} {value : Value}
    (h : ∀ r ∈ value.placed kind, f r = g r) : mapPlaced kind f value = mapPlaced kind g value := by
  unfold placed at h
  unfold mapPlaced
  cases hlocation : kind.location with
  | single =>
      cases value with
      | object r => simp [mapObject, h r (by simp [hlocation, object?])]
      | null | bool _ | number _ | text _ | list _ => rfl
  | collection | nested _ _ =>
      apply mapItems_congr
      intro r hr
      exact h r (by simpa [hlocation] using hr)

theorem mapPlaced_id (kind : Kind) (value : Value) : mapPlaced kind (fun r => r) value = value := by
  unfold mapPlaced
  cases kind.location with
  | single => exact mapObject_id value
  | collection | nested _ _ => exact mapItems_id value

end Value

/-! ## Top-level records -/

namespace Tree

/-- The records of a top-level kind. -/
def tops (t : Tree) (kind : Kind) : List Record :=
  ((t.root.get? kind.tag).map (Value.placed kind)).getD []

/-- Changes the records of every top-level kind. -/
def mapTop (f : Kind → Record → Record) (t : Tree) : Tree :=
  ⟨t.root.mapValues fun key value =>
    match Kind.topOf? key with
    | some kind => value.mapPlaced kind (f kind)
    | none => value⟩

theorem tops_mapTop (f : Kind → Record → Record) (t : Tree) {kind : Kind}
    (h : kind.parent = none) : (t.mapTop f).tops kind = (t.tops kind).map (f kind) := by
  simp only [tops, mapTop, Record.get?_mapValues, Kind.topOf?_tag h]
  cases t.root.get? kind.tag with
  | none => rfl
  | some value => exact Value.placed_mapPlaced kind (f kind) value

theorem mapTop_mapTop (f g : Kind → Record → Record) (t : Tree) :
    (t.mapTop g).mapTop f = t.mapTop fun kind r => f kind (g kind r) := by
  simp only [mapTop, Record.mapValues_mapValues]
  congr 2
  funext key value
  cases Kind.topOf? key with
  | none => rfl
  | some kind => exact Value.mapPlaced_mapPlaced kind (f kind) (g kind) value

theorem mapTop_congr {f g : Kind → Record → Record} {t : Tree}
    (h : ∀ kind, kind.parent = none → ∀ r ∈ t.tops kind, f kind r = g kind r) :
    t.mapTop f = t.mapTop g := by
  simp only [mapTop, mk.injEq]
  apply Record.mapValues_congr
  intro key value hvalue
  cases hkind : Kind.topOf? key with
  | none => rfl
  | some kind =>
      obtain ⟨rfl, hparent⟩ := Kind.eq_tag_of_topOf? hkind
      apply Value.mapPlaced_congr
      intro r hr
      exact h kind hparent r (by simpa [tops, hvalue] using hr)

theorem mapTop_id (t : Tree) : t.mapTop (fun _ r => r) = t := by
  have h : (fun key value => match Kind.topOf? key with
      | some kind => Value.mapPlaced kind (fun r => r) value
      | none => value) = fun (_ : String) (value : Value) => value := by
    funext key value
    cases Kind.topOf? key with
    | none => rfl
    | some kind => exact Value.mapPlaced_id kind value
  simp [mapTop, h, Record.mapValues_id]

/-! ## Records with the names of their parents -/

/-- The records of a kind, each with the name of its parent. -/
def entries (t : Tree) (kind : Kind) : List (Option String × Record) :=
  (t.located kind).map fun entry => (entry.parent, entry.record)

/-- The records that a record holds for a kind, with its name. -/
def heldBy (field : String) (holder : Record) : List (Option String × Record) :=
  (holder.records field).map fun r => (holder.name?, r)

theorem tops_eq_single (t : Tree) {kind : Kind} (h : kind.location = .single) :
    t.tops kind = (t.single? kind).toList := by
  have hplaced : Value.placed kind = fun value => value.object?.toList := by
    funext value
    simp [Value.placed, h]
  simp only [tops, single?, Record.object?, hplaced]
  cases t.root.get? kind.tag <;> rfl

theorem tops_eq_topLevel (t : Tree) {kind : Kind} (h : kind.location = .collection) :
    t.tops kind = t.topLevel kind := by
  have hplaced : Value.placed kind = Value.records := by
    funext value
    simp [Value.placed, h]
  simp only [tops, topLevel, Record.records_eq, hplaced]

theorem entries_of_top (t : Tree) {kind : Kind} (h : kind.parent = none) :
    t.entries kind = (t.tops kind).map fun r => (none, r) := by
  rcases Kind.parent_eq_none_iff.mp h with hlocation | hlocation
  · simp only [entries, located, hlocation, tops_eq_single t hlocation, List.map_map]
    rfl
  · simp only [entries, located, hlocation, tops_eq_topLevel t hlocation, List.map_map]
    rfl

theorem mem_entries_of_top {t : Tree} {kind : Kind} (h : kind.parent = none) {q : Option String}
    {r : Record} : (q, r) ∈ t.entries kind ↔ q = none ∧ r ∈ t.tops kind := by
  rw [entries_of_top t h, List.mem_map]
  constructor
  · rintro ⟨_, hr, heq⟩
    obtain ⟨rfl, rfl⟩ := Prod.mk.inj heq
    exact ⟨rfl, hr⟩
  · rintro ⟨rfl, hr⟩
    exact ⟨r, hr, rfl⟩

theorem entries_of_nested (t : Tree) {kind parent : Kind} {field : String}
    (h : kind.location = .nested parent field) :
    t.entries kind = (t.tops parent).flatMap (heldBy field) := by
  have hcollection : parent.location = .collection :=
    Kind.location_of_parent (Kind.parent_eq_some_iff.mpr ⟨field, h⟩)
  simp only [entries, located, h, tops_eq_topLevel t hcollection, List.map_flatMap,
    List.map_map]
  rfl

theorem mem_entries_of_nested {t : Tree} {kind parent : Kind} {field : String}
    (h : kind.location = .nested parent field) {q : Option String} {r : Record} :
    (q, r) ∈ t.entries kind ↔
      ∃ holder ∈ t.tops parent, holder.name? = q ∧ r ∈ holder.records field := by
  rw [entries_of_nested t h, List.mem_flatMap]
  refine exists_congr fun holder => and_congr_right fun _ => ?_
  simp only [heldBy, List.mem_map, Prod.mk.injEq]
  constructor
  · rintro ⟨held, hheld, hname, rfl⟩
    exact ⟨hname, hheld⟩
  · rintro ⟨hname, hheld⟩
    exact ⟨r, hheld, hname, rfl⟩

/-- The records of a kind depend on the records of one top-level kind only. -/
theorem entries_congr {t u : Tree} {kind : Kind}
    (h : ∀ top, (top = kind ∨ kind.parent = some top) → t.tops top = u.tops top) :
    t.entries kind = u.entries kind := by
  cases hparent : kind.parent with
  | none => rw [entries_of_top t hparent, entries_of_top u hparent, h kind (.inl rfl)]
  | some parent =>
      obtain ⟨field, hlocation⟩ := Kind.parent_eq_some_iff.mp hparent
      rw [entries_of_nested t hlocation, entries_of_nested u hlocation, h parent (.inr hparent)]

theorem collection_eq (t : Tree) (kind : Kind) (parent : Option String) :
    t.collection kind parent =
      ((t.entries kind).filter fun entry => parent.isNone || entry.1 = parent).map (·.2) := by
  simp only [collection, entries, List.filter_map, List.map_map]
  rfl

theorem mem_collection {t : Tree} {kind : Kind} {parent : Option String} {r : Record} :
    r ∈ t.collection kind parent ↔
      ∃ q, (q, r) ∈ t.entries kind ∧ (parent = none ∨ q = parent) := by
  simp [collection_eq]

theorem mem_names {t : Tree} {kind : Kind} {parent : Option String} {name : String} :
    name ∈ t.names kind parent ↔
      ∃ q r, (q, r) ∈ t.entries kind ∧ (parent = none ∨ q = parent) ∧ r.name? = some name := by
  simp only [names, List.mem_filterMap, mem_collection]
  constructor
  · rintro ⟨r, ⟨q, hmem, hparent⟩, hname⟩
    exact ⟨q, r, hmem, hparent, hname⟩
  · rintro ⟨q, r, hmem, hparent, hname⟩
    exact ⟨r, ⟨q, hmem, hparent⟩, hname⟩

end Tree

/-! ## Walking over one kind -/

namespace Kind

/-- What changing the records of a kind means for the top-level records. -/
def lift (kind : Kind) (f : Option String → Record → Record) (top : Kind) (r : Record) :
    Record :=
  match kind.location with
  | .nested parent field =>
      if top = parent then r.modify field (Value.mapItems (f r.name?)) else r
  | .collection | .single => if top = kind then f none r else r

theorem lift_of_top {kind : Kind} (h : kind.parent = none)
    (f : Option String → Record → Record) :
    kind.lift f = fun top r => if top = kind then f none r else r := by
  funext top r
  rcases parent_eq_none_iff.mp h with hlocation | hlocation <;> simp [lift, hlocation]

theorem lift_of_nested {kind parent : Kind} {field : String}
    (h : kind.location = .nested parent field) (f : Option String → Record → Record) :
    kind.lift f = fun top r =>
      if top = parent then r.modify field (Value.mapItems (f r.name?)) else r := by
  funext top r
  simp [lift, h]

end Kind

/-- Walks a list from left to right, carrying a state, and replaces each entry. -/
def mapCarrying {σ α β : Type} (f : σ → α → σ × β) (state : σ) : List α → σ × List β
  | [] => (state, [])
  | a :: rest =>
      let (state, b) := f state a
      let (state, rest) := mapCarrying f state rest
      (state, b :: rest)

section MapCarrying

variable {σ α β γ δ : Type} {f : σ → α → σ × β} {g : σ → γ → σ × δ}

theorem mapCarrying_append (f : σ → α → σ × β) (state : σ) (first second : List α) :
    mapCarrying f state (first ++ second) =
      ((mapCarrying f (mapCarrying f state first).1 second).1,
        (mapCarrying f state first).2 ++
          (mapCarrying f (mapCarrying f state first).1 second).2) := by
  induction first generalizing state with
  | nil => rfl
  | cons a rest ih => simp only [List.cons_append, mapCarrying, ih]

/-- If a walk over what an entry holds does what the walk over entries does with that entry, the
two walks do the same with a whole list. -/
theorem mapCarrying_flatMap {read : α → List γ} {readBack : β → List δ}
    (h : ∀ state a, ((f state a).1, readBack (f state a).2) = mapCarrying g state (read a))
    (state : σ) (entries : List α) :
    ((mapCarrying f state entries).1, (mapCarrying f state entries).2.flatMap readBack) =
      mapCarrying g state (entries.flatMap read) := by
  induction entries generalizing state with
  | nil => rfl
  | cons a rest ih =>
      rw [List.flatMap_cons, mapCarrying_append, ← h, ← ih]
      rfl

theorem mapCarrying_map (read : α → γ) (readBack : β → δ)
    (h : ∀ state a, ((f state a).1, readBack (f state a).2) = g state (read a))
    (state : σ) (entries : List α) :
    ((mapCarrying f state entries).1, (mapCarrying f state entries).2.map readBack) =
      mapCarrying g state (entries.map read) := by
  simp only [List.map_eq_flatMap]
  refine mapCarrying_flatMap (fun state a => ?_) state entries
  simp only [mapCarrying, ← h]

theorem length_mapCarrying (f : σ → α → σ × β) (state : σ) (entries : List α) :
    (mapCarrying f state entries).2.length = entries.length := by
  induction entries generalizing state with
  | nil => rfl
  | cons a rest ih => simp only [mapCarrying, List.length_cons, ih]

/-- What is written to an entry depends on the state when its turn comes. -/
theorem getElem?_mapCarrying (f : σ → α → σ × β) (state : σ) (entries : List α) (index : Nat) :
    ∃ now, (mapCarrying f state entries).2[index]? = entries[index]?.map fun a => (f now a).2 := by
  induction entries generalizing state index with
  | nil => exact ⟨state, rfl⟩
  | cons a rest ih =>
      cases index with
      | zero => exact ⟨state, rfl⟩
      | succ index => exact ih _ index

theorem mapCarrying_fst (f : σ → α → σ × β) (state : σ) (entries : List α) :
    (mapCarrying f state entries).1 = entries.foldl (fun state a => (f state a).1) state := by
  induction entries generalizing state with
  | nil => rfl
  | cons a rest ih => simp only [mapCarrying, List.foldl_cons, ih]

theorem mapCarrying_snd_of_stateless {write : α → β} (h : ∀ state a, (f state a).2 = write a)
    (state : σ) (entries : List α) : (mapCarrying f state entries).2 = entries.map write := by
  induction entries generalizing state with
  | nil => rfl
  | cons a rest ih => simp only [mapCarrying, List.map_cons, h, ih]

end MapCarrying

section Visit

variable {σ : Type} (f : σ → Record → σ × Record) (state : σ)

/-- Writes to a value if it is a record. -/
def Value.visitObject : Value → σ × Value
  | .object r => ((f state r).1, .object (f state r).2)
  | value => (state, value)

theorem Value.visitObject_snd (value : Value) :
    (value.visitObject f state).2 = value.mapObject fun r => (f state r).2 := by
  cases value <;> rfl

theorem visitRecords_eq_mapCarrying (items : List Value) :
    visitRecords f state items = mapCarrying (Value.visitObject f) state items := by
  induction items generalizing state with
  | nil => rfl
  | cons item rest ih =>
      cases item <;> simp only [visitRecords, mapCarrying, Value.visitObject, ih]

theorem records_visitRecords (items : List Value) :
    ((visitRecords f state items).1, (visitRecords f state items).2.filterMap Value.object?) =
      mapCarrying f state (items.filterMap Value.object?) := by
  simp only [visitRecords_eq_mapCarrying, List.filterMap_eq_flatMap_toList]
  refine mapCarrying_flatMap (fun state item => ?_) state items
  cases item <;> rfl

theorem getElem?_visitRecords (items : List Value) (index : Nat) :
    ∃ now, (visitRecords f state items).2[index]? =
      items[index]?.map (Value.mapObject fun r => (f now r).2) := by
  obtain ⟨now, hnow⟩ := getElem?_mapCarrying (Value.visitObject f) state items index
  refine ⟨now, ?_⟩
  rw [visitRecords_eq_mapCarrying, hnow]
  congr 1
  funext item
  exact item.visitObject_snd f now

/-- Writes to the records in a value that is a list. -/
def Value.visitItems : Value → Value
  | .list items => .list (visitRecords f state items).2
  | value => value

namespace Record

theorem records_visitField (field : String) (r : Record) :
    ((r.visitField field f state).1, (r.visitField field f state).2.records field) =
      mapCarrying f state (r.records field) := by
  induction r with
  | nil => rfl
  | cons entry rest ih =>
      obtain ⟨key, value⟩ := entry
      by_cases hkey : field = key
      · subst hkey
        cases value with
        | list items =>
            simpa [visitField, records_eq, get?_cons] using records_visitRecords f state items
        | null | bool _ | number _ | text _ | object _ =>
            simp [visitField, records_eq, get?_cons, Value.records, Value.list?, mapCarrying]
      · simpa [visitField, hkey, records_eq, get?_cons] using ih

theorem visitField_snd (field : String) (r : Record) :
    (r.visitField field f state).2 = r.modify field (Value.visitItems f state) := by
  induction r with
  | nil => rfl
  | cons entry rest ih =>
      obtain ⟨key, value⟩ := entry
      by_cases hkey : field = key
      · cases value <;> simp [visitField, hkey, modify, Value.visitItems]
      · simp [visitField, hkey, ih, modify]

theorem object?_visitObject (field : String) (r : Record) :
    ((r.visitObject field f state).1, ((r.visitObject field f state).2.object? field).toList) =
      mapCarrying f state (r.object? field).toList := by
  induction r with
  | nil => rfl
  | cons entry rest ih =>
      obtain ⟨key, value⟩ := entry
      by_cases hkey : field = key
      · subst hkey
        cases value <;> simp [visitObject, object?, get?_cons, Value.object?, mapCarrying]
      · simpa [visitObject, hkey, object?, get?_cons] using ih

theorem visitObject_snd (field : String) (r : Record) :
    (r.visitObject field f state).2 =
      r.modify field (Value.mapObject fun held => (f state held).2) := by
  induction r with
  | nil => rfl
  | cons entry rest ih =>
      obtain ⟨key, value⟩ := entry
      by_cases hkey : field = key
      · cases value <;> simp [visitObject, hkey, modify, Value.mapObject]
      · simp [visitObject, hkey, ih, modify]

end Record

/-! Where what is written does not depend on the state, the walk is a change of each record. -/

variable {f} {g : Record → Record}

theorem Value.visitItems_of_stateless (h : ∀ state r, (f state r).2 = g r) (value : Value) :
    value.visitItems f state = value.mapItems g := by
  cases value with
  | list items =>
      have hitem : ∀ (state : σ) (item : Value), (item.visitObject f state).2 = item.mapObject g :=
        fun state item => by simp only [visitObject_snd, h]
      rw [visitItems, visitRecords_eq_mapCarrying, mapCarrying_snd_of_stateless hitem, mapItems]
  | null | bool _ | number _ | text _ | object _ => rfl

theorem Record.visitField_eq (h : ∀ state r, (f state r).2 = g r) (field : String) (state : σ)
    (r : Record) :
    r.visitField field f state =
      ((r.records field).foldl (fun state r => (f state r).1) state,
        r.modify field (Value.mapItems g)) := by
  refine Prod.ext ?_ ?_
  · have hread := congrArg Prod.fst (records_visitField f state field r)
    exact hread.trans (mapCarrying_fst f state _)
  · rw [visitField_snd]
    exact modify_congr fun value _ => value.visitItems_of_stateless state h

theorem Record.visitObject_eq (h : ∀ state r, (f state r).2 = g r) (field : String) (state : σ)
    (r : Record) :
    r.visitObject field f state =
      ((r.object? field).toList.foldl (fun state r => (f state r).1) state,
        r.modify field (Value.mapObject g)) := by
  refine Prod.ext ?_ ?_
  · have hread := congrArg Prod.fst (object?_visitObject f state field r)
    exact hread.trans (mapCarrying_fst f state _)
  · simp only [visitObject_snd, h]

end Visit

namespace Tree

/-- Changes the records of a kind, given the names of their parents. -/
def mapKind (t : Tree) (kind : Kind) (f : Option String → Record → Record) : Tree :=
  t.mapTop (kind.lift f)

theorem mapTop_ite (t : Tree) {kind : Kind} (h : kind.parent = none) (f : Record → Record) :
    t.mapTop (fun top r => if top = kind then f r else r) =
      ⟨t.root.modify kind.tag (Value.mapPlaced kind f)⟩ := by
  simp only [mapTop, Record.modify_eq_mapValues, mk.injEq]
  apply Record.mapValues_congr
  intro key value _
  by_cases hkey : key = kind.tag
  · simp [hkey, Kind.topOf?_tag h]
  · rw [if_neg hkey]
    cases htop : Kind.topOf? key with
    | none => rfl
    | some top =>
        have hne : top ≠ kind := fun e => hkey (e ▸ (Kind.eq_tag_of_topOf? htop).1)
        simp [hne, Value.mapPlaced_id]

theorem mapKind_congr {t : Tree} {kind : Kind} {f g : Option String → Record → Record}
    (h : ∀ entry ∈ t.entries kind, f entry.1 entry.2 = g entry.1 entry.2) :
    t.mapKind kind f = t.mapKind kind g := by
  apply mapTop_congr
  intro top htop r hr
  cases hparent : kind.parent with
  | none =>
      simp only [Kind.lift_of_top hparent]
      by_cases hkind : top = kind
      · subst hkind
        rw [entries_of_top t hparent] at h
        simpa using h _ (List.mem_map_of_mem hr)
      · simp only [hkind, if_false]
  | some parent =>
      obtain ⟨field, hlocation⟩ := Kind.parent_eq_some_iff.mp hparent
      simp only [Kind.lift_of_nested hlocation]
      by_cases hkind : top = parent
      · subst hkind
        simp only [if_true]
        refine Record.modify_congr fun value hvalue => Value.mapItems_congr fun held hheld => ?_
        refine h _ ((mem_entries_of_nested hlocation).mpr ⟨r, hr, rfl, ?_⟩)
        simpa [Record.records_eq, hvalue] using hheld
      · simp only [hkind, if_false]

/-- A walk whose changes do not depend on its state changes the records as
`mapKind` does, and its state passes over them in stored order. -/
theorem visit_eq {σ : Type} {f : σ → Option String → Record → σ × Record}
    {g : Option String → Record → Record} (h : ∀ state parent r, (f state parent r).2 = g parent r)
    (t : Tree) (kind : Kind) (state : σ) :
    t.visit kind f state =
      ((t.entries kind).foldl (fun state entry => (f state entry.1 entry.2).1) state,
        t.mapKind kind g) := by
  cases hparent : kind.parent with
  | none =>
      have hmap : t.mapKind kind g = ⟨t.root.modify kind.tag (Value.mapPlaced kind (g none))⟩ := by
        rw [mapKind, Kind.lift_of_top hparent, mapTop_ite t hparent]
      rw [hmap, entries_of_top t hparent, List.foldl_map]
      rcases Kind.parent_eq_none_iff.mp hparent with hlocation | hlocation
      · rw [tops_eq_single t hlocation]
        simp only [visit, hlocation, Record.visitObject_eq (fun state r => h state none r)]
        simp [Value.mapPlaced, hlocation, single?]
      · rw [tops_eq_topLevel t hlocation]
        simp only [visit, hlocation, Record.visitField_eq (fun state r => h state none r)]
        simp [Value.mapPlaced, hlocation, topLevel]
  | some parent =>
      obtain ⟨field, hlocation⟩ := Kind.parent_eq_some_iff.mp hparent
      have hcollection : parent.location = .collection := Kind.location_of_parent hparent
      have htop : parent.parent = none := Kind.parent_of_collection hcollection
      have hmap : t.mapKind kind g = ⟨t.root.modify parent.tag (Value.mapItems fun holder =>
          holder.modify field (Value.mapItems (g holder.name?)))⟩ := by
        have hplaced : Value.mapPlaced parent = Value.mapItems := by
          funext f value
          simp [Value.mapPlaced, hcollection]
        rw [mapKind, Kind.lift_of_nested hlocation, ← hplaced]
        exact mapTop_ite t htop _
      -- the walk over what one holder holds ends before the next holder's turn comes
      have hinner : ∀ (state : σ) (holder : Record),
          holder.visitField field (fun state r => f state holder.name? r) state =
            ((holder.records field).foldl (fun state r => (f state holder.name? r).1) state,
              holder.modify field (Value.mapItems (g holder.name?))) := by
        intro state holder
        exact Record.visitField_eq (fun state r => h state holder.name? r) field state holder
      rw [hmap, entries_of_nested t hlocation, tops_eq_topLevel t hcollection]
      simp only [visit, hlocation, List.foldl_flatMap, heldBy, List.foldl_map]
      rw [Record.visitField_eq (g := fun holder =>
        holder.modify field (Value.mapItems (g holder.name?)))
        (fun state holder => by rw [hinner])]
      simp only [hinner, topLevel]

end Tree

/-! ## Changing all records at once -/

namespace Kind

/-- Changes the records that a record of a kind holds. -/
def mapHeld (kind : Kind) (f : Kind → Option String → Record → Record) (r : Record) : Record :=
  r.mapValues fun key value =>
    match kind.heldIn? key with
    | some child => value.mapItems (f child r.name?)
    | none => value

theorem get?_mapHeld_of_none {kind : Kind} {field : String} (h : kind.heldIn? field = none)
    (f : Kind → Option String → Record → Record) (r : Record) :
    (kind.mapHeld f r).get? field = r.get? field := by
  simp [mapHeld, h]

theorem get?_mapHeld_of_some {kind child : Kind} {field : String}
    (h : kind.heldIn? field = some child) (f : Kind → Option String → Record → Record)
    (r : Record) :
    (kind.mapHeld f r).get? field = (r.get? field).map (Value.mapItems (f child r.name?)) := by
  simp [mapHeld, h]

theorem heldIn?_name (kind : Kind) : kind.heldIn? "name" = none := by
  cases kind <;> decide

theorem name?_mapHeld (kind : Kind) (f : Kind → Option String → Record → Record) (r : Record) :
    (kind.mapHeld f r).name? = r.name? := by
  simp only [Record.name?_eq, get?_mapHeld_of_none kind.heldIn?_name]

theorem mapHeld_id (kind : Kind) (r : Record) : kind.mapHeld (fun _ _ r => r) r = r := by
  have h : (fun key value => match kind.heldIn? key with
      | some child => Value.mapItems (fun r => r) value
      | none => value) = fun (_ : String) (value : Value) => value := by
    funext key value
    cases kind.heldIn? key with
    | none => rfl
    | some child => exact Value.mapItems_id value
  rw [mapHeld, h, Record.mapValues_id]

theorem mapHeld_congr {kind : Kind} {f g : Kind → Option String → Record → Record} {r : Record}
    (h : ∀ child field, child.location = .nested kind field →
      ∀ held ∈ r.records field, f child r.name? held = g child r.name? held) :
    kind.mapHeld f r = kind.mapHeld g r := by
  apply Record.mapValues_congr
  intro key value hvalue
  cases hchild : kind.heldIn? key with
  | none => rfl
  | some child =>
      apply Value.mapItems_congr
      intro held hheld
      refine h child key (location_of_heldIn? hchild) held ?_
      simpa [Record.records_eq, hvalue] using hheld

theorem mapHeld_mapHeld (kind : Kind) (f g : Kind → Option String → Record → Record)
    (r : Record) :
    kind.mapHeld f (kind.mapHeld g r) =
      kind.mapHeld (fun child q held => f child q (g child q held)) r := by
  have hname := name?_mapHeld kind g r
  unfold mapHeld at hname ⊢
  rw [hname, Record.mapValues_mapValues]
  congr 1
  funext key value
  cases kind.heldIn? key with
  | none => rfl
  | some child => exact Value.mapItems_mapItems _ _ value

theorem mapHeld_of_childless {kind : Kind} (h : ∀ child : Kind, child.parent ≠ some kind)
    (f : Kind → Option String → Record → Record) (r : Record) : kind.mapHeld f r = r := by
  have hid : kind.mapHeld f r = kind.mapHeld (fun _ _ held => held) r := by
    apply mapHeld_congr
    intro child field hlocation
    exact absurd (parent_eq_some_iff.mpr ⟨field, hlocation⟩) (h child)
  rw [hid, mapHeld_id]

end Kind

namespace Tree

/-- Changes every record. What is done to a record depends on its kind, on the
name of its parent as it was, and on the record, whose own records are changed
already. -/
def mapAll (f : Kind → Option String → Record → Record) (t : Tree) : Tree :=
  t.mapTop fun kind r => f kind none (kind.mapHeld f r)

theorem entries_mapAll_of_top (f : Kind → Option String → Record → Record) (t : Tree)
    {kind : Kind} (h : kind.parent = none) :
    (t.mapAll f).entries kind =
      (t.entries kind).map fun entry => (entry.1, f kind none (kind.mapHeld f entry.2)) := by
  rw [entries_of_top _ h, entries_of_top _ h, mapAll, tops_mapTop _ _ h]
  simp

/-- If a change of the parents keeps the records they hold, the records of a
nested kind are changed one by one, under the new names of their parents. -/
theorem entries_mapAll_of_nested {f : Kind → Option String → Record → Record} {t : Tree}
    {kind parent : Kind} {field : String} (rename : Option String → Option String)
    (h : kind.location = .nested parent field)
    (hheld : ∀ r ∈ t.tops parent, (f parent none (parent.mapHeld f r)).get? field =
      (parent.mapHeld f r).get? field)
    (hname : ∀ r ∈ t.tops parent,
      (f parent none (parent.mapHeld f r)).name? = rename r.name?) :
    (t.mapAll f).entries kind =
      (t.entries kind).map fun entry => (rename entry.1, f kind entry.1 entry.2) := by
  have hparent : kind.parent = some parent := Kind.parent_eq_some_iff.mpr ⟨field, h⟩
  have htop : parent.parent = none := Kind.parent_of_holder hparent
  rw [entries_of_nested _ h, entries_of_nested _ h, mapAll, tops_mapTop _ _ htop,
    List.flatMap_map, List.map_flatMap]
  apply List.flatMap_congr
  intro r hr
  simp only [heldBy, hname r hr, Record.records_eq, hheld r hr,
    Kind.get?_mapHeld_of_some (Kind.heldIn?_of_location h)]
  cases r.get? field with
  | none => rfl
  | some value => simp [Value.records_mapItems]

theorem mapAll_congr {f g : Kind → Option String → Record → Record} {t : Tree}
    (h : ∀ kind, ∀ entry ∈ t.entries kind, ∀ r,
      (r = entry.2 ∨ r = kind.mapHeld f entry.2) → f kind entry.1 r = g kind entry.1 r) :
    t.mapAll f = t.mapAll g := by
  apply mapTop_congr
  intro kind hparent r hr
  have hentry : (none, r) ∈ t.entries kind := by
    rw [entries_of_top t hparent]
    exact List.mem_map_of_mem hr
  rw [h kind (none, r) hentry _ (.inr rfl)]
  congr 1
  apply Kind.mapHeld_congr
  intro child field hlocation held hheld
  refine h child (r.name?, held) ?_ held (.inl rfl)
  rw [entries_of_nested t hlocation]
  exact List.mem_flatMap.mpr ⟨r, hr, List.mem_map_of_mem hheld⟩

end Tree

end Blueprint
