import Blueprint.Integrity.Verdict
import Blueprint.Tree
import Mathlib

/-!
# Fields of a record

What setting, changing and merging fields does to the values that are looked
up. `mapValues` changes all fields at once; changing one field is a case of it,
and two such changes agree as soon as they agree on the values of the record.
-/

namespace Blueprint

theorem Value.text?_eq_some_iff {value : Value} {s : String} :
    value.text? = some s ↔ value = .text s := by
  cases value <;> simp [text?]

theorem Value.object?_eq_some_iff {value : Value} {r : Record} :
    value.object? = some r ↔ value = .object r := by
  cases value <;> simp [object?]

theorem Value.list?_eq_some_iff {value : Value} {items : List Value} :
    value.list? = some items ↔ value = .list items := by
  cases value <;> simp [list?]

namespace Record

theorem list?_of_get? {r : Record} {key : String} {items : List Value}
    (h : r.get? key = some (.list items)) : r.list? key = some items := by
  rw [list?, h]
  rfl

@[simp] theorem get?_nil (field : String) : get? ([] : Record) field = none := rfl

theorem get?_cons (key : String) (value : Value) (rest : Record) (field : String) :
    get? ((key, value) :: rest) field =
      if field = key then some value else get? rest field := by
  simp only [get?, List.lookup_cons]
  by_cases h : field = key
  · simp [h]
  · simp [h, beq_false_of_ne h]

theorem mem_of_get? {r : Record} {field : String} {value : Value} (h : r.get? field = some value) :
    (field, value) ∈ r := by
  obtain ⟨before, after, rfl, _⟩ := List.lookup_eq_some_iff.mp h
  exact List.mem_append_right _ List.mem_cons_self

theorem get?_insert (r : Record) (field : String) (value : Value) (other : String) :
    get? (insert field value r) other =
      if other = field then some value else get? r other := by
  induction r with
  | nil => simp [insert, get?_cons]
  | cons entry rest ih =>
      obtain ⟨key, old⟩ := entry
      by_cases hkey : field = key
      · subst hkey
        by_cases h : other = field <;> simp [insert, get?_cons, h]
      · by_cases hlt : field < key
        · simp [insert, hkey, hlt, get?_cons]
        · simp only [insert, hkey, hlt, if_false, get?_cons, ih]
          by_cases h : other = key
          · have hne : other ≠ field := fun e => hkey (e.symm.trans h)
            simp [h, Ne.symm hkey]
          · simp [h]

@[simp] theorem get?_insert_self (r : Record) (field : String) (value : Value) :
    get? (insert field value r) field = some value := by
  simp [get?_insert]

theorem get?_insert_of_ne (r : Record) {field other : String} (value : Value)
    (h : other ≠ field) : get? (insert field value r) other = get? r other := by
  simp [get?_insert, h]

theorem insert_insert (r : Record) (field : String) (first second : Value) :
    insert field second (insert field first r) = insert field second r := by
  induction r with
  | nil => simp [insert]
  | cons entry rest ih =>
      obtain ⟨key, old⟩ := entry
      by_cases hkey : field = key
      · simp [insert, hkey]
      · by_cases hlt : field < key
        · simp [insert, hkey, hlt]
        · simp [insert, hkey, hlt, ih]

theorem get?_extend (r fields : Record) (field : String) :
    get? (extend r fields) field = ((fields.reverse.lookup field).or (get? r field)) := by
  induction fields generalizing r with
  | nil => simp [extend]
  | cons entry rest ih =>
      obtain ⟨key, value⟩ := entry
      have step : extend r ((key, value) :: rest) = extend (insert key value r) rest := rfl
      rw [step, ih, get?_insert]
      rw [List.reverse_cons, List.lookup_append]
      by_cases h : field = key
      · simp [h]
      · simp [h, List.lookup_cons, beq_false_of_ne h]

theorem get?_ofFields (fields : Record) (field : String) :
    get? (ofFields fields) field = fields.reverse.lookup field := by
  simp [ofFields, get?_extend]

theorem get?_extend_ofFields (r fields : Record) (field : String) :
    get? (extend r fields) field = (get? (ofFields fields) field).or (get? r field) := by
  rw [get?_extend, get?_ofFields]

theorem get?_ofFields_eq_none {fields : Record} {field : String}
    (h : get? fields field = none) : get? (ofFields fields) field = none := by
  rw [get?_ofFields, List.lookup_eq_none_iff]
  intro entry hentry
  exact List.lookup_eq_none_iff.mp h entry (List.mem_reverse.mp hentry)

/-! ## Changing all values at once -/

/-- Changes the value of every field. Only the first of a repeated field is
changed, which is the one that is looked up. -/
def mapValues (f : String → Value → Value) : Record → Record
  | [] => []
  | (key, value) :: rest =>
      (key, f key value) ::
        mapValues (fun other old => if other = key then old else f other old) rest

@[simp] theorem get?_mapValues (f : String → Value → Value) (r : Record) (field : String) :
    get? (mapValues f r) field = (get? r field).map (f field) := by
  induction r generalizing f with
  | nil => rfl
  | cons entry rest ih =>
      obtain ⟨key, value⟩ := entry
      simp only [mapValues, get?_cons, ih]
      by_cases h : field = key <;> simp [h]

theorem mapValues_mapValues (f g : String → Value → Value) (r : Record) :
    mapValues f (mapValues g r) = mapValues (fun key value => f key (g key value)) r := by
  induction r generalizing f g with
  | nil => rfl
  | cons entry rest ih =>
      obtain ⟨key, value⟩ := entry
      simp only [mapValues, ih]
      congr 2
      funext other old
      by_cases h : other = key <;> simp [h]

theorem mapValues_congr {f g : String → Value → Value} {r : Record}
    (h : ∀ field value, get? r field = some value → f field value = g field value) :
    mapValues f r = mapValues g r := by
  induction r generalizing f g with
  | nil => rfl
  | cons entry rest ih =>
      obtain ⟨key, value⟩ := entry
      have head : f key value = g key value := h key value (by simp [get?_cons])
      simp only [mapValues, head]
      congr 1
      apply ih
      intro field old hold
      by_cases hkey : field = key
      · simp [hkey]
      · simpa [hkey] using h field old (by simpa [get?_cons, hkey] using hold)

theorem mapValues_id (r : Record) : mapValues (fun _ value => value) r = r := by
  induction r with
  | nil => rfl
  | cons entry rest ih => simp [mapValues, ih]

theorem modify_eq_mapValues (field : String) (g : Value → Value) (r : Record) :
    modify field g r = mapValues (fun key value => if key = field then g value else value) r := by
  induction r with
  | nil => rfl
  | cons entry rest ih =>
      obtain ⟨key, value⟩ := entry
      by_cases h : field = key
      · subst h
        have tail : (fun other old => if other = field then old else
            if other = field then g old else old) = fun (_ : String) (old : Value) => old := by
          funext other old
          by_cases ho : other = field <;> simp [ho]
        simp [modify, mapValues, tail, mapValues_id]
      · have tail : (fun other old => if other = key then old else
            if other = field then g old else old) =
              fun (other : String) (old : Value) => if other = field then g old else old := by
          funext other old
          by_cases ho : other = key
          · simp [ho, Ne.symm h]
          · simp [ho]
        simp [modify, h, mapValues, Ne.symm h, tail, ih]

theorem modify_modify (field : String) (f g : Value → Value) (r : Record) :
    modify field f (modify field g r) = modify field (fun value => f (g value)) r := by
  simp only [modify_eq_mapValues, mapValues_mapValues]
  congr 1
  funext key value
  by_cases h : key = field <;> simp [h]

theorem modify_congr {field : String} {f g : Value → Value} {r : Record}
    (h : ∀ value, get? r field = some value → f value = g value) :
    modify field f r = modify field g r := by
  rw [modify_eq_mapValues, modify_eq_mapValues]
  apply mapValues_congr
  intro key value hvalue
  by_cases hkey : key = field
  · subst hkey
    rw [if_pos rfl, if_pos rfl, h value hvalue]
  · rw [if_neg hkey, if_neg hkey]

theorem modify_of_same {field : String} {f : Value → Value} {r : Record}
    (h : ∀ value, get? r field = some value → f value = value) : modify field f r = r := by
  rw [modify_congr h, modify_eq_mapValues]
  simp only [ite_self, mapValues_id]

theorem get?_modify (r : Record) (field : String) (g : Value → Value) (other : String) :
    get? (modify field g r) other =
      if other = field then (get? r other).map g else get? r other := by
  rw [modify_eq_mapValues, get?_mapValues]
  by_cases h : other = field <;> simp [h]

/-! ## Reading fields -/

theorem text?_eq_some_iff {r : Record} {field s : String} :
    r.text? field = some s ↔ r.get? field = some (.text s) := by
  simp [text?, Option.bind_eq_some_iff, Value.text?_eq_some_iff]

theorem name?_eq (r : Record) : name? r = (get? r "name").bind Value.text? := rfl

theorem name?_insert_of_ne (r : Record) {field : String} (value : Value) (h : field ≠ "name") :
    name? (insert field value r) = name? r := by
  rw [name?_eq, get?_insert_of_ne _ _ (Ne.symm h), name?_eq]

@[simp] theorem name?_insert_name (r : Record) (name : String) :
    name? (insert "name" (.text name) r) = some name := by
  simp [name?_eq, Value.text?]

end Record

/-! ## Lists of records -/

namespace Value

/-- The records in a value that is a list. -/
def records (value : Value) : List Record := (value.list?.getD []).filterMap object?

/-- Changes every record in a value that is a list. -/
def mapItems (f : Record → Record) : Value → Value
  | list items => list (items.map (mapObject f))
  | value => value

@[simp] theorem records_list (items : List Value) :
    records (list items) = items.filterMap object? := rfl

theorem object?_mapObject (f : Record → Record) (value : Value) :
    (mapObject f value).object? = value.object?.map f := by
  cases value <;> rfl

theorem mapObject_mapObject (f g : Record → Record) (value : Value) :
    mapObject f (mapObject g value) = mapObject (fun r => f (g r)) value := by
  cases value <;> rfl

theorem records_mapItems (f : Record → Record) (value : Value) :
    (mapItems f value).records = value.records.map f := by
  cases value with
  | list items =>
      simp only [mapItems, records_list, List.filterMap_map, List.map_filterMap]
      congr 1
      funext item
      exact object?_mapObject f item
  | null | bool _ | number _ | text _ | object _ => rfl

theorem mapItems_mapItems (f g : Record → Record) (value : Value) :
    mapItems f (mapItems g value) = mapItems (fun r => f (g r)) value := by
  cases value with
  | list items =>
      simp only [mapItems, List.map_map]
      congr 2
      funext item
      exact mapObject_mapObject f g item
  | null | bool _ | number _ | text _ | object _ => rfl

theorem mapItems_congr {f g : Record → Record} {value : Value}
    (h : ∀ r ∈ value.records, f r = g r) : mapItems f value = mapItems g value := by
  cases value with
  | list items =>
      simp only [mapItems, list.injEq]
      apply List.map_congr_left
      intro item hitem
      cases item with
      | object r =>
          have hr : r ∈ (list items).records := by
            simpa using ⟨object r, hitem, rfl⟩
          simp [mapObject, h r hr]
      | null | bool _ | number _ | text _ | list _ => rfl
  | null | bool _ | number _ | text _ | object _ => rfl

theorem mapObject_id (value : Value) : mapObject (fun r => r) value = value := by
  cases value <;> rfl

theorem mapItems_id (value : Value) : mapItems (fun r => r) value = value := by
  cases value with
  | list items =>
      have h : mapObject (fun r => r) = id := funext mapObject_id
      simp [mapItems, h]
  | null | bool _ | number _ | text _ | object _ => rfl

end Value

theorem Record.modify_mapItems_id (field : String) (r : Record) :
    r.modify field (Value.mapItems fun held => held) = r :=
  modify_of_same fun value _ => Value.mapItems_id value

theorem Record.records_eq (r : Record) (field : String) :
    r.records field = ((r.get? field).map Value.records).getD [] := by
  unfold Record.records Record.list? Value.records
  cases r.get? field <;> rfl

end Blueprint
