import Blueprint.Proofs.OrderedFields

/-!
# Routes

A route leads from a value to a part of it, through fields of records and items of lists.
Of the part its shape shows: a plain value shows itself, a list its length, and a record
only that it is one. What stays and what changes in a tree is said along its routes, all of
them at once: values whose shapes are the same along all routes are the same.
-/

namespace Blueprint

namespace Route

/-- One step into a value. -/
inductive Step
  | field (name : String)
  | item (index : Nat)
  deriving DecidableEq

end Route

abbrev Route := List Route.Step

/-- What a value shows without the parts of it. -/
inductive Shape
  | null
  | bool (value : Bool)
  | number (value : Number)
  | text (value : String)
  | list (length : Nat)
  | object
  deriving DecidableEq

namespace Value

def shape : Value → Shape
  | null => .null
  | bool value => .bool value
  | number value => .number value
  | text value => .text value
  | list items => .list items.length
  | object _ => .object

/-- The part of a value that a step leads to. -/
def step? : Value → Route.Step → Option Value
  | object r, .field name => Record.get? r name
  | list items, .item index => items[index]?
  | _, _ => none

/-- The part of a value that a route leads to. -/
def part? (value : Value) : Route → Option Value
  | [] => some value
  | step :: rest => (value.step? step).bind fun next => next.part? rest

/-- The shape of the part that a route leads to. -/
def shape? (value : Value) (route : Route) : Option Shape := (value.part? route).map shape

@[simp] theorem step?_field (r : Record) (name : String) :
    (object r).step? (.field name) = r.get? name := rfl

@[simp] theorem step?_item (items : List Value) (index : Nat) :
    (list items).step? (.item index) = items[index]? := rfl

@[simp] theorem part?_nil (value : Value) : value.part? [] = some value := rfl

@[simp] theorem part?_cons (value : Value) (step : Route.Step) (rest : Route) :
    value.part? (step :: rest) = (value.step? step).bind fun next => next.part? rest := rfl

@[simp] theorem shape?_nil (value : Value) : value.shape? [] = some value.shape := rfl

theorem shape?_cons (value : Value) (step : Route.Step) (rest : Route) :
    value.shape? (step :: rest) = (value.step? step).bind fun next => next.shape? rest := by
  rw [shape?, part?_cons, Option.map_bind]
  rfl

theorem part?_append (value : Value) (first second : Route) :
    value.part? (first ++ second) = (value.part? first).bind fun next => next.part? second := by
  induction first generalizing value with
  | nil => rfl
  | cons step rest ih =>
      simp only [List.cons_append, part?_cons, Option.bind_assoc]
      congr 1
      funext next
      exact ih next

theorem step?_mapItems (f : Record → Record) (value : Value) (index : Nat) :
    (value.mapItems f).step? (.item index) = (value.step? (.item index)).map (mapObject f) := by
  cases value with
  | list items => simp [mapItems]
  | null | bool _ | number _ | text _ | object _ => rfl

end Value

/-! ## Shapes tell values apart -/

theorem Record.eq_of_get?_eq {first second : Record} (hfirst : first.Ordered)
    (hsecond : second.Ordered) (h : ∀ field, first.get? field = second.get? field) :
    first = second := by
  induction first generalizing second with
  | nil =>
      cases second with
      | nil => rfl
      | cons other others =>
          obtain ⟨key, value⟩ := other
          simpa [get?_cons] using h key
  | cons entry rest ih =>
      obtain ⟨key, value⟩ := entry
      cases second with
      | nil => simpa [get?_cons] using h key
      | cons other others =>
          obtain ⟨name, held⟩ := other
          obtain ⟨hkeys, hrest⟩ := List.pairwise_cons.mp hfirst
          obtain ⟨hnames, hothers⟩ := List.pairwise_cons.mp hsecond
          -- The least field of one record would be missing from the other.
          have hname : key = name := by
            rcases lt_trichotomy key name with hlt | heq | hgt
            · have hnone := get?_eq_none_of_lt fun field hfield => hlt.trans (hnames field hfield)
              simpa [get?_cons, hlt.ne, hnone] using h key
            · exact heq
            · have hnone := get?_eq_none_of_lt fun field hfield => hgt.trans (hkeys field hfield)
              simpa [get?_cons, hgt.ne, hnone] using h name
          subst hname
          have hvalue : value = held := by simpa [get?_cons] using h key
          rw [hvalue, ih hrest hothers]
          intro field
          by_cases hfield : field = key
          · rw [hfield, get?_eq_none_of_lt hkeys, get?_eq_none_of_lt hnames]
          · simpa [get?_cons, hfield] using h field

theorem eq_of_rel {α : Type} {R : α → α → Prop} {first second : Option α}
    (h : Option.Rel R first second)
    (heq : ∀ a b, first = some a → second = some b → R a b → a = b) : first = second := by
  cases h with
  | none => rfl
  | some hrel => exact congrArg some (heq _ _ rfl rfl hrel)

namespace Value

variable {value part first second : Value} {step : Route.Step}

theorem inOrder_step? (h : value.inOrder) (hpart : value.step? step = some part) :
    part.inOrder := by
  cases value with
  | list items =>
      cases step with
      | field _ => cases hpart
      | item index => exact inOrder_list_iff.mp h part (List.mem_of_getElem? hpart)
  | object r =>
      cases step with
      | field name => exact Record.inOrder_of_get? h hpart
      | item _ => cases hpart
  | null | bool _ | number _ | text _ => cases hpart

theorem sizeOf_step?_lt (hpart : value.step? step = some part) : sizeOf part < sizeOf value := by
  cases value with
  | list items =>
      cases step with
      | field _ => cases hpart
      | item index =>
          have hlt := List.sizeOf_lt_of_mem (List.mem_of_getElem? hpart)
          simp only [list.sizeOf_spec]
          omega
  | object r =>
      cases step with
      | field name =>
          have hlt := List.sizeOf_lt_of_mem (Record.mem_of_get? hpart)
          simp only [Prod.mk.sizeOf_spec] at hlt
          simp only [object.sizeOf_spec]
          omega
      | item _ => cases hpart
  | null | bool _ | number _ | text _ => cases hpart

/-- A value is told by its shape and its parts. -/
theorem eq_of_step?_eq (hfirst : first.inOrder) (hsecond : second.inOrder)
    (hshape : first.shape = second.shape) (hstep : ∀ step, first.step? step = second.step? step) :
    first = second := by
  cases first with
  | list items =>
      cases second with
      | list others => exact congrArg list (List.ext_getElem? fun index => hstep (.item index))
      | null | bool _ | number _ | text _ | object _ => cases hshape
  | object r =>
      cases second with
      | object other =>
          exact congrArg object (Record.eq_of_get?_eq (Record.inOrder_iff.mp hfirst).1
            (Record.inOrder_iff.mp hsecond).1 fun name => hstep (.field name))
      | null | bool _ | number _ | text _ | list _ => cases hshape
  | null | bool _ | number _ | text _ => cases second <;> simp_all [shape]

theorem rel_step?_of_shape?_eq (h : ∀ route, first.shape? route = second.shape? route)
    (step : Route.Step) :
    Option.Rel (fun part other => ∀ route, part.shape? route = other.shape? route)
      (first.step? step) (second.step? step) := by
  have hparts : ∀ rest, ((first.step? step).bind fun next => next.shape? rest) =
      (second.step? step).bind fun next => next.shape? rest := by
    intro rest
    simpa only [shape?_cons] using h (step :: rest)
  cases hone : first.step? step with
  | none =>
      cases htwo : second.step? step with
      | none => exact .none
      | some other => simpa [hone, htwo] using hparts []
  | some part =>
      cases htwo : second.step? step with
      | none => simpa [hone, htwo] using hparts []
      | some other => exact .some fun rest => by simpa [hone, htwo] using hparts rest

/-- Values with their fields in order that show the same along all routes are the same. -/
theorem eq_of_shape?_eq {first second : Value} (hfirst : first.inOrder)
    (hsecond : second.inOrder) (h : ∀ route, first.shape? route = second.shape? route) :
    first = second := by
  refine eq_of_step?_eq hfirst hsecond (Option.some.inj (h [])) fun step => ?_
  refine eq_of_rel (rel_step?_of_shape?_eq h step) fun part other hpart hother hshown => ?_
  have hsmaller := sizeOf_step?_lt hpart
  exact eq_of_shape?_eq (inOrder_step? hfirst hpart) (inOrder_step? hsecond hother) hshown
termination_by sizeOf first

end Value

/-! ## Changes along routes -/

/-- Whether the shape along a route may change from one to another. -/
abbrev Change := Route → Option Shape → Option Shape → Prop

namespace Change

/-- What is admitted for the part that a route leads to. -/
def beyond (change : Change) (place : Route) : Change := fun route => change (place ++ route)

theorem beyond_beyond (change : Change) (first second : Route) :
    (change.beyond first).beyond second = change.beyond (first ++ second) := by
  funext route
  simp only [beyond, List.append_assoc]

/-- Admits whatever happens to the part that a route leads to. -/
def within (place : Route) : Change := fun route _ _ => place <+: route

theorem beyond_within (step : Route.Step) (place : Route) :
    (within (step :: place)).beyond [step] = within place := by
  funext route _ _
  exact propext (List.prefix_cons_inj step)

end Change

namespace Value

/-- Along every route two values show the same, or the change is admitted. -/
def ChangesOnly (change : Change) (first second : Value) : Prop :=
  ∀ route, first.shape? route = second.shape? route ∨
    change route (first.shape? route) (second.shape? route)

namespace ChangesOnly

variable {change : Change} {first second third : Value}

theorem refl (change : Change) (value : Value) : ChangesOnly change value value :=
  fun _ => .inl rfl

theorem trans (hchange : ∀ route a b c, change route a b → change route b c → change route a c)
    (h : ChangesOnly change first second) (h' : ChangesOnly change second third) :
    ChangesOnly change first third := by
  intro route
  rcases h route with hsame | hchanged
  · rw [hsame]
    exact h' route
  · rcases h' route with hsame | hagain
    · exact .inr (hsame ▸ hchanged)
    · exact .inr (hchange route _ _ _ hchanged hagain)

theorem of_step? (hshape : first.shape = second.shape)
    (h : ∀ step, Option.Rel (ChangesOnly (change.beyond [step])) (first.step? step)
      (second.step? step)) : ChangesOnly change first second := by
  intro route
  cases route with
  | nil => exact .inl (congrArg some hshape)
  | cons step rest =>
      have hparts := h step
      rw [shape?_cons, shape?_cons]
      generalize first.step? step = one at hparts ⊢
      generalize second.step? step = two at hparts ⊢
      cases hparts with
      | none => exact .inl rfl
      | some hpart => exact hpart rest

theorem within_nil (first second : Value) : ChangesOnly (.within []) first second :=
  fun _ => .inr List.nil_prefix

theorem rel_self (change : Change) (part : Option Value) :
    Option.Rel (ChangesOnly change) part part := by
  cases part with
  | none => exact .none
  | some value => exact .some (refl change value)

theorem rel_map {part : Option Value} {f : Value → Value}
    (h : ∀ value, part = some value → ChangesOnly change value (f value)) :
    Option.Rel (ChangesOnly change) part (part.map f) := by
  cases part with
  | none => exact .none
  | some value => exact .some (h value rfl)

theorem insert {r : Record} {field : String} {value new : Value}
    (hvalue : r.get? field = some value)
    (h : ChangesOnly (change.beyond [.field field]) value new) :
    ChangesOnly change (.object r) (.object (r.insert field new)) := by
  refine of_step? rfl fun step => ?_
  cases step with
  | item _ => exact .none
  | field name =>
      rw [step?_field, step?_field, Record.get?_insert]
      by_cases hname : name = field
      · subst hname
        rw [hvalue, if_pos rfl]
        exact .some h
      · rw [if_neg hname]
        exact rel_self _ _

theorem set {items : List Value} {index : Nat} {item new : Value}
    (hitem : items[index]? = some item) (h : ChangesOnly (change.beyond [.item index]) item new) :
    ChangesOnly change (.list items) (.list (items.set index new)) := by
  refine of_step? (by simp [shape]) fun step => ?_
  cases step with
  | field _ => exact .none
  | item other =>
      rw [step?_item, step?_item, List.getElem?_set]
      by_cases hother : index = other
      · subst hother
        rw [hitem, if_pos rfl, if_pos (List.getElem?_eq_some_iff.mp hitem).1]
        exact .some h
      · rw [if_neg hother]
        exact rel_self _ _

theorem mapValues {r : Record} {f : String → Value → Value}
    (h : ∀ name value, r.get? name = some value →
      ChangesOnly (change.beyond [.field name]) value (f name value)) :
    ChangesOnly change (.object r) (.object (r.mapValues f)) := by
  refine of_step? rfl fun step => ?_
  cases step with
  | item _ => exact .none
  | field name =>
      rw [step?_field, step?_field, Record.get?_mapValues]
      exact rel_map (h name)

theorem map {items : List Value} {f : Value → Value}
    (h : ∀ index item, items[index]? = some item →
      ChangesOnly (change.beyond [.item index]) item (f item)) :
    ChangesOnly change (.list items) (.list (items.map f)) := by
  refine of_step? (by simp [shape]) fun step => ?_
  cases step with
  | field _ => exact .none
  | item index =>
      rw [step?_item, step?_item, List.getElem?_map]
      exact rel_map (h index)

theorem modify {r : Record} {name : String} {f : Value → Value}
    (h : ∀ value, r.get? name = some value →
      ChangesOnly (change.beyond [.field name]) value (f value)) :
    ChangesOnly change (.object r) (.object (r.modify name f)) := by
  rw [Record.modify_eq_mapValues]
  refine mapValues fun key value hvalue => ?_
  by_cases hkey : key = name
  · subst hkey
    rw [if_pos rfl]
    exact h value hvalue
  · rw [if_neg hkey]
    exact refl _ value

theorem mapObject {value : Value} {f : Record → Record}
    (h : ∀ r, value = .object r → ChangesOnly change (.object r) (.object (f r))) :
    ChangesOnly change value (value.mapObject f) := by
  cases value with
  | object r => exact h r rfl
  | null | bool _ | number _ | text _ | list _ => exact refl _ _

theorem mapItems {value : Value} {f : Record → Record}
    (h : ∀ index r, value.step? (.item index) = some (.object r) →
      ChangesOnly (change.beyond [.item index]) (.object r) (.object (f r))) :
    ChangesOnly change value (value.mapItems f) := by
  cases value with
  | list items =>
      refine map fun index item hitem => mapObject ?_
      rintro r rfl
      exact h index r hitem
  | null | bool _ | number _ | text _ | object _ => exact refl _ _

end ChangesOnly

end Value

end Blueprint
