import Blueprint.Proofs.Routes

/-!
# Where names are followed

The routes along which a rename can change a tree: they lead to a record and from there to a
name at the place of a reference to the renamed kind. Nothing is seen to change along
any other route, and along these one name becomes the other.
-/

namespace Blueprint

/-- Admits that one name becomes another along some routes. -/
def Change.rename (along : Route → Prop) (old new : String) : Change := fun route a b =>
  along route ∧ a = some (.text old) ∧ b = some (.text new)

theorem Change.rename_trans {along : Route → Prop} {old new : String} {route : Route}
    {a b c : Option Shape} (h : rename along old new route a b)
    (h' : rename along old new route b c) : rename along old new route a c :=
  ⟨h.1, h.2.1, h'.2.2⟩

namespace Verdict

/-- Whether a judge takes no name out and replaces no name but one. -/
def Renames (old new : String) (judge : String → Verdict) : Prop :=
  ∀ name, judge name = .keep ∨ name = old ∧ judge name = .replace new

theorem renames_rename (old new : String) : Renames old new (rename old new) := by
  intro name
  by_cases h : name = old
  · exact .inr ⟨h, if_pos h⟩
  · exact .inl (if_neg h)

end Verdict

variable {old new : String} {judge : String → Verdict} {along : Route → Prop}

namespace Value

/-- The verdict on a value keeps it, or replaces the name that it is. -/
theorem verdict_of_renames (h : Verdict.Renames old new judge) (value : Value) :
    value.verdict judge = .keep ∨ value = .text old ∧ value.verdict judge = .replace new := by
  cases value with
  | text name =>
      by_cases hempty : name.isEmpty
      · exact .inl (if_pos hempty)
      · rcases h name with hkeep | ⟨rfl, hreplace⟩
        · exact .inl ((if_neg hempty).trans hkeep)
        · exact .inr ⟨rfl, (if_neg hempty).trans hreplace⟩
  | null | bool _ | number _ | list _ | object _ => exact .inl rfl

theorem changesOnly_text (halong : along []) :
    ChangesOnly (.rename along old new) (.text old) (.text new) := by
  intro route
  cases route with
  | nil => exact .inr ⟨halong, rfl, rfl⟩
  | cons _ _ => exact .inl rfl

theorem changesOnly_reviseName (h : Verdict.Renames old new judge) (halong : along [])
    (value : Value) : ChangesOnly (.rename along old new) value (value.reviseName judge) := by
  rcases value.verdict_of_renames h with hkeep | ⟨rfl, hreplace⟩
  · rw [reviseName, hkeep]
    exact .refl _ value
  · rw [reviseName, hreplace]
    exact changesOnly_text halong

theorem reviseEntry_of_renames (h : Verdict.Renames old new judge) (value : Value) :
    value.reviseEntry judge = some (value.reviseName judge) := by
  rcases value.verdict_of_renames h with hkeep | ⟨_, hreplace⟩
  · rw [reviseEntry, reviseName, hkeep]
  · rw [reviseEntry, reviseName, hreplace]

theorem changesOnly_reviseNames (h : Verdict.Renames old new judge)
    (halong : ∀ index, along [.item index]) (value : Value) :
    ChangesOnly (.rename along old new) value (value.reviseNames judge) := by
  cases value with
  | list items =>
      have hmap : items.filterMap (reviseEntry judge) = items.map (reviseName judge) := by
        rw [← List.filterMap_eq_map]
        exact List.filterMap_congr fun item _ => item.reviseEntry_of_renames h
      rw [reviseNames, hmap]
      exact .map fun index item _ => item.changesOnly_reviseName h (halong index)
  | null | bool _ | number _ | text _ | object _ => exact .refl _ _

theorem reviseFieldEntry_of_renames (h : Verdict.Renames old new judge) (field : String)
    (value : Value) : value.reviseFieldEntry field judge = some value ∨
      ∃ r : Record, value = .object r ∧ r.get? field = some (.text old) ∧
        value.reviseFieldEntry field judge = some (.object (r.insert field (.text new))) := by
  cases value with
  | object r =>
      simp only [reviseFieldEntry, fieldVerdict, object?, Option.bind_some]
      cases hheld : Record.get? r field with
      | none => exact .inl rfl
      | some held =>
          rcases held.verdict_of_renames h with hkeep | ⟨rfl, hreplace⟩
          · simp only [hkeep, true_or]
          · simp only [hreplace]
            exact .inr ⟨r, rfl, hheld, rfl⟩
  | null | bool _ | number _ | text _ | list _ => exact .inl rfl

theorem changesOnly_reviseFieldEntries (h : Verdict.Renames old new judge) {field : String}
    (halong : ∀ index, along [.item index, .field field]) (value : Value) :
    ChangesOnly (.rename along old new) value (value.reviseFieldEntries field judge) := by
  cases value with
  | list entries =>
      have hmap : entries.filterMap (reviseFieldEntry field judge) =
          entries.map fun entry => (entry.reviseFieldEntry field judge).getD entry := by
        rw [← List.filterMap_eq_map]
        refine List.filterMap_congr fun entry _ => ?_
        rcases entry.reviseFieldEntry_of_renames h field with hkeep | ⟨r, _, _, hreplace⟩
        · rw [Function.comp_apply, hkeep, Option.getD_some]
        · rw [Function.comp_apply, hreplace, Option.getD_some]
      rw [reviseFieldEntries, hmap]
      refine .map fun index entry _ => ?_
      rcases entry.reviseFieldEntry_of_renames h field with hkeep | ⟨r, rfl, hheld, hreplace⟩
      · rw [hkeep, Option.getD_some]
        exact .refl _ entry
      · rw [hreplace, Option.getD_some]
        exact .insert hheld (changesOnly_text (halong index))
  | null | bool _ | number _ | text _ | object _ => exact .refl _ _

end Value

/-! ## References -/

/-- Whether a route leads from a value to a name that it holds. -/
def Arity.Leads : Arity → Route → Prop
  | one, route => route = []
  | many, route => ∃ index, route = [.item index]

theorem Arity.changesOnly_revise (h : Verdict.Renames old new judge) (arity : Arity)
    (halong : ∀ route, arity.Leads route → along route) (value : Value) :
    value.ChangesOnly (.rename along old new) (arity.revise judge value) := by
  cases arity with
  | one => exact value.changesOnly_reviseName h (halong [] rfl)
  | many => exact value.changesOnly_reviseNames h fun index => halong _ ⟨index, rfl⟩

namespace Reference

/-- Whether a route leads from the field that a reference starts from to a name at its
place. -/
def LeadsOn (reference : Reference) (route : Route) : Prop :=
  match reference.path with
  | .field _ => reference.arity.Leads route
  | .inside _ name => ∃ rest, reference.arity.Leads rest ∧ route = .field name :: rest
  | .each _ name => ∃ index, route = [.item index, .field name]

/-- Whether a route leads from a record to a name at the place of a reference. -/
def Leads (reference : Reference) (route : Route) : Prop :=
  ∃ rest, reference.LeadsOn rest ∧ route = .field reference.path.root :: rest

theorem changesOnly_reviseAt (h : Verdict.Renames old new judge) (reference : Reference)
    (halong : ∀ route, reference.LeadsOn route → along route) (value : Value) :
    value.ChangesOnly (.rename along old new) (reference.reviseAt judge value) := by
  unfold LeadsOn at halong
  unfold reviseAt
  cases hpath : reference.path with
  | field _ =>
      rw [hpath] at halong
      exact reference.arity.changesOnly_revise h halong value
  | inside _ name =>
      rw [hpath] at halong
      refine .mapObject fun r _ => .modify fun held _ => ?_
      exact reference.arity.changesOnly_revise h
        (fun rest hrest => halong _ ⟨rest, hrest, rfl⟩) held
  | each _ name =>
      rw [hpath] at halong
      exact value.changesOnly_reviseFieldEntries h fun index => halong _ ⟨index, rfl⟩

end Reference

theorem Record.changesOnly_reviseBy {references : List Reference}
    {judge : Reference → String → Verdict}
    (h : ∀ reference ∈ references, (judge reference = fun _ => .keep) ∨
      Verdict.Renames old new (judge reference) ∧ ∀ route, reference.Leads route → along route)
    (r : Record) :
    Value.ChangesOnly (.rename along old new) (.object r)
      (.object (r.reviseBy references judge)) := by
  refine .mapValues fun key value _ => ?_
  cases hfind : references.find? fun reference => reference.path.root = key with
  | none => exact .refl _ value
  | some reference =>
      obtain rfl : reference.path.root = key := by simpa using List.find?_some hfind
      rcases h reference (List.mem_of_find?_eq_some hfind) with hkeep | ⟨hrenames, halong⟩
      · simp only [hkeep, Reference.reviseAt_keep]
        exact .refl _ value
      · exact reference.changesOnly_reviseAt hrenames
          (fun rest hrest => halong _ ⟨rest, hrest, rfl⟩) value

/-! ## Trees -/

namespace Kind

/-- Whether a route leads from a tree to the place of a record of a kind. -/
def Stands (kind : Kind) (place : Route) : Prop :=
  match kind.location with
  | .single => place = [.field kind.tag]
  | .collection => ∃ index, place = [.field kind.tag, .item index]
  | .nested parent field =>
      ∃ holder index, place = [.field parent.tag, .item holder, .field field, .item index]

/-- Whether a route leads from a tree to a name at the place of a reference to a kind. -/
def Mentioned (target : Kind) (route : Route) : Prop :=
  ∃ (kind : Kind) (reference : Reference) (place rest : Route),
    reference ∈ kind.schema.references ∧ reference.target = target ∧ kind.Stands place ∧
      reference.Leads rest ∧ route = place ++ rest

end Kind

namespace Tree

/-- The part of a tree that a route leads to. -/
def part? (t : Tree) (route : Route) : Option Value := (Value.object t.root).part? route

/-- The shape of the part of a tree that a route leads to. -/
def shape? (t : Tree) (route : Route) : Option Shape := (Value.object t.root).shape? route

/-- Along every route two trees show the same, or the change is admitted. -/
def ChangesOnly (change : Change) (t u : Tree) : Prop :=
  Value.ChangesOnly change (.object t.root) (.object u.root)

end Tree

section

variable {change : Change}

theorem Kind.changesOnly_mapHeld {kind : Kind} {f : Kind → Option String → Record → Record}
    {r : Record}
    (h : ∀ (child : Kind) (field : String) (index : Nat) (held : Record),
      child.location = .nested kind field →
      (Value.object r).part? [.field field, .item index] = some (.object held) →
      Value.ChangesOnly (change.beyond [.field field, .item index]) (.object held)
        (.object (f child r.name? held))) :
    Value.ChangesOnly change (.object r) (.object (kind.mapHeld f r)) := by
  refine .mapValues fun key value hvalue => ?_
  cases hchild : kind.heldIn? key with
  | none => exact .refl _ value
  | some child =>
      refine .mapItems fun index held hheld => ?_
      rw [Change.beyond_beyond]
      exact h child key index held (location_of_heldIn? hchild) (by simp [hvalue, hheld])

namespace Tree

variable {t : Tree}

theorem changesOnly_mapTop {f : Kind → Record → Record}
    (h : ∀ kind : Kind, kind.parent = none → ∀ (place : Route) (r : Record), kind.Stands place →
      t.part? place = some (.object r) →
      Value.ChangesOnly (change.beyond place) (.object r) (.object (f kind r))) :
    t.ChangesOnly change (t.mapTop f) := by
  refine .mapValues fun key value hvalue => ?_
  cases htop : Kind.topOf? key with
  | none => exact .refl _ value
  | some kind =>
      obtain ⟨rfl, hparent⟩ := Kind.eq_tag_of_topOf? htop
      have hplace := h kind hparent
      unfold Kind.Stands part? at hplace
      simp only [Value.mapPlaced]
      cases hlocation : kind.location with
      | single =>
          simp only [hlocation] at hplace
          refine .mapObject ?_
          rintro r rfl
          exact hplace _ r rfl (by simp [hvalue])
      | collection =>
          simp only [hlocation] at hplace
          refine .mapItems fun index r hr => ?_
          rw [Change.beyond_beyond]
          exact hplace _ r ⟨index, rfl⟩ (by simp [hvalue, hr])
      | nested parent field => simp [Kind.parent, hlocation] at hparent

/-- A revision that keeps names or replaces one by another changes nothing else. -/
theorem changesOnly_reviseAll {judge : Judge}
    (h : ∀ kind row (place : Route), kind.Stands place → ∀ reference ∈ kind.schema.references,
      (judge kind row reference = fun _ => .keep) ∨
        Verdict.Renames old new (judge kind row reference) ∧
          ∀ rest, reference.Leads rest → along (place ++ rest)) :
    t.ChangesOnly (.rename along old new) (t.reviseAll judge) := by
  refine changesOnly_mapTop fun kind hparent place r hplace hr => ?_
  refine .trans (fun _ _ _ _ => Change.rename_trans) (Kind.changesOnly_mapHeld ?_)
    (Record.changesOnly_reviseBy (h kind _ place hplace) _)
  intro child field index held hlocation hheld
  have hcollection := Kind.location_of_parent (Kind.parent_eq_some_iff.mpr ⟨field, hlocation⟩)
  have hstands : child.Stands (place ++ [.field field, .item index]) := by
    unfold Kind.Stands at hplace ⊢
    rw [hcollection] at hplace
    obtain ⟨holder, rfl⟩ := hplace
    rw [hlocation]
    exact ⟨holder, index, rfl⟩
  rw [Change.beyond_beyond]
  exact Record.changesOnly_reviseBy (h child _ _ hstands) held

/-- Following a new name changes names at the places of references to the kind, from the old
name to the new one. -/
theorem changesOnly_renameReferences (t : Tree) (kind : Kind) (parent : Option String)
    (old new : String) :
    t.ChangesOnly (.rename kind.Mentioned old new) (t.renameReferences kind parent old new).2 := by
  rw [renameReferences, reviseReferences_eq]
  refine changesOnly_reviseAll fun holder row place hplace reference hmem => ?_
  by_cases htarget : reference.target = kind
  · refine .inr ⟨fun name => ?_, fun rest hrest =>
      ⟨holder, reference, place, rest, hmem, htarget, hplace, hrest, rfl⟩⟩
    unfold Judge.following
    split
    · exact Verdict.renames_rename old new name
    · exact .inl rfl
  · exact .inl (Judge.following_of_ne htarget _ _ _ _ _)

end Tree

end

end Blueprint
