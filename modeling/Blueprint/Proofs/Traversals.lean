import Blueprint.Proofs.FollowedNames

/-!
# Reading and writing the records of a kind

`located` lists the records of a kind, `visit` walks over them and writes. The two are recursions
of their own over the same tree, with lists that may hold other things than records at two levels.
They keep step: whatever a walk writes, it comes to the records that are listed, in their order and
with the names of their parents, what is listed afterwards is what was written, and outside of
these records the tree shows what it showed.
-/

namespace Blueprint

variable {σ : Type}

/-! ## Records with the names of their parents -/

theorem Record.name?_visitField {field : String} (h : field ≠ "name")
    (f : σ → Record → σ × Record) (state : σ) (r : Record) :
    (r.visitField field f state).2.name? = r.name? := by
  rw [visitField_snd, name?_eq, get?_modify, if_neg (Ne.symm h), name?_eq]

/-- A walk over records, as one over records with the names of their parents. -/
def onEntry (f : σ → Option String → Record → σ × Record) (state : σ)
    (entry : Option String × Record) : σ × (Option String × Record) :=
  ((f state entry.1 entry.2).1, (entry.1, (f state entry.1 entry.2).2))

namespace Tree

/-- The records of a kind after a walk are those before it, walked over one by one. -/
theorem entries_visit (t : Tree) (kind : Kind) (f : σ → Option String → Record → σ × Record)
    (state : σ) :
    ((t.visit kind f state).1, (t.visit kind f state).2.entries kind) =
      mapCarrying (onEntry f) state (t.entries kind) := by
  have hentry : ∀ (parent : Option String) (state : σ) (records : List Record),
      let walk := mapCarrying (fun state r => f state parent r) state records
      (walk.1, walk.2.map fun r => (parent, r)) =
        mapCarrying (onEntry f) state (records.map fun r => (parent, r)) := fun parent =>
    mapCarrying_map (fun r => (parent, r)) (fun r => (parent, r)) fun _ _ => rfl
  cases hlocation : kind.location with
  | single =>
      have hread := Record.object?_visitObject (fun state r => f state none r) state kind.tag t.root
      simp only [entries_of_top _ (Kind.parent_of_single hlocation), tops_eq_single _ hlocation,
        single?, visit, hlocation]
      rw [← hentry none, ← hread]
  | collection =>
      have hread := Record.records_visitField (fun state r => f state none r) state kind.tag t.root
      simp only [entries_of_top _ (Kind.parent_of_collection hlocation),
        tops_eq_topLevel _ hlocation, topLevel, visit, hlocation]
      rw [← hentry none, ← hread]
  | nested parent field =>
      have hcollection : parent.location = .collection :=
        Kind.location_of_parent (Kind.parent_eq_some_iff.mpr ⟨field, hlocation⟩)
      -- one holder first: its name is read before the walk and after it
      have hheld : ∀ (state : σ) (holder : Record),
          let walk := holder.visitField field (fun state r => f state holder.name? r) state
          (walk.1, heldBy field walk.2) = mapCarrying (onEntry f) state (heldBy field holder) := by
        intro state holder
        simp only [heldBy, Record.name?_visitField (Kind.holdingField_ne_name hlocation)]
        rw [← hentry holder.name?, ← Record.records_visitField]
      have hread := Record.records_visitField (fun state holder =>
        holder.visitField field (fun state r => f state holder.name? r) state) state parent.tag
        t.root
      simp only [entries_of_nested _ hlocation, tops_eq_topLevel _ hcollection, topLevel, visit,
        hlocation]
      rw [← mapCarrying_flatMap hheld, ← hread]

/-! ## What a walk leaves alone -/

/-- Whether a route leads into a record of a kind, to a part of it. -/
def Inside (t : Tree) (kind : Kind) (route : Route) : Prop :=
  ∃ place r step rest, kind.Stands place ∧ t.part? place = some (.object r) ∧
    route = place ++ step :: rest

end Tree

namespace Value.ChangesOnly

variable {change : Change}

theorem object {first second : Record} (h : ∀ step rest a b, change (step :: rest) a b) :
    ChangesOnly change (.object first) (.object second) := by
  intro route
  cases route with
  | nil => exact .inl rfl
  | cons step rest => exact .inr (h step rest _ _)

theorem visitField {f : σ → Record → σ × Record} {r : Record} {field : String} (state : σ)
    (h : ∀ index held now,
      (Value.object r).part? [.field field, .item index] = some (.object held) →
      ChangesOnly (change.beyond [.field field, .item index]) (.object held)
        (.object (f now held).2)) :
    ChangesOnly change (.object r) (.object (r.visitField field f state).2) := by
  rw [Record.visitField_snd]
  refine .modify fun value hvalue => ?_
  cases value with
  | list items =>
      refine .of_step? ?_ fun step => ?_
      · rw [visitItems, shape, shape, visitRecords_eq_mapCarrying, length_mapCarrying]
      · cases step with
        | field _ => exact .none
        | item index =>
            obtain ⟨now, hnow⟩ := getElem?_visitRecords f state items index
            rw [visitItems, step?_item, step?_item, hnow]
            refine rel_map fun item hitem => .mapObject ?_
            rintro held rfl
            rw [Change.beyond_beyond]
            exact h index held now (by simp [hvalue, hitem])
  | null | bool _ | number _ | text _ | object _ => exact .refl _ _

end Value.ChangesOnly

namespace Tree

/-- A walk changes nothing but parts of the records that it comes to. -/
theorem changesOnly_visit (t : Tree) (kind : Kind) (f : σ → Option String → Record → σ × Record)
    (state : σ) :
    t.ChangesOnly (fun route _ _ => t.Inside kind route) (t.visit kind f state).2 := by
  have hinside : ∀ (place : Route) (r : Record), kind.Stands place →
      t.part? place = some (.object r) → ∀ written : Record,
      Value.ChangesOnly (Change.beyond (fun route _ _ => t.Inside kind route) place) (.object r)
        (.object written) := fun place r hplace hr written =>
    .object fun step rest _ _ => ⟨place, r, step, rest, hplace, hr, rfl⟩
  unfold Kind.Stands part? at hinside
  cases hlocation : kind.location with
  | single =>
      simp only [hlocation] at hinside
      simp only [ChangesOnly, visit, hlocation, Record.visitObject_snd]
      refine .modify fun value hvalue => .mapObject ?_
      rintro r rfl
      exact hinside _ r rfl (by simp [hvalue]) _
  | collection =>
      simp only [hlocation] at hinside
      simp only [ChangesOnly, visit, hlocation]
      exact .visitField state fun index r _ hr => hinside _ r ⟨index, rfl⟩ hr _
  | nested parent field =>
      simp only [hlocation] at hinside
      simp only [ChangesOnly, visit, hlocation]
      -- the walk over a holder starts with what the holders before it left, whatever that is
      refine .visitField state fun holderIndex holder now hholder => ?_
      refine .visitField now fun index r _ hr => ?_
      rw [Change.beyond_beyond]
      refine hinside _ r ⟨holderIndex, index, rfl⟩ ?_ _
      have hpart := Value.part?_append (.object t.root) [.field parent.tag, .item holderIndex]
        [.field field, .item index]
      rw [hholder] at hpart
      exact hpart.trans hr

/-- Notes a record and the name of its parent before it is written to. -/
def noting (write : Option String → Record → Record) (seen : List (Option String × Record))
    (parent : Option String) (r : Record) : List (Option String × Record) × Record :=
  (seen ++ [(parent, r)], write parent r)

theorem mapCarrying_noting (write : Option String → Record → Record)
    (seen entries : List (Option String × Record)) :
    (mapCarrying (onEntry (noting write)) seen entries).1 = seen ++ entries := by
  induction entries generalizing seen with
  | nil => exact (List.append_nil seen).symm
  | cons entry rest ih =>
      rw [mapCarrying]
      exact (ih _).trans (List.append_assoc _ _ _)

/-- Walks and lists of the records of a kind keep step. Whatever it writes, a walk comes to the
listed records in their order and with the names of their parents. A function that is written to
all records is found applied to each of them, in the same order and under the same parents, and so
are the writes of a walk that go by what it came to before. Along every route that does not lead
into one of these records the tree shows what it showed. -/
theorem traversals_coincide (t : Tree) (kind : Kind) :
    (∀ write : Option String → Record → Record,
      (t.visit kind (noting write) []).1 = t.entries kind) ∧
      (∀ f : Record → Record, (t.mapRecords kind f).entries kind =
        (t.entries kind).map fun entry => (entry.1, f entry.2)) ∧
      ∀ {σ : Type} (f : σ → Option String → Record → σ × Record) (state : σ),
        ((t.visit kind f state).1, (t.visit kind f state).2.entries kind) =
            mapCarrying (onEntry f) state (t.entries kind) ∧
          ∀ route, t.shape? route = (t.visit kind f state).2.shape? route ∨
            t.Inside kind route := by
  refine ⟨fun write => ?_, fun f => ?_, fun f state =>
    ⟨t.entries_visit kind f state, t.changesOnly_visit kind f state⟩⟩
  · have hwalk := congrArg Prod.fst (t.entries_visit kind (noting write) [])
    exact hwalk.trans (mapCarrying_noting write [] _)
  · have hwalk := congrArg Prod.snd (t.entries_visit kind (fun _ _ r => ((), f r)) ())
    have hwrite : ∀ (state : Unit) (entry : Option String × Record),
        (onEntry (fun _ _ r => ((), f r)) state entry).2 = (entry.1, f entry.2) := fun _ _ => rfl
    exact hwalk.trans (mapCarrying_snd_of_stateless hwrite () _)

end Tree

end Blueprint
