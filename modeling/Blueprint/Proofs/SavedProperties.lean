import Blueprint.Proofs.Runs

/-!
# Properties that saving establishes

Some schemas put a record right whenever it is saved. What they put right stays so, as
nothing else is written to the record but references and the records that it holds. So all
records of the kind are right as long as the new ones are.
-/

namespace Blueprint

/-- Saving a record of a top-level kind establishes a property, and nothing else that is done
to the record takes it away. -/
structure Kind.Establishes (top : Kind) (P : Record → Prop) : Prop where
  collection : top.location = .collection
  /-- VPCs are written to when the options are saved. -/
  unwritten : top ≠ .vpc
  /-- What a record holds does not matter. -/
  congr : ∀ {r u : Record},
    (∀ field, top.heldIn? field = none → u.get? field = r.get? field) → P r → P u
  revise : ∀ {r : Record} (judge : Reference → String → Verdict), P r →
    P (r.reviseBy top.schema.references judge)
  saved : ∀ (t : Tree) (stored : Record) {merged : Record} {name : String},
    merged.name? = some name → P (top.schema.saved t stored merged).2

namespace Tree

/-- All records of a top-level kind have a property. -/
def Each (t : Tree) (top : Kind) (P : Record → Prop) : Prop := ∀ r ∈ t.tops top, P r

theorem tops_mapRecords_of_ne (t : Tree) {top other : Kind} (htop : top.parent = none)
    (hother : other.parent = none) (hne : other ≠ top) (f : Record → Record) :
    (t.mapRecords top f).tops other = t.tops other := by
  rw [mapRecords_eq t htop, tops_mapTop _ _ hother]
  simp only [hne, if_false, List.map_id']

/-- What saving a single record does to other records is done to VPCs and single records. -/
theorem tops_prepared (t : Tree) {kind top : Kind} (hsingle : kind.location = .single)
    (hcollection : top.location = .collection) (hvpc : top ≠ .vpc) (fields : Record) :
    (t.prepared kind fields).tops top = t.tops top := by
  have htop := Kind.parent_of_collection hcollection
  have htracker : top ≠ .activityTracker := by
    rintro rfl
    cases hcollection
  have hmove : ∀ (t : Tree) (stored merged : Record),
      (Options.moveLocations t stored merged).tops top = t.tops top := by
    intro t stored merged
    unfold Options.moveLocations
    split
    · split
      · rfl
      · exact t.tops_mapRecords_of_ne rfl htop htracker _
    · rfl
  unfold prepared
  cases kind <;> simp only [Kind.location, reduceCtorEq] at hsingle
  · simp only [Kind.schema, Options.schema, Options.saved, hmove]
    split
    · exact t.tops_mapRecords_of_ne rfl htop hvpc _
    · rfl
  · simp only [Kind.schema, AccountSettings.schema, AccountSettings.saved]
    split <;> rfl
  · rfl

end Tree

namespace Kind.Establishes

variable {top kind : Kind} {P : Record → Prop} {t u : Tree} {parent : Option String}
  {fields : Record} {op : Context}

theorem mapHeld (h : top.Establishes P) {r : Record} (hr : P r)
    (f : Kind → Option String → Record → Record) : P (top.mapHeld f r) :=
  h.congr (fun _ hfield => Kind.get?_mapHeld_of_none hfield f r) hr

theorem reviseAll (h : top.Establishes P) (ht : t.Each top P) (judge : Judge) :
    (t.reviseAll judge).Each top P := by
  rw [Tree.Each, Tree.reviseAll, Tree.mapAll,
    Tree.tops_mapTop _ _ (Kind.parent_of_collection h.collection), List.forall_mem_map]
  exact fun r hr => h.revise _ (h.mapHeld (ht r hr) _)

/-- Records of the kind change where their own list is written, and in what they hold. -/
theorem setItems (h : top.Establishes P) (ht : t.Each top P) {items new : List Value}
    (hitems : t.items? kind parent = some items)
    (hnew : kind = top → ∀ r ∈ new.filterMap Value.object?,
      r ∈ items.filterMap Value.object? ∨ P r) : (t.setItems kind parent new).Each top P := by
  cases Tree.standing_of_items? hitems with
  | top _ htops hset =>
      rw [Tree.Each, hset]
      by_cases hkind : top = kind
      · subst hkind
        rw [if_pos rfl]
        intro r hr
        refine (hnew rfl r hr).elim (fun hold => ?_) id
        rw [← htops] at hold
        exact ht r hold
      · rw [if_neg hkind]
        exact ht
  | @held parentKind field _ _ _ _ holder hlocation hfirst _ hset =>
      rw [Tree.Each, hset]
      by_cases hparent : top = parentKind
      · subst hparent
        rw [if_pos rfl]
        have hholds : ∀ other, top.heldIn? other = none →
            (Record.insert field (.list new) holder).get? other = holder.get? other := by
          intro other hother
          apply Record.get?_insert_of_ne
          rintro rfl
          rw [Kind.heldIn?_of_location hlocation] at hother
          cases hother
        rw [Tree.Each, hfirst.split, List.forall_mem_append, List.forall_mem_cons] at ht
        rw [List.forall_mem_append, List.forall_mem_cons]
        exact ⟨ht.1, h.congr hholds ht.2.1, ht.2.2⟩
      · rw [if_neg hparent]
        exact ht

theorem erase (h : top.Establishes P) (ht : t.Each top P) (kind : Kind) (parent : Option String)
    (name : String) : (t.erase kind parent name).Each top P := by
  refine Tree.erase_preserves (P := fun u => u.Each top P) ht (fun _ _ hitems hrest => ?_)
    (fun _ removed hu => Tree.dropAllReferences_preserves (P := fun u => u.Each top P)
      (fun _ judge hv => h.reviseAll hv judge) hu kind parent removed) name
  exact h.setItems ht hitems fun _ _ hr => .inl ((hrest.filterMap Value.object?).subset hr)

theorem saveSingle (h : top.Establishes P) (ht : t.Each top P)
    (hsingle : kind.location = .single) (fields : Record) :
    (t.saveSingle kind fields).Each top P := by
  have hother : top ≠ kind := by
    rintro rfl
    rw [h.collection] at hsingle
    cases hsingle
  rw [Tree.Each, Tree.saveSingle_eq, Tree.tops_set, if_neg hother,
    Tree.tops_prepared t hsingle h.collection h.unwritten]
  exact ht

theorem saveNamed (h : top.Establishes P) (ht : t.Each top P)
    (hsingle : kind.location ≠ .single) (hu : t.saveNamed kind fields op = .ok u) :
    u.Each top P := by
  obtain ⟨parent, before, stored, after, name, _, _, hmerged, _, hstore⟩ :=
    Tree.saveNamed_eq_ok hsingle hu
  obtain ⟨items, hitems, rfl⟩ := Tree.store_eq_ok hstore
  have hkept : kind = top → P (t.kept kind parent (op.name.getD "")
      ⟨parent, name, (kind.schema.saved t stored (stored.extend fields)).2⟩) := by
    rintro rfl
    unfold Tree.kept
    rw [Tree.linkHeldRecords_eq, Tree.reconcileRecord_eq]
    have hrevised := h.revise (t.dangling kind (Row.of kind parent
      (kind.schema.saved t stored (stored.extend fields)).2)) (h.saved t stored hmerged)
    split
    · exact h.mapHeld hrevised _
    · exact hrevised
  apply Tree.settled_preserves (P := fun u => u.Each top P)
    fun _ judge hv => h.reviseAll hv judge
  refine h.setItems ht hitems fun hkind r hr => ?_
  refine (Tree.mem_records_replaceRecord hr).imp_right ?_
  rintro rfl
  exact hkept hkind

theorem create_iff (h : top.Establishes P) (ht : t.Each top P)
    (hu : t.create kind fields op = .ok u) :
    u.Each top P ↔ (kind = top → P (Draft.recordOf top fields none)) := by
  obtain ⟨draft, items, hdraft, _, hitems, rfl⟩ := Tree.create_eq_ok hu
  obtain ⟨_, hop, hrecord, _⟩ := Draft.ofFields_eq_ok hdraft
  have hnew : kind = top → draft.record = Draft.recordOf top fields none := by
    rintro rfl
    have haddress := Context.addresses_of_addressed hop
    rw [hrecord, haddress.eq_none (Kind.parent_of_collection h.collection)]
  constructor
  · rintro hu rfl
    rw [← hnew rfl]
    apply hu
    rw [Tree.tops_setItems_of_collection h.collection, if_pos rfl, List.filterMap_append]
    exact List.mem_append_right _ List.mem_cons_self
  · intro hrecordOf
    refine h.setItems ht hitems fun hkind r hr => ?_
    rw [List.filterMap_append] at hr
    refine (List.mem_append.mp hr).imp_right fun hlast => ?_
    rw [List.mem_singleton.mp hlast, hnew hkind]
    exact hrecordOf hkind

theorem apply_iff (h : top.Establishes P) (ht : t.Each top P) {call : Call}
    (hu : t.apply call = .ok u) :
    u.Each top P ↔
      ∀ fields op, call = .create top fields op → P (Draft.recordOf top fields none) := by
  cases Tree.accepts_of_apply hu with
  | create hu =>
      rw [h.create_iff ht hu]
      simp
  | saveSingle hsingle fields _ => exact iff_of_true (h.saveSingle ht hsingle fields) (by simp)
  | saveNamed hsingle hu => exact iff_of_true (h.saveNamed ht hsingle hu) (by simp)
  | delete _ => exact iff_of_true (h.erase ht _ _ _) (by simp)
  | reconcile => exact iff_of_true (h.reviseAll ht _) (by simp)

end Kind.Establishes

end Blueprint
