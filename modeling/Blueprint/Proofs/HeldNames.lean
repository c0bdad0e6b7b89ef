import Blueprint.Proofs.Consistency
import Blueprint.Proofs.StoredFields

/-!
# Names of held records

A record that is created or saved must have a name that its siblings do not have. The
records that it brings along in its own fields are stored as they are given. So every record
has a name of its own among its siblings throughout a run exactly if that is so of all
records that are brought along.
-/

namespace Blueprint

/-! ## Records with names of their own -/

/-- Every record has a name, and no two records have the same. -/
def NamedApart (records : List Record) : Prop :=
  (records.filterMap Record.name?).Nodup ∧ ∀ r ∈ records, r.name?.isSome

instance (records : List Record) : Decidable (NamedApart records) :=
  inferInstanceAs (Decidable (_ ∧ _))

theorem NamedApart.nil : NamedApart [] := ⟨List.nodup_nil, by simp⟩

theorem NamedApart.congr {first second : List Record}
    (h : first.map Record.name? = second.map Record.name?) :
    NamedApart first ↔ NamedApart second := by
  have hnames : ∀ records : List Record,
      records.filterMap Record.name? = (records.map Record.name?).filterMap id := by
    simp [List.filterMap_map]
  have hnamed : ∀ records : List Record,
      (∀ r ∈ records, r.name?.isSome) ↔ ∀ name ∈ records.map Record.name?, name.isSome := by
    simp
  rw [NamedApart, NamedApart, hnames, hnames second, hnamed, hnamed second, h]

theorem NamedApart.sublist {first second : List Record} (h : NamedApart second)
    (hsub : first.Sublist second) : NamedApart first :=
  ⟨h.1.sublist (hsub.filterMap _), fun r hr => h.2 r (hsub.subset hr)⟩

theorem forall_mem_middle {α : Type} {P : α → Prop} {before after : List α} {a : α} :
    (∀ x ∈ before ++ a :: after, P x) ↔ P a ∧ ∀ x ∈ before ++ after, P x := by
  rw [List.forall_mem_append, List.forall_mem_cons, List.forall_mem_append, and_left_comm]

/-- One of the records has a name that the others do not have. -/
theorem namedApart_middle_iff {before after : List Record} {r : Record} :
    NamedApart (before ++ r :: after) ↔
      (∃ name, r.name? = some name ∧ ∀ other ∈ before ++ after, other.name? ≠ some name) ∧
        NamedApart (before ++ after) := by
  cases hname : r.name? with
  | none => exact iff_of_false (fun h => by simpa [hname] using h.2 r (by simp)) (by simp)
  | some name =>
      have hnodup : ((before ++ r :: after).filterMap Record.name?).Nodup ↔
          (∀ other ∈ before ++ after, other.name? ≠ some name) ∧
            ((before ++ after).filterMap Record.name?).Nodup := by
        rw [List.filterMap_append, List.filterMap_cons_some hname, List.nodup_middle,
          List.nodup_cons, ← List.filterMap_append, List.mem_filterMap]
        simp
      simp only [NamedApart, hnodup, forall_mem_middle, hname, Option.isSome_some, true_and,
        Option.some.injEq, exists_eq_left', and_assoc]

namespace Kind

variable {kind : Kind} {r base fields : Record}

/-- The records that a record holds in one field have names of their own. -/
def HoldsApart (kind : Kind) (r : Record) : Prop :=
  ∀ (child : Kind) (field : String), child.location = .nested kind field →
    NamedApart (r.records field)

theorem HoldsApart.congr {first second : Record}
    (h : ∀ (child : Kind) (field : String), child.location = .nested kind field →
      (first.records field).map Record.name? = (second.records field).map Record.name?) :
    kind.HoldsApart first ↔ kind.HoldsApart second :=
  forall₃_congr fun child field hlocation => NamedApart.congr (h child field hlocation)

theorem holdsApart_of_not_collection (h : kind.location ≠ .collection) (r : Record) :
    kind.HoldsApart r := fun child field hlocation =>
  absurd (parent_eq_some_iff.mpr ⟨field, hlocation⟩) (parent_ne_of_not_collection h child)

theorem HoldsApart.insert (h : kind.HoldsApart r) {field : String} {new : List Value}
    (hnew : NamedApart (new.filterMap Value.object?)) :
    kind.HoldsApart (r.insert field (.list new)) := by
  intro child other hlocation
  by_cases hfield : other = field
  · rwa [hfield, Record.records_eq, Record.get?_insert_self]
  · rw [Record.records_eq, Record.get?_insert_of_ne _ _ hfield, ← Record.records_eq]
    exact h child other hlocation

/-- Whether the records that are brought along for a record have names of their own. -/
def bringsApart (kind : Kind) (fields : Record) : Bool :=
  kind.children.all fun child => child.holdingField.all fun field =>
    NamedApart ((Record.ofFields fields).records field)

theorem bringsApart_iff : kind.bringsApart fields = true ↔
    ∀ (child : Kind) (field : String), child.location = .nested kind field →
      ((Record.ofFields fields).get? field).isSome →
        NamedApart ((Record.ofFields fields).records field) := by
  simp only [bringsApart, List.all_eq_true, mem_children, parent_eq_some_iff, Option.all_eq_true,
    decide_eq_true_eq]
  constructor
  · intro h child field hlocation _
    exact h child ⟨field, hlocation⟩ field (by simp [holdingField, hlocation])
  · rintro h child ⟨field, hlocation⟩ _ hfield
    obtain rfl : field = _ := by simpa [holdingField, hlocation] using hfield
    cases hvalue : (Record.ofFields fields).get? field with
    | none =>
        rw [Record.records_eq, hvalue]
        exact .nil
    | some value => exact h child field hlocation (by rw [hvalue]; rfl)

theorem records_extend (base fields : Record) (field : String) :
    (base.extend fields).records field =
      if ((Record.ofFields fields).get? field).isSome then (Record.ofFields fields).records field
      else base.records field := by
  rw [Record.records_eq, Record.records_eq, Record.records_eq, Record.get?_extend_ofFields]
  cases (Record.ofFields fields).get? field <;> rfl

/-- The records that a record holds in the given fields have names of their own. -/
def HoldsGivenApart (kind : Kind) (fields r : Record) : Prop :=
  ∀ (child : Kind) (field : String), child.location = .nested kind field →
    ((Record.ofFields fields).get? field).isSome → NamedApart (r.records field)

theorem holdsGivenApart_iff (h : ∀ (child : Kind) (field : String),
      child.location = .nested kind field →
        (r.records field).map Record.name? =
          ((base.extend fields).records field).map Record.name?) :
    kind.HoldsGivenApart fields r ↔ kind.bringsApart fields = true := by
  rw [bringsApart_iff]
  refine forall₄_congr fun child field hlocation hgiven => ?_
  rw [NamedApart.congr (h child field hlocation), records_extend, if_pos hgiven]

theorem bringsApart_of_not_collection (h : kind.location ≠ .collection) (fields : Record) :
    kind.bringsApart fields = true :=
  bringsApart_iff.mpr fun child field hlocation =>
    absurd (parent_eq_some_iff.mpr ⟨field, hlocation⟩) (parent_ne_of_not_collection h child)

theorem holdsApart_extend_iff (h : kind.HoldsApart base) :
    kind.HoldsApart (base.extend fields) ↔ kind.bringsApart fields = true := by
  rw [bringsApart_iff]
  refine forall₃_congr fun child field hlocation => ?_
  rw [records_extend]
  split
  · next hgiven => simp [hgiven]
  · next hnone => simp [hnone, h child field hlocation]

theorem holdsApart_defaultRecord (kind : Kind) : kind.HoldsApart kind.schema.defaultRecord := by
  intro child field hlocation
  rw [Tree.records_of_itemsIn? (itemsIn?_defaultRecord hlocation)]
  exact .nil

end Kind

namespace Draft

variable {kind : Kind} {fields : Record} {parent : Option String}

theorem records_recordOf {child : Kind} {field : String}
    (hlocation : child.location = .nested kind field) :
    (recordOf kind fields parent).records field =
      (kind.schema.defaultRecord.extend fields).records field := by
  rw [Record.records_eq, (recordOf_agrees kind fields parent).held child field hlocation,
    ← Record.records_eq]

theorem holdsApart_recordOf_iff :
    kind.HoldsApart (recordOf kind fields parent) ↔ kind.bringsApart fields = true := by
  rw [← Kind.holdsApart_extend_iff kind.holdsApart_defaultRecord]
  exact Kind.HoldsApart.congr fun child field hlocation => by rw [records_recordOf hlocation]

end Draft

namespace Tree

variable {t u : Tree} {kind : Kind} {parent : Option String} {fields : Record} {op : Context}

/-- All records have names of their own, at the top level and where they are held. -/
def NamesApart (t : Tree) : Prop :=
  ∀ kind : Kind, kind.location = .collection →
    NamedApart (t.tops kind) ∧ ∀ r ∈ t.tops kind, kind.HoldsApart r

theorem collection_of_holder (hapart : NamedApart (t.tops kind)) {child : Kind} {field : String}
    (hlocation : child.location = .nested kind field) {holder : Record}
    (hholder : holder ∈ t.tops kind) {name : String} (hname : holder.name? = some name) :
    t.collection child (some name) = holder.records field := by
  obtain ⟨before, after, hsplit⟩ := List.append_of_mem hholder
  rw [hsplit] at hapart
  obtain ⟨⟨other, hother, hfree⟩, _⟩ := namedApart_middle_iff.mp hapart
  obtain rfl := Option.some.inj (hother.symm.trans hname)
  have hbefore : ∀ r ∈ before, r.name? ≠ some other := fun r hr =>
    hfree r (List.mem_append_left _ hr)
  have hafter : ∀ r ∈ after, r.name? ≠ some other := fun r hr =>
    hfree r (List.mem_append_right _ hr)
  rw [collection_of_nested t hlocation, hsplit, heldUnder_append, heldUnder_cons, if_pos hname,
    heldUnder_eq_nil hbefore, heldUnder_eq_nil hafter, List.nil_append, List.append_nil]

theorem keyed_iff : t.Keyed ↔ t.NamesApart := by
  have hlists : t.Keyed ↔ ∀ (kind : Kind) (parent : Option String), kind.location ≠ .single →
      kind.Addresses parent → NamedApart (t.collection kind parent) := by
    simp only [Keyed, NamedApart, names, Option.isSome_iff_exists]
  rw [hlists]
  constructor
  · intro h kind hcollection
    have htop := Kind.parent_of_collection hcollection
    have hapart := h kind none (by simp [hcollection]) (Kind.addresses_none htop)
    rw [collection_of_top t htop] at hapart
    refine ⟨hapart, fun holder hholder child field hlocation => ?_⟩
    have hparent := Kind.parent_eq_some_iff.mpr ⟨field, hlocation⟩
    obtain ⟨name, hname⟩ := Option.isSome_iff_exists.mp (hapart.2 holder hholder)
    rw [← collection_of_holder hapart hlocation hholder hname]
    exact h child (some name) (by simp [hlocation]) (by simp [Kind.Addresses, hparent])
  · intro h kind parent hsingle haddress
    cases hlocation : kind.location with
    | single => exact absurd hlocation hsingle
    | collection =>
        have htop := Kind.parent_of_collection hlocation
        obtain rfl := haddress.eq_none htop
        rw [collection_of_top t htop]
        exact (h kind hlocation).1
    | nested parentKind field =>
        have hparent := Kind.parent_eq_some_iff.mpr ⟨field, hlocation⟩
        obtain ⟨hapart, hheld⟩ := h parentKind (Kind.location_of_parent hparent)
        obtain ⟨name, rfl⟩ := haddress.eq_some hparent
        -- No holder may have the name; then nothing is found under it.
        by_cases hnone : ∀ holder ∈ t.tops parentKind, holder.name? ≠ some name
        · rw [collection_of_nested t hlocation, heldUnder_eq_nil hnone]
          exact .nil
        · obtain ⟨holder, hholder, hname⟩ :
              ∃ holder ∈ t.tops parentKind, holder.name? = some name := by simpa using hnone
          rw [collection_of_holder hapart hlocation hholder hname]
          exact hheld holder hholder kind field hlocation

/-! ## What does not touch names -/

theorem Retains.exists_tops (h : t.Retains u kind) (htop : kind.parent = none) :
    ∃ g : Record → Record, (∀ r, kind.Keeps (g r) r) ∧ u.tops kind = (t.tops kind).map g := by
  obtain ⟨g, hg, hentries⟩ := h
  rw [entries_of_top u htop, entries_of_top t htop, List.map_map] at hentries
  refine ⟨g none, hg none, ?_⟩
  have hsecond := congrArg (List.map Prod.snd) hentries
  simpa [Function.comp_def] using hsecond

theorem namesApart_congr (h : ∀ kind, t.Retains u kind) : u.NamesApart ↔ t.NamesApart := by
  refine forall₂_congr fun kind hcollection => ?_
  obtain ⟨g, hg, htops⟩ := (h kind).exists_tops (Kind.parent_of_collection hcollection)
  rw [htops, List.forall_mem_map]
  refine and_congr (NamedApart.congr ?_)
    (forall₂_congr fun r _ => Kind.HoldsApart.congr (hg r).held)
  rw [List.map_map]
  exact List.map_congr_left fun r _ => (hg r).name?_eq

theorem namesApart_reviseAll (t : Tree) (judge : Judge) :
    (t.reviseAll judge).NamesApart ↔ t.NamesApart :=
  namesApart_congr fun kind => (Retains.refl t kind).reviseAll judge

theorem namesApart_settled (t : Tree) (kind : Kind) (parent : Option String) (old name : String) :
    (t.settled kind parent old name).NamesApart ↔ t.NamesApart :=
  namesApart_congr fun other => (Retains.refl t other).settled kind parent old name

theorem namesApart_dropAllReferences (t : Tree) (kind : Kind) (parent : Option String)
    (removed : Record) :
    (t.dropAllReferences kind parent removed).2.NamesApart ↔ t.NamesApart :=
  namesApart_congr fun other => (Retains.refl t other).dropAllReferences kind parent removed

theorem NamesApart.saveSingle (h : t.NamesApart) (hsingle : kind.location = .single)
    (fields : Record) : (t.saveSingle kind fields).NamesApart := by
  intro other hcollection
  have hother : other ≠ kind := by
    rintro rfl
    simp [hsingle] at hcollection
  obtain ⟨f, hf, hprepared⟩ := t.quiet_prepared kind fields
  obtain ⟨hapart, hheld⟩ := h other hcollection
  rw [saveSingle_eq, tops_set, if_neg hother, hprepared,
    tops_mapTop _ _ (Kind.parent_of_collection hcollection), List.forall_mem_map]
  refine ⟨(NamedApart.congr ?_).mpr hapart, fun r hr => (Kind.HoldsApart.congr ?_).mpr (hheld r hr)⟩
  · rw [List.map_map]
    exact List.map_congr_left fun r _ => (hf other r).name?_eq
  · intro child field hlocation
    rw [Record.records_eq, (hf other r).held child field hlocation, ← Record.records_eq]

/-! ## Writing lists -/

theorem NamesApart.items (h : t.NamesApart) {items : List Value}
    (hitems : t.items? kind parent = some items) :
    NamedApart (items.filterMap Value.object?) ∧
      ∀ r ∈ items.filterMap Value.object?, kind.HoldsApart r := by
  cases standing_of_items? hitems with
  | top hlocation htops _ =>
      rw [← htops]
      exact h kind hlocation
  | @held parentKind field _ _ _ _ holder hlocation hfirst hholder _ =>
      have hparent := Kind.parent_eq_some_iff.mpr ⟨field, hlocation⟩
      have hheld := (h parentKind (Kind.location_of_parent hparent)).2 holder hfirst.mem
      rw [← records_of_itemsIn? hholder]
      exact ⟨hheld kind field hlocation,
        fun r _ => Kind.holdsApart_of_not_collection (by simp [hlocation]) r⟩

/-- A list may be written exactly if its records have names of their own and so have the
records that these hold. -/
theorem namesApart_setItems_iff (h : t.NamesApart) {items new : List Value}
    (hitems : t.items? kind parent = some items) :
    (t.setItems kind parent new).NamesApart ↔
      NamedApart (new.filterMap Value.object?) ∧
        ∀ r ∈ new.filterMap Value.object?, kind.HoldsApart r := by
  cases standing_of_items? hitems with
  | top hlocation _ hset =>
      constructor
      · intro hwritten
        have hown := hwritten kind hlocation
        rwa [hset, if_pos rfl] at hown
      · intro hnew other hother
        rw [hset]
        by_cases hsame : other = kind
        · rwa [if_pos hsame, hsame]
        · rw [if_neg hsame]
          exact h other hother
  | @held parentKind field _ _ before after holder hlocation hfirst _ hset =>
      have hcollection : parentKind.location = .collection :=
        Kind.location_of_parent (Kind.parent_eq_some_iff.mpr ⟨field, hlocation⟩)
      constructor
      · intro hwritten
        have hheld := (hwritten parentKind hcollection).2 (holder.insert field (.list new)) (by
          rw [hset, if_pos rfl]
          simp) kind field hlocation
        rw [Record.records_eq, Record.get?_insert_self] at hheld
        exact ⟨hheld, fun r _ => Kind.holdsApart_of_not_collection (by simp [hlocation]) r⟩
      · rintro ⟨hnew, _⟩ other hother
        rw [hset]
        -- Only one holder changes, and it keeps its name.
        by_cases hsame : other = parentKind
        · obtain ⟨hapart, hheld⟩ := h other hother
          subst hsame
          rw [hfirst.split] at hapart hheld
          rw [forall_mem_middle] at hheld
          rw [if_pos rfl, forall_mem_middle]
          refine ⟨(NamedApart.congr ?_).mpr hapart, hheld.1.insert hnew, hheld.2⟩
          simp [Record.name?_insert_of_ne _ _ (Kind.holdingField_ne_name hlocation)]
        · rw [if_neg hsame]
          exact h other hother

theorem namesApart_setItems_middle_iff (h : t.NamesApart) {items new : List Value}
    (hitems : t.items? kind parent = some items) {before after : List Record} {r : Record}
    {name : String} (hnew : new.filterMap Value.object? = before ++ r :: after)
    (hrest : NamedApart (before ++ after) ∧ ∀ other ∈ before ++ after, kind.HoldsApart other)
    (hname : r.name? = some name) (hfree : ∀ other ∈ before ++ after, other.name? ≠ some name) :
    (t.setItems kind parent new).NamesApart ↔ kind.HoldsApart r := by
  rw [namesApart_setItems_iff h hitems, hnew, namedApart_middle_iff, forall_mem_middle]
  exact ⟨fun hwritten => hwritten.2.1, fun hr => ⟨⟨⟨name, hname, hfree⟩, hrest.1⟩, hr, hrest.2⟩⟩

/-! ## What calls do to names -/

theorem namesApart_create_iff (h : t.NamesApart) (hu : t.create kind fields op = .ok u) :
    u.NamesApart ↔ kind.bringsApart fields = true := by
  obtain ⟨draft, items, hdraft, happend, hitems, rfl⟩ := create_eq_ok hu
  obtain ⟨_, hop, hrecord, hname⟩ := Draft.ofFields_eq_ok hdraft
  have hfree := name?_ne_of_not_mem (Context.addresses_of_addressed hop) hitems
    (append_eq_ok happend).1
  have hnew : (items ++ [Value.object draft.record]).filterMap Value.object? =
      items.filterMap Value.object? ++ draft.record :: [] := List.filterMap_append
  rw [namesApart_setItems_middle_iff h hitems hnew (by simpa using h.items hitems) hname
    (by simpa using hfree), hrecord, Draft.holdsApart_recordOf_iff]

theorem namesApart_saveNamed_iff (h : t.NamesApart) (hsingle : kind.location ≠ .single)
    (hu : t.saveNamed kind fields op = .ok u) :
    u.NamesApart ↔ kind.bringsApart fields = true := by
  obtain ⟨parent, before, stored, after, name, hop, hfirst, hmerged, hfree, hstore⟩ :=
    saveNamed_eq_ok hsingle hu
  obtain ⟨items, hitems, rfl⟩ := store_eq_ok hstore
  have haddress := Context.addresses_of_addressed hop
  -- Where names are unique, the record that was found is the one that is replaced.
  have hheld : t.HeldFirst kind parent (op.name.getD "") :=
    heldFirst_of_nodup haddress (fun _ hparent => (keyed_iff.mpr h).nodup_holders hparent) hsingle
      (List.mem_filterMap.mpr ⟨stored, hfirst.mem, hfirst.named⟩)
  obtain ⟨later, hlist⟩ := hheld.exists_firstNamed haddress hitems hfirst
  obtain ⟨hapart, hstored⟩ := h.items hitems
  rw [hlist.split, namedApart_middle_iff] at hapart
  rw [hlist.split, forall_mem_middle] at hstored
  obtain ⟨⟨old, hold, hothers⟩, hrest⟩ := hapart
  obtain rfl := Option.some.inj (hlist.named.symm.trans hold)
  have hkeeps := t.keeps_kept_saved hsingle parent (op.name.getD "") name stored
    (stored.extend fields)
  have hnew : ∀ other ∈ before ++ later, other.name? ≠ some name := by
    by_cases hsame : name = op.name.getD ""
    · rwa [hsame]
    · have hitemsFree := name?_ne_of_not_mem haddress hitems fun hmem => hfree ⟨hsame, hmem⟩
      rw [hlist.split, forall_mem_middle] at hitemsFree
      exact hitemsFree.2
  rw [namesApart_settled, namesApart_setItems_middle_iff h hitems
    (records_replaceRecord _ hlist.split) ⟨hrest, hstored.2⟩ (hkeeps.name?_eq.trans hmerged) hnew,
    Kind.HoldsApart.congr hkeeps.held, Kind.holdsApart_extend_iff hstored.1]

theorem NamesApart.erase (h : t.NamesApart) (kind : Kind) (parent : Option String)
    (name : String) : (t.erase kind parent name).NamesApart := by
  refine erase_preserves h (fun items rest hitems hsublist => ?_)
    (fun u removed => (u.namesApart_dropAllReferences kind parent removed).mpr) name
  have hrest := hsublist.filterMap Value.object?
  obtain ⟨hapart, hheld⟩ := h.items hitems
  rw [namesApart_setItems_iff h hitems]
  exact ⟨hapart.sublist hrest, fun r hr => hheld r (hrest.subset hr)⟩

end Tree

namespace Call

/-- Whether the records that a call brings along have names of their own. -/
def bringsApart : Call → Bool
  | .create kind fields _ | .save kind fields _ => kind.bringsApart fields
  | .delete _ _ | .reconcile => true

/-- The name under which a call stores its record. -/
def newName? : Call → Option String
  | .create _ fields _ => fields.givenName.bind Value.text?
  | .save _ fields op => Catalog.nameAfter (op.name.getD "") fields
  | .delete _ _ | .reconcile => none

end Call

namespace Tree

variable {t u : Tree} {kind : Kind} {fields : Record} {op : Context} {call : Call}

/-- Only records that are brought along can fail to have names of their own. -/
theorem namesApart_apply_iff (h : t.NamesApart) (hu : t.apply call = .ok u) :
    u.NamesApart ↔ call.bringsApart = true := by
  cases accepts_of_apply hu with
  | create hu => exact namesApart_create_iff h hu
  | saveSingle hsingle fields _ =>
      exact iff_of_true (h.saveSingle hsingle fields)
        (Kind.bringsApart_of_not_collection (by simp [hsingle]) fields)
  | saveNamed hsingle hu => exact namesApart_saveNamed_iff h hsingle hu
  | delete _ => exact iff_of_true (h.erase _ _ _) rfl
  | reconcile => exact iff_of_true ((t.namesApart_reviseAll _).mpr h) rfl

theorem find?_of_create (hu : t.create kind fields op = .ok u) :
    ∃ draft, Draft.ofFields kind fields op = .ok draft ∧
      u.find? kind draft.parent draft.name = some draft.record := by
  obtain ⟨draft, items, hdraft, happend, hitems, rfl⟩ := create_eq_ok hu
  obtain ⟨_, hop, _, hname⟩ := Draft.ofFields_eq_ok hdraft
  obtain ⟨rest, _, hset⟩ := exists_rest (Context.addresses_of_addressed hop) hitems
  have hfirst : FirstNamed draft.name (items.filterMap Value.object? ++ [draft.record])
      (items.filterMap Value.object?) draft.record [] :=
    ⟨rfl, hname, name?_ne_of_not_mem (Context.addresses_of_addressed hop) hitems
      (append_eq_ok happend).1⟩
  refine ⟨draft, hdraft, ?_⟩
  rw [Tree.find?, hset, List.filterMap_append]
  exact (hfirst.append rest).find?

theorem exists_stored (hcollection : kind.location = .collection)
    (hcall : call = .create kind fields op ∨ call = .save kind fields op)
    (hu : t.apply call = .ok u) :
    ∃ name r, call.newName? = some name ∧ u.find? kind none name = some r ∧
      (kind.HoldsGivenApart fields r ↔ call.bringsApart = true) := by
  have hsingle : kind.location ≠ .single := by simp [hcollection]
  have hop : op.addressed kind = .ok none := by simp [Context.addressed, hcollection]
  rcases hcall with rfl | rfl
  · obtain ⟨draft, hdraft, hfind⟩ := find?_of_create hu
    obtain ⟨_, haddressed, hrecord, hname⟩ := Draft.ofFields_eq_ok hdraft
    rw [hop] at haddressed
    rw [← Except.ok.inj haddressed] at hfind
    rw [hrecord, Draft.name?_recordOf] at hname
    refine ⟨draft.name, draft.record, hname, hfind, ?_⟩
    rw [hrecord]
    exact Kind.holdsGivenApart_iff fun child field hlocation => by
      rw [Draft.records_recordOf hlocation]
  · simp only [Tree.apply, Tree.save, if_neg hsingle] at hu
    obtain ⟨parent, _, stored, _, _, haddressed, hfirst, _⟩ := saveNamed_eq_ok hsingle hu
    obtain rfl := Except.ok.inj (haddressed.symm.trans hop)
    have htop := Kind.parent_of_collection hcollection
    have hheld : t.HeldFirst kind none (op.name.getD "") :=
      heldFirst_of_nodup (Kind.addresses_none htop)
        (fun parentKind hparent => by simp [htop] at hparent) hsingle
        (List.mem_filterMap.mpr ⟨stored, hfirst.mem, hfirst.named⟩)
    obtain ⟨stored, name, r, hfind, hmerged, hfound, hkeeps⟩ :=
      saveNamed_of_heldFirst hsingle hop hheld hu
    exact ⟨name, r, nameAfter_eq (name?_of_find? hfind) hmerged, hfound,
      Kind.holdsGivenApart_iff hkeeps.held⟩

end Tree

/-- Records that are brought along are stored as they are. What a record holds in the given
fields after it is created or saved has names of its own exactly if what is given has, and
every record has a name of its own among its siblings throughout a run exactly if the records
that accepted calls bring along have. -/
theorem run_keyed_iff {σ : Type} (seen : σ) (calls : List Call) :
    (∀ (kind : Kind) (fields : Record) (op : Context) (call : Call),
      kind.location = .collection → call = .create kind fields op ∨ call = .save kind fields op →
      (((Store.new seen).run calls).perform call).1 = .ok () →
      ∃ t name r, (((Store.new seen).run calls).perform call).2.snapshot = .ok t ∧
        call.newName? = some name ∧ t.find? kind none name = some r ∧
        (kind.HoldsGivenApart fields r ↔ call.bringsApart = true)) ∧
    ((∀ before, before <+: calls →
        ∃ t, ((Store.new seen).run before).snapshot = .ok t ∧ t.Keyed) ↔
      ∀ before call after, calls = before ++ call :: after →
        (((Store.new seen).run before).perform call).1 = .ok () → call.bringsApart = true) := by
  constructor
  · intro kind fields op call hcollection hcall haccepted
    rw [Store.run_new, Store.perform_eq] at haccepted ⊢
    obtain ⟨u, hu⟩ := Store.map_unit_eq_ok_iff.mp haccepted
    obtain ⟨name, r, hname, hfind, hapart⟩ := Tree.exists_stored hcollection hcall hu
    refine ⟨u, name, r, ?_, hname, hfind, hapart⟩
    rw [Tree.next, hu]
    rfl
  · refine Store.run_upholds_iff seen Tree.default_showsAll.keyed fun _ _ _ _ hkeyed hu => ?_
    rw [Tree.keyed_iff] at hkeyed ⊢
    exact Tree.namesApart_apply_iff hkeyed hu

/-- Three keys of an instance, two of one name and one without. -/
def twinKeys : Call :=
  .create .keyManagement [("name", .text "vault"), ("resource_group", .text "service-rg"),
    ("keys", .list [.object [("name", .text "root")], .object [("name", .text "root")],
      .object []])] .blank

/-- The instance is created and holds the keys as they are. -/
theorem create_keeps_twins :
    ((Store.new ()).perform twinKeys).1 = .ok () ∧
      ∃ t, ((Store.new ()).run [twinKeys]).snapshot = .ok t ∧
        t.labels .encryptionKey (some "vault") = [some "root", some "root", none] ∧ ¬t.Keyed := by
  obtain ⟨haccepted, hlabels⟩ :
      ((Store.new ()).perform twinKeys).1 = .ok () ∧
      (Tree.default.after [twinKeys]).labels .encryptionKey (some "vault") =
        [some "root", some "root", none] := by
    decide +kernel
  refine ⟨haccepted, _, Store.snapshot_run_new () [twinKeys], hlabels, fun hkeyed => ?_⟩
  have hnodup := (hkeyed .encryptionKey (some "vault") (by decide) rfl).1
  rw [Tree.names_eq_labels, hlabels] at hnodup
  exact absurd hnodup (by decide)

end Blueprint
