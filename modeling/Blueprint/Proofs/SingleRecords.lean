import Blueprint.Proofs.Operations

/-!
# Saves of single records

What a save of the options, the account settings or the activity tracker does to the whole
tree. Saved options reach into two other places: once subnets are no longer chosen
automatically every VPC takes its subnets as address prefixes, and where the region is
another one the locations of the tracker follow it. Anything else stays what it was.
-/

namespace Blueprint

/-! ## Values that are changed in places -/

namespace Value

/-- Whether a value is the other one, save that a record may have become one that it is
related to. -/
def RecordRel (R : Record → Record → Prop) : Value → Value → Prop
  | .object r, .object r' => R r r'
  | value, value' => value' = value

/-- Whether a value is the other one, save that the items of a list may each have become one
that they are related to. -/
def ItemsRel (R : Value → Value → Prop) : Value → Value → Prop
  | .list items, .list items' => List.Forall₂ R items items'
  | value, value' => value' = value

theorem recordRel_mapObject {R : Record → Record → Prop} {f : Record → Record}
    (h : ∀ r, R r (f r)) (value : Value) : RecordRel R value (mapObject f value) := by
  cases value with
  | object r => exact h r
  | null | bool _ | number _ | text _ | list _ => rfl

theorem itemsRel_map {R : Value → Value → Prop} {f : Value → Value} (h : ∀ item, R item (f item))
    (items : List Value) : ItemsRel R (.list items) (.list (items.map f)) := by
  rw [ItemsRel, List.forall₂_map_right_iff, List.forall₂_same]
  exact fun item _ => h item

theorem itemsRel_mapItems {R : Record → Record → Prop} {f : Record → Record}
    (h : ∀ r, R r (f r)) (value : Value) : ItemsRel (RecordRel R) value (mapItems f value) := by
  cases value with
  | list items => exact itemsRel_map (recordRel_mapObject h) items
  | null | bool _ | number _ | text _ | object _ => rfl

theorem optionRel_map {R : Value → Value → Prop} {f : Value → Value}
    (h : ∀ value, R value (f value)) (value : Option Value) : Option.Rel R value (value.map f) := by
  cases value with
  | none => exact .none
  | some value => exact .some (h value)

end Value

namespace Record

/-- Whether a record is the other one but for a field. -/
def SameBut (field : String) (r r' : Record) : Prop :=
  ∀ other, other ≠ field → r'.get? other = r.get? other

/-- Whether a field was true and no longer is. -/
def TurnsOff (field : String) (r r' : Record) : Prop :=
  r.get? field = some (.bool true) ∧ r'.get? field ≠ some (.bool true)

/-- Whether a record is another one with fields written over its own. -/
def Overwrites (merged stored fields : Record) : Prop :=
  ∀ field, merged.get? field = ((ofFields fields).get? field).or (stored.get? field)

theorem get?_map (f : String → Value → Value) (r : Record) (field : String) :
    get? (r.map fun entry => (entry.1, f entry.1 entry.2)) field =
      (get? r field).map (f field) := by
  induction r with
  | nil => rfl
  | cons entry rest ih =>
      rw [List.map_cons, get?_cons, get?_cons, ih]
      by_cases h : field = entry.1 <;> simp [h]

theorem flag_eq_true_iff {r : Record} {field : String} :
    r.flag field = true ↔ r.get? field = some (.bool true) := by
  unfold flag
  cases r.get? field with
  | none => simp
  | some value => cases value <;> simp [Value.bool?]

theorem turnsOff_iff {field : String} {r r' : Record} :
    r.TurnsOff field r' ↔ (r.flag field && !r'.flag field) = true := by
  simp [TurnsOff, ← flag_eq_true_iff]

end Record

namespace Tree

theorem get?_mapRecords (t : Tree) {kind : Kind} (h : kind.parent = none) (f : Record → Record)
    (key : String) :
    (t.mapRecords kind f).get? key =
      if key = kind.tag then (t.get? key).map (Value.mapPlaced kind f) else t.get? key := by
  rw [mapRecords_eq t h, mapTop_ite t h]
  exact Record.get?_modify t.root kind.tag _ key

theorem get?_saveSingle (t : Tree) (kind : Kind) (fields : Record) (key : String) :
    (t.saveSingle kind fields).get? key =
      if key = kind.tag then
        some (.object ((t.prepared kind fields).reconcileRecord kind none
          (t.mergedSingle kind fields)).2)
      else (t.prepared kind fields).get? key := by
  rw [saveSingle_eq]
  exact Record.get?_insert _ kind.tag _ key

end Tree

/-! ## What saved options reach -/

namespace Options

/-- Whether a value is the address prefix of a subnet. -/
def IsPrefixOf (vpc : String) (subnet : Record) (value : Value) : Prop :=
  ∃ r : Record, value = .object r ∧ ∀ field, r.get? field =
    if field = "vpc" then some (.text vpc)
    else if field ∈ ["cidr", "name", "zone"] then some ((subnet.get? field).getD .null)
    else none

/-- Whether a VPC has become one whose address prefixes are its subnets, in their order. -/
structure Pinned (vpc vpc' : Record) : Prop where
  others : vpc.SameBut "address_prefixes" vpc'
  prefixes : ∃ prefixes, vpc'.get? "address_prefixes" = some (.list prefixes) ∧
    List.Forall₂ (IsPrefixOf vpc.label) (vpc.records "subnets") prefixes

/-- Whether a tracker has become one with a location in another's place. -/
structure Moved (old new : String) (tracker tracker' : Record) : Prop where
  others : tracker.SameBut "locations" tracker'
  locations : Option.Rel
    (Value.ItemsRel fun item item' => item' = if item = .text old then .text new else item)
    (tracker.get? "locations") (tracker'.get? "locations")

theorem isPrefixOf_prefixOfSubnet (vpc : String) (subnet : Record) :
    IsPrefixOf vpc subnet (prefixOfSubnet vpc subnet) := by
  refine ⟨_, rfl, fun field => ?_⟩
  simp only [Record.get?_cons, Record.get?_nil, List.mem_cons, List.not_mem_nil, or_false]
  by_cases hvpc : field = "vpc"
  · simp [hvpc]
  by_cases hcidr : field = "cidr"
  · simp [hcidr]
  by_cases hname : field = "name"
  · simp [hname]
  by_cases hzone : field = "zone"
  · simp [hzone]
  · simp [hvpc, hcidr, hname, hzone]

theorem pinned_pinPrefixes (vpc : Record) : Pinned vpc (pinPrefixes vpc) where
  others _ hother := Record.get?_insert_of_ne vpc _ hother
  prefixes := by
    refine ⟨_, Record.get?_insert_self vpc _ _, ?_⟩
    rw [List.forall₂_map_right_iff, List.forall₂_same]
    exact fun subnet _ => isPrefixOf_prefixOfSubnet vpc.label subnet

theorem moved_modify (old new : String) (tracker : Record) :
    Moved old new tracker (tracker.modify "locations" (replaceText old new)) where
  others other hother := by rw [Record.get?_modify, if_neg hother]
  locations := by
    rw [Record.get?_modify, if_pos rfl]
    refine Value.optionRel_map (fun value => ?_) _
    cases value with
    | list items => exact Value.itemsRel_map (fun item => by rfl) items
    | null | bool _ | number _ | text _ | object _ => rfl

end Options

namespace Tree

variable {key : String}

/-- The single record of a kind, or an empty one where there is none. -/
def storedSingle (t : Tree) (kind : Kind) : Record := (t.single? kind).getD []

/-- What a tree has become once fields are saved over its options. -/
structure OptionsSaved (t : Tree) (fields merged : Record) (u : Tree) : Prop where
  saved : u.get? "_options" = some (.object merged)
  overwritten : merged.Overwrites (t.storedSingle .options) fields
  pinned : (t.storedSingle .options).TurnsOff "dynamic_subnets" merged →
    Option.Rel (Value.ItemsRel (Value.RecordRel Options.Pinned)) (t.get? "vpcs") (u.get? "vpcs")
  unpinned : ¬(t.storedSingle .options).TurnsOff "dynamic_subnets" merged →
    u.get? "vpcs" = t.get? "vpcs"
  moved : ∀ old new, (t.storedSingle .options).text? "region" = some old →
    merged.text? "region" = some new → old ≠ new →
    Option.Rel (Value.RecordRel (Options.Moved old new)) (t.get? "atracker") (u.get? "atracker")
  unmoved : (∀ old new, (t.storedSingle .options).text? "region" = some old →
    merged.text? "region" = some new → old = new) → u.get? "atracker" = t.get? "atracker"
  others : ∀ key, key ∉ ["_options", "vpcs", "atracker"] → u.get? key = t.get? key

/-! ## Saves of options -/

theorem get?_moveLocations (t : Tree) (stored merged : Record) (h : key ≠ "atracker") :
    (Options.moveLocations t stored merged).get? key = t.get? key := by
  have htag : key ≠ Kind.activityTracker.tag := h
  unfold Options.moveLocations
  split
  · split
    · rfl
    · rw [get?_mapRecords t rfl, if_neg htag]
  · rfl

/-- The tree that options are saved into, before the locations follow the region. -/
def pinnedTree (t : Tree) (stored merged : Record) : Tree :=
  if stored.flag "dynamic_subnets" && !merged.flag "dynamic_subnets" then
    t.mapRecords .vpc Options.pinPrefixes
  else t

theorem get?_pinnedTree (t : Tree) (stored merged : Record) (h : key ≠ "vpcs") :
    (t.pinnedTree stored merged).get? key = t.get? key := by
  have htag : key ≠ Kind.vpc.tag := h
  unfold pinnedTree
  split
  · rw [get?_mapRecords t rfl, if_neg htag]
  · rfl

/-- Save for the options themselves, a tree is as the two effects of saving them leave it. -/
theorem get?_saveSingle_options (t : Tree) (fields : Record) (h : key ≠ "_options") :
    (t.saveSingle .options fields).get? key =
      (Options.moveLocations
        (t.pinnedTree (t.storedSingle .options) ((t.storedSingle .options).extend fields))
        (t.storedSingle .options) ((t.storedSingle .options).extend fields)).get? key := by
  have htag : key ≠ Kind.options.tag := h
  rw [get?_saveSingle, if_neg htag]
  rfl

theorem optionsSaved_saveSingle (t : Tree) (fields : Record) :
    t.OptionsSaved fields ((t.storedSingle .options).extend fields)
      (t.saveSingle .options fields) where
  saved := by
    rw [get?_saveSingle]
    rfl
  overwritten field := Record.get?_extend_ofFields _ fields field
  pinned h := by
    rw [get?_saveSingle_options t fields (by decide), get?_moveLocations _ _ _ (by decide),
      pinnedTree, if_pos (Record.turnsOff_iff.mp h), get?_mapRecords t rfl]
    exact Value.optionRel_map (Value.itemsRel_mapItems Options.pinned_pinPrefixes) _
  unpinned h := by
    rw [get?_saveSingle_options t fields (by decide), get?_moveLocations _ _ _ (by decide),
      pinnedTree, if_neg (mt Record.turnsOff_iff.mpr h)]
  moved old new hold hnew hne := by
    rw [get?_saveSingle_options t fields (by decide), Options.moveLocations, hold, hnew]
    simp only [hne, if_false]
    rw [get?_mapRecords _ rfl, get?_pinnedTree _ _ _ (by decide)]
    exact Value.optionRel_map (Value.recordRel_mapObject (Options.moved_modify old new)) _
  unmoved h := by
    rw [get?_saveSingle_options t fields (by decide), Options.moveLocations]
    split
    · next old new hold hnew =>
        rw [if_pos (h old new hold hnew), get?_pinnedTree _ _ _ (by decide)]
    · exact get?_pinnedTree t _ _ (by decide)
  others key h := by
    simp only [List.mem_cons, List.not_mem_nil, or_false, not_or] at h
    rw [get?_saveSingle_options t fields h.1, get?_moveLocations _ _ _ h.2.2,
      get?_pinnedTree _ _ _ h.2.1]

/-! ## Saves of the other single records -/

end Tree

/-- What account settings are saved as, given what they were and what they are to be. -/
structure AccountSettings.Settled (stored merged saved : Record) : Prop where
  cleared : stored.TurnsOff "enable" merged → ∀ field, saved.get? field =
    if field ∈ ["enable", "include_history"] then merged.get? field
    else (merged.get? field).map fun _ => .null
  kept : ¬stored.TurnsOff "enable" merged → saved = merged

theorem AccountSettings.settled_saved (t : Tree) (stored merged : Record) :
    Settled stored merged (saved t stored merged).2 where
  cleared h field := by
    rw [saved, isOff, if_pos (Record.turnsOff_iff.mp h)]
    refine (Record.get?_map (fun field value =>
      if keptWhenOff.contains field then value else .null) merged field).trans ?_
    by_cases hkept : field ∈ ["enable", "include_history"]
    · have hmem : field ∈ keptWhenOff := hkept
      simp [hmem, hkept]
    · have hmem : field ∉ keptWhenOff := hkept
      simp [hmem, hkept]
  kept h := by rw [saved, isOff, if_neg (mt Record.turnsOff_iff.mpr h)]

theorem AccountSettings.saved_fst (t : Tree) (stored merged : Record) :
    (saved t stored merged).1 = t := by
  unfold saved
  split
  · rfl
  · rfl

namespace Tree

theorem prepared_accountSettings (t : Tree) (fields : Record) :
    t.prepared .accountSettings fields = t := AccountSettings.saved_fst t _ _

/-- Saves of single records are accepted, and have no effects but the ones they declare. Saved
options are written over the stored ones. If they turn dynamic subnets off, every VPC takes
its subnets as address prefixes, and if they change the region, the locations of the tracker
that were the old one become the new one. Account settings and the tracker change in their
own place only, and of account settings that are turned off no more is left than whether they
are on and include the history. -/
theorem single_saves_effects (t : Tree) (fields : Record) (op : Context) :
    (∃ u merged, t.save .options fields op = .ok u ∧ t.OptionsSaved fields merged u) ∧
    (∃ u merged saved, t.save .accountSettings fields op = .ok u ∧
      u.get? "iam_account_settings" = some (.object saved) ∧
      merged.Overwrites (t.storedSingle .accountSettings) fields ∧
      AccountSettings.Settled (t.storedSingle .accountSettings) merged saved ∧
      ∀ key, key ≠ "iam_account_settings" → u.get? key = t.get? key) ∧
    ∃ u, t.save .activityTracker fields op = .ok u ∧
      ∀ key, key ≠ "atracker" → u.get? key = t.get? key := by
  refine ⟨⟨_, _, rfl, optionsSaved_saveSingle t fields⟩,
    ⟨_, _, _, rfl, ?_, fun field => Record.get?_extend_ofFields _ fields field,
      AccountSettings.settled_saved t (t.storedSingle .accountSettings) _, fun key h => ?_⟩,
    ⟨_, rfl, fun key h => ?_⟩⟩
  · rw [get?_saveSingle]
    rfl
  · have htag : key ≠ Kind.accountSettings.tag := h
    rw [get?_saveSingle, if_neg htag, prepared_accountSettings]
  · have htag : key ≠ Kind.activityTracker.tag := h
    rw [get?_saveSingle, if_neg htag]
    rfl

end Tree

end Blueprint
