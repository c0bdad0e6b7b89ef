import Blueprint.Proofs.Cascades
import Blueprint.Proofs.Labels

/-!
# Pruning

A selection says by kind, by the name of the parent and by its own name which records stay.
`Tree.prune` takes the others out of their lists. Pruning by two selections is pruning by
both at once, it commutes with every revision, and the rows that are left are those that
stay.
-/

namespace Blueprint

/-! ## Lists of records -/

namespace Value

/-- Keeps some of the records in a list, and what is no record. -/
def keepRecords (stays : Record → Bool) : Value → Value
  | list items => list (items.filter fun item => item.object?.all stays)
  | value => value

variable {stays : Record → Bool}

theorem records_keepRecords (stays : Record → Bool) (value : Value) :
    (value.keepRecords stays).records = value.records.filter stays := by
  cases value with
  | list items =>
      simp only [keepRecords, records_list]
      induction items with
      | nil => rfl
      | cons item rest ih =>
          cases hitem : item.object? with
          | none => simpa [hitem] using ih
          | some r => cases hr : stays r <;> simpa [hitem, hr] using ih
  | null | bool _ | number _ | text _ | object _ => rfl

theorem keepRecords_keepRecords (first second : Record → Bool) (value : Value) :
    (value.keepRecords first).keepRecords second =
      value.keepRecords fun r => first r && second r := by
  cases value with
  | list items =>
      simp only [keepRecords, List.filter_filter, list.injEq]
      congr 1
      funext item
      cases item.object? <;> simp [Bool.and_comm]
  | null | bool _ | number _ | text _ | object _ => rfl

theorem keepRecords_of_all {value : Value} (h : ∀ r ∈ value.records, stays r = true) :
    value.keepRecords stays = value := by
  cases value with
  | list items =>
      simp only [keepRecords, list.injEq, List.filter_eq_self, Option.all_eq_true]
      intro item hitem r hr
      exact h r (List.mem_filterMap.mpr ⟨item, hitem, hr⟩)
  | null | bool _ | number _ | text _ | object _ => rfl

theorem keepRecords_middle {before after : List Value} {r : Record} (hr : stays r = false)
    (hother : ∀ other ∈ (before ++ after).filterMap object?, stays other = true) :
    (list (before ++ .object r :: after)).keepRecords stays = list (before ++ after) := by
  have hrest : (list (before ++ after)).keepRecords stays = list (before ++ after) :=
    keepRecords_of_all hother
  simp only [keepRecords, List.filter_append, list.injEq] at hrest ⊢
  have hgone : (object r).object?.all stays = false := by simp [object?, hr]
  rw [List.filter_cons_of_neg (by simp [hgone]), hrest]

/-- Records are selected before or after they are changed if the change does not matter to
the selection. -/
theorem keepRecords_mapItems {f : Record → Record} (h : ∀ r, stays (f r) = stays r)
    (value : Value) :
    (value.mapItems f).keepRecords stays = (value.keepRecords stays).mapItems f := by
  cases value with
  | list items =>
      simp only [mapItems, keepRecords, List.filter_map, list.injEq]
      congr 2
      funext item
      cases item <;> simp [Function.comp_apply, mapObject, object?, h]
  | null | bool _ | number _ | text _ | object _ => rfl

theorem keepRecords_mapPlaced {f : Record → Record} (h : ∀ r, stays (f r) = stays r)
    (kind : Kind) (value : Value) :
    (value.mapPlaced kind f).keepRecords stays = (value.keepRecords stays).mapPlaced kind f := by
  unfold mapPlaced
  cases kind.location with
  | single => cases value <;> rfl
  | collection | nested _ _ => exact keepRecords_mapItems h value

theorem mapPlaced_of_same {kind : Kind} {f : Record → Record} {value : Value}
    (h : ∀ r ∈ value.placed kind, f r = r) : value.mapPlaced kind f = value :=
  (mapPlaced_congr h).trans (mapPlaced_id kind value)

end Value

/-! ## Selections -/

/-- Which records stay, by their kinds, the names of their parents and their own names. -/
abbrev Selection := Kind → Option String → Option String → Bool

namespace Selection

/-- What both selections let stay. -/
def both (first second : Selection) : Selection := fun kind parent name =>
  first kind parent name && second kind parent name

theorem both_comm (first second : Selection) : first.both second = second.both first := by
  funext kind parent name
  exact Bool.and_comm _ _

/-- Records of single kinds stay, and nothing stays without its holder. -/
structure Coherent (stays : Selection) : Prop where
  single : ∀ kind : Kind, kind.location = .single → ∀ parent name, stays kind parent name = true
  held : ∀ child kind : Kind, child.parent = some kind → ∀ holder, stays kind none holder = false →
    ∀ name, stays child holder name = false

theorem Coherent.both {first second : Selection} (hfirst : first.Coherent)
    (hsecond : second.Coherent) : (first.both second).Coherent where
  single kind hsingle parent name := by
    simp [Selection.both, hfirst.single kind hsingle, hsecond.single kind hsingle]
  held child kind hparent holder hholder name := by
    rcases Bool.and_eq_false_iff.mp hholder with h | h
    · simp [Selection.both, hfirst.held child kind hparent holder h]
    · simp [Selection.both, hsecond.held child kind hparent holder h]

end Selection

/-! ## What a record holds -/

namespace Kind

variable {stays : Selection}

/-- Keeps some of the records that a record of a kind holds. -/
def pruneHeld (kind : Kind) (stays : Selection) (r : Record) : Record :=
  r.mapValues fun key value =>
    match kind.heldIn? key with
    | some child => value.keepRecords fun held => stays child r.name? held.name?
    | none => value

theorem get?_pruneHeld_of_none {kind : Kind} {field : String} (h : kind.heldIn? field = none)
    (stays : Selection) (r : Record) : (kind.pruneHeld stays r).get? field = r.get? field := by
  simp [pruneHeld, h]

theorem name?_pruneHeld (kind : Kind) (stays : Selection) (r : Record) :
    (kind.pruneHeld stays r).name? = r.name? := by
  simp only [Record.name?_eq, get?_pruneHeld_of_none kind.heldIn?_name]

theorem records_pruneHeld {kind child : Kind} {field : String}
    (h : child.location = .nested kind field) (stays : Selection) (r : Record) :
    (kind.pruneHeld stays r).records field =
      (r.records field).filter fun held => stays child r.name? held.name? := by
  simp only [Record.records_eq, pruneHeld, Record.get?_mapValues, heldIn?_of_location h]
  cases r.get? field with
  | none => rfl
  | some value => exact Value.records_keepRecords _ value

theorem pruneHeld_pruneHeld (kind : Kind) (first second : Selection) (r : Record) :
    kind.pruneHeld second (kind.pruneHeld first r) = kind.pruneHeld (first.both second) r := by
  have hname := name?_pruneHeld kind first r
  unfold pruneHeld at hname ⊢
  rw [hname, Record.mapValues_mapValues]
  congr 1
  funext key value
  cases kind.heldIn? key with
  | none => rfl
  | some child => exact Value.keepRecords_keepRecords _ _ value

theorem pruneHeld_mapHeld (kind : Kind) (stays : Selection)
    {f : Kind → Option String → Record → Record}
    (h : ∀ child parent r, (f child parent r).name? = r.name?) (r : Record) :
    kind.pruneHeld stays (kind.mapHeld f r) = kind.mapHeld f (kind.pruneHeld stays r) := by
  have hmapped := name?_mapHeld kind f r
  have hpruned := name?_pruneHeld kind stays r
  unfold pruneHeld at hpruned ⊢
  unfold mapHeld at hmapped ⊢
  rw [hmapped, hpruned, Record.mapValues_mapValues, Record.mapValues_mapValues]
  congr 1
  funext key value
  cases kind.heldIn? key with
  | none => rfl
  | some child =>
      refine Value.keepRecords_mapItems (fun held => ?_) value
      rw [h]

theorem pruneHeld_reviseBy (kind : Kind) (stays : Selection)
    (judge : Reference → String → Verdict) (r : Record) :
    kind.pruneHeld stays (r.reviseBy kind.schema.references judge) =
      (kind.pruneHeld stays r).reviseBy kind.schema.references judge := by
  have hname : (r.reviseBy kind.schema.references judge).name? = r.name? := by
    rw [Record.name?_eq, Record.get?_reviseBy_of_ne fun _ hmem => root_ne_name hmem,
      Record.name?_eq]
  unfold pruneHeld
  rw [hname]
  simp only [Record.reviseBy, Record.mapValues_mapValues]
  congr 1
  funext key value
  cases hfind : kind.schema.references.find? fun reference => reference.path.root = key with
  | none => rfl
  | some reference =>
      have hroot : reference.path.root = key := by simpa using List.find?_some hfind
      simp only [← hroot, heldIn?_root (List.mem_of_find?_eq_some hfind)]

theorem pruneHeld_of_all {kind : Kind} {stays : Selection} {r : Record}
    (h : ∀ child field, child.location = .nested kind field →
      ∀ held ∈ r.records field, stays child r.name? held.name? = true) :
    kind.pruneHeld stays r = r := by
  conv => rhs; rw [← Record.mapValues_id r]
  apply Record.mapValues_congr
  intro key value hvalue
  cases hchild : kind.heldIn? key with
  | none => rfl
  | some child =>
      apply Value.keepRecords_of_all
      intro held hheld
      refine h child key (location_of_heldIn? hchild) held ?_
      simpa [Record.records_eq, hvalue] using hheld

end Kind

theorem Row.of_pruneHeld (kind : Kind) (parent : Option String) (stays : Selection)
    (r : Record) : of kind parent (kind.pruneHeld stays r) = of kind parent r := by
  apply of_congr_get?
  · exact Kind.get?_pruneHeld_of_none kind.heldIn?_name stays r
  · intro reference hmem
    exact Kind.get?_pruneHeld_of_none (Kind.heldIn?_root hmem) stays r

/-! ## Trees -/

namespace Tree

/-- Keeps some of the records of a tree. -/
def prune (stays : Selection) (t : Tree) : Tree :=
  ⟨t.root.mapValues fun key value =>
    match Kind.topOf? key with
    | some kind =>
        (value.keepRecords fun r => stays kind none r.name?).mapPlaced kind (kind.pruneHeld stays)
    | none => value⟩

theorem prune_prune (first second : Selection) (t : Tree) :
    (t.prune first).prune second = t.prune (first.both second) := by
  simp only [prune, Record.mapValues_mapValues]
  congr 2
  funext key value
  cases Kind.topOf? key with
  | none => rfl
  | some kind =>
      simp only []
      rw [Value.keepRecords_mapPlaced fun r => by rw [kind.name?_pruneHeld],
        Value.mapPlaced_mapPlaced, Value.keepRecords_keepRecords]
      simp only [Kind.pruneHeld_pruneHeld]
      rfl

theorem prune_reviseAll (stays : Selection) (t : Tree) (judge : Judge) :
    (t.reviseAll judge).prune stays = (t.prune stays).reviseAll judge := by
  have hname : ∀ (kind : Kind) (judge : Reference → String → Verdict) (r : Record),
      (r.reviseBy kind.schema.references judge).name? = r.name? := by
    intro kind judge r
    rw [Record.name?_eq, Record.get?_reviseBy_of_ne fun _ hmem => Kind.root_ne_name hmem,
      Record.name?_eq]
  simp only [reviseAll, mapAll, mapTop, prune, Record.mapValues_mapValues]
  congr 2
  funext key value
  cases Kind.topOf? key with
  | none => rfl
  | some kind =>
      simp only []
      rw [Value.keepRecords_mapPlaced fun r => by rw [hname, Kind.name?_mapHeld],
        Value.mapPlaced_mapPlaced, Value.mapPlaced_mapPlaced]
      congr 1
      funext r
      rw [Kind.pruneHeld_reviseBy,
        Kind.pruneHeld_mapHeld kind stays fun child _ _ => hname child _ _, Row.of_mapHeld,
        Row.of_mapHeld, Row.of_pruneHeld]

/-- Pruning, told by what becomes of the value under the tag of each kind. -/
theorem prune_eq_mapValues {t : Tree} {stays : Selection} {f : String → Value → Value}
    (hkind : ∀ (kind : Kind) (value : Value), kind.parent = none →
      t.root.get? kind.tag = some value →
        (value.keepRecords fun r => stays kind none r.name?).mapPlaced kind
          (kind.pruneHeld stays) = f kind.tag value)
    (hother : ∀ key value, Kind.topOf? key = none → f key value = value) :
    t.prune stays = ⟨t.root.mapValues f⟩ := by
  simp only [prune, mk.injEq]
  apply Record.mapValues_congr
  intro key value hvalue
  cases htop : Kind.topOf? key with
  | none => exact (hother key value htop).symm
  | some kind =>
      obtain ⟨rfl, hparent⟩ := Kind.eq_tag_of_topOf? htop
      exact hkind kind value hparent hvalue

section

variable {stays : Selection} (hstays : stays.Coherent) (t : Tree)
include hstays

theorem tops_prune {kind : Kind} (h : kind.parent = none) :
    (t.prune stays).tops kind =
      ((t.tops kind).filter fun r => stays kind none r.name?).map (kind.pruneHeld stays) := by
  simp only [tops, prune, Record.get?_mapValues, Kind.topOf?_tag h]
  cases t.root.get? kind.tag with
  | none => rfl
  | some value =>
      simp only [Option.map_some, Option.getD_some, Value.placed_mapPlaced]
      congr 1
      unfold Value.placed
      cases hlocation : kind.location with
      | single =>
          simp only [hstays.single kind hlocation, List.filter_true]
          cases value <;> rfl
      | collection | nested _ _ => exact Value.records_keepRecords _ value

theorem rows_prune (kind : Kind) :
    (t.prune stays).rows kind = (t.rows kind).filter fun row => stays kind row.parent row.name := by
  cases hparent : kind.parent with
  | none =>
      rw [rows_of_top _ hparent, rows_of_top _ hparent, tops_prune hstays t hparent,
        List.filter_map, List.map_map]
      congr 1
      funext r
      exact Row.of_pruneHeld kind none stays r
  | some parent =>
      obtain ⟨field, hlocation⟩ := Kind.parent_eq_some_iff.mp hparent
      rw [rows_of_nested _ hlocation, rows_of_nested _ hlocation,
        tops_prune hstays t (Kind.parent_of_holder hparent), List.flatMap_map]
      simp only [parent.name?_pruneHeld, Kind.records_pruneHeld hlocation]
      induction t.tops parent with
      | nil => rfl
      | cons holder rest ih =>
          rw [List.flatMap_cons, List.filter_append, List.filter_map, ← ih]
          by_cases hholder : stays parent none holder.name? = true
          · simp only [List.filter_cons, hholder, if_true, List.flatMap_cons]
            rfl
          · -- nothing that is held stays without its holder
            have hgone := hstays.held kind parent hparent holder.name? (by simpa using hholder)
            simp [hholder, Function.comp_def, hgone]

/-- What is left reaches what it reached before. -/
theorem reach_prune {kind : Kind} {row : Row} (hrow : row ∈ (t.prune stays).rows kind)
    (reference : Reference) :
    row.reach (t.prune stays).rows kind reference = row.reach t.rows kind reference := by
  refine Row.reach_of_holder?_eq (Row.holder?_congr fun parent name hparent hname => ?_) reference
  have htop := Kind.parent_of_holder hparent
  have hholder : stays parent none (some name) = true := by
    rw [rows_prune hstays, List.mem_filter, hname] at hrow
    by_contra hgone
    have hheld := hstays.held kind parent hparent (some name) (by simpa using hgone)
    simp [hheld] at hrow
  rw [rows_prune hstays, List.find?_filter, rows_of_top t htop, List.find?_map, List.find?_map]
  congr 2
  funext r
  by_cases hr : r.name? = some name <;> simp [hr, hholder]

theorem prune_of_all (h : ∀ kind, ∀ row ∈ t.rows kind, stays kind row.parent row.name = true) :
    t.prune stays = t := by
  rw [prune_eq_mapValues (f := fun _ value => value), Record.mapValues_id]
  · intro kind value htop hvalue
    have htops : value.placed kind = t.tops kind := by simp [tops, hvalue]
    rw [Value.keepRecords_of_all, Value.mapPlaced_of_same]
    · intro r hr
      apply Kind.pruneHeld_of_all
      intro child field hlocation held hheld
      have hentry := (mem_entries_of_nested hlocation).mpr ⟨r, htops ▸ hr, rfl, hheld⟩
      exact h child _ (mem_rows.mpr ⟨r.name?, held, hentry, rfl⟩)
    · intro r hr
      rcases Kind.parent_eq_none_iff.mp htop with hlocation | hlocation
      · exact hstays.single kind hlocation none r.name?
      · have hplaced : r ∈ value.placed kind := by simpa [Value.placed, hlocation] using hr
        have hentry : (none, r) ∈ t.entries kind := by
          rw [entries_of_top t htop]
          exact List.mem_map_of_mem (htops ▸ hplaced)
        exact h kind _ (mem_rows.mpr ⟨none, r, hentry, rfl⟩)
  · exact fun _ _ _ => rfl

end

end Tree

end Blueprint
