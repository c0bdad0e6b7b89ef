import Blueprint.Proofs.RenamedTree

/-!
# New names

Saving nothing but a new name gives the record its new label and carries the name to
whatever denotes the record. Nothing else changes, and every name in the tree denotes
what it denoted before.
-/

namespace Blueprint

/-! ## What is to be expected -/

instance (t : Tree) (kind : Kind) (parent : Option String) (holder : Record)
    (reference : Reference) (name : String) (index : Nat) :
    Decidable (t.Denotes kind parent holder reference name index) :=
  decidable_of_iff (((t.entries reference.target)[index]?.any fun entry =>
      (reference.scope.reach t kind parent holder).admits entry.1 &&
        decide (entry.2.name? = some name)) = true) (by
    unfold Tree.Denotes
    cases (t.entries reference.target)[index]? with
    | none => simp
    | some entry => simp [Prod.ext_iff])

namespace Tree

variable (t : Tree) (ν : Renaming) (index : Nat)

/-- The verdict on a name at a reference in a record when the record at a place gets a
new name. -/
def follow (kind : Kind) (parent : Option String) (holder : Record) (reference : Reference)
    (name : String) : Verdict :=
  if ν.old ≠ ν.new ∧ reference.target = ν.kind ∧
      t.Denotes kind parent holder reference name index then .replace ν.new
  else .keep

/-- A record with its new label and with the names followed, judged by the record
`before`. -/
def retell (kind : Kind) (parent : Option String) (before r : Record) : Record :=
  kind.schema.references.foldl
    (fun changed reference => reference.revise (t.follow ν index kind parent before reference)
      changed)
    (ν.relabel kind parent r)

/-- A tree after the record at a place has got a new name: all labels and names change
at once, judged by the tree as it is. -/
def renamed : Tree :=
  t.mapTop fun kind r =>
    t.retell ν index kind none r
      (kind.mapHeld (fun child parent held => t.retell ν index child parent held held) r)

end Tree

/-! ## The verdicts -/

namespace Tree

variable {t : Tree} {ν : Renaming} {index : Nat}

theorem follow_congr {kind : Kind} {reference : Reference}
    (hmem : reference ∈ kind.schema.references) {q : Option String} {first second : Record}
    (h : Row.of kind q first = Row.of kind q second) :
    t.follow ν index kind q first reference = t.follow ν index kind q second reference := by
  funext name
  have hdenotes : t.Denotes kind q first reference name index ↔
      t.Denotes kind q second reference name index := by
    rw [t.denotes_iff hmem, t.denotes_iff hmem, h]
  exact if_congr (and_congr_right fun _ => and_congr_right fun _ => hdenotes) rfl rfl

theorem retell_eq (kind : Kind) (q : Option String) (before r : Record) :
    t.retell ν index kind q before r =
      (ν.relabel kind q r).reviseBy kind.schema.references (t.follow ν index kind q before) :=
  Record.foldl_revise kind.nodup_roots (fun _ => t.follow ν index kind q before)
    fun _ _ _ _ _ _ => rfl

theorem renamed_eq : t.renamed ν index = t.mapAll fun kind q r =>
    (ν.relabel kind q r).reviseBy kind.schema.references (t.follow ν index kind q r) := by
  simp only [renamed, mapAll, retell_eq]
  congr 1
  funext top r
  apply Record.reviseBy_congr
  intro reference hmem name _
  rw [follow_congr hmem (Row.of_mapHeld top none _ r)]

theorem renamed_of_keep
    (h : ∀ kind, ∀ reference ∈ kind.schema.references, ∀ q r,
      t.follow ν index kind q r reference = fun _ => .keep) :
    t.renamed ν index = t.mapAll ν.relabel := by
  rw [renamed_eq]
  apply mapAll_congr
  intro kind entry _ r _
  apply Record.reviseBy_of_keep
  intro reference hmem name _
  rw [h kind reference hmem]

/-- The verdicts of a cascade are those that follow what denotes the record. -/
theorem judge_row_eq (hfits : ν.Fits t.rows) (hne : ν.old ≠ ν.new) {renamed : Row}
    (hindex : (t.rows ν.kind)[index]? = some renamed) (hrenamed : ν.IsRenamed ν.kind renamed)
    {kind : Kind} {reference : Reference} (hmem : reference ∈ kind.schema.references)
    {q : Option String} {r : Record} (hrow : Row.of kind q r ∈ t.rows kind) (name : String) :
    ν.judge t.rows kind (ν.row kind (Row.of kind q r)) reference name =
      t.follow ν index kind q r reference name := by
  have hmeans : ν.Means t.rows kind (Row.of kind q r) reference name ↔
      ν.old ≠ ν.new ∧ reference.target = ν.kind ∧ t.Denotes kind q r reference name index := by
    rw [hfits.means_iff hmem hindex hrenamed, t.denotes_iff hmem]
    exact (and_iff_right hne).symm
  rw [hfits.judge_eq hmem hrow]
  exact if_congr hmeans rfl rfl

/-- New labels and a cascade make up the renamed tree. -/
theorem reviseAll_relabel (haddress : ν.kind.Addresses ν.parent)
    (hsingle : ν.kind.location ≠ .single) (hfits : ν.Fits t.rows) (hne : ν.old ≠ ν.new)
    {renamed : Row} (hindex : (t.rows ν.kind)[index]? = some renamed)
    (hrenamed : ν.IsRenamed ν.kind renamed) :
    (t.mapAll ν.relabel).reviseAll (ν.judge t.rows) = t.renamed ν index := by
  rw [renamed_eq, reviseAll, Renaming.mapAll_mapAll_relabel haddress]
  apply mapAll_congr
  intro kind entry hentry r hr
  have hrow : Row.of kind entry.1 r ∈ t.rows kind := by
    have hsame : Row.of kind entry.1 r = Row.of kind entry.1 entry.2 := by
      rcases hr with rfl | rfl
      · rfl
      · exact Row.of_mapHeld kind entry.1 _ entry.2
    rw [hsame]
    exact mem_rows.mpr ⟨entry.1, entry.2, hentry, rfl⟩
  apply Record.reviseBy_congr
  intro reference hmem name _
  rw [Renaming.row_relabel hsingle, judge_row_eq hfits hne hindex hrenamed hmem hrow]

theorem rows_renamed (haddress : ν.kind.Addresses ν.parent) (hsingle : ν.kind.location ≠ .single)
    (hfits : ν.Fits t.rows) (hne : ν.old ≠ ν.new) {renamed : Row}
    (hindex : (t.rows ν.kind)[index]? = some renamed) (hrenamed : ν.IsRenamed ν.kind renamed) :
    (t.renamed ν index).rows = ν.finalRows t.rows := by
  rw [← reviseAll_relabel haddress hsingle hfits hne hindex hrenamed, rows_reviseAll,
    Renaming.rows_relabel hsingle haddress]
  rfl

end Tree

/-! ## Saving a record of a list -/

theorem Renaming.Fits.consistent_finalRows {ν : Renaming} {rows : Rows} (h : ν.Fits rows)
    (hconsistent : rows.Consistent) : (ν.finalRows rows).Consistent := by
  intro kind final hfinal reference hmem name hname
  rw [finalRows_eq] at hfinal
  obtain ⟨row, hrow, rfl⟩ := List.mem_map.mp hfinal
  rw [h.mentions_finalRow hmem hrow] at hname
  obtain ⟨mentioned, hmentioned, rfl⟩ := List.mem_map.mp hname
  exact h.resolves_finalRow hmem hrow
    (hconsistent kind row hrow reference hmem mentioned hmentioned)

namespace Tree

variable {t : Tree}

theorem reconcileRecord_named (hconsistent : t.Consistent) {kind : Kind} {parent : Option String}
    {stored : Record} (hentry : (parent, stored) ∈ t.entries kind) (new : String) :
    (t.reconcileRecord kind parent (kind.named new stored)).2 = kind.named new stored := by
  rw [reconcileRecord_of_resolves]
  intro reference hmem name hname
  have hrow : Row.of kind parent stored ∈ t.rows kind := mem_rows.mpr ⟨parent, stored, hentry, rfl⟩
  rw [← Row.mentions_of hmem parent, Kind.row_named] at hname
  rw [Kind.row_named]
  exact ((consistent_iff t).mp hconsistent kind _ hrow reference hmem name hname).congr rfl rfl

theorem kept_named (hconsistent : t.Consistent) {ν : Renaming} {stored : Record}
    (hentry : (ν.parent, stored) ∈ t.entries ν.kind) :
    t.kept ν.kind ν.parent ν.old ⟨ν.parent, ν.new, ν.kind.named ν.new stored⟩ =
      ν.relabeled stored := by
  unfold kept Renaming.relabeled
  simp only [reconcileRecord_named hconsistent hentry, linkHeldRecords_eq, ne_comm]

theorem setItems_relabeled (hordered : t.Ordered) (hkeyed : t.Keyed) {ν : Renaming}
    (hsingle : ν.kind.location ≠ .single) (haddress : ν.kind.Addresses ν.parent)
    {items : List Value} (hitems : t.items? ν.kind ν.parent = some items)
    {before after : List Record} {stored : Record}
    (hfirst : FirstNamed ν.old (t.collection ν.kind ν.parent) before stored after) :
    t.setItems ν.kind ν.parent (replaceRecord (ν.relabeled stored) before.length items) =
      t.mapAll ν.relabel := by
  obtain ⟨beforeEntries, afterEntries, hplace⟩ := hkeyed.exists_place haddress hitems
  have hother := hkeyed.name?_ne hsingle haddress hfirst
  rw [hplace.collection_eq] at hfirst
  have hne : items ≠ [] := by
    rintro rfl
    cases hfirst.mem
  have hreplace : replaceRecord (ν.relabeled stored) before.length items =
      items.map (Value.mapObject fun r => if r.name? = some ν.old then ν.relabeled r else r) := by
    have hstored : (if stored.name? = some ν.old then ν.relabeled stored else stored) =
        ν.relabeled stored := if_pos hfirst.named
    rw [← replaceRecord_eq_map hfirst.split fun r hr => if_neg (hother r hr), hstored]
  rw [hreplace, setItems_map hordered hkeyed haddress hitems hne, Renaming.mapAll_relabel haddress]
  congr 1
  funext q r
  have hrenames : ν.Renames ν.kind q r ↔ q = ν.parent ∧ r.name? = some ν.old := by
    simp [Renaming.Renames, hsingle]
  by_cases hq : q = ν.parent
  · rw [if_pos hq]
    exact (if_congr (hrenames.trans (and_iff_right hq)) rfl rfl).symm
  · rw [if_neg hq, if_neg fun his => hq (hrenames.mp his).1]

theorem settled_relabel (hconsistent : t.Consistent) {ν : Renaming}
    (hsingle : ν.kind.location ≠ .single) (haddress : ν.kind.Addresses ν.parent)
    (hfits : ν.old ≠ ν.new → ν.Fits t.rows) {index : Nat} {renamed : Row}
    (hindex : (t.rows ν.kind)[index]? = some renamed) (hrenamed : ν.IsRenamed ν.kind renamed) :
    (t.mapAll ν.relabel).settled ν.kind ν.parent ν.old ν.new = t.renamed ν index ∧
      (t.renamed ν index).Consistent := by
  have hrows := Renaming.rows_relabel hsingle haddress t
  have hrowsConsistent := (consistent_iff t).mp hconsistent
  unfold settled
  by_cases hne : ν.old = ν.new
  · have hkeep : t.renamed ν index = t.mapAll ν.relabel := by
      apply renamed_of_keep
      intro kind reference _ q r
      funext name
      exact if_neg fun hfollows => hfollows.1 hne
    have hkept : (t.mapAll ν.relabel).Consistent := by
      rwa [consistent_iff, hrows, Renaming.rows_of_same hne]
    rw [if_neg fun hnew => hnew hne.symm, hkeep]
    exact ⟨hkept.reconcileChildren_eq ν.kind ν.new, hkept⟩
  · have hfollowed : ((t.mapAll ν.relabel).renameReferences ν.kind ν.parent ν.old ν.new).2 =
        t.renamed ν index := by
      rw [renameReferences, reviseReferences_eq, hrows,
        ← reviseAll_relabel haddress hsingle (hfits hne) hne hindex hrenamed]
      rfl
    have hfinal : (t.renamed ν index).Consistent := by
      rw [consistent_iff, rows_renamed haddress hsingle (hfits hne) hne hindex hrenamed]
      exact (hfits hne).consistent_finalRows hrowsConsistent
    rw [if_pos (Ne.symm hne), hfollowed]
    exact ⟨hfinal.reconcileChildren_eq ν.kind ν.new, hfinal⟩

/-- Saving a new name in a list gives the renamed tree. -/
theorem saveNamed_name (hordered : t.Ordered) (hkeyed : t.Keyed) (hconsistent : t.Consistent)
    {ν : Renaming} (hsingle : ν.kind.location ≠ .single) (hnew : ν.new.isEmpty = false)
    {index : Nat} {stored : Record} (hstored : (t.entries ν.kind)[index]? = some (ν.parent, stored))
    (hold : stored.name? = some ν.old) {op : Context} (hop : op.addressed ν.kind = .ok ν.parent)
    (hname : op.name = some ν.old) {u : Tree}
    (h : t.saveNamed ν.kind [("name", .text ν.new)] op = .ok u) :
    u = t.renamed ν index ∧ u.Consistent ∧ (ν.old ≠ ν.new → ν.Fits t.rows) := by
  obtain ⟨parent, before, found, after, name, hopFound, hfirst, hmerged, hfree, hstore⟩ :=
    saveNamed_eq_ok hsingle h
  obtain rfl := Except.ok.inj (hop.symm.trans hopFound)
  have haddress := Context.addresses_of_addressed hop
  rw [hname, Option.getD_some] at hfirst hfree hstore
  -- Only one record under the parent has the name.
  have hentry : (ν.parent, stored) ∈ t.entries ν.kind := List.mem_of_getElem? hstored
  obtain rfl : stored = found := by
    have hmem : stored ∈ t.collection ν.kind ν.parent := mem_collection.mpr ⟨_, hentry, .inr rfl⟩
    rw [hfirst.split, List.mem_append, List.mem_cons] at hmem
    have hothers := hkeyed.name?_ne hsingle haddress hfirst
    rcases hmem with hbefore | hfound | hafter
    · exact absurd hold (hothers stored (List.mem_append_left _ hbefore))
    · exact hfound
    · exact absurd hold (hothers stored (List.mem_append_right _ hafter))
  obtain rfl : ν.new = name := by
    have hgiven : (stored.extend [("name", .text ν.new)]).name? = some ν.new :=
      Record.name?_insert_name stored ν.new
    exact Option.some.inj (hgiven.symm.trans hmerged)
  have hfits : ν.old ≠ ν.new → ν.Fits t.rows := by
    intro hne
    refine fits_rows hkeyed hsingle haddress hnew ?_ fun hmem => hfree ⟨hne.symm, hmem⟩
    exact List.mem_filterMap.mpr ⟨stored, hfirst.mem, hfirst.named⟩
  have hindex : (t.rows ν.kind)[index]? = some (Row.of ν.kind ν.parent stored) := by
    rw [rows, List.getElem?_map, hstored]
    rfl
  have hrenamed : ν.IsRenamed ν.kind (Row.of ν.kind ν.parent stored) := ⟨rfl, rfl, hold⟩
  obtain ⟨items, hitems, hu⟩ := store_eq_ok hstore
  obtain ⟨hsettled, hfinal⟩ := settled_relabel hconsistent hsingle haddress hfits hindex hrenamed
  rw [Kind.saved_name hsingle, kept_named hconsistent hentry,
    setItems_relabeled hordered hkeyed hsingle haddress hitems hfirst, hsettled] at hu
  exact ⟨hu, hu ▸ hfinal, hfits⟩

end Tree

/-! ## Saving the record of a kind that has a single one -/

theorem Kind.saved_name_of_single {kind : Kind} (h : kind.location = .single) (t : Tree)
    (stored : Record) (name : String) :
    kind.schema.saved t stored (stored.extend [("name", .text name)]) =
      (t, kind.named name stored) := by
  have hget : ∀ field, field ≠ "name" →
      (stored.insert "name" (.text name)).get? field = stored.get? field := fun field hfield =>
    Record.get?_insert_of_ne stored _ hfield
  have hflag : ∀ field, field ≠ "name" →
      (stored.insert "name" (.text name)).flag field = stored.flag field := by
    intro field hfield
    simp only [Record.flag, hget field hfield]
  cases kind with
  | options =>
      have hregion : (stored.insert "name" (.text name)).text? "region" =
          stored.text? "region" := by
        simp only [Record.text?, hget "region" (by decide)]
      have hmoved : Options.moveLocations t stored (stored.insert "name" (.text name)) = t := by
        unfold Options.moveLocations
        rw [hregion]
        cases stored.text? "region" <;> simp
      have hpinned : (stored.flag "dynamic_subnets" &&
          !(stored.insert "name" (.text name)).flag "dynamic_subnets") = false := by
        rw [hflag "dynamic_subnets" (by decide), Bool.and_not_self]
      simp only [Kind.schema, Options.schema, Options.saved, Record.extend, List.foldl_cons,
        List.foldl_nil, hpinned, Bool.false_eq_true, if_false, hmoved]
      rfl
  | accountSettings =>
      have hkept : (stored.flag "enable" &&
          AccountSettings.isOff (stored.insert "name" (.text name))) = false := by
        rw [AccountSettings.isOff, hflag "enable" (by decide), Bool.and_not_self]
      simp only [Kind.schema, AccountSettings.schema, AccountSettings.saved, Record.extend,
        List.foldl_cons, List.foldl_nil, hkept, Bool.false_eq_true, if_false]
      rfl
  | activityTracker => rfl
  | _ => exact absurd h (by decide)

namespace Tree

variable {t : Tree}

theorem saveSingle_name (hordered : t.Ordered) (hconsistent : t.Consistent) {ν : Renaming}
    (hsingle : ν.kind.location = .single) (haddress : ν.kind.Addresses ν.parent) {stored : Record}
    (hstored : t.single? ν.kind = some stored) :
    t.saveSingle ν.kind [("name", .text ν.new)] = t.mapAll ν.relabel := by
  have htop : ν.kind.parent = none := Kind.parent_of_single hsingle
  have hentry : (none, stored) ∈ t.entries ν.kind := by
    rw [entries_of_top t htop, tops_eq_single t hsingle, hstored]
    simp
  have hvalue : t.root.get? ν.kind.tag = some (.object stored) := by
    obtain ⟨value, hvalue, hobject⟩ := Option.bind_eq_some_iff.mp hstored
    cases value with
    | object r => rw [hvalue, Option.some.inj hobject]
    | null | bool _ | number _ | text _ | list _ => cases hobject
  have hchildless : ∀ child : Kind, child.parent ≠ some ν.kind :=
    Kind.parent_ne_of_not_collection (by simp [hsingle])
  have hplaced : Value.mapPlaced ν.kind (ν.kind.named ν.new) =
      Value.mapObject (ν.kind.named ν.new) := by
    funext value
    simp [Value.mapPlaced, hsingle]
  have hlabels : t.mapAll ν.relabel =
      t.mapTop fun top r => if top = ν.kind then ν.kind.named ν.new r else r := by
    rw [Renaming.mapAll_relabel haddress, mapKind, Kind.lift_of_top htop]
    congr 1
    funext top r
    have hrenames : ν.Renames ν.kind none r := ⟨rfl, .inl hsingle⟩
    simp only [if_pos hrenames, Renaming.relabeled, Kind.mapHeld_of_childless hchildless, ite_self]
  have hrecord := reconcileRecord_named hconsistent hentry ν.new
  rw [hlabels, mapTop_ite t htop, hplaced, ← Record.insert_eq_modify hordered.1 hvalue]
  simp only [saveSingle, hstored, Option.getD_some, Kind.saved_name_of_single hsingle, hrecord]
  rfl

end Tree

end Blueprint
