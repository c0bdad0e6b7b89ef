import Blueprint.Proofs.Saving

/-!
# Refilling

A save may bring along the records that the saved one holds, and whatever it leaves out
is gone. The references of the saved record and of its own records are settled then; all
others have to mean something still. They do if every name that is meant from outside is
brought along, and so they do if the save leaves alone what the record holds.
-/

namespace Blueprint

theorem Kind.all_targets_outside (kind : Kind) :
    (kind.schema.references.all fun reference => reference.target.parent ≠ some kind) = true := by
  cases kind <;> decide

theorem Kind.target_outside {kind : Kind} {reference : Reference}
    (h : reference ∈ kind.schema.references) : reference.target.parent ≠ some kind := by
  simpa using List.all_eq_true.mp kind.all_targets_outside reference h

theorem Kind.namesIn_eq {kind child : Kind} {field : String}
    (h : child.location = .nested kind field) (holder : Record) :
    child.namesIn holder = (holder.records field).filterMap Record.name? := by
  simp only [namesIn, holdingField, h]

namespace Tree

/-- Whether a record put in the place of another one of its kind still holds every name
that is meant from outside. -/
def KeepsMeant (t : Tree) (kind : Kind) (stored merged : Record) : Prop :=
  ∀ other ∈ Kind.all, ∀ entry ∈ t.entries other,
    ¬(other.parent = some kind ∧ entry.1 = stored.name?) →
      ∀ reference ∈ other.schema.references, reference.target.parent = some kind →
        t.mayReach other entry.1 entry.2 reference stored.name? = true →
          ∀ name ∈ reference.mentions entry.2, name ∈ reference.target.namesIn stored →
            name ∈ reference.target.namesIn merged

theorem KeepsMeant.congr {t : Tree} {kind : Kind} {stored merged r : Record}
    (h : t.KeepsMeant kind stored merged)
    (hsame : ∀ child : Kind, child.parent = some kind → child.namesIn merged = child.namesIn r) :
    t.KeepsMeant kind stored r := by
  intro other hother entry hentry hheld reference hmem htarget hreach name hmention hname
  rw [← hsame reference.target htarget]
  exact h other hother entry hentry hheld reference hmem htarget hreach name hmention hname

/-! ## Rows with another record in place of a stored one -/

section

variable {t : Tree} {ν : Renaming} {items : List Value} {before after : List Record}
  {stored r : Record}

/-- The rows in which a record stands at the place of another one, still under its old
name. -/
def rowsHolding (t : Tree) (ν : Renaming) (items : List Value) (index : Nat) (r : Record) : Rows :=
  (t.setItems ν.kind ν.parent (replaceRecord (r.insert "name" (.text ν.old)) index items)).rows

variable {beforeEntries afterEntries : List (Option String × Record)}

theorem rowsHolding_of_ne (hplace : t.Place ν.kind ν.parent items beforeEntries afterEntries)
    (hfirst : FirstNamed ν.old (items.filterMap Value.object?) before stored after)
    (hother : ∀ x ∈ before ++ after, x.name? ≠ some ν.old) {other : Kind}
    (hchild : other.parent ≠ some ν.kind) :
    t.rowsHolding ν items before.length r other =
      ν.rewordAll (Row.of ν.kind ν.parent r).mentions t.rows other := by
  by_cases hne : other = ν.kind
  · subst hne
    have hself := rows_replace_self (ν := { ν with new := ν.old }) hplace hfirst hother
      (r.name?_insert_name ν.old)
    rw [rowsHolding, hself, Renaming.rewordAll, Row.of_insert_name]
    apply List.map_congr_left
    intro row _
    exact Renaming.row_of_same rfl _ _
  · rw [rowsHolding, hplace.rows_setItems _ other hne hchild, Renaming.rewordAll]
    have hsame : ∀ row ∈ t.rows other,
        ν.reword (Row.of ν.kind ν.parent r).mentions other row = id row :=
      fun row _ => Renaming.reword_of_not fun his => hne his.1
    rw [List.map_congr_left hsame, List.map_id]

theorem rowsHolding_of_child
    (hfirst : FirstNamed ν.old (items.filterMap Value.object?) before stored after) {child : Kind}
    {field : String} (hlocation : child.location = .nested ν.kind field) :
    t.rowsHolding ν items before.length r child =
      rowsHeld child field (before ++ r.insert "name" (.text ν.old) :: after) := by
  rw [rowsHolding, rows_setItems_held hlocation, records_replaceRecord _ hfirst.split]

/-- What the record does not hold itself is held as before. -/
theorem mem_rows_of_rowsHolding (hitems : t.items? ν.kind ν.parent = some items)
    (hfirst : FirstNamed ν.old (items.filterMap Value.object?) before stored after) {child : Kind}
    (hchild : child.parent = some ν.kind) {row : Row}
    (hrow : row ∈ t.rowsHolding ν items before.length r child) (hheld : ¬ν.IsHeld child row) :
    row ∈ t.rows child := by
  obtain ⟨field, hlocation⟩ := Kind.parent_eq_some_iff.mp hchild
  rw [rowsHolding_of_child hfirst hlocation, mem_rowsHeld] at hrow
  obtain ⟨holder, hholder, held, hmem, rfl⟩ := hrow
  rw [rows_held hlocation hitems, hfirst.split, mem_rowsHeld]
  rcases List.mem_append.mp hholder with hbefore | hrest
  · exact ⟨holder, List.mem_append_left _ hbefore, held, hmem, rfl⟩
  rcases List.mem_cons.mp hrest with rfl | hafter
  · exact absurd ⟨hchild, r.name?_insert_name ν.old⟩ hheld
  · exact ⟨holder, List.mem_append_right _ (List.mem_cons_of_mem _ hafter), held, hmem, rfl⟩

/-- A record with a new name stands for itself under the old one, with a renaming. -/
theorem rows_setItems_named (hplace : t.Place ν.kind ν.parent items beforeEntries afterEntries)
    (hfirst : FirstNamed ν.old (items.filterMap Value.object?) before stored after)
    (hother : ∀ x ∈ before ++ after, x.name? ≠ some ν.old) (hname : r.name? = some ν.new) :
    (t.setItems ν.kind ν.parent (replaceRecord r before.length items)).rows =
      ν.rows (t.rowsHolding ν items before.length r) := by
  funext other
  by_cases hchild : other.parent = some ν.kind
  · obtain ⟨field, hlocation⟩ := Kind.parent_eq_some_iff.mp hchild
    have hrecords : r.records field =
        ((r.insert "name" (.text ν.old)).records field).map fun held => held := by
      rw [Kind.records_insert_name hlocation, List.map_id']
    have hheld := rowsHeld_replace hlocation hother (r.name?_insert_name ν.old) hname
      (Kind.Agrees.refl other) hrecords (Row.of ν.kind ν.parent r).mentions
    have hnot : ∀ row, ¬ν.IsRenamed other row := fun row his => Kind.ne_of_parent hchild his.1
    simp only [Renaming.reword_of_not (hnot _)] at hheld
    rw [rows_setItems_held hlocation, records_replaceRecord r hfirst.split, hheld, Renaming.rows,
      rowsHolding_of_child hfirst hlocation]
  · rw [Renaming.rows, rowsHolding_of_ne hplace hfirst hother hchild, Renaming.rewordAll,
      List.map_map]
    by_cases hne : other = ν.kind
    · subst hne
      exact rows_replace_self hplace hfirst hother hname
    · have hsame : ∀ row ∈ t.rows other,
          (ν.row other ∘ ν.reword (Row.of ν.kind ν.parent r).mentions other) row = id row :=
        fun row _ => Renaming.row_reword_of_not (fun his => hne his.1)
          fun hisHeld => hchild hisHeld.1
      rw [hplace.rows_setItems _ other hne hchild, List.map_congr_left hsame, List.map_id]

/-- A name that is still held means what it meant, for whoever is not held itself. -/
theorem resolves_rowsHolding (hitems : t.items? ν.kind ν.parent = some items)
    (hplace : t.Place ν.kind ν.parent items beforeEntries afterEntries)
    (hfirst : FirstNamed ν.old (items.filterMap Value.object?) before stored after)
    (hother : ∀ x ∈ before ++ after, x.name? ≠ some ν.old) {other : Kind} {row : Row}
    (hheld : ¬ν.IsHeld other row) {reference : Reference} {name : String}
    (hkeeps : reference.target.parent = some ν.kind →
      (row.reach t.rows other reference).admits (some ν.old) = true →
        name ∈ reference.target.namesIn stored → name ∈ reference.target.namesIn r)
    (h : row.Resolves t.rows other reference name) :
    row.Resolves (t.rowsHolding ν items before.length r) other reference name := by
  have hreach : row.reach (t.rowsHolding ν items before.length r) other reference =
      row.reach t.rows other reference := by
    have hreworded : row.reach (ν.rewordAll (Row.of ν.kind ν.parent r).mentions t.rows) other
        reference = row.reach t.rows other reference := Renaming.reach_rewordAll hheld reference
    rw [← hreworded]
    refine Row.reach_congr (fun parentKind hparent => ?_) row reference
    apply rowsHolding_of_ne hplace hfirst hother
    rw [Kind.parent_of_holder hparent]
    exact nofun
  rcases h with hkeep | ⟨target, htarget, hadmits, hname⟩
  · exact .inl hkeep
  right
  rw [hreach]
  by_cases hchild : reference.target.parent = some ν.kind
  · obtain ⟨field, hlocation⟩ := Kind.parent_eq_some_iff.mp hchild
    rw [rows_held hlocation hitems, hfirst.split, mem_rowsHeld] at htarget
    obtain ⟨holder, hholder, held, hmem, rfl⟩ := htarget
    rw [rowsHolding_of_child hfirst hlocation]
    rcases List.mem_append.mp hholder with hbefore | hrest
    · exact ⟨_, mem_rowsHeld.mpr ⟨holder, List.mem_append_left _ hbefore, held, hmem, rfl⟩,
        hadmits, hname⟩
    rcases List.mem_cons.mp hrest with rfl | hafter
    · -- The name meant something that the record held, and it still holds such a record.
      rw [Row.parent_of, hfirst.named] at hadmits
      have hstill := hkeeps hchild hadmits (by
        rw [Kind.namesIn_eq hlocation]
        exact List.mem_filterMap.mpr ⟨held, hmem, hname⟩)
      rw [Kind.namesIn_eq hlocation, ← Kind.records_insert_name hlocation (.text ν.old)] at hstill
      obtain ⟨new, hnew, hnewName⟩ := List.mem_filterMap.mp hstill
      refine ⟨_, mem_rowsHeld.mpr ⟨_, List.mem_append_cons_self, new, hnew, rfl⟩, ?_, hnewName⟩
      rwa [Row.parent_of, Record.name?_insert_name]
    · exact ⟨_, mem_rowsHeld.mpr ⟨holder, List.mem_append_right _ (List.mem_cons_of_mem _ hafter),
        held, hmem, rfl⟩, hadmits, hname⟩
  · rw [rowsHolding_of_ne hplace hfirst hother hchild]
    exact ⟨_, List.mem_map_of_mem htarget, by rwa [Renaming.parent_reword],
      by rwa [Renaming.name_reword]⟩

theorem fits_rowsHolding (hkeyed : t.Keyed) (hsingle : ν.kind.location ≠ .single)
    (haddress : ν.kind.Addresses ν.parent)
    (hplace : t.Place ν.kind ν.parent items beforeEntries afterEntries)
    (hfirst : FirstNamed ν.old (items.filterMap Value.object?) before stored after)
    (hother : ∀ x ∈ before ++ after, x.name? ≠ some ν.old) (hnonempty : ν.new.isEmpty = false)
    (hne : ν.old ≠ ν.new) (hfresh : ν.new ∉ t.names ν.kind ν.parent) :
    ν.Fits (t.rowsHolding ν items before.length r) := by
  have hcollection := hplace.collection_eq
  rw [hfirst.split] at hcollection
  have hold : ν.old ∈ t.names ν.kind ν.parent :=
    List.mem_filterMap.mpr ⟨stored, by simp [hcollection], hfirst.named⟩
  have hfits := (fits_rows hkeyed hsingle haddress hnonempty hold hfresh).rewordAll
    (Row.of ν.kind ν.parent r).mentions
  have hself := rowsHolding_of_ne (r := r) hplace hfirst hother ν.kind.parent_ne_self
  refine ⟨haddress, hnonempty, by rw [hself]; exact hfits.present, by rw [hself]; exact hfits.fresh,
    ?_, by rw [hself]; exact hfits.top⟩
  intro child hchild row hrow hparent
  obtain ⟨field, hlocation⟩ := Kind.parent_eq_some_iff.mp hchild
  rw [rowsHolding_of_child hfirst hlocation, mem_rowsHeld] at hrow
  obtain ⟨holder, hholder, held, _, rfl⟩ := hrow
  rw [Row.parent_of] at hparent
  have hname : holder ∈ before ++ stored :: after → False := fun hmem =>
    hfresh (List.mem_filterMap.mpr ⟨holder, hcollection ▸ hmem, hparent⟩)
  rcases List.mem_append.mp hholder with hbefore | hrest
  · exact hname (List.mem_append_left _ hbefore)
  rcases List.mem_cons.mp hrest with rfl | hafter
  · rw [Record.name?_insert_name] at hparent
    exact hne (Option.some.inj hparent)
  · exact hname (List.mem_append_right _ (List.mem_cons_of_mem _ hafter))

end

theorem KeepsMeant.mem_namesIn {t : Tree} {kind : Kind} {stored merged : Record}
    (h : t.KeepsMeant kind stored merged) {old : String} (hold : stored.name? = some old)
    {other : Kind} {row : Row} (hrow : row ∈ t.rows other)
    (hheld : ¬(other.parent = some kind ∧ row.parent = some old)) {reference : Reference}
    (hmem : reference ∈ other.schema.references) (htarget : reference.target.parent = some kind)
    (hadmits : (row.reach t.rows other reference).admits (some old) = true) {name : String}
    (hmention : name ∈ row.mentions reference) (hname : name ∈ reference.target.namesIn stored) :
    name ∈ reference.target.namesIn merged := by
  obtain ⟨parent, r, hentry, rfl⟩ := mem_rows.mp hrow
  refine h other other.mem_all (parent, r) hentry (hold ▸ hheld) reference hmem htarget ?_ name ?_
    hname
  · rw [mayReach, reach_eq t hmem, hold]
    exact Reach.meets_of_admits hadmits
  · rwa [Row.mentions_of hmem] at hmention

private theorem isEmpty_of_given {stored fields : Record} {old name : String}
    (hold : stored.name? = some old) (hmerged : (stored.extend fields).name? = some name)
    (hfilled : ∀ value, fields.givenName = some value →
      ∃ name, value = .text name ∧ name.isEmpty = false)
    (hne : old ≠ name) : name.isEmpty = false := by
  rw [Record.name?_extend] at hmerged
  cases hgiven : fields.givenName with
  | none =>
      rw [hgiven, hold] at hmerged
      exact absurd (Option.some.inj hmerged) hne
  | some value =>
      obtain ⟨given, rfl, hgivenFilled⟩ := hfilled value hgiven
      rw [hgiven] at hmerged
      obtain rfl := Option.some.inj hmerged
      exact hgivenFilled

theorem namesIn_kept (t : Tree) {kind child : Kind} (hchild : child.parent = some kind)
    (parent : Option String) (old : String) {draft : Draft} {merged : Record}
    (h : kind.Agrees draft.record merged) :
    child.namesIn (t.kept kind parent old draft) = child.namesIn merged := by
  obtain ⟨field, hlocation⟩ := Kind.parent_eq_some_iff.mp hchild
  obtain ⟨g, hg, hrecords⟩ := t.records_kept hlocation parent old draft
  have hsame : draft.record.records field = merged.records field := by
    rw [Record.records_eq, Record.records_eq, h.held child field hlocation]
  rw [Kind.namesIn_eq hlocation, Kind.namesIn_eq hlocation, hrecords, hsame, List.filterMap_map]
  apply List.filterMap_congr
  intro held _
  exact (hg held).name?_eq

/-- Putting a record in the place of another one and settling the references to it leaves
a consistent tree, if it mentions what is there and still holds what is meant. -/
theorem consistent_settled_refilled {t : Tree} (hkeyed : t.Keyed) (ht : t.Consistent) {ν : Renaming}
    (hsingle : ν.kind.location ≠ .single) (haddress : ν.kind.Addresses ν.parent)
    {items : List Value} (hitems : t.items? ν.kind ν.parent = some items)
    {before after : List Record} {stored r : Record}
    (hfirst : FirstNamed ν.old (t.collection ν.kind ν.parent) before stored after)
    (hname : r.name? = some ν.new) (hnonempty : ν.old ≠ ν.new → ν.new.isEmpty = false)
    (hfree : ¬(ν.new ≠ ν.old ∧ ν.new ∈ t.names ν.kind ν.parent))
    (hself : ∀ reference ∈ ν.kind.schema.references,
      ∀ name ∈ (Row.of ν.kind ν.parent r).mentions reference,
        (Row.of ν.kind ν.parent r).Resolves t.rows ν.kind reference name)
    (hmeant : t.KeepsMeant ν.kind stored r) :
    ((t.setItems ν.kind ν.parent (replaceRecord r before.length items)).settled ν.kind ν.parent
      ν.old ν.new).Consistent := by
  obtain ⟨beforeEntries, afterEntries, hplace⟩ := hkeyed.exists_place haddress hitems
  have hother := hkeyed.name?_ne hsingle haddress hfirst
  rw [hplace.collection_eq] at hfirst
  -- What the rows of the tree mention is there with the new record in its place.
  have hstored : ∀ other, ∀ row ∈ t.rows other, ¬ν.IsHeld other row →
      ∀ reference ∈ other.schema.references, ∀ name ∈ row.mentions reference,
        row.Resolves (t.rowsHolding ν items before.length r) other reference name := by
    intro other row hrow hheld reference hmem name hmention
    refine resolves_rowsHolding hitems hplace hfirst hother hheld ?_
      ((consistent_iff t).mp ht other row hrow reference hmem name hmention)
    intro htarget hadmits hin
    exact hmeant.mem_namesIn hfirst.named hrow hheld hmem htarget hadmits hmention hin
  refine consistent_settled_of_rows ν (fun hne => fits_rowsHolding hkeyed hsingle haddress hplace
    hfirst hother (hnonempty hne) hne fun hmem => hfree ⟨hne.symm, hmem⟩) ?_
    (rows_setItems_named hplace hfirst hother hname)
  intro other row hrow hheld reference hmem name hmention
  by_cases hchild : other.parent = some ν.kind
  · exact hstored other row (mem_rows_of_rowsHolding hitems hfirst hchild hrow hheld) hheld
      reference hmem name hmention
  · rw [rowsHolding_of_ne hplace hfirst hother hchild] at hrow
    obtain ⟨old, hold, rfl⟩ := List.mem_map.mp hrow
    by_cases his : ν.IsRenamed other old
    · obtain ⟨rfl, hparent, _⟩ := id his
      rw [Renaming.reword, if_pos his] at hheld hmention ⊢
      have hresolves :
          { old with mentions := (Row.of ν.kind ν.parent r).mentions }.Resolves t.rows ν.kind
            reference name :=
        (hself reference hmem name hmention).congr hparent.symm rfl
      exact resolves_rowsHolding hitems hplace hfirst hother hheld
        (fun htarget => absurd htarget (Kind.target_outside hmem)) hresolves
    · rw [Renaming.reword_of_not his] at hheld hmention ⊢
      exact hstored other old hold hheld reference hmem name hmention

/-- Saving keeps a tree consistent if the record still holds what is meant from outside. -/
theorem consistent_saveNamed_of_keepsMeant {t u : Tree} (hkeyed : t.Keyed) (ht : t.Consistent)
    {kind : Kind} {fields : Record} {op : Context} (hsingle : kind.location ≠ .single)
    (hmeant : ∀ parent stored, op.addressed kind = .ok parent →
      t.find? kind parent (op.name.getD "") = some stored →
        t.KeepsMeant kind stored (stored.extend fields))
    (hfilled : ∀ value, fields.givenName = some value →
      ∃ name, value = .text name ∧ name.isEmpty = false)
    (h : t.saveNamed kind fields op = .ok u) : u.Consistent := by
  obtain ⟨parent, before, stored, after, name, hop, hfirst, hmerged, hfree, hstore⟩ :=
    saveNamed_eq_ok hsingle h
  obtain ⟨items, hitems, rfl⟩ := store_eq_ok hstore
  have hsaved := (Kind.saved_agrees hsingle t stored (stored.extend fields)).2
  generalize (kind.schema.saved t stored (stored.extend fields)).2 = saved at hsaved ⊢
  refine consistent_settled_refilled (ν := ⟨kind, parent, op.name.getD "", name⟩) hkeyed ht hsingle
    (Context.addresses_of_addressed hop) hitems hfirst ?_ ?_ hfree ?_ ?_
  · rw [name?_kept, hsaved.name?_eq, hmerged]
  · exact isEmpty_of_given hfirst.named hmerged hfilled
  · intro reference hmem mentioned hmentioned
    rw [row_kept] at hmentioned ⊢
    exact resolves_of_left hmem hmentioned
  · exact (hmeant parent stored hop hfirst.find?).congr fun child hchild =>
      (t.namesIn_kept hchild parent _ hsaved).symm

theorem keepsMeant_of_sparesHeld {kind : Kind} {fields : Record}
    (h : kind.sparesHeld fields = true) (t : Tree) (stored : Record) :
    t.KeepsMeant kind stored (stored.extend fields) := by
  intro other _ entry _ _ reference _ htarget _ name _ hname
  obtain ⟨field, hlocation⟩ := Kind.parent_eq_some_iff.mp htarget
  rw [Kind.namesIn_eq hlocation] at hname ⊢
  rwa [Record.records_eq, Record.get?_extend_of_none (Kind.get?_of_sparesHeld h hlocation),
    ← Record.records_eq]

theorem consistent_saveNamed {t u : Tree} (hkeyed : t.Keyed) (ht : t.Consistent) {kind : Kind}
    {fields : Record} {op : Context} (hsingle : kind.location ≠ .single)
    (hspares : kind.sparesHeld fields = true)
    (hfilled : ∀ value, fields.givenName = some value →
      ∃ name, value = .text name ∧ name.isEmpty = false)
    (h : t.saveNamed kind fields op = .ok u) : u.Consistent :=
  consistent_saveNamed_of_keepsMeant hkeyed ht hsingle
    (fun _ stored _ _ => keepsMeant_of_sparesHeld hspares t stored) hfilled h

end Tree

end Blueprint
