import Blueprint.Proofs.Preservation

/-!
# Saving under a name

Saving puts a record back with other fields, and perhaps with another name, at the
place where it was. To the references of the tree this is a renaming of rows, in which
the record itself may mention other names than before.
-/

namespace Blueprint

theorem Row.of_insert_name (kind : Kind) (parent : Option String) (name : String) (r : Record) :
    Row.of kind parent (r.insert "name" (.text name)) =
      { Row.of kind parent r with name := some name } := by
  simp only [Row.of, Record.name?_insert_name, Row.mk.injEq, true_and]
  funext reference
  by_cases hmem : reference ∈ kind.schema.references
  · simp only [hmem, if_true, Reference.mentions,
      Record.get?_insert_of_ne _ _ (Kind.root_ne_name hmem)]
  · simp only [hmem, if_false]

theorem Kind.records_insert_name {kind child : Kind} {field : String}
    (h : child.location = .nested kind field) (value : Value) (r : Record) :
    (r.insert "name" value).records field = r.records field := by
  rw [Record.records_eq, Record.get?_insert_of_ne _ _ (holdingField_ne_name h),
    ← Record.records_eq]

namespace Renaming

variable (ν : Renaming)

/-- Whether a row is that of the record which is renamed. -/
def IsRenamed (kind : Kind) (row : Row) : Prop :=
  kind = ν.kind ∧ row.parent = ν.parent ∧ row.name = some ν.old

/-- Whether a row is held by the record which is renamed. -/
def IsHeld (kind : Kind) (row : Row) : Prop :=
  kind.parent = some ν.kind ∧ row.parent = some ν.old

instance (kind : Kind) (row : Row) : Decidable (ν.IsRenamed kind row) :=
  inferInstanceAs (Decidable (_ ∧ _ ∧ _))

/-- A row, with other mentions if it is that of the renamed record. -/
def reword (mentions : Reference → List String) (kind : Kind) (row : Row) : Row :=
  if ν.IsRenamed kind row then { row with mentions } else row

def rewordAll (mentions : Reference → List String) (rows : Rows) : Rows := fun kind =>
  (rows kind).map (ν.reword mentions kind)

variable {ν} {mentions : Reference → List String} {rows : Rows}

@[simp] theorem parent_reword (kind : Kind) (row : Row) :
    (ν.reword mentions kind row).parent = row.parent := by
  unfold reword
  split <;> rfl

@[simp] theorem name_reword (kind : Kind) (row : Row) :
    (ν.reword mentions kind row).name = row.name := by
  unfold reword
  split <;> rfl

theorem reword_of_not {kind : Kind} {row : Row} (h : ¬ν.IsRenamed kind row) :
    ν.reword mentions kind row = row := if_neg h

theorem row_of_not {kind : Kind} {row : Row} (h : ¬ν.IsRenamed kind row)
    (hheld : ¬ν.IsHeld kind row) : ν.row kind row = row := by
  unfold IsRenamed at h
  unfold IsHeld at hheld
  simp only [Renaming.row, parentOf, nameOf, h, hheld, if_false]

theorem row_reword_of_not {kind : Kind} {row : Row} (h : ¬ν.IsRenamed kind row)
    (hheld : ¬ν.IsHeld kind row) : ν.row kind (ν.reword mentions kind row) = row := by
  rw [reword_of_not h, row_of_not h hheld]

theorem row_of_same (h : ν.old = ν.new) (kind : Kind) (row : Row) : ν.row kind row = row := by
  have hparent : ν.parentOf kind row.parent = row.parent := by
    unfold parentOf
    split
    · next heq => rw [heq.2, h]
    · rfl
  have hname : ν.nameOf kind row.parent row.name = row.name := by
    unfold nameOf
    split
    · next heq => rw [heq.2.2, h]
    · rfl
  simp only [Renaming.row, hparent, hname]

theorem rows_of_same (h : ν.old = ν.new) (rows : Rows) : ν.rows rows = rows := by
  funext kind
  have hrow : ν.row kind = id := funext (row_of_same h kind)
  rw [Renaming.rows, hrow, List.map_id]

/-- What a reference reaches does not depend on the mentions of the renamed record, unless
its row is held by it. -/
theorem reach_rewordAll {kind : Kind} {row : Row} (hheld : ¬ν.IsHeld kind row)
    (reference : Reference) :
    row.reach (ν.rewordAll mentions rows) kind reference = row.reach rows kind reference := by
  refine Row.reach_eq_of_holder fun field _ => ?_
  have hfound : row.holder? (ν.rewordAll mentions rows) kind = (row.holder? rows kind).map
      fun found => (found.1, ν.reword mentions found.1 found.2) :=
    Row.holder?_map rows (ν.reword mentions) name_reword kind row
  rw [hfound, Option.bind_map]
  refine Option.bind_congr fun found hholder => ?_
  obtain ⟨hparent, _, hname⟩ := Row.mem_of_holder? hholder
  have hnot : ¬ν.IsRenamed found.1 found.2 := by
    rintro ⟨hkind, _, hold⟩
    exact hheld ⟨hkind ▸ hparent, hname.trans hold⟩
  simp only [Function.comp_apply, reword_of_not hnot]

end Renaming

namespace Tree

section

variable {t : Tree} {ν : Renaming} {items : List Value} {before after : List Record}
  {stored r : Record}

/-- Among the rows of its kind the record is the one that is renamed and reworded. -/
theorem rows_replace_self {beforeEntries afterEntries : List (Option String × Record)}
    (hplace : t.Place ν.kind ν.parent items beforeEntries afterEntries)
    (hfirst : FirstNamed ν.old (items.filterMap Value.object?) before stored after)
    (hother : ∀ x ∈ before ++ after, x.name? ≠ some ν.old) (hname : r.name? = some ν.new) :
    (t.setItems ν.kind ν.parent (replaceRecord r before.length items)).rows ν.kind =
      (t.rows ν.kind).map fun row =>
        ν.row ν.kind (ν.reword (Row.of ν.kind ν.parent r).mentions ν.kind row) := by
  have hself := ν.kind.parent_ne_self
  have hsame : ∀ row, ¬ν.IsRenamed ν.kind row →
      ν.row ν.kind (ν.reword (Row.of ν.kind ν.parent r).mentions ν.kind row) = row := by
    intro row hnot
    exact Renaming.row_reword_of_not hnot fun hisHeld => hself hisHeld.1
  have hrenamed : ν.row ν.kind (ν.reword (Row.of ν.kind ν.parent r).mentions ν.kind
      (Row.of ν.kind ν.parent stored)) = Row.of ν.kind ν.parent r := by
    have his : ν.IsRenamed ν.kind (Row.of ν.kind ν.parent stored) := ⟨rfl, rfl, hfirst.named⟩
    simp only [Renaming.reword, his, if_true, Renaming.row, Renaming.parentOf, hself, false_and,
      if_false, Renaming.nameOf, Row.parent_of, Row.name_of, hfirst.named, and_self]
    rw [← hname]
    rfl
  have hentries : ∀ entry ∈ beforeEntries ++ afterEntries,
      ν.row ν.kind (ν.reword (Row.of ν.kind ν.parent r).mentions ν.kind
        (Row.of ν.kind entry.1 entry.2)) = Row.of ν.kind entry.1 entry.2 :=
    fun entry hentry => hsame _ fun his => hplace.apart entry hentry his.2.1
  have hsiblings : ∀ x ∈ before ++ after,
      ν.row ν.kind (ν.reword (Row.of ν.kind ν.parent r).mentions ν.kind
        (Row.of ν.kind ν.parent x)) = Row.of ν.kind ν.parent x :=
    fun x hx => hsame _ fun his => hother x hx his.2.2
  rw [List.forall_mem_append] at hentries hsiblings
  rw [hplace.rows_setItems_self, records_replaceRecord r hfirst.split, hplace.rows_eq,
    hfirst.split]
  simp only [List.map_append, List.map_cons, List.map_map, Function.comp_def, hrenamed,
    List.map_congr_left hentries.1, List.map_congr_left hentries.2,
    List.map_congr_left hsiblings.1, List.map_congr_left hsiblings.2]

/-- What a record holds follows its new name, when another record takes its place that
holds the same. -/
theorem rowsHeld_replace {child : Kind} {field : String}
    (hlocation : child.location = .nested ν.kind field)
    (hother : ∀ x ∈ before ++ after, x.name? ≠ some ν.old) (hold : stored.name? = some ν.old)
    (hname : r.name? = some ν.new) {g : Record → Record}
    (hg : ∀ held, child.Agrees (g held) held)
    (hrecords : r.records field = (stored.records field).map g)
    (mentions : Reference → List String) :
    rowsHeld child field (before ++ r :: after) =
      (rowsHeld child field (before ++ stored :: after)).map fun row =>
        ν.row child (ν.reword mentions child row) := by
  have hchild : child.parent = some ν.kind := Kind.parent_eq_some_iff.mpr ⟨field, hlocation⟩
  have hne := Kind.ne_of_parent hchild
  have hnot : ∀ row, ¬ν.IsRenamed child row := fun row hrenamed => hne hrenamed.1
  have hsame : ∀ x ∈ before ++ after, (x.records field).map (Row.of child x.name?) =
      (x.records field).map fun held =>
        ν.row child (ν.reword mentions child (Row.of child x.name? held)) := by
    intro x hx
    apply List.map_congr_left
    intro held _
    exact (Renaming.row_reword_of_not (hnot _) fun hisHeld => hother x hx hisHeld.2).symm
  have hmoved : (r.records field).map (Row.of child r.name?) =
      (stored.records field).map fun held =>
        ν.row child (ν.reword mentions child (Row.of child stored.name? held)) := by
    rw [hrecords, List.map_map]
    apply List.map_congr_left
    intro held _
    rw [Function.comp_apply, (hg held).row_eq, Renaming.reword_of_not (hnot _), hname, hold]
    simp only [Renaming.row, Renaming.parentOf, Renaming.nameOf, hne, hchild, false_and,
      true_and, if_false, Row.parent_of, if_true]
    rfl
  simp only [rowsHeld, List.flatMap_append, List.flatMap_cons, List.map_append,
    List.map_flatMap, List.map_map, hmoved]
  congr 1
  · apply List.flatMap_congr
    intro x hx
    exact hsame x (List.mem_append_left _ hx)
  · congr 1
    apply List.flatMap_congr
    intro x hx
    exact hsame x (List.mem_append_right _ hx)

end

theorem fits_rows {t : Tree} (hkeyed : t.Keyed) {ν : Renaming}
    (hsingle : ν.kind.location ≠ .single) (haddress : ν.kind.Addresses ν.parent)
    (hnonempty : ν.new.isEmpty = false) (hold : ν.old ∈ t.names ν.kind ν.parent)
    (hfresh : ν.new ∉ t.names ν.kind ν.parent) : ν.Fits t.rows where
  addresses := haddress
  nonempty := hnonempty
  present := (hkeyed.mem_names_iff hsingle haddress).mp hold
  fresh row hrow hparent hname :=
    hfresh ((hkeyed.mem_names_iff hsingle haddress).mpr ⟨row, hrow, hparent, hname⟩)
  unheld kind hkind row hrow hparent := by
    have htop : ν.kind.parent = none := Kind.parent_of_holder hkind
    rw [haddress.eq_none htop] at hfresh
    exact hfresh (parent_mem_names hkind hrow hparent)
  top htop row hrow := (hkeyed.named_row hsingle hrow).1.eq_none htop

end Tree

theorem Renaming.Fits.rewordAll {ν : Renaming} {rows : Rows} (h : ν.Fits rows)
    (mentions : Reference → List String) : ν.Fits (ν.rewordAll mentions rows) where
  addresses := h.addresses
  nonempty := h.nonempty
  present := by
    obtain ⟨row, hrow, hparent, hname⟩ := h.present
    exact ⟨_, List.mem_map_of_mem hrow, by simpa using hparent, by simpa using hname⟩
  fresh row hrow := by
    obtain ⟨old, hold, rfl⟩ := List.mem_map.mp hrow
    simpa using h.fresh old hold
  unheld kind hkind row hrow := by
    obtain ⟨old, hold, rfl⟩ := List.mem_map.mp hrow
    simpa using h.unheld kind hkind old hold
  top htop row hrow := by
    obtain ⟨old, hold, rfl⟩ := List.mem_map.mp hrow
    simpa using h.top htop old hold

namespace Tree

/-- Settling the references to a renamed record leaves a consistent tree, if all that
the others mention meant something before. What the record holds is settled along. -/
theorem consistent_settled_of_rows {u : Tree} (ν : Renaming) {rows : Rows}
    (hfits : ν.old ≠ ν.new → ν.Fits rows)
    (hresolves : ∀ other, ∀ row ∈ rows other, ¬ν.IsHeld other row →
      ∀ reference ∈ other.schema.references, ∀ name ∈ row.mentions reference,
        row.Resolves rows other reference name)
    (hu : u.rows = ν.rows rows) : (u.settled ν.kind ν.parent ν.old ν.new).Consistent := by
  unfold settled
  apply consistent_reconcileChildren
  by_cases hnew : ν.new = ν.old
  · rw [if_neg fun hne => hne hnew, hu, Renaming.rows_of_same hnew.symm]
    intro other row hrow hnot
    apply hresolves other row hrow
    rwa [Renaming.IsHeld, ← hnew]
  · have hrows : (u.renameReferences ν.kind ν.parent ν.old ν.new).2.rows = ν.finalRows rows := by
      rw [renameReferences, reviseReferences_eq, rows_reviseAll, hu]
      rfl
    have hfinal := hfits (Ne.symm hnew)
    rw [if_pos hnew, hrows]
    intro other final hmemFinal hnot reference hmem name hname
    rw [Renaming.finalRows_eq] at hmemFinal
    obtain ⟨row, hrow, rfl⟩ := List.mem_map.mp hmemFinal
    have hheld : ¬ν.IsHeld other row := by
      intro hheld
      refine hnot ⟨hheld.1, ?_⟩
      rw [Renaming.parent_finalRow]
      exact if_pos hheld
    rw [hfinal.mentions_finalRow hmem hrow] at hname
    obtain ⟨mentioned, hmentioned, rfl⟩ := List.mem_map.mp hname
    exact hfinal.resolves_finalRow hmem hrow
      (hresolves other row hrow hheld reference hmem mentioned hmentioned)

end Tree

end Blueprint
