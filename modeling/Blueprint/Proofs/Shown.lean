import Blueprint.Proofs.Catalog

/-!
# Trees that show a catalog

A tree shows a catalog if its records have the names that are listed. A call does to
such a tree what it does to the catalog, and both give the same answer.
-/

namespace Blueprint

/-! ## Showing -/

namespace Tree

/-- The records of a kind have the names that a catalog lists, and their lists can be
written. -/
structure Shows (t : Tree) (c : Catalog) (kind : Kind) : Prop where
  lists : t.HasLists kind
  labels_eq : ∀ parent, kind.Addresses parent → t.labels kind parent = (c kind parent).map some

namespace Shows

variable {t : Tree} {c : Catalog} {kind : Kind} {parent : Option String}

theorem names_eq (h : t.Shows c kind) (haddress : kind.Addresses parent) :
    t.names kind parent = c kind parent := by
  rw [names_eq_labels, h.labels_eq parent haddress, List.filterMap_map]
  exact List.filterMap_some

theorem named (h : t.Shows c kind) (haddress : kind.Addresses parent) :
    ∀ r ∈ t.collection kind parent, ∃ name, r.name? = some name := by
  intro r hr
  have hlabel : r.name? ∈ t.labels kind parent := List.mem_map_of_mem hr
  rw [h.labels_eq parent haddress] at hlabel
  obtain ⟨name, _, hname⟩ := List.mem_map.mp hlabel
  exact ⟨name, hname.symm⟩

theorem congr {d : Catalog} (h : t.Shows c kind)
    (hd : ∀ parent, kind.Addresses parent → d kind parent = c kind parent) : t.Shows d kind :=
  ⟨h.lists, fun parent haddress => by rw [h.labels_eq parent haddress, hd parent haddress]⟩

theorem reviseAll (h : t.Shows c kind) (judge : Judge) : (t.reviseAll judge).Shows c kind :=
  ⟨h.lists.reviseAll judge, fun parent haddress => by
    rw [labels_reviseAll, h.labels_eq parent haddress]⟩

theorem settled (h : t.Shows c kind) (target : Kind) (parent : Option String) (old new : String) :
    (t.settled target parent old new).Shows c kind :=
  settled_preserves (P := fun u => u.Shows c kind) (fun _ judge hu => hu.reviseAll judge) h target
    parent old new

theorem dropAllReferences (h : t.Shows c kind) (target : Kind) (parent : Option String)
    (removed : Record) : (t.dropAllReferences target parent removed).2.Shows c kind :=
  dropAllReferences_preserves (P := fun u => u.Shows c kind)
    (fun _ judge hu => hu.reviseAll judge) h target parent removed

/-- What is written shows in the catalog, except in what the records hold. -/
theorem setItems {items new : List Value} {before after : List (Option String × Record)}
    {names : List String} {other : Kind} (h : t.Shows c other) (hother : other.parent ≠ some kind)
    (haddress : kind.Addresses parent) (hplace : t.Place kind parent items before after)
    (hitems : t.items? kind parent = some items)
    (hnew : (new.filterMap Value.object?).map Record.name? = names.map some) :
    (t.setItems kind parent new).Shows (c.put kind parent names) other := by
  refine ⟨h.lists.setItems hitems fun field hlocation => ?_, fun q hq => ?_⟩
  · exact absurd (Kind.parent_eq_some_iff.mpr ⟨field, hlocation⟩) hother
  · unfold Catalog.put
    by_cases hkind : other = kind
    · subst hkind
      by_cases hparent : q = parent
      · subst hparent
        rw [hplace.labels_setItems, hnew, if_pos ⟨rfl, rfl⟩]
      · rw [if_neg fun hsame => hparent hsame.2, ← h.labels_eq q hq]
        cases q with
        | none => exact absurd (haddress.eq_none (by simpa [Kind.Addresses] using hq)).symm hparent
        | some name => exact hplace.labels_setItems_of_ne new hparent
    · rw [if_neg fun hsame => hkind hsame.1, ← h.labels_eq q hq]
      exact labels_congr (hplace.rows_setItems new other hkind hother) q

end Shows

/-! ## What records hold -/

@[simp] theorem heldUnder_nil (field name : String) : heldUnder [] field name = [] := rfl

theorem heldUnder_append (first second : List Record) (field name : String) :
    heldUnder (first ++ second) field name =
      heldUnder first field name ++ heldUnder second field name := by
  simp [heldUnder]

theorem heldUnder_cons (holder : Record) (rest : List Record) (field name : String) :
    heldUnder (holder :: rest) field name =
      (if holder.name? = some name then holder.records field else []) ++
        heldUnder rest field name := by
  unfold heldUnder
  by_cases h : holder.name? = some name <;> simp [h]

theorem heldUnder_eq_nil {holders : List Record} {name : String}
    (h : ∀ holder ∈ holders, holder.name? ≠ some name) (field : String) :
    heldUnder holders field name = [] := by
  have hnone : holders.filter (fun holder => holder.name? = some name) = [] := by
    rw [List.filter_eq_nil_iff]
    simpa using h
  simp [heldUnder, hnone]

end Tree

/-! ## The same answers -/

/-- Two outcomes that are the same error, or results that belong together. -/
inductive Matches {α β : Type} (R : α → β → Prop) :
    Except StoreError α → Except StoreError β → Prop
  | ok {a : α} {b : β} (h : R a b) : Matches R (.ok a) (.ok b)
  | error (e : StoreError) : Matches R (.error e) (.error e)

theorem Matches.map_eq {α β : Type} {R : α → β → Prop} {first : Except StoreError α}
    {second : Except StoreError β} (h : Matches R first second) :
    first.map (fun _ => ()) = second.map fun _ => () := by
  cases h <;> rfl

theorem Matches.mono {α β : Type} {R S : α → β → Prop} (hRS : ∀ a b, R a b → S a b)
    {first : Except StoreError α} {second : Except StoreError β} (h : Matches R first second) :
    Matches S first second := by
  cases h with
  | ok h => exact .ok (hRS _ _ h)
  | error e => exact .error e

/-- Every kind that a tree shows is shown by a tree that follows it, the held kinds if
the given fields leave them out. -/
def Follows (t : Tree) (c : Catalog) (kind : Kind) (fields : Record) (u : Tree) (d : Catalog) :
    Prop :=
  ∀ other, other.location ≠ .single → t.Shows c other →
    (other.parent = some kind → kind.sparesHeld fields = true) → u.Shows d other

/-- The parent of a kind, if it has one, is shown. -/
def ParentShown (t : Tree) (c : Catalog) (kind : Kind) : Prop :=
  ∀ parentKind, kind.parent = some parentKind → t.Shows c parentKind

namespace Tree

theorem hasParent_iff {c : Catalog} {kind : Kind} {parent : Option String} :
    c.hasParent kind parent = true ↔
      ∀ parentKind name, kind.parent = some parentKind → parent = some name →
        name ∈ c parentKind none := by
  unfold Catalog.hasParent
  cases kind.parent with
  | none => simp
  | some parentKind =>
      cases parent with
      | none => simp
      | some name => simp

theorem isSome_items?_iff {t : Tree} {c : Catalog} {kind : Kind} {parent : Option String}
    (h : t.Shows c kind) (hparent : ParentShown t c kind) (haddress : kind.Addresses parent)
    (hsingle : kind.location ≠ .single) :
    (t.items? kind parent).isSome ↔ c.hasParent kind parent = true := by
  rw [h.lists.isSome_items? haddress hsingle, hasParent_iff]
  refine forall_congr' fun parentKind => forall_congr' fun name => forall_congr' fun hkind => ?_
  have htop : parentKind.parent = none := Kind.parent_of_holder hkind
  rw [(hparent parentKind hkind).names_eq (Kind.addresses_none htop)]

theorem Shows.map_name? {t : Tree} {c : Catalog} {kind : Kind} {parent : Option String}
    (h : t.Shows c kind) (haddress : kind.Addresses parent) {items : List Value}
    {before after : List (Option String × Record)}
    (hplace : t.Place kind parent items before after) :
    (items.filterMap Value.object?).map Record.name? = (c kind parent).map some := by
  rw [← hplace.labels_eq, h.labels_eq parent haddress]

theorem exists_place_of_shown {t : Tree} {c : Catalog} {kind : Kind} {parent : Option String}
    {items : List Value} (hdistinct : c.Distinct) (hparent : ParentShown t c kind)
    (haddress : kind.Addresses parent) (hitems : t.items? kind parent = some items) :
    ∃ before after, t.Place kind parent items before after := by
  refine exists_place haddress (fun parentKind hkind => ?_) hitems
  have htop : parentKind.parent = none := Kind.parent_of_holder hkind
  rw [(hparent parentKind hkind).names_eq (Kind.addresses_none htop)]
  exact hdistinct parentKind none (Kind.addresses_none htop)

theorem Shows.heldUnder_eq {t : Tree} {c : Catalog} {child kind : Kind} {field : String}
    (h : t.Shows c child) (hlocation : child.location = .nested kind field) (name : String) :
    (heldUnder (t.tops kind) field name).map Record.name? = (c child (some name)).map some := by
  have hparent : child.parent = some kind := Kind.parent_eq_some_iff.mpr ⟨field, hlocation⟩
  rw [← labels_of_nested t hlocation]
  exact h.labels_eq (some name) (by simp [Kind.Addresses, hparent])

theorem shows_of_heldUnder {t : Tree} {c : Catalog} {child kind : Kind} {field : String}
    (hlocation : child.location = .nested kind field) (hlists : t.HasLists child)
    (h : ∀ name, (heldUnder (t.tops kind) field name).map Record.name? =
      (c child (some name)).map some) : t.Shows c child := by
  have hparent : child.parent = some kind := Kind.parent_eq_some_iff.mpr ⟨field, hlocation⟩
  refine ⟨hlists, fun parent haddress => ?_⟩
  obtain ⟨name, rfl⟩ := haddress.eq_some hparent
  rw [labels_of_nested t hlocation, h]

/-- What records hold shows in the catalog after their list is written. -/
theorem shows_held {t : Tree} {c d : Catalog} {kind child : Kind} {field : String}
    {parent : Option String} {items new : List Value} (h : t.Shows c child)
    (hlocation : child.location = .nested kind field)
    (hitems : t.items? kind parent = some items)
    (hlists : ∀ r ∈ new.filterMap Value.object?,
      r ∈ items.filterMap Value.object? ∨ (itemsIn? field r).isSome)
    (hheld : ∀ name, (heldUnder (new.filterMap Value.object?) field name).map Record.name? =
      (d child (some name)).map some) : (t.setItems kind parent new).Shows d child := by
  have hcollection : kind.location = .collection :=
    Kind.location_of_parent (Kind.parent_eq_some_iff.mpr ⟨field, hlocation⟩)
  apply shows_of_heldUnder hlocation
  · apply h.lists.setItems hitems
    intro other hother r hr
    rw [hlocation] at hother
    obtain rfl := (Location.nested.inj hother).2
    rcases hlists r hr with hold | hsome
    · rw [← tops_of_items? hcollection hitems] at hold
      exact (hasLists_nested hlocation).mp h.lists r hold
    · exact hsome
  · simpa only [tops_setItems_of_collection hcollection, if_true] using hheld

/-! ## Creating -/

private theorem shows_append_held {t : Tree} {c : Catalog} {kind child : Kind}
    {parent : Option String} {items : List Value} {fields : Record} {names : List String}
    (h : t.Shows c child) (hchild : child.parent = some kind)
    (hitems : t.items? kind parent = some items) (hspares : kind.sparesHeld fields = true) :
    (t.setItems kind parent (items ++ [.object (Draft.recordOf kind fields parent)])).Shows
      (c.put kind parent names) child := by
  obtain ⟨field, hlocation⟩ := Kind.parent_eq_some_iff.mp hchild
  have hrecord := Draft.itemsIn?_recordOf hspares hlocation parent
  have htops := tops_of_items? (Kind.location_of_parent hchild) hitems
  apply shows_held h hlocation hitems
  · intro r hr
    rw [List.filterMap_append] at hr
    rcases List.mem_append.mp hr with hold | hnew
    · exact .inl hold
    · obtain rfl := List.mem_singleton.mp hnew
      exact .inr (by rw [hrecord]; rfl)
  · intro name
    rw [Catalog.put_held hchild, ← h.heldUnder_eq hlocation, List.filterMap_append,
      heldUnder_append, htops]
    simp [Value.object?, heldUnder_cons, records_of_itemsIn? hrecord]

/-- A new record adds its name to the catalog. -/
theorem create_matches {t : Tree} {c : Catalog} (hdistinct : c.Distinct) {kind : Kind}
    (hkind : kind.location ≠ .single → t.Shows c kind) (hparent : ParentShown t c kind)
    (fields : Record) (op : Context) :
    Matches (Follows t c kind fields) (t.create kind fields op) (c.create kind fields op) := by
  rw [create_eq, Catalog.create]
  by_cases hsingle : kind.location = .single
  · simp only [hsingle, if_true]
    exact .error _
  · have hshown := hkind hsingle
    simp only [hsingle, if_false]
    cases hop : op.addressed kind with
    | error e => exact .error e
    | ok parent =>
        have haddress := Context.addresses_of_addressed hop
        simp only [bind, Except.bind]
        cases hname : fields.givenName.bind Value.text? with
        | none => exact .error _
        | some name =>
            simp only [append_eq, hshown.names_eq haddress]
            by_cases hmem : name ∈ c kind parent
            · simp only [hmem, if_true]
              exact .error _
            · have hiff := isSome_items?_iff hshown hparent haddress hsingle
              simp only [hmem, if_false]
              cases hitems : t.items? kind parent with
              | none =>
                  rw [hitems] at hiff
                  have hnone : c.hasParent kind parent = false := by simpa using hiff
                  simp only [hnone, Bool.false_eq_true, if_false]
                  exact .error _
              | some items =>
                  rw [hitems] at hiff
                  simp only [hiff.mp rfl, if_true]
                  refine .ok fun other _ hother hspares => ?_
                  obtain ⟨before, after, hplace⟩ :=
                    exists_place_of_shown hdistinct hparent haddress hitems
                  by_cases hchild : other.parent = some kind
                  · exact shows_append_held hother hchild hitems (hspares hchild)
                  · refine hother.setItems hchild haddress hplace hitems ?_
                    have hlabels := hshown.map_name? haddress hplace
                    simp [hlabels, Draft.name?_recordOf, hname, Value.object?]

/-! ## Saving -/

private theorem map_name?_rename {names : List String} (hnodup : names.Nodup)
    {before after : List Record} {stored r : Record} {old new : String}
    (h : (before ++ stored :: after).map Record.name? = names.map some)
    (hstored : stored.name? = some old) (hr : r.name? = some new) :
    (before ++ r :: after).map Record.name? =
      (names.map fun name => if name = old then new else name).map some := by
  have hother := name?_ne_of_distinct hnodup h hstored
  have hrename : (names.map fun name => if name = old then new else name).map some =
      (names.map some).map (Option.map fun name => if name = old then new else name) := by
    simp [Function.comp_def]
  have hsame : ∀ other ∈ before ++ after, other.name?.map
      (fun name => if name = old then new else name) = other.name? := by
    intro other hmem
    cases hname : other.name? with
    | none => rfl
    | some name =>
        have hne : name ≠ old := fun e => hother other hmem (hname.trans (congrArg some e))
        simp [hne]
  rw [hrename, ← h, List.map_map]
  simp only [List.map_append, List.map_cons, Function.comp_apply, hstored, hr, Option.map_some,
    if_true]
  congr 1
  · apply List.map_congr_left
    intro other hmem
    exact (hsame other (List.mem_append_left _ hmem)).symm
  · congr 1
    apply List.map_congr_left
    intro other hmem
    exact (hsame other (List.mem_append_right _ hmem)).symm

private theorem heldUnder_rename {before after : List Record} {stored r : Record}
    {old new field : String}
    (hold : ∀ other ∈ before ++ after, other.name? ≠ some old)
    (hnew : ∀ other ∈ before ++ after, other.name? ≠ some new)
    (hstored : stored.name? = some old) (hr : r.name? = some new)
    (hheld : (r.records field).map Record.name? = (stored.records field).map Record.name?)
    (name : String) :
    (heldUnder (before ++ r :: after) field name).map Record.name? =
      if name = new then
        (heldUnder (before ++ stored :: after) field old).map Record.name?
      else if name = old then []
      else (heldUnder (before ++ stored :: after) field name).map Record.name? := by
  have hbefore : ∀ {other : String}, (∀ r ∈ before ++ after, r.name? ≠ some other) →
      heldUnder before field other = [] ∧ heldUnder after field other = [] := by
    intro other h
    exact ⟨heldUnder_eq_nil (fun r hr => h r (List.mem_append_left _ hr)) field,
      heldUnder_eq_nil (fun r hr => h r (List.mem_append_right _ hr)) field⟩
  simp only [heldUnder_append, heldUnder_cons, hstored, hr, Option.some.injEq]
  by_cases hnameNew : name = new
  · subst hnameNew
    simp [hbefore hnew, hbefore hold, hheld]
  · by_cases hnameOld : name = old
    · subst hnameOld
      simp [hbefore hold, hnameNew, Ne.symm hnameNew]
    · simp [hnameNew, hnameOld, Ne.symm hnameNew, Ne.symm hnameOld]

private theorem name?_ne_of_fresh {names : List String} {before after : List Record}
    {stored : Record} {old new : String}
    (hlabels : (before ++ stored :: after).map Record.name? = names.map some)
    (hold : ∀ other ∈ before ++ after, other.name? ≠ some old)
    (hnew : ¬(new ≠ old ∧ new ∈ names)) : ∀ other ∈ before ++ after, other.name? ≠ some new := by
  by_cases hsame : new = old
  · rwa [hsame]
  · intro other hother hname
    have hmem : some new ∈ names.map some := by
      rw [← hlabels, ← hname]
      apply List.mem_map_of_mem
      rcases List.mem_append.mp hother with hbefore | hafter
      · exact List.mem_append_left _ hbefore
      · exact List.mem_append_right _ (List.mem_cons_of_mem _ hafter)
    obtain ⟨name, hlisted, heq⟩ := List.mem_map.mp hmem
    exact hnew ⟨hsame, Option.some.inj heq ▸ hlisted⟩

section

variable {t : Tree} {c : Catalog} {kind other : Kind} {parent : Option String}
  {items : List Value} {beforeEntries afterEntries : List (Option String × Record)}
  {before after : List Record}

/-- What a record holds moves with it to its new name. -/
private theorem shows_replace_held (haddress : kind.Addresses parent)
    (hitems : t.items? kind parent = some items) (hkind : t.Shows c kind)
    (hplace : t.Place kind parent items beforeEntries afterEntries) {old new : String}
    {stored r : Record}
    (hfirst : FirstNamed old (items.filterMap Value.object?) before stored after)
    (hold : ∀ x ∈ before ++ after, x.name? ≠ some old) (hr : r.name? = some new)
    (hnew : ¬(new ≠ old ∧ new ∈ c kind parent)) {field : String}
    (hlocation : other.location = .nested kind field) (hother : t.Shows c other)
    (hnames : (r.records field).map Record.name? = (stored.records field).map Record.name?)
    (hlists : (itemsIn? field stored).isSome → (itemsIn? field r).isSome)
    (names : List String) :
    (t.setItems kind parent (replaceRecord r before.length items)).Shows
      ((c.put kind parent names).move kind old new) other := by
  have hchild : other.parent = some kind := Kind.parent_eq_some_iff.mpr ⟨field, hlocation⟩
  have hrecords : (replaceRecord r before.length items).filterMap Value.object? =
      before ++ r :: after := records_replaceRecord r hfirst.split
  have hlabels := hkind.map_name? haddress hplace
  have htops := tops_of_items? (Kind.location_of_parent hchild) hitems
  rw [hfirst.split] at hlabels
  apply shows_held hother hlocation hitems
  · intro x hx
    rw [hrecords] at hx
    rw [hfirst.split]
    rcases List.mem_append.mp hx with hx | hx
    · exact .inl (List.mem_append_left _ hx)
    · rcases List.mem_cons.mp hx with rfl | hx
      · have hstored : stored ∈ t.tops kind := htops ▸ hfirst.mem
        exact .inr (hlists ((hasLists_nested hlocation).mp hother.lists stored hstored))
      · exact .inl (List.mem_append_right _ (List.mem_cons_of_mem _ hx))
  · intro name
    rw [hrecords, heldUnder_rename hold (name?_ne_of_fresh hlabels hold hnew) hfirst.named hr
      hnames, ← hfirst.split, ← htops, hother.heldUnder_eq hlocation, hother.heldUnder_eq hlocation]
    simp only [Catalog.move, hchild, if_true, Catalog.put_held hchild, Option.some.injEq]
    split
    · rfl
    · split <;> rfl

/-- A record that is put back under a new name renames its entry, and what it holds
moves with it. -/
private theorem shows_replace (hdistinct : c.Distinct) (haddress : kind.Addresses parent)
    (hitems : t.items? kind parent = some items) (hkind : t.Shows c kind)
    (hplace : t.Place kind parent items beforeEntries afterEntries) {old new : String}
    {stored r : Record}
    (hfirst : FirstNamed old (items.filterMap Value.object?) before stored after)
    (hr : r.name? = some new) (hnew : ¬(new ≠ old ∧ new ∈ c kind parent))
    (hother : t.Shows c other)
    (hheld : ∀ field, other.location = .nested kind field →
      (r.records field).map Record.name? = (stored.records field).map Record.name? ∧
        ((itemsIn? field stored).isSome → (itemsIn? field r).isSome)) :
    (t.setItems kind parent (replaceRecord r before.length items)).Shows
      ((c.put kind parent
        ((c kind parent).map fun name => if name = old then new else name)).move kind old new)
      other := by
  have hlabels := hkind.map_name? haddress hplace
  rw [hfirst.split] at hlabels
  have hnodup := hdistinct kind parent haddress
  by_cases hchild : other.parent = some kind
  · obtain ⟨field, hlocation⟩ := Kind.parent_eq_some_iff.mp hchild
    obtain ⟨hnames, hlists⟩ := hheld field hlocation
    have hold := name?_ne_of_distinct hnodup hlabels hfirst.named
    exact shows_replace_held haddress hitems hkind hplace hfirst hold hr hnew hlocation hother
      hnames hlists _
  · have hwritten := hother.setItems hchild haddress hplace hitems
      (records_replaceRecord r hfirst.split ▸
        map_name?_rename hnodup hlabels hfirst.named hr)
    apply hwritten.congr
    intro q _
    simp only [Catalog.move, hchild, if_false]

end

private theorem isSome_items?_of_mem {t : Tree} {kind : Kind} {parent : Option String}
    {name : String} (h : t.HasLists kind) (haddress : kind.Addresses parent)
    (hsingle : kind.location ≠ .single) (hmem : name ∈ t.names kind parent) :
    (t.items? kind parent).isSome := by
  rw [h.isSome_items? haddress hsingle]
  rintro parentKind holder hkind rfl
  by_contra hnot
  rw [names_of_not_mem hkind hnot] at hmem
  cases hmem

private theorem held_kept (t : Tree) {kind child : Kind} {field : String}
    (hlocation : child.location = .nested kind field) {parent : Option String} {old : String}
    {draft : Draft} {stored : Record} (h : draft.record.get? field = stored.get? field) :
    ((t.kept kind parent old draft).records field).map Record.name? =
        (stored.records field).map Record.name? ∧
      ((itemsIn? field stored).isSome →
        (itemsIn? field (t.kept kind parent old draft)).isSome) := by
  constructor
  · obtain ⟨g, hg, hrecords⟩ := t.records_kept hlocation parent old draft
    rw [hrecords, List.map_map, Record.records_eq, h, ← Record.records_eq]
    apply List.map_congr_left
    intro held _
    exact (hg held).name?_eq
  · intro hstored
    apply t.isSome_itemsIn?_kept hlocation
    rwa [itemsIn?_congr h]

private theorem follows_saveSingle {t : Tree} {c : Catalog} {kind : Kind}
    (hsingle : kind.location = .single) (fields : Record) :
    Follows t c kind fields (t.saveSingle kind fields) c := by
  intro other hotherLocation hother _
  have hne : other ≠ kind := fun e => hotherLocation (e ▸ hsingle)
  refine ⟨hasLists_saveSingle hsingle fields hother.lists, fun parent haddress => ?_⟩
  rw [← hother.labels_eq parent haddress]
  exact labels_congr (t.rows_saveSingle hsingle fields hne) parent

/-- The merged record, put back in the place of the one that was found, renames the entry. -/
private theorem follows_settled {t : Tree} {c : Catalog} (hdistinct : c.Distinct) {kind : Kind}
    (hsingle : kind.location ≠ .single) {parent : Option String}
    (haddress : kind.Addresses parent) {items : List Value}
    (hitems : t.items? kind parent = some items) (hshown : t.Shows c kind)
    {beforeEntries afterEntries : List (Option String × Record)}
    (hplace : t.Place kind parent items beforeEntries afterEntries) {old new : String}
    {before after : List Record} {stored fields : Record}
    (hfirst : FirstNamed old (items.filterMap Value.object?) before stored after)
    (hname : (stored.extend fields).name? = some new)
    (hfresh : ¬(new ≠ old ∧ new ∈ c kind parent)) :
    Follows t c kind fields
      ((t.setItems kind parent (replaceRecord (t.kept kind parent old
        ⟨parent, new, (kind.schema.saved t stored (stored.extend fields)).2⟩) before.length
          items)).settled kind parent old new)
      ((c.put kind parent
        ((c kind parent).map fun name => if name = old then new else name)).move kind old new) := by
  intro other _ hother hspares
  have hsaved := (Kind.saved_agrees hsingle t stored (stored.extend fields)).2
  apply Shows.settled
  refine shows_replace hdistinct haddress hitems hshown hplace hfirst ?_ hfresh hother
    fun field hlocation => ?_
  · rw [name?_kept, hsaved.name?_eq, hname]
  · have hchild : other.parent = some kind := Kind.parent_eq_some_iff.mpr ⟨field, hlocation⟩
    have hget := (hsaved.held other field hlocation).trans
      (Record.get?_extend_of_none (Kind.get?_of_sparesHeld (hspares hchild) hlocation))
    exact held_kept t hlocation hget

private theorem name?_extend_eq_nameAfter {stored : Record} {old : String}
    (h : stored.name? = some old) (fields : Record) :
    (stored.extend fields).name? = Catalog.nameAfter old fields := by
  rw [Record.name?_extend, h]
  cases hgiven : fields.givenName <;> simp [Catalog.nameAfter, hgiven]

/-- Saving renames an entry of the catalog. -/
theorem save_matches {t : Tree} {c : Catalog} (hdistinct : c.Distinct) {kind : Kind}
    (hkind : kind.location ≠ .single → t.Shows c kind) (hparent : ParentShown t c kind)
    (fields : Record) (op : Context) :
    Matches (Follows t c kind fields) (t.save kind fields op) (c.save kind fields op) := by
  unfold Tree.save Catalog.save
  by_cases hsingle : kind.location = .single
  · simp only [hsingle, if_true]
    exact .ok (follows_saveSingle hsingle fields)
  · have hshown := hkind hsingle
    simp only [hsingle, if_false]
    cases hop : op.addressed kind with
    | error e =>
        simp only [saveNamed, hop, bind, Except.bind]
        exact .error e
    | ok parent =>
        have haddress := Context.addresses_of_addressed hop
        have hnames := hshown.names_eq haddress
        simp only [bind, Except.bind]
        by_cases hmem : op.name.getD "" ∈ c kind parent
        · obtain ⟨stored, hstored, hname⟩ := List.mem_filterMap.mp (hnames ▸ hmem)
          -- the first record of the name is the one that is saved
          obtain ⟨before, stored, after, hfirst⟩ :=
            FirstNamed.exists_of_mem ⟨stored, hstored, hname⟩
          have hafter := name?_extend_eq_nameAfter hfirst.named fields
          rw [t.saveNamed_of_firstNamed hop hfirst hsingle, hafter, hnames]
          simp only [hmem, not_true_eq_false, if_false]
          cases hnew : Catalog.nameAfter (op.name.getD "") fields with
          | none => exact .error _
          | some new =>
              simp only
              split
              · exact .error _
              · next hfresh =>
                  obtain ⟨items, hitems⟩ := Option.isSome_iff_exists.mp
                    (isSome_items?_of_mem hshown.lists haddress hsingle (hnames ▸ hmem))
                  obtain ⟨beforeEntries, afterEntries, hplace⟩ :=
                    exists_place_of_shown hdistinct hparent haddress hitems
                  rw [hplace.collection_eq] at hfirst
                  simp only [store_eq, hitems]
                  exact .ok (follows_settled hdistinct hsingle haddress hitems hshown hplace hfirst
                    (hafter.trans hnew) hfresh)
        · rw [t.saveNamed_of_not_mem hop (hnames ▸ hmem)]
          simp only [hmem, not_false_eq_true, if_true]
          exact .error _

/-! ## Deleting -/

private theorem map_name?_erase {names : List String} {before after : List Record} {r : Record}
    {name : String} (h : (before ++ r :: after).map Record.name? = names.map some)
    (hr : r.name? = some name) (hbefore : ∀ other ∈ before, other.name? ≠ some name) :
    (before ++ after).map Record.name? = (names.erase name).map some := by
  have hnot : some name ∉ before.map Record.name? := by
    intro hmem
    obtain ⟨other, hother, hname⟩ := List.mem_map.mp hmem
    exact hbefore other hother hname
  rw [List.map_erase (Option.some_injective String), ← h, List.map_append, List.map_append,
    List.map_cons, List.erase_append_right _ hnot, hr, List.erase_cons_head]

private theorem shows_remove {t : Tree} {c : Catalog} (hdistinct : c.Distinct) {kind : Kind}
    {parent : Option String} (haddress : kind.Addresses parent) {items rest : List Value}
    (hitems : t.items? kind parent = some items) (hkind : t.Shows c kind)
    {beforeEntries afterEntries : List (Option String × Record)}
    (hplace : t.Place kind parent items beforeEntries afterEntries)
    {name : String} {before after : List Record} {removed : Record}
    (hfirst : FirstNamed name (items.filterMap Value.object?) before removed after)
    (hrest : rest.filterMap Value.object? = before ++ after) {other : Kind}
    (hother : t.Shows c other) :
    (t.setItems kind parent rest).Shows
      ((c.put kind parent ((c kind parent).erase name)).discard kind name) other := by
  have hlabels := hkind.map_name? haddress hplace
  rw [hfirst.split] at hlabels
  by_cases hchild : other.parent = some kind
  · obtain ⟨field, hlocation⟩ := Kind.parent_eq_some_iff.mp hchild
    have hcollection := Kind.location_of_parent hchild
    have hold := name?_ne_of_distinct (hdistinct kind parent haddress) hlabels hfirst.named
    apply shows_held hother hlocation hitems
    · intro r hr
      rw [hrest] at hr
      rw [hfirst.split]
      rcases List.mem_append.mp hr with hr | hr
      · exact .inl (List.mem_append_left _ hr)
      · exact .inl (List.mem_append_right _ (List.mem_cons_of_mem _ hr))
    · intro q
      rw [hrest]
      simp only [Catalog.discard, hchild, Catalog.put_held hchild, Option.some.injEq, true_and]
      by_cases hq : q = name
      · rw [if_pos hq, hq, heldUnder_eq_nil hold]
        rfl
      · rw [if_neg hq, ← hother.heldUnder_eq hlocation, tops_of_items? hcollection hitems,
          hfirst.split]
        simp [heldUnder_append, heldUnder_cons, hfirst.named, Ne.symm hq]
  · have hwritten := hother.setItems hchild haddress hplace hitems
      (hrest ▸ map_name?_erase hlabels hfirst.named hfirst.first)
    apply hwritten.congr
    intro q _
    simp only [Catalog.discard, hchild, false_and, if_false]

/-- Deleting takes an entry out of the catalog. -/
theorem delete_matches {t : Tree} {c : Catalog} (hdistinct : c.Distinct) {kind : Kind}
    (hkind : kind.location ≠ .single → t.Shows c kind) (hparent : ParentShown t c kind)
    (op : Context) :
    Matches (fun u d => ∀ other, t.Shows c other → u.Shows d other) (t.delete kind op)
      (c.delete kind op) := by
  unfold Tree.delete deletionParent Catalog.delete
  by_cases hsingle : kind.location = .single
  · simp only [hsingle, if_true, bind, Except.bind]
    exact .error _
  · have hshown := hkind hsingle
    simp only [hsingle, if_false]
    cases hop : op.addressed kind with
    | error e => exact .error e
    | ok parent =>
        have haddress := Context.addresses_of_addressed hop
        have hnames := hshown.names_eq haddress
        simp only [bind, Except.bind, pure, Except.pure]
        by_cases hmem : op.name.getD "" ∈ c kind parent
        · obtain ⟨items, hitems⟩ := Option.isSome_iff_exists.mp
            (isSome_items?_of_mem hshown.lists haddress hsingle (hnames ▸ hmem))
          obtain ⟨beforeEntries, afterEntries, hplace⟩ :=
            exists_place_of_shown hdistinct hparent haddress hitems
          obtain ⟨r, hr, hname⟩ := List.mem_filterMap.mp (hnames ▸ hmem)
          rw [hplace.collection_eq] at hr
          obtain ⟨before, removed, after, hfirst⟩ := FirstNamed.exists_of_mem ⟨r, hr, hname⟩
          obtain ⟨rest, hrest, herase⟩ := erase_of_firstNamed hitems (hnames ▸ hmem) hfirst
          simp only [hmem, if_true, herase]
          refine .ok fun other hother => ?_
          apply Shows.dropAllReferences
          exact shows_remove hdistinct haddress hitems hshown hplace hfirst hrest hother
        · simp only [hmem, if_false, erase_of_not_mem (hnames ▸ hmem)]
          exact .ok fun other hother => hother

/-! ## One call -/

/-- A call does to the tree what it does to the catalog that the tree shows. -/
theorem apply_matches {t : Tree} {c : Catalog} (hdistinct : c.Distinct) {call : Call}
    (hkind : ∀ kind, call.kind? = some kind → kind.location ≠ .single → t.Shows c kind)
    (hparent : ∀ kind, call.kind? = some kind → ParentShown t c kind) :
    Matches (fun u d => ∀ other, other.location ≠ .single → t.Shows c other →
      (other.parent.isSome → call.sparesHeld = true) → u.Shows d other)
        (t.apply call) (c.apply call) := by
  cases call with
  | create kind fields op =>
      refine (create_matches hdistinct (hkind kind rfl) (hparent kind rfl) fields op).mono ?_
      intro u d h other hother hshown hspares
      exact h other hother hshown fun hchild => hspares (by simp [hchild])
  | save kind fields op =>
      refine (save_matches hdistinct (hkind kind rfl) (hparent kind rfl) fields op).mono ?_
      intro u d h other hother hshown hspares
      exact h other hother hshown fun hchild => hspares (by simp [hchild])
  | delete kind op =>
      refine (delete_matches hdistinct (hkind kind rfl) (hparent kind rfl) op).mono ?_
      intro u d h other _ hshown _
      exact h other hshown
  | reconcile =>
      refine .ok fun other _ hshown _ => ?_
      rw [reconcileAll_eq]
      exact hshown.reviseAll _

theorem next_shows_of_matches {t : Tree} {c : Catalog} {call : Call} {other : Kind}
    (h : Matches (fun u d => u.Shows d other) (t.apply call) (c.apply call))
    (hshown : t.Shows c other) : (t.next call).Shows (c.next call) other := by
  unfold Tree.next Catalog.next
  cases happly : t.apply call <;> cases hcatalog : c.apply call <;> rw [happly, hcatalog] at h
  · exact hshown
  · cases h
  · cases h
  · cases h with
    | ok h => exact h

/-! ## Calls on held records -/

theorem Shows.setItems_held {t : Tree} {c : Catalog} {kind other : Kind}
    (hkind : kind.parent.isSome) (hother : other.location = .collection)
    {parent : Option String} {items : List Value}
    (hitems : t.items? kind parent = some items) (h : t.Shows c other) (new : List Value) :
    (t.setItems kind parent new).Shows c other := by
  have htop : other.parent = none := Kind.parent_of_collection hother
  refine ⟨h.lists.setItems hitems fun field hheld => ?_, fun q hq => ?_⟩
  · rw [hother] at hheld
    cases hheld
  · rw [← h.labels_eq q hq, hq.eq_none htop, labels_of_top _ htop, labels_of_top _ htop]
    cases standing_of_items? hitems with
    | top hlocation _ _ =>
        rw [Kind.parent_of_collection hlocation] at hkind
        cases hkind
    | @held parentKind _ _ _ _ _ _ hlocation hfirst _ hset =>
        rw [hset]
        by_cases hsame : other = parentKind
        · subst hsame
          rw [if_pos rfl, hfirst.split]
          simp [Record.name?_insert_of_ne _ _ (Kind.holdingField_ne_name hlocation)]
        · rw [if_neg hsame]

theorem Shows.next_held {t : Tree} {c : Catalog} {call : Call} {kind other : Kind}
    (hcall : call.kind? = some kind) (hkind : kind.parent.isSome)
    (hother : other.location = .collection) (h : t.Shows c other) :
    (t.next call).Shows c other := by
  unfold Tree.next
  split
  · next u happly =>
      cases accepts_of_apply happly with
      | create hcreate =>
          obtain rfl := Option.some.inj hcall
          obtain ⟨_, items, _, _, hitems, rfl⟩ := create_eq_ok hcreate
          exact h.setItems_held hkind hother hitems _
      | saveSingle hsingle _ _ =>
          obtain rfl := Option.some.inj hcall
          rw [Kind.parent_of_single hsingle] at hkind
          cases hkind
      | saveNamed hsingle hsave =>
          obtain rfl := Option.some.inj hcall
          obtain ⟨parent, _, _, _, _, _, _, _, _, hstore⟩ := saveNamed_eq_ok hsingle hsave
          obtain ⟨items, hitems, rfl⟩ := store_eq_ok hstore
          exact (h.setItems_held hkind hother hitems _).settled _ _ _ _
      | @delete _ op parent _ =>
          obtain rfl := Option.some.inj hcall
          rcases erase_cases t _ parent (op.name.getD "") with
            herase | ⟨items, new, hitems, herase | ⟨removed, herase⟩⟩
          · rwa [herase]
          · rw [herase]
            exact h.setItems_held hkind hother hitems new
          · rw [herase]
            exact (h.setItems_held hkind hother hitems new).dropAllReferences _ _ _
      | reconcile => cases hcall
  · exact h

end Tree

end Blueprint
