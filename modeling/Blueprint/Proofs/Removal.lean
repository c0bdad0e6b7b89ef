import Blueprint.Proofs.Retelling

/-!
# Removal

A deletion looks for the names of what it takes out, first of the records that a record
held and then of the record itself. Where names are unique and nothing dangles, these are
the only names that mean nothing once the record is out of its list, so a deletion comes
to the same as taking the record out and reconciling what is left. Buckets and storage
keys are not among the kinds: their names are reached under every store, so the cascade
also clears names that still mean the bucket of another store.
-/

namespace Blueprint

namespace Kind

theorem all_sentinels (kind : Kind) :
    (kind.schema.references.all fun reference =>
      reference.keep.isNone || reference.target = .bucket) = true := by
  cases kind <;> decide

theorem keep_eq_none {kind : Kind} {reference : Reference}
    (h : reference ∈ kind.schema.references) (hbucket : reference.target ≠ .bucket) :
    reference.keep = none := by
  have hall := List.all_eq_true.mp kind.all_sentinels reference h
  simpa [hbucket] using hall

theorem parent_bucket_or_storageKey {kind : Kind} (hstore : kind ≠ .objectStorage) :
    Kind.bucket.parent ≠ some kind ∧ Kind.storageKey.parent ≠ some kind :=
  ⟨fun h => hstore (Option.some.inj h).symm, fun h => hstore (Option.some.inj h).symm⟩

theorem addresses_of_removedWith {kind : Kind} {parent : Option String}
    (haddress : kind.Addresses parent) {name : String} {removed : Record} {target : Kind}
    {q : Option String} {gone : String}
    (h : (target, q, gone) ∈ kind.removedWith parent name removed) : target.Addresses q := by
  rcases mem_removedWith.mp h with ⟨hchild, rfl, _⟩ | ⟨rfl, rfl, _⟩
  · simp [Addresses, hchild]
  · exact haddress

end Kind

theorem Reach.eq_of_admits {reach : Reach} (h : reach ≠ .everywhere) {first second : Option String}
    (hfirst : reach.admits first = true) (hsecond : reach.admits second = true) :
    first = second := by
  cases reach with
  | everywhere => exact absurd rfl h
  | under parent =>
      have hsame : first = some parent ∧ second = some parent := by
        simpa [admits] using And.intro hfirst hsecond
      rw [hsame.1, hsame.2]
  | nowhere => cases hfirst

namespace Tree

theorem Keyed.parent_eq_of_admits {t : Tree} (hkeyed : t.Keyed) {kind : Kind}
    {reference : Reference} (hmem : reference ∈ kind.schema.references)
    (hbucket : reference.target ≠ .bucket) (hkey : reference.target ≠ .storageKey) {row : Row}
    (hrow : row ∈ t.rows kind) {first second : Option String}
    (haddressFirst : reference.target.Addresses first)
    (haddressSecond : reference.target.Addresses second)
    (hfirst : (row.reach t.rows kind reference).admits first = true)
    (hsecond : (row.reach t.rows kind reference).admits second = true) : first = second := by
  cases htop : reference.target.parent with
  | none => rw [haddressFirst.eq_none htop, haddressSecond.eq_none htop]
  | some parentKind =>
      have hheld : reference.target.parent.isSome := by simp [htop]
      exact Reach.eq_of_admits (hkeyed.reach_ne_everywhere hmem hheld hbucket hkey hrow) hfirst
        hsecond

/-! ## What dangles without a record -/

namespace Without

variable {t u : Tree} {kind : Kind} {parent : Option String} {name : String} {removed : Record}

/-- A name that goes with a record means nothing without it: nothing else at the address
has the name. -/
theorem dangling_eq_drop (h : u.Without t kind parent name removed) (hkeyed : t.Keyed)
    (haddress : kind.Addresses parent) (hstore : kind ≠ .objectStorage) (hbucket : kind ≠ .bucket)
    (hkey : kind ≠ .storageKey)
    (hapart : ∀ row ∈ u.rows kind, row.parent = parent → row.name ≠ some name) {other : Kind}
    {row : Row} (hrow : row ∈ u.rows other) {reference : Reference}
    (hmem : reference ∈ other.schema.references) {mentioned : String} {q : Option String}
    (hgone : (reference.target, q, mentioned) ∈ kind.removedWith parent name removed)
    (hmeets : (row.reach u.rows other reference).meets q = true) :
    u.dangling other row reference mentioned = .drop := by
  have htarget : reference.target ≠ .bucket ∧ reference.target ≠ .storageKey := by
    obtain ⟨hbucketHeld, hkeyHeld⟩ := Kind.parent_bucket_or_storageKey hstore
    rcases Kind.mem_removedWith.mp hgone with ⟨hchild, _, _⟩ | ⟨heq, _, _⟩
    · exact ⟨fun heq => hbucketHeld (heq ▸ hchild), fun heq => hkeyHeld (heq ▸ hchild)⟩
    · exact heq ▸ ⟨hbucket, hkey⟩
  refine (u.dangling_cases other row reference mentioned).resolve_left fun hkeep => ?_
  rcases (u.dangling_eq_keep_iff other row reference mentioned).mp hkeep with
    hsentinel | ⟨target, htargetRow, hadmits, hname⟩
  · rw [Kind.keep_eq_none hmem htarget.1] at hsentinel
    cases hsentinel
  · have haddressGone := Kind.addresses_of_removedWith haddress hgone
    have hadmitsGone := Row.admits_of_meets hmem haddressGone hmeets
    have haddressTarget := (hkeyed.named_row (Kind.target_listed hmem)
      (h.mem reference.target target htargetRow)).1
    rw [h.reach_eq hrow] at hadmits hadmitsGone
    have hparent : target.parent = q := hkeyed.parent_eq_of_admits hmem htarget.1 htarget.2
      (h.mem other row hrow) haddressTarget haddressGone hadmits hadmitsGone
    rcases Kind.mem_removedWith.mp hgone with ⟨hchild, hq, _⟩ | ⟨heq, hq, hself⟩
    · exact h.orphans reference.target hchild target htargetRow (hparent.trans hq)
    · rw [heq] at htargetRow
      exact hapart target htargetRow (hparent.trans hq) (hself ▸ hname)

theorem dangling_eq_keep (h : u.Without t kind parent name removed) (hconsistent : t.Consistent)
    {other : Kind} {row : Row} (hrow : row ∈ u.rows other) {reference : Reference}
    (hmem : reference ∈ other.schema.references) {mentioned : String}
    (hmention : mentioned ∈ row.mentions reference)
    (hgone : ¬∃ q, (reference.target, q, mentioned) ∈ kind.removedWith parent name removed ∧
      (row.reach u.rows other reference).meets q = true) :
    u.dangling other row reference mentioned = .keep := by
  rw [dangling_eq_keep_iff]
  rcases (consistent_iff t).mp hconsistent other row (h.mem other row hrow) reference hmem
    mentioned hmention with hsentinel | ⟨target, htargetRow, hadmits, hname⟩
  · exact .inl hsentinel
  · rw [← h.reach_eq hrow] at hadmits
    rcases h.gone reference.target (Kind.target_listed hmem) target htargetRow with
      hstays | ⟨goneName, hgoneName, hentry⟩
    · exact .inr ⟨target, hstays, hadmits, hname⟩
    · rw [hname] at hgoneName
      obtain rfl := Option.some.inj hgoneName
      exact absurd ⟨target.parent, hentry, Reach.meets_of_admits hadmits⟩ hgone

/-- The names that are dropped with a record are those that mean nothing without it. -/
theorem dropping_eq_dangling (h : u.Without t kind parent name removed) (hkeyed : t.Keyed)
    (hconsistent : t.Consistent) (haddress : kind.Addresses parent)
    (hstore : kind ≠ .objectStorage) (hbucket : kind ≠ .bucket) (hkey : kind ≠ .storageKey)
    (hapart : ∀ row ∈ u.rows kind, row.parent = parent → row.name ≠ some name) {other : Kind}
    {row : Row} (hrow : row ∈ u.rows other) {reference : Reference}
    (hmem : reference ∈ other.schema.references) {mentioned : String}
    (hmention : mentioned ∈ row.mentions reference) :
    Judge.dropping u.rows (kind.removedWith parent name removed) other row reference mentioned =
      u.dangling other row reference mentioned := by
  by_cases hgone : ∃ q, (reference.target, q, mentioned) ∈ kind.removedWith parent name removed ∧
      (row.reach u.rows other reference).meets q = true
  · rw [Judge.dropping_eq_drop_iff.mpr hgone]
    obtain ⟨q, hentry, hmeets⟩ := hgone
    exact (h.dangling_eq_drop hkeyed haddress hstore hbucket hkey hapart hrow hmem hentry
      hmeets).symm
  · rw [Judge.dropping_eq_keep_iff.mpr hgone]
    exact (h.dangling_eq_keep hconsistent hrow hmem hmention hgone).symm

end Without

/-! ## Taking a record out -/

/-- Deleting a record is taking it out of its list and reconciling what is left. -/
theorem erase_eq_reconcileAll {t : Tree} (hkeyed : t.Keyed) (hconsistent : t.Consistent)
    {kind : Kind} (hsingle : kind.location ≠ .single) (hstore : kind ≠ .objectStorage)
    (hbucket : kind ≠ .bucket) (hkey : kind ≠ .storageKey) {parent : Option String}
    (haddress : kind.Addresses parent) {before after : List Value} {removed : Record}
    (hitems : t.items? kind parent = some (before ++ .object removed :: after)) {name : String}
    (hname : removed.name? = some name) :
    t.erase kind parent name = (t.setItems kind parent (before ++ after)).reconcileAll.2 := by
  obtain ⟨beforeEntries, afterEntries, hplace⟩ := hkeyed.exists_place haddress hitems
  have hcollection := hplace.collection_eq
  simp only [List.filterMap_append, List.filterMap_cons_some
    (show Value.object? (.object removed) = some removed from rfl)] at hcollection
  have hmem : name ∈ t.names kind parent :=
    List.mem_filterMap.mpr ⟨removed, by simp [hcollection], hname⟩
  have hother := hkeyed.name?_ne_of_items? hsingle haddress hitems hname
  rw [List.filterMap_append] at hother
  have hbefore : ∀ r ∈ before.filterMap Value.object?, r.name? ≠ some name :=
    fun r hr => hother r (List.mem_append_left _ hr)
  have hwithout : (t.setItems kind parent (before ++ after)).Without t kind parent name removed :=
    without_setItems hkeyed hsingle haddress hitems
      ⟨by rw [← hcollection, hplace.collection_eq], hname, hbefore⟩ (List.filterMap_append)
  have hapart : ∀ row ∈ (t.setItems kind parent (before ++ after)).rows kind,
      row.parent = parent → row.name ≠ some name := by
    intro row hrow hparent
    obtain ⟨q, r, hentry, rfl⟩ := mem_rows.mp hrow
    rw [← List.filterMap_append] at hother
    apply hother
    rw [← hplace.collection_setItems]
    exact mem_collection.mpr ⟨q, hentry, .inr hparent⟩
  simp only [erase, List.contains_iff_mem, hmem, if_true, hitems,
    takeNamed_append hname hbefore]
  rw [dropAllReferences_eq_reviseAll _ _ _ hname, reconcileAll_eq]
  apply reviseAll_congr
  intro other row hrow reference href mentioned hmention
  exact hwithout.dropping_eq_dangling hkeyed hconsistent haddress hstore hbucket hkey hapart hrow
    href hmention

end Tree

/-- The cascade of a deletion agrees with full reconciliation: where names are unique and
nothing dangles, deleting a record leaves the tree that is left by taking the record out
of its list and clearing whatever dangles then. -/
theorem delete_eq_reconcileAll {t : Tree} (hkeyed : t.Keyed) (hconsistent : t.Consistent)
    {kind : Kind} (hstore : kind ≠ .objectStorage) (hbucket : kind ≠ .bucket)
    (hkey : kind ≠ .storageKey) {op : Context} {parent : Option String}
    (hop : Tree.deletionParent kind op = .ok parent) {removed : Record}
    (hremoved : (parent, removed) ∈ t.entries kind) (hname : op.name = removed.name?) :
    ∃ before after, t.items? kind parent = some (before ++ .object removed :: after) ∧
      t.delete kind op =
        .ok (t.setItems kind parent (before ++ after)).reconcileAll.2 := by
  have hsingle : kind.location ≠ .single := by
    intro hlocation
    simp [Tree.deletionParent, hlocation] at hop
  have haddress : kind.Addresses parent := by
    simp only [Tree.deletionParent, hsingle, if_false] at hop
    exact Context.addresses_of_addressed hop
  obtain ⟨before, after, hitems⟩ := hkeyed.exists_items? hsingle hremoved
  obtain ⟨name, hnamed⟩ := (hkeyed.named_row hsingle (Tree.mem_rows.mpr ⟨_, _, hremoved, rfl⟩)).2
  refine ⟨before, after, hitems, ?_⟩
  have herase := Tree.erase_eq_reconcileAll hkeyed hconsistent hsingle hstore hbucket hkey haddress
    hitems hnamed
  rw [Tree.delete, hop, hname, show removed.name? = some name from hnamed, ← herase]
  rfl

/-- The instance that a store reads its keys through is taken out, and the store and its
bucket lose both. -/
theorem delete_eq_reconcileAll_vault :
    (Tree.default.after sampleVaults).Keyed ∧ (Tree.default.after sampleVaults).Consistent ∧
    ∃ (removed : Record) (before after : List Value), removed.name? = some "vault" ∧
      (Tree.default.after sampleVaults).items? .keyManagement none =
        some (before ++ .object removed :: after) ∧
      (Tree.default.after sampleVaults).delete .keyManagement (.editing "vault" none) =
        .ok ((Tree.default.after sampleVaults).setItems .keyManagement none
          (before ++ after)).reconcileAll.2 := by
  obtain ⟨hgrounds, hplace⟩ : Tree.default.groundsRun sampleVaults = true ∧
      ((Tree.default.after sampleVaults).entries .keyManagement)[0]?.map
        (fun entry => (entry.1, entry.2.name?)) = some (none, some "vault") := by decide +kernel
  have hsound := Tree.sound_after hgrounds
  have hkeyed := hsound.keyed
  have hconsistent := hsound.2
  generalize Tree.default.after sampleVaults = t at *
  obtain ⟨⟨_, removed⟩, hremoved, hnames⟩ := Option.map_eq_some_iff.mp hplace
  obtain ⟨rfl, hname⟩ := Prod.mk.inj hnames
  have hop : Tree.deletionParent .keyManagement (.editing "vault" none) = .ok none := rfl
  obtain ⟨before, after, hitems, hdelete⟩ := delete_eq_reconcileAll hkeyed hconsistent
    (by decide) (by decide) (by decide) hop (List.mem_of_getElem? hremoved) hname.symm
  exact ⟨hkeyed, hconsistent, removed, before, after, hname, hitems, hdelete⟩

end Blueprint
