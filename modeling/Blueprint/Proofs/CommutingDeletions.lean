import Blueprint.Proofs.HeldNames
import Blueprint.Proofs.InPlace
import Blueprint.Proofs.Pruning
import Blueprint.Proofs.Retelling
import Blueprint.Proofs.Settling

/-!
# Commuting deletions

A deletion takes a record out, with what it holds, and clears the names that reached any of
it: it cuts a selection of records out of the tree. Cutting out two selections one after
another is cutting out both, whichever comes first. The first cut may clear the name that a
scope of the second one reads, but only with the parent of all that the scope reached, and
then there is nothing left of it to clear.
-/

namespace Blueprint

namespace Tree

/-! ## Cutting records out -/

/-- Drops the names of the records that do not stay, where they are reached. -/
def forgetting (t : Tree) (stays : Selection) : Judge := fun kind row reference name =>
  if (t.rows reference.target).any fun target =>
      !stays reference.target target.parent target.name && target.name = some name &&
        (row.reach t.rows kind reference).meets target.parent then .drop
  else .keep

variable {t : Tree} {stays : Selection}

theorem forgetting_cases (t : Tree) (stays : Selection) (kind : Kind) (row : Row)
    (reference : Reference) (name : String) :
    t.forgetting stays kind row reference name = .keep ∨
      t.forgetting stays kind row reference name = .drop := by
  unfold forgetting
  split
  · exact .inr rfl
  · exact .inl rfl

theorem forgetting_eq_drop_iff {kind : Kind} {row : Row} {reference : Reference}
    {name : String} :
    t.forgetting stays kind row reference name = .drop ↔
      ∃ target ∈ t.rows reference.target,
        stays reference.target target.parent target.name = false ∧ target.name = some name ∧
          (row.reach t.rows kind reference).meets target.parent = true := by
  simp only [forgetting, ite_eq_left_iff, reduceCtorEq, imp_false, not_not, List.any_eq_true,
    Bool.and_eq_true, Bool.not_eq_true', decide_eq_true_eq, and_assoc]

/-- Takes records out, and clears their names where they are reached. -/
def cut (stays : Selection) (t : Tree) : Tree :=
  (t.prune stays).reviseAll (t.forgetting stays)

theorem rows_cut (stays : Selection) (t : Tree) :
    (t.cut stays).rows = (t.prune stays).rows.revise (t.forgetting stays) :=
  rows_reviseAll _ _

theorem mem_rows_prune (hstays : stays.Coherent) {kind : Kind} {row : Row} :
    row ∈ (t.prune stays).rows kind ↔
      row ∈ t.rows kind ∧ stays kind row.parent row.name = true := by
  rw [rows_prune hstays, List.mem_filter]

/-- A record that stays for now is still reached after the first cut, unless it has no
parent any more. -/
theorem meets_of_stays (hkeyed : t.Keyed) (hstays : stays.Coherent) {kind : Kind} {row : Row}
    (hrow : row ∈ (t.prune stays).rows kind) {reference : Reference}
    (hmem : reference ∈ kind.schema.references) {target : Row}
    (htarget : target ∈ (t.prune stays).rows reference.target)
    (h : (row.reach t.rows kind reference).meets target.parent = true) :
    ((row.revise (t.forgetting stays kind row)).reach (t.cut stays).rows kind
      reference).meets target.parent = true := by
  rw [← reach_prune hstays t hrow] at h
  rw [rows_cut]
  rcases Row.reach_revise_cases (t.forgetting_cases stays) hmem hrow with
    hsame | ⟨_, other, holder, hholder, field, name, _, hunder, hdrop⟩
  · rwa [hsame]
  · -- the name of the scope is gone with the parent, and the target with it
    exfalso
    obtain ⟨htargetRow, htargetStays⟩ := (mem_rows_prune hstays).mp htarget
    obtain ⟨parentKind, hparent⟩ : ∃ parentKind, reference.target.parent = some parentKind := by
      cases htop : reference.target.parent with
      | some parentKind => exact ⟨parentKind, rfl⟩
      | none =>
          rw [Row.reach_of_top hmem htop] at hunder
          cases hunder
    obtain ⟨gone, hgone, hgoneStays, hgoneName, _⟩ := forgetting_eq_drop_iff.mp hdrop
    rw [Reference.target_scopeSource hparent] at hgone hgoneStays
    have hgoneTop : gone.parent = none := by
      rw [rows_of_top t (Kind.parent_of_holder hparent)] at hgone
      obtain ⟨r, _, rfl⟩ := List.mem_map.mp hgone
      rfl
    rw [hgoneTop, hgoneName] at hgoneStays
    have htargetParent : target.parent = some name := by
      have haddress := (hkeyed.named_row (Kind.target_listed hmem) htargetRow).1
      obtain ⟨p, hp⟩ := haddress.eq_some hparent
      rw [hunder, hp] at h
      simpa [Reach.meets, hp] using h
    rw [htargetParent, hstays.held _ _ hparent _ hgoneStays] at htargetStays
    cases htargetStays

private theorem verdict_eq_of_drop_iff {first second : Verdict}
    (hfirst : first = .keep ∨ first = .drop) (hsecond : second = .keep ∨ second = .drop)
    (h : first = .drop ↔ second = .drop) : first = second := by
  rcases hfirst with rfl | rfl
  · exact (hsecond.resolve_right fun hdrop => by simp [hdrop] at h).symm
  · exact (h.mp rfl).symm

/-- A name that the first cut leaves goes with the second one exactly if it goes with both
at once. -/
theorem forgetting_cut (hkeyed : t.Keyed) {first second : Selection} (hfirst : first.Coherent)
    {kind : Kind} {row : Row} (hrow : row ∈ (t.prune first).rows kind) {reference : Reference}
    (hmem : reference ∈ kind.schema.references) {name : String}
    (hkeep : t.forgetting first kind row reference name = .keep) :
    (t.cut first).forgetting second kind (row.revise (t.forgetting first kind row)) reference
      name = t.forgetting (first.both second) kind row reference name := by
  apply verdict_eq_of_drop_iff (forgetting_cases _ _ _ _ _ _) (forgetting_cases _ _ _ _ _ _)
  rw [forgetting_eq_drop_iff, forgetting_eq_drop_iff]
  constructor
  · rintro ⟨revised, hrevised, hgone, hname, hmeets⟩
    rw [rows_cut] at hrevised hmeets
    obtain ⟨target, htarget, rfl⟩ := List.mem_map.mp hrevised
    have hreached := Row.meets_of_meets_revise (t.forgetting_cases first) hmem hrow hmeets
    rw [reach_prune hfirst t hrow] at hreached
    exact ⟨target, ((mem_rows_prune hfirst).mp htarget).1,
      Bool.and_eq_false_iff.mpr (.inr hgone), hname, hreached⟩
  · rintro ⟨target, htarget, hgone, hname, hmeets⟩
    have hstays : first reference.target target.parent target.name = true := by
      by_contra hgoneFirst
      have hdrop := forgetting_eq_drop_iff.mpr
        ⟨target, htarget, by simpa using hgoneFirst, hname, hmeets⟩
      rw [hkeep] at hdrop
      cases hdrop
    have htargetFirst := (mem_rows_prune hfirst).mpr ⟨htarget, hstays⟩
    have hrevised : target.revise (t.forgetting first reference.target target) ∈
        (t.cut first).rows reference.target := by
      rw [rows_cut]
      exact List.mem_map_of_mem htargetFirst
    have hgoneSecond : second reference.target target.parent target.name = false := by
      simpa [Selection.both, hstays] using hgone
    have hmeetsFirst := meets_of_stays hkeyed hfirst hrow hmem htargetFirst hmeets
    exact ⟨_, hrevised, hgoneSecond, hname, hmeetsFirst⟩

theorem cut_cut (hkeyed : t.Keyed) {first second : Selection} (hfirst : first.Coherent)
    (hsecond : second.Coherent) : (t.cut first).cut second = t.cut (first.both second) := by
  change (((t.prune first).reviseAll (t.forgetting first)).prune second).reviseAll
    ((t.cut first).forgetting second) = _
  rw [prune_reviseAll, prune_prune, reviseAll_reviseAll, cut]
  apply reviseAll_congr
  intro kind row hrow reference hmem name _
  have hrowFirst : row ∈ (t.prune first).rows kind := by
    obtain ⟨hmemRow, hstays⟩ := (mem_rows_prune (hfirst.both hsecond)).mp hrow
    exact (mem_rows_prune hfirst).mpr ⟨hmemRow, (Bool.and_eq_true_iff.mp hstays).1⟩
  rw [Judge.andThen]
  rcases t.forgetting_cases first kind row reference name with hkeep | hdrop
  · rw [Verdict.andThen_of_keep hkeep]
    exact forgetting_cut hkeyed hfirst hrowFirst hmem hkeep
  · rw [Verdict.andThen_of_drop hdrop]
    obtain ⟨target, htarget, hgone, hname, hmeets⟩ := forgetting_eq_drop_iff.mp hdrop
    exact (forgetting_eq_drop_iff.mpr
      ⟨target, htarget, Bool.and_eq_false_iff.mpr (.inl hgone), hname, hmeets⟩).symm

theorem Ordered.prune (h : t.Ordered) (hstays : stays.Coherent) : (t.prune stays).Ordered := by
  refine ⟨Record.ordered_mapValues.mpr h.1, fun kind entry hentry => ?_⟩
  have htops : ∀ top : Kind, top.parent = none → ∀ r ∈ (t.prune stays).tops top,
      ∃ stored ∈ t.tops top, r = top.pruneHeld stays stored := by
    intro top htop r hr
    rw [tops_prune hstays t htop] at hr
    obtain ⟨stored, hstored, rfl⟩ := List.mem_map.mp hr
    exact ⟨stored, (List.mem_filter.mp hstored).1, rfl⟩
  cases hparent : kind.parent with
  | none =>
      rw [entries_of_top _ hparent] at hentry
      obtain ⟨r, hr, rfl⟩ := List.mem_map.mp hentry
      obtain ⟨stored, hstored, rfl⟩ := htops kind hparent r hr
      refine Record.ordered_mapValues.mpr (h.2 kind (none, stored) ?_)
      rw [entries_of_top t hparent]
      exact List.mem_map_of_mem hstored
  | some parentKind =>
      obtain ⟨field, hlocation⟩ := Kind.parent_eq_some_iff.mp hparent
      obtain ⟨holder, hholder, _, hheld⟩ := (mem_entries_of_nested hlocation).mp hentry
      obtain ⟨stored, hstored, rfl⟩ := htops parentKind (Kind.parent_of_holder hparent) _ hholder
      rw [Kind.records_pruneHeld hlocation] at hheld
      exact h.2 kind (stored.name?, entry.2) ((mem_entries_of_nested hlocation).mpr
        ⟨stored, hstored, rfl, (List.mem_filter.mp hheld).1⟩)

end Tree

/-! ## Deletions as selections -/

/-- A record to be deleted, by its address and its name. -/
structure Deletion where
  kind : Kind
  parent : Option String
  name : String

namespace Deletion

variable {d : Deletion}

/-- Whether there can be such a record. -/
structure Fits (d : Deletion) : Prop where
  single : d.kind.location ≠ .single
  address : d.kind.Addresses d.parent

/-- The record goes, and with it what it holds. -/
def spares (d : Deletion) : Selection := fun kind parent name =>
  !(kind = d.kind && parent = d.parent && name = some d.name ||
    kind.parent = some d.kind && parent = some d.name)

theorem spares_eq_false_iff {kind : Kind} {parent name : Option String} :
    d.spares kind parent name = false ↔
      (kind = d.kind ∧ parent = d.parent ∧ name = some d.name) ∨
        (kind.parent = some d.kind ∧ parent = some d.name) := by
  simp only [spares, Bool.not_eq_false', Bool.or_eq_true, Bool.and_eq_true, decide_eq_true_eq,
    and_assoc]

theorem spares_eq_true_iff {kind : Kind} {parent name : Option String} :
    d.spares kind parent name = true ↔
      ¬((kind = d.kind ∧ parent = d.parent ∧ name = some d.name) ∨
        (kind.parent = some d.kind ∧ parent = some d.name)) := by
  rw [← spares_eq_false_iff, Bool.not_eq_false]

theorem Fits.coherent (h : d.Fits) : d.spares.Coherent where
  single kind hsingle parent name := by
    rw [spares_eq_true_iff]
    rintro (⟨rfl, _⟩ | ⟨hparent, _⟩)
    · exact h.single hsingle
    · rw [Kind.parent_of_single hsingle] at hparent
      cases hparent
  held child kind hparent holder hholder name := by
    rw [spares_eq_false_iff] at hholder ⊢
    rcases hholder with ⟨rfl, _, hname⟩ | ⟨htop, _⟩
    · exact .inr ⟨hparent, hname⟩
    · rw [Kind.parent_of_holder hparent] at htop
      cases htop

end Deletion

namespace Tree

variable {t : Tree} {stays : Selection} {d : Deletion}

/-- Whoever holds the record loses it, and nobody loses anything else. -/
private theorem pruneHeld_spares {parentKind : Kind} {field : String}
    (hlocation : d.kind.location = .nested parentKind field) (kind : Kind) (r : Record) :
    kind.pruneHeld d.spares r =
      if kind = parentKind ∧ r.name? = d.parent then
        r.modify field (Value.keepRecords fun r => r.name? ≠ some d.name)
      else r := by
  have hchildless : ∀ child : Kind, child.parent ≠ some d.kind :=
    Kind.parent_ne_of_not_collection (by simp [hlocation])
  split
  · next hholder =>
      obtain ⟨rfl, hname⟩ := hholder
      rw [Kind.pruneHeld, Record.modify_eq_mapValues]
      congr 1
      funext key value
      by_cases hkey : key = field
      · subst hkey
        rw [Kind.heldIn?_of_location hlocation, if_pos rfl]
        simp only []
        congr 1
        funext held
        rw [Bool.eq_iff_iff, Deletion.spares_eq_true_iff]
        simp [hname, hchildless]
      · rw [if_neg hkey]
        cases hchild : kind.heldIn? key with
        | none => rfl
        | some child =>
            apply Value.keepRecords_of_all
            intro held _
            rw [Deletion.spares_eq_true_iff]
            rintro (⟨hself, _⟩ | ⟨hheld, _⟩)
            · exact Kind.ne_of_heldIn? hlocation hkey hchild hself
            · exact hchildless child hheld
  · next hholder =>
      apply Kind.pruneHeld_of_all
      intro child childField hchild held _
      rw [Deletion.spares_eq_true_iff]
      rintro (⟨rfl, hname, _⟩ | ⟨hheld, _⟩)
      · rw [hlocation] at hchild
        exact hholder ⟨(Location.nested.inj hchild).1.symm, hname⟩
      · exact hchildless child hheld

private theorem pruneHeld_spares_of_collection (hlocation : d.kind.location = .collection)
    {kind : Kind} {r : Record} (h : kind = d.kind → r.name? ≠ some d.name) :
    kind.pruneHeld d.spares r = r := by
  apply Kind.pruneHeld_of_all
  intro child field hchild held _
  rw [Deletion.spares_eq_true_iff]
  rintro (⟨rfl, _⟩ | ⟨hheld, hname⟩)
  · rw [hlocation] at hchild
    cases hchild
  · rw [Kind.parent_eq_some_iff.mpr ⟨field, hchild⟩] at hheld
    exact h (Option.some.inj hheld) hname

private theorem keepRecords_spares_of_collection (hlocation : d.kind.location = .collection)
    (hnone : d.parent = none) {kind : Kind} (hparent : kind.parent = none) (value : Value) :
    value.keepRecords (fun r => d.spares kind none r.name?) =
      if kind.tag = d.kind.tag then value.keepRecords fun r => r.name? ≠ some d.name
      else value := by
  have htop := Kind.parent_of_collection hlocation
  by_cases hkind : kind = d.kind
  · subst hkind
    rw [if_pos rfl]
    congr 1
    funext r
    rw [Bool.eq_iff_iff, Deletion.spares_eq_true_iff]
    simp [hnone, htop]
  · rw [if_neg fun htag => hkind (Kind.tag_injective htag)]
    apply Value.keepRecords_of_all
    intro r _
    rw [Deletion.spares_eq_true_iff]
    rintro (⟨heq, _⟩ | ⟨hheld, _⟩)
    · exact hkind heq
    · rw [hparent] at hheld
      cases hheld

/-- Taking out a record is taking its name out of the list that it may stand in. -/
theorem prune_spares (hd : d.Fits) (t : Tree) :
    t.prune d.spares =
      t.modifyItems d.kind d.parent (Value.keepRecords fun r => r.name? ≠ some d.name) := by
  cases hlocation : d.kind.location with
  | single => exact absurd hlocation hd.single
  | collection =>
      have htop := Kind.parent_of_collection hlocation
      have hnone := hd.address.eq_none htop
      simp only [modifyItems, hlocation, Record.modify_eq_mapValues]
      apply prune_eq_mapValues
      · intro kind value hparent _
        rw [keepRecords_spares_of_collection hlocation hnone hparent]
        apply Value.mapPlaced_of_same
        intro r hr
        apply pruneHeld_spares_of_collection hlocation
        rintro rfl hname
        -- a record of that name is not among those that stay
        simp only [if_true, Value.placed, hlocation, Value.records_keepRecords,
          List.mem_filter, decide_eq_true_eq] at hr
        exact hr.2 hname
      · intro key value hkey
        rw [if_neg]
        rintro rfl
        rw [Kind.topOf?_tag htop] at hkey
        cases hkey
  | nested parentKind field =>
      have hparent : d.kind.parent = some parentKind :=
        Kind.parent_eq_some_iff.mpr ⟨field, hlocation⟩
      have hheldNothing : ∀ child : Kind, child.parent ≠ some d.kind :=
        Kind.parent_ne_of_not_collection (by simp [hlocation])
      simp only [modifyItems, hlocation, mapTop]
      apply prune_eq_mapValues
      · intro kind value htop _
        simp only [Kind.topOf?_tag htop]
        rw [Value.keepRecords_of_all]
        · congr 1
          funext r
          exact pruneHeld_spares hlocation kind r
        · intro r _
          rw [Deletion.spares_eq_true_iff]
          rintro (⟨rfl, _⟩ | ⟨hheld, _⟩)
          · rw [hparent] at htop
            cases htop
          · exact hheldNothing kind hheld
      · intro key value hkey
        simp only [hkey]

/-! ## A deletion is a cut -/

private theorem exists_removed (hkeyed : t.Keyed) (hd : d.Fits)
    (hmem : d.name ∈ t.names d.kind d.parent) :
    ∃ (removed : Record) (before after : List Value), (d.parent, removed) ∈ t.entries d.kind ∧
      removed.name? = some d.name ∧
      t.items? d.kind d.parent = some (before ++ .object removed :: after) ∧
      ∀ r ∈ (before ++ after).filterMap Value.object?, r.name? ≠ some d.name := by
  obtain ⟨row, hrow, hparent, hname⟩ := (hkeyed.mem_names_iff hd.single hd.address).mp hmem
  obtain ⟨_, removed, hentry, rfl⟩ := mem_rows.mp hrow
  obtain rfl : _ = d.parent := hparent
  obtain ⟨before, after, hitems⟩ := hkeyed.exists_items? hd.single hentry
  exact ⟨removed, before, after, hentry, hname, hitems,
    hkeyed.name?_ne_of_items? hd.single hd.address hitems hname⟩

private theorem mem_removedWith_iff (hkeyed : t.Keyed) {removed : Record}
    (hentry : (d.parent, removed) ∈ t.entries d.kind) (hname : removed.name? = some d.name)
    {target : Kind} {q : Option String} {gone : String} :
    (target, q, gone) ∈ d.kind.removedWith d.parent d.name removed ↔
      ∃ row ∈ t.rows target, d.spares target row.parent row.name = false ∧
        row.name = some gone ∧ row.parent = q := by
  rw [Kind.mem_removedWith]
  simp only [Deletion.spares_eq_false_iff]
  constructor
  · rintro (⟨hchild, rfl, hgone⟩ | ⟨rfl, rfl, rfl⟩)
    · obtain ⟨field, hlocation⟩ := Kind.parent_eq_some_iff.mp hchild
      have htop := Kind.parent_of_holder hchild
      simp only [Kind.namesIn, Kind.holdingField, hlocation, List.mem_filterMap] at hgone
      obtain ⟨held, hheld, hheldName⟩ := hgone
      obtain ⟨_, hremoved⟩ := (mem_entries_of_top htop).mp hentry
      have hrow := (mem_entries_of_nested hlocation).mpr ⟨_, hremoved, hname, hheld⟩
      exact ⟨_, mem_rows.mpr ⟨_, held, hrow, rfl⟩, .inr ⟨hchild, rfl⟩, hheldName, rfl⟩
    · exact ⟨_, mem_rows.mpr ⟨_, removed, hentry, rfl⟩, .inl ⟨rfl, rfl, hname⟩, hname, rfl⟩
  · rintro ⟨row, hrow, ⟨rfl, hparent, hrowName⟩ | ⟨hchild, hparent⟩, hgone, rfl⟩
    · rw [hrowName] at hgone
      exact .inr ⟨rfl, hparent, (Option.some.inj hgone).symm⟩
    · refine .inl ⟨hchild, hparent, ?_⟩
      obtain ⟨field, hlocation⟩ := Kind.parent_eq_some_iff.mp hchild
      have htop := Kind.parent_of_holder hchild
      obtain ⟨_, held, hheld, rfl⟩ := mem_rows.mp hrow
      obtain ⟨holder, hholder, hholderName, hheld⟩ := (mem_entries_of_nested hlocation).mp hheld
      obtain ⟨_, hremoved⟩ := (mem_entries_of_top htop).mp hentry
      -- names of holders are unique
      have hnodup := hkeyed.nodup_holders hchild
      rw [names_eq_filterMap_tops t htop] at hnodup
      have hfirst := find?_of_distinct hnodup hremoved hname
      have hsecond := find?_of_distinct hnodup hholder (hholderName.trans hparent)
      obtain rfl := Option.some.inj (hfirst.symm.trans hsecond)
      simp only [Kind.namesIn, Kind.holdingField, hlocation, List.mem_filterMap]
      exact ⟨held, hheld, hgone⟩

/-- Deleting a record cuts it out. -/
theorem erase_eq_cut (hordered : t.Ordered) (hkeyed : t.Keyed) (hd : d.Fits) :
    t.erase d.kind d.parent d.name = t.cut d.spares := by
  by_cases hmem : d.name ∈ t.names d.kind d.parent
  · obtain ⟨removed, before, after, hentry, hname, hitems, hother⟩ :=
      exists_removed hkeyed hd hmem
    have hlist : Value.keepRecords (fun r => r.name? ≠ some d.name)
        (.list (before ++ .object removed :: after)) = .list (before ++ after) :=
      Value.keepRecords_middle (by simp [hname]) (by simpa using hother)
    have hprune : t.setItems d.kind d.parent (before ++ after) = t.prune d.spares := by
      rw [prune_spares hd,
        setItems_eq_modifyItems hordered hkeyed hd.address hitems (by simp) hlist]
    have htake : takeNamed d.name (before ++ .object removed :: after) =
        some (removed, before ++ after) := by
      apply takeNamed_append hname
      intro r hr
      exact hother r (by rw [List.filterMap_append]; exact List.mem_append_left _ hr)
    simp only [erase, List.contains_iff_mem, hmem, if_true, hitems, htake]
    rw [hprune, dropAllReferences_eq_reviseAll _ _ _ hname, cut]
    apply reviseAll_congr
    intro kind row hrow reference href mentioned _
    apply verdict_eq_of_drop_iff (Judge.dropping_cases _ _ _ _ _ _) (forgetting_cases _ _ _ _ _ _)
    rw [Judge.dropping_eq_drop_iff, forgetting_eq_drop_iff, reach_prune hd.coherent t hrow]
    simp only [mem_removedWith_iff hkeyed hentry hname]
    constructor
    · rintro ⟨_, ⟨target, htarget, hgone, htargetName, rfl⟩, hmeets⟩
      exact ⟨target, htarget, hgone, htargetName, hmeets⟩
    · rintro ⟨target, htarget, hgone, htargetName, hmeets⟩
      exact ⟨_, ⟨target, htarget, hgone, htargetName, rfl⟩, hmeets⟩
  · -- there is no such record, so nothing is held by one either
    have hall : ∀ kind, ∀ row ∈ t.rows kind, d.spares kind row.parent row.name = true := by
      intro kind row hrow
      rw [Deletion.spares_eq_true_iff]
      rintro (⟨rfl, hparent, hname⟩ | ⟨hheld, hparent⟩)
      · exact hmem ((hkeyed.mem_names_iff hd.single hd.address).mpr ⟨row, hrow, hparent, hname⟩)
      · rw [hd.address.eq_none (Kind.parent_of_holder hheld)] at hmem
        exact hmem (parent_mem_names hheld hrow hparent)
    rw [erase_of_not_mem hmem, cut, prune_of_all hd.coherent t hall]
    refine (reviseAll_of_keep fun kind row _ reference _ name _ => ?_).symm
    refine (t.forgetting_cases d.spares kind row reference name).resolve_right fun hdrop => ?_
    obtain ⟨target, htarget, hgone, _⟩ := forgetting_eq_drop_iff.mp hdrop
    rw [hall _ target htarget] at hgone
    cases hgone

theorem erase_erase (hordered : t.Ordered) (hkeyed : t.Keyed) {first second : Deletion}
    (hfirst : first.Fits) (hsecond : second.Fits) :
    (t.erase first.kind first.parent first.name).erase second.kind second.parent second.name =
      t.cut (first.spares.both second.spares) := by
  have hnext : (t.erase first.kind first.parent first.name).Keyed :=
    keyed_iff.mpr ((keyed_iff.mp hkeyed).erase _ _ _)
  rw [erase_eq_cut hordered hkeyed hfirst] at hnext ⊢
  have hnextOrdered : (t.cut first.spares).Ordered :=
    (hordered.prune hfirst.coherent).reviseAll (t.forgetting first.spares)
  rw [erase_eq_cut hnextOrdered hnext hsecond, cut_cut hkeyed hfirst.coherent hsecond.coherent]

theorem exists_deletion {kind : Kind} (hsingle : kind.location ≠ .single) {op : Context}
    (hparent : kind.parent.isSome → op.parent.isSome) :
    ∃ d : Deletion, d.Fits ∧
      ∀ t : Tree, t.delete kind op = .ok (t.erase d.kind d.parent d.name) := by
  obtain ⟨parent, haddressed⟩ : ∃ parent, op.addressed kind = .ok parent := by
    unfold Context.addressed
    cases hlocation : kind.location with
    | single | collection => exact ⟨none, rfl⟩
    | nested parentKind field =>
        have hkind := Kind.parent_eq_some_iff.mpr ⟨field, hlocation⟩
        obtain ⟨name, hname⟩ := Option.isSome_iff_exists.mp (hparent (by simp [hkind]))
        exact ⟨some name, by simp [hname]⟩
  refine ⟨⟨kind, parent, op.name.getD ""⟩,
    ⟨hsingle, Context.addresses_of_addressed haddressed⟩, fun t => ?_⟩
  rw [delete, deletionParent, if_neg hsingle, haddressed]
  rfl

end Tree

/-- Deletions commute. Where every record has a name of its own among its siblings, two
deletions are accepted in either order and leave the same tree, whatever they address and
whatever dangles. The fields of records stand in order, as they do in a map. -/
theorem deletions_commute {t : Tree} (hordered : t.Ordered) (hkeyed : t.Keyed)
    {first second : Kind} (hfirst : first.location ≠ .single) (hsecond : second.location ≠ .single)
    {firstOp secondOp : Context} (hfirstParent : first.parent.isSome → firstOp.parent.isSome)
    (hsecondParent : second.parent.isSome → secondOp.parent.isSome) :
    ∃ u, (do (← t.delete first firstOp).delete second secondOp) = .ok u ∧
      (do (← t.delete second secondOp).delete first firstOp) = .ok u := by
  obtain ⟨d, hd, hdelete⟩ := Tree.exists_deletion hfirst hfirstParent
  obtain ⟨e, he, herase⟩ := Tree.exists_deletion hsecond hsecondParent
  refine ⟨t.cut (d.spares.both e.spares), ?_, ?_⟩
  · rw [hdelete, ← Tree.erase_erase hordered hkeyed hd he]
    exact herase _
  · rw [herase, Selection.both_comm, ← Tree.erase_erase hordered hkeyed he hd]
    exact hdelete _

/-- The instance that a store reads its keys through and one of its keys go in either
order. -/
theorem deletions_commute_vault :
    (Tree.default.after sampleVaults).Ordered ∧ (Tree.default.after sampleVaults).Keyed ∧
    ∃ u, (do
        (← (Tree.default.after sampleVaults).delete .keyManagement (.editing "vault" none)).delete
          .encryptionKey (.editing "root" (some "vault"))) = .ok u ∧
      (do
        (← (Tree.default.after sampleVaults).delete .encryptionKey
          (.editing "root" (some "vault"))).delete .keyManagement (.editing "vault" none)) =
        .ok u := by
  obtain ⟨hgrounds, hordered⟩ : Tree.default.groundsRun sampleVaults = true ∧
      (Tree.default.after sampleVaults).Ordered := by decide +kernel
  have hkeyed := (Tree.sound_after hgrounds).keyed
  exact ⟨hordered, hkeyed, deletions_commute hordered hkeyed (by decide) (by decide) (by decide)
    (by decide)⟩

end Blueprint
