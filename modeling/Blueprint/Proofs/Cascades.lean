import Blueprint.Proofs.Successive

/-!
# Cascades

A cascade passes one verdict on the references that could mean a record. It does
not touch the names that the scopes of these references read, so going through the
places one after another comes to the same as one revision of the whole tree,
judged by the tree as it was.
-/

namespace Blueprint

/-! ## Judges that leave scopes alone -/

namespace Judge

/-- Keeps the names that the scopes of references to a kind read. -/
def KeepsScopes (judge : Judge) (target : Kind) : Prop :=
  ∀ kind row field, target.parent.isSome → judge kind row (.scopeSource field target) =
    fun _ => .keep

/-- Follows the references that reach the records of a kind under a parent. -/
def following (rows : Rows) (target : Kind) (parent : Option String)
    (judge : String → Verdict) : Judge :=
  fun kind row reference name =>
    if reference.target = target ∧ (row.reach rows kind reference).meets parent = true then
      judge name
    else .keep

theorem following_of_ne {target : Kind} {reference : Reference} (h : reference.target ≠ target)
    (rows : Rows) (parent : Option String) (judge : String → Verdict) (kind : Kind) (row : Row) :
    following rows target parent judge kind row reference = fun _ => .keep := by
  funext name
  simp only [following, h, false_and, if_false]

theorem scopeSource_target_ne {target : Kind} (h : target.parent.isSome) (field : String) :
    (Reference.scopeSource field target).target ≠ target := by
  obtain ⟨parent, hparent⟩ := Option.isSome_iff_exists.mp h
  rw [Reference.target_scopeSource hparent]
  rintro rfl
  have hcollection := Kind.location_of_parent hparent
  simp [Kind.parent, hcollection] at hparent

theorem keepsScopes_following (rows : Rows) (target : Kind) (parent : Option String)
    (judge : String → Verdict) : (following rows target parent judge).KeepsScopes target := by
  intro kind row field h
  exact following_of_ne (scopeSource_target_ne h field) rows parent judge kind row

end Judge

namespace Row

theorem scopeName_revise_of_keep {row : Row} {judge : Reference → String → Verdict}
    {field : String} {target : Kind}
    (h : judge (.scopeSource field target) = fun _ => .keep) :
    (row.revise judge).scopeName field target = row.scopeName field target := by
  simp [scopeName, revise, h]

/-- What a reference reaches does not depend on the names that its scope does not
read. -/
theorem reach_revise {kind : Kind} {reference : Reference}
    (hmem : reference ∈ kind.schema.references) {judge : Reference → String → Verdict}
    (h : ∀ field, reference.target.parent.isSome →
      judge (.scopeSource field reference.target) = fun _ => .keep) (rows : Rows) (row : Row) :
    (row.revise judge).reach rows kind reference = row.reach rows kind reference := by
  unfold reach
  cases hscope : reference.scope with
  | anywhere | sibling | underParentField _ => rfl
  | underField field =>
      have htarget := (Kind.tied_of_underField hmem hscope).1
      simp only [scopeName_revise_of_keep (h field htarget)]

theorem reach_revise_rows {kind : Kind} {reference : Reference}
    (hmem : reference ∈ kind.schema.references) {judge : Judge}
    (h : judge.KeepsScopes reference.target) (rows : Rows) (row : Row) :
    row.reach (rows.revise judge) kind reference = row.reach rows kind reference := by
  refine reach_eq_of_holder fun field hscope => ?_
  obtain ⟨_, _, htarget, _⟩ := Kind.tied_of_underParentField hmem hscope
  rw [holder?_revise, Option.bind_map]
  refine Option.bind_congr fun found _ => ?_
  exact scopeName_revise_of_keep (h found.1 found.2 field htarget)

end Row

/-! ## One cascade -/

namespace Reference

theorem revise_keep (reference : Reference) (r : Record) :
    reference.revise (fun _ => .keep) r = r :=
  revise_of_not_touches (not_touches_of_keep fun _ _ => rfl)

end Reference

namespace Tree

theorem mapKind_mapKind (t : Tree) (kind : Kind) (f g : Option String → Record → Record) :
    (t.mapKind kind g).mapKind kind f = t.mapKind kind fun parent r => f parent (g parent r) := by
  simp only [mapKind, mapTop_mapTop]
  congr 1
  funext top r
  cases hparent : kind.parent with
  | none =>
      simp only [Kind.lift_of_top hparent]
      by_cases h : top = kind <;> simp [h]
  | some parent =>
      obtain ⟨field, hlocation⟩ := Kind.parent_eq_some_iff.mp hparent
      simp only [Kind.lift_of_nested hlocation]
      by_cases h : top = parent
      · have hname : (r.modify field (Value.mapItems (g r.name?))).name? = r.name? := by
          rw [Record.name?_eq, Record.get?_modify,
            if_neg (Kind.holdingField_ne_name hlocation).symm, ← Record.name?_eq]
        simp only [h, if_true, hname, Record.modify_modify, Value.mapItems_mapItems]
      · simp only [h, if_false]

theorem mapKind_id (t : Tree) (kind : Kind) : t.mapKind kind (fun _ r => r) = t := by
  have hlift : kind.lift (fun _ r => r) = fun (_ : Kind) (r : Record) => r := by
    funext top r
    cases hparent : kind.parent with
    | none => simp only [Kind.lift_of_top hparent, ite_self]
    | some parent =>
        obtain ⟨field, hlocation⟩ := Kind.parent_eq_some_iff.mp hparent
        simp only [Kind.lift_of_nested hlocation, Record.modify_mapItems_id, ite_self]
  rw [mapKind, hlift, mapTop_id]

theorem foldl_mapKind_same {α : Type} (steps : List α) (kind : Kind)
    (f : α → Option String → Record → Record) (t : Tree) :
    steps.foldl (fun t step => t.mapKind kind (f step)) t =
      t.mapKind kind fun parent r => steps.foldl (fun r step => f step parent r) r := by
  induction steps generalizing t with
  | nil => exact (t.mapKind_id kind).symm
  | cons step rest ih => rw [List.foldl_cons, ih, mapKind_mapKind]; rfl

theorem reviseHolders_eq (before : Tree) (target : Option String) (judge : String → Verdict)
    (state : Nat × Tree) (place : Kind × Reference) :
    (before.reviseHolders target judge state place).2 =
      state.2.mapKind place.1 fun parent holder =>
        place.2.revise (fun name =>
          if before.mayReach place.1 parent holder place.2 target = true then judge name
          else .keep) holder := by
  obtain ⟨kind, reference⟩ := place
  simp only [reviseHolders]
  rw [visit_eq]
  intro count parent holder
  by_cases hreach : before.mayReach kind parent holder reference target = true
  · cases htouches : reference.touches judge holder with
    | true => simp [hreach]
    | false => simp [hreach, Reference.revise_of_not_touches htouches]
  · simp [hreach, Reference.revise_keep]

/-- Within one record a cascade revises the references all at once. -/
private theorem foldl_revise_following (t : Tree) (target : Kind) (parent : Option String)
    (judge : String → Verdict) (kind : Kind) (q : Option String) (r : Record) :
    (kind.schema.references.filter fun reference => reference.target = target).foldl
        (fun holder reference => reference.revise (fun name =>
          if t.mayReach kind q holder reference parent = true then judge name else .keep) holder)
        r =
      r.reviseBy kind.schema.references
        (Judge.following t.rows target parent judge kind (Row.of kind q r)) := by
  rw [List.foldl_filter, ← Record.foldl_revise kind.nodup_roots fun holder reference name =>
    if reference.target = target then
      if t.mayReach kind q holder reference parent = true then judge name else .keep
    else .keep]
  · congr 1
    funext holder reference
    by_cases h : reference.target = target
    · simp [h]
    · simp [h, Reference.revise_keep]
  · intro before reference after hsplit name _
    have hmem : reference ∈ kind.schema.references := by simp [hsplit]
    by_cases h : reference.target = target
    · subst h
      rw [mayReach, reach_eq t hmem, Row.of_reviseBy, Row.reach_revise hmem]
      · simp [Judge.following]
      · intro field htarget
        funext other
        rw [Record.judgeAmong, Judge.keepsScopes_following t.rows _ parent judge _ _ _ htarget]
        simp
    · simp [h, Judge.following]

/-- A cascade revises the references that could mean the record all at once. -/
theorem reviseReferences_eq (t : Tree) (target : Kind) (parent : Option String)
    (judge : String → Verdict) :
    (t.reviseReferences target parent judge).2 =
      t.reviseAll (.following t.rows target parent judge) := by
  have hfold : (t.reviseReferences target parent judge).2 =
      target.referencedBy.foldl
        (fun u place => (t.reviseHolders parent judge (0, u) place).2) t := by
    refine (List.foldl_hom Prod.snd fun state place => ?_).symm
    rw [reviseHolders_eq, reviseHolders_eq]
  have hkind : ∀ (kind : Kind) (u : Tree),
      ((kind.schema.references.filter fun reference => reference.target = target).map
        fun reference => (kind, reference)).foldl
          (fun u place => (t.reviseHolders parent judge (0, u) place).2) u =
        u.mapKind kind fun q r => r.reviseBy kind.schema.references
          (Judge.following t.rows target parent judge kind (Row.of kind q r)) := by
    intro kind u
    simp only [reviseHolders_eq, List.foldl_map, foldl_mapKind_same]
    congr 1
    funext q r
    exact foldl_revise_following t target parent judge kind q r
  rw [hfold, Kind.referencedBy, List.foldl_flatMap]
  simp only [hkind]
  rw [foldl_mapKind Kind.nodup_all (fun _ => .following t.rows target parent judge)
    fun _ _ _ _ _ _ _ _ _ _ => rfl, Judge.on_all]

end Tree

/-! ## The cascade of a removal -/

theorem Kind.mem_removedWith {kind : Kind} {parent : Option String} {name : String}
    {removed : Record} {target : Kind} {q : Option String} {gone : String} :
    (target, q, gone) ∈ kind.removedWith parent name removed ↔
      (target.parent = some kind ∧ q = some name ∧ gone ∈ target.namesIn removed) ∨
        (target = kind ∧ q = parent ∧ gone = name) := by
  simp only [removedWith, List.mem_append, List.mem_flatMap, List.mem_map, mem_children,
    Prod.mk.injEq, List.mem_singleton]
  constructor
  · rintro (⟨child, hchild, held, hheld, rfl, rfl, rfl⟩ | hself)
    · exact .inl ⟨hchild, rfl, hheld⟩
    · exact .inr hself
  · rintro (⟨hchild, rfl, hheld⟩ | hself)
    · exact .inl ⟨target, hchild, gone, hheld, rfl, rfl, rfl⟩
    · exact .inr hself

namespace Judge

/-- Drops the names of removed records where they are reached. -/
def dropping (rows : Rows) (gone : List (Kind × Option String × String)) : Judge :=
  fun kind row reference name =>
    if gone.any fun (target, parent, removed) => reference.target = target ∧
        (row.reach rows kind reference).meets parent = true ∧ name = removed then .drop
    else .keep

theorem dropping_cases (rows : Rows) (gone : List (Kind × Option String × String)) (kind : Kind)
    (row : Row) (reference : Reference) (name : String) :
    dropping rows gone kind row reference name = .keep ∨
      dropping rows gone kind row reference name = .drop := by
  unfold dropping
  split
  · exact .inr rfl
  · exact .inl rfl

theorem dropping_eq_drop_iff {rows : Rows} {gone : List (Kind × Option String × String)}
    {kind : Kind} {row : Row} {reference : Reference} {name : String} :
    dropping rows gone kind row reference name = .drop ↔
      ∃ q, (reference.target, q, name) ∈ gone ∧
        (row.reach rows kind reference).meets q = true := by
  simp only [dropping, ite_eq_left_iff, reduceCtorEq, imp_false, not_not, List.any_eq_true,
    decide_eq_true_eq]
  constructor
  · rintro ⟨⟨target, q, removed⟩, hgone, rfl, hmeets, rfl⟩
    exact ⟨q, hgone, hmeets⟩
  · rintro ⟨q, hgone, hmeets⟩
    exact ⟨_, hgone, rfl, hmeets, rfl⟩

theorem dropping_eq_keep_iff {rows : Rows} {gone : List (Kind × Option String × String)}
    {kind : Kind} {row : Row} {reference : Reference} {name : String} :
    dropping rows gone kind row reference name = .keep ↔
      ¬∃ q, (reference.target, q, name) ∈ gone ∧
        (row.reach rows kind reference).meets q = true := by
  rw [← dropping_eq_drop_iff]
  rcases dropping_cases rows gone kind row reference name with h | h <;> simp [h]

theorem keepsScopes_dropping (rows : Rows) {gone : List (Kind × Option String × String)}
    {target : Kind} (h : ∀ entry ∈ gone, target.parent ≠ some entry.1) :
    (dropping rows gone).KeepsScopes target := by
  intro kind row field htarget
  obtain ⟨parent, hparent⟩ := Option.isSome_iff_exists.mp htarget
  funext name
  rw [dropping_eq_keep_iff, Reference.target_scopeSource hparent]
  rintro ⟨q, hgone, _⟩
  exact h _ hgone hparent

end Judge

namespace Tree

/-- Dropping the names of several records, none of them a parent of a later one, comes to
the same as dropping them all at once. -/
theorem foldl_dropReferences (t : Tree) {gone : List (Kind × Option String × String)}
    (h : gone.Pairwise fun earlier later => later.1.parent ≠ some earlier.1) :
    gone.foldl (fun u entry => (u.dropReferences entry.1 entry.2.1 entry.2.2).2) t =
      t.reviseAll (.dropping t.rows gone) := by
  induction gone using List.reverseRecOn with
  | nil => exact (t.reviseAll_of_keep fun _ _ _ _ _ _ _ => rfl).symm
  | append_singleton before entry ih =>
      obtain ⟨target, parent, removed⟩ := entry
      obtain ⟨hbefore, _, hlast⟩ := List.pairwise_append.mp h
      -- none of the earlier ones is a parent of the last one, so its scopes read what they read
      have hscopes : (Judge.dropping t.rows before).KeepsScopes target :=
        Judge.keepsScopes_dropping t.rows fun earlier hearlier =>
          hlast earlier hearlier (target, parent, removed) (List.mem_singleton_self _)
      rw [List.foldl_append, ih hbefore]
      simp only [List.foldl_cons, List.foldl_nil]
      rw [dropReferences, reviseReferences_eq, reviseAll_reviseAll, rows_reviseAll]
      apply reviseAll_congr
      intro kind row _ reference hmem name _
      have hreach : reference.target = target →
          (row.revise (Judge.dropping t.rows before kind row)).reach
            (t.rows.revise (.dropping t.rows before)) kind reference =
              row.reach t.rows kind reference := by
        rintro rfl
        rw [Row.reach_revise_rows hmem hscopes]
        exact Row.reach_revise hmem (fun field htarget => hscopes kind row field htarget) _ _
      simp only [Judge.andThen, Judge.dropping, List.any_append, List.any_cons, List.any_nil,
        Bool.or_false, Bool.or_eq_true, decide_eq_true_eq]
      by_cases hdropped : before.any (fun (target, parent, removed) =>
          decide (reference.target = target ∧
            (row.reach t.rows kind reference).meets parent = true ∧ name = removed)) = true
      · rw [Verdict.andThen_of_drop (if_pos hdropped), if_pos (.inl hdropped)]
      · rw [Verdict.andThen_of_keep (if_neg hdropped)]
        simp only [hdropped, Bool.false_eq_true, false_or]
        by_cases htarget : reference.target = target
        · have hsame := hreach htarget
          simp only [Judge.following, htarget, true_and, hsame, Verdict.remove]
          by_cases hmeets : (row.reach t.rows kind reference).meets parent = true
          · simp only [hmeets, true_and, if_true]
          · simp only [hmeets, false_and, if_false, Bool.false_eq_true]
        · simp only [Judge.following, htarget, false_and, if_false]

theorem dropAllReferences_eq (t : Tree) (kind : Kind) (parent : Option String) {removed : Record}
    {name : String} (h : removed.name? = some name) :
    (t.dropAllReferences kind parent removed).2 =
      (kind.removedWith parent name removed).foldl
        (fun u entry => (u.dropReferences entry.1 entry.2.1 entry.2.2).2) t := by
  rw [dropAllReferences, h]
  exact (List.foldl_hom Prod.snd fun _ _ => rfl).symm

theorem dropAllReferences_preserves {P : Tree → Prop}
    (hrevise : ∀ (u : Tree) (judge : Judge), P u → P (u.reviseAll judge)) {t : Tree}
    (ht : P t) (kind : Kind) (parent : Option String) (removed : Record) :
    P (t.dropAllReferences kind parent removed).2 := by
  cases hname : removed.name? with
  | none => rwa [dropAllReferences, hname]
  | some name =>
      rw [dropAllReferences_eq t kind parent hname]
      refine List.foldlRecOn _ _ ht fun u hu entry _ => ?_
      rw [dropReferences, reviseReferences_eq]
      exact hrevise u _ hu

/-- Removing a record drops its name and the names of the records it held. -/
theorem dropAllReferences_eq_reviseAll (t : Tree) (kind : Kind) (parent : Option String)
    {removed : Record} {name : String} (h : removed.name? = some name) :
    (t.dropAllReferences kind parent removed).2 =
      t.reviseAll (.dropping t.rows (kind.removedWith parent name removed)) := by
  rw [dropAllReferences_eq t kind parent h]
  apply foldl_dropReferences
  have hheld : ∀ entry ∈ kind.children.flatMap (fun child =>
      (child.namesIn removed).map fun held => (child, some name, held)),
      ∀ later : Kind × Option String × String, later.1.parent ≠ some entry.1 := by
    intro entry hentry later hparent
    obtain ⟨child, hchild, hmem⟩ := List.mem_flatMap.mp hentry
    obtain ⟨held, _, rfl⟩ := List.mem_map.mp hmem
    have hcollection := Kind.location_of_parent hparent
    have hsome := Kind.mem_children.mp hchild
    rw [Kind.parent_of_collection hcollection] at hsome
    cases hsome
  unfold Kind.removedWith
  rw [List.pairwise_append]
  refine ⟨?_, List.pairwise_singleton _ _, fun entry hentry later _ => hheld entry hentry later⟩
  exact List.pairwise_of_forall_mem_list fun entry hentry later _ => hheld entry hentry later

theorem rows_dropAllReferences (t : Tree) (kind : Kind) (parent : Option String)
    {removed : Record} {name : String} (h : removed.name? = some name) :
    (t.dropAllReferences kind parent removed).2.rows =
      t.rows.revise (.dropping t.rows (kind.removedWith parent name removed)) := by
  rw [dropAllReferences_eq_reviseAll t kind parent h, rows_reviseAll]

end Tree

end Blueprint
