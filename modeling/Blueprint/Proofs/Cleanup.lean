import Blueprint.Proofs.Revision

/-!
# Cleaning up

Reconciliation goes through the kinds one by one, and through the references of a
record one by one, and every step looks at what the steps before it have left.
`Tree.cleaned` clears the same names all at once, judged by the tree as it was.
Both come to the same: a cleared name that a scope reads is the name of no parent,
so the scope has reached nothing before and reaches nothing afterwards.
-/

namespace Blueprint

/-! ## Clearing names -/

namespace Value

/-- Whether a value is a name that is gone. -/
def isGone (gone : String → Bool) : Value → Bool
  | text name => !name.isEmpty && gone name
  | _ => false

/-- Whether a value is a record with a field whose name is gone. -/
def isGoneIn (field : String) (gone : String → Bool) (value : Value) : Bool :=
  (value.object?.bind (Record.get? · field)).any (isGone gone)

end Value

/-- A single name that is gone becomes null, in a list it is left out. -/
def Arity.clear (gone : String → Bool) : Arity → Value → Value
  | one, value => if value.isGone gone then .null else value
  | many, .list entries => .list (entries.filter fun entry => !entry.isGone gone)
  | many, value => value

/-- Clears the names at a reference that are gone. -/
def Reference.clear (reference : Reference) (gone : String → Bool) (r : Record) : Record :=
  match reference.path with
  | .field field => r.modify field (reference.arity.clear gone)
  | .inside object field =>
      r.modify object (Value.mapObject (Record.modify field (reference.arity.clear gone)))
  | .each list field =>
      r.modify list fun
        | .list entries => .list (entries.filter fun entry => !entry.isGoneIn field gone)
        | value => value

/-- Drops the names that are gone. -/
def Verdict.clearing (gone : String → Bool) (name : String) : Verdict :=
  if gone name then .drop else .keep

theorem Verdict.flatMap_left_clearing (gone : String → Bool) (names : List String) :
    (names.flatMap fun name => (Verdict.clearing gone name).left name) =
      names.filter fun name => !gone name := by
  induction names with
  | nil => rfl
  | cons name rest ih =>
      rw [List.flatMap_cons, ih]
      cases h : gone name <;> simp [clearing, h]

namespace Value

theorem verdict_clearing (gone : String → Bool) (value : Value) :
    value.verdict (.clearing gone) = if value.isGone gone then .drop else .keep := by
  cases value with
  | text name =>
      cases hempty : name.isEmpty <;> cases hgone : gone name <;>
        simp [verdict, isGone, Verdict.clearing, hempty, hgone]
  | null | bool _ | number _ | list _ | object _ => rfl

theorem fieldVerdict_clearing (field : String) (gone : String → Bool) (value : Value) :
    value.fieldVerdict field (.clearing gone) =
      if value.isGoneIn field gone then .drop else .keep := by
  unfold fieldVerdict isGoneIn
  cases value.object?.bind (Record.get? · field) with
  | none => rfl
  | some held => simp [verdict_clearing]

theorem reviseEntry_clearing (gone : String → Bool) :
    reviseEntry (.clearing gone) = Option.guard fun entry => !entry.isGone gone := by
  funext entry
  cases h : entry.isGone gone <;> simp [reviseEntry, verdict_clearing, Option.guard, h]

theorem reviseFieldEntry_clearing (field : String) (gone : String → Bool) :
    reviseFieldEntry field (.clearing gone) =
      Option.guard fun entry => !entry.isGoneIn field gone := by
  funext entry
  cases entry with
  | object r =>
      cases h : isGoneIn field gone (object r) <;>
        simp [reviseFieldEntry, fieldVerdict_clearing, Option.guard, h]
  | null | bool _ | number _ | text _ | list _ => rfl

end Value

theorem Arity.revise_clearing (arity : Arity) (gone : String → Bool) :
    arity.revise (.clearing gone) = arity.clear gone := by
  funext value
  cases arity with
  | one =>
      simp only [revise, Value.reviseName, Value.verdict_clearing, clear]
      cases value.isGone gone <;> rfl
  | many =>
      cases value with
      | list entries =>
          simp only [revise, Value.reviseNames, Value.reviseEntry_clearing, clear,
            List.filterMap_eq_filter]
      | null | bool _ | number _ | text _ | object _ => rfl

theorem Reference.revise_clearing (reference : Reference) (gone : String → Bool) (r : Record) :
    reference.revise (.clearing gone) r = reference.clear gone r := by
  unfold revise clear
  cases reference.path with
  | field _ | inside _ _ => simp only [Arity.revise_clearing]
  | each list field =>
      simp only
      congr 1
      funext value
      cases value with
      | list entries =>
          simp only [Value.reviseFieldEntries, Value.reviseFieldEntry_clearing,
            List.filterMap_eq_filter]
      | null | bool _ | number _ | text _ | object _ => rfl

namespace Tree

/-- Whether a name at a reference in a record means nothing. -/
def dangles (t : Tree) (kind : Kind) (parent : Option String) (holder : Record)
    (reference : Reference) (name : String) : Bool :=
  !(reference.keep = some name || (t.reached kind parent holder reference).contains name)

/-- Clears what dangles in a record, judged by the record `before`. -/
def cleanRecord (t : Tree) (kind : Kind) (parent : Option String) (before r : Record) : Record :=
  kind.schema.references.foldl
    (fun r reference => reference.clear (t.dangles kind parent before reference) r) r

/-- Clears what dangles in all records at once, judged by the tree as it is. -/
def cleaned (t : Tree) : Tree :=
  t.mapTop fun kind r =>
    t.cleanRecord kind none r
      (kind.mapHeld (fun child parent held => t.cleanRecord child parent held held) r)

end Tree

/-! ## The judge of a tree -/

theorem Reference.judgeDangling_congr {reference : Reference} {first second : List String}
    {name : String} (h : name ∈ first ↔ name ∈ second) :
    reference.judgeDangling first name = reference.judgeDangling second name := by
  simp only [judgeDangling, List.contains_eq_mem, h]

namespace Tree

/-- Drops the names that mean nothing in a tree. -/
def dangling (t : Tree) : Judge := fun kind row reference =>
  reference.judgeDangling ((row.reach t.rows kind reference).names t reference.target)

theorem judgeDangling_eq (t : Tree) {kind : Kind} {reference : Reference}
    (h : reference ∈ kind.schema.references) (parent : Option String) (r : Record) :
    reference.judgeDangling (t.reached kind parent r reference) =
      t.dangling kind (Row.of kind parent r) reference := by
  rw [reached_eq t h, dangling]

theorem dangling_eq_clearing (t : Tree) {kind : Kind} {reference : Reference}
    (h : reference ∈ kind.schema.references) (parent : Option String) (r : Record) :
    t.dangling kind (Row.of kind parent r) reference =
      .clearing (t.dangles kind parent r reference) := by
  rw [← judgeDangling_eq t h]
  funext name
  unfold Reference.judgeDangling Verdict.clearing dangles
  cases hkept : (reference.keep = some name : Bool) ||
    (t.reached kind parent r reference).contains name <;> simp_all

theorem dangling_cases (t : Tree) (kind : Kind) (row : Row) (reference : Reference)
    (name : String) :
    t.dangling kind row reference name = .keep ∨ t.dangling kind row reference name = .drop := by
  unfold dangling Reference.judgeDangling
  split
  · exact .inl rfl
  · exact .inr rfl

theorem dangling_ne_replace (t : Tree) (kind : Kind) (row : Row) (reference : Reference)
    (name : String) {other : String} : t.dangling kind row reference name ≠ .replace other := by
  rcases t.dangling_cases kind row reference name with h | h <;> simp [h]

theorem dangling_eq_keep_iff (t : Tree) (kind : Kind) (row : Row) (reference : Reference)
    (name : String) :
    t.dangling kind row reference name = .keep ↔ row.Resolves t.rows kind reference name := by
  simp only [dangling, Reference.judgeDangling, ite_eq_left_iff, reduceCtorEq, imp_false,
    not_not, Bool.or_eq_true, decide_eq_true_eq, List.contains_iff_mem, Reach.mem_names,
    Row.Resolves]

theorem names_of_not_mem {t : Tree} {kind parent : Kind} (h : kind.parent = some parent)
    {name : String} (hname : name ∉ t.names parent none) : t.names kind (some name) = [] := by
  rw [List.eq_nil_iff_forall_not_mem]
  intro other hother
  obtain ⟨q, r, hentry, hq, _⟩ := mem_names.mp hother
  have hparent : q = some name := by simpa using hq
  exact hname (parent_mem_names h (mem_rows.mpr ⟨q, r, hentry, rfl⟩) hparent)

/-- Clearing the name that a scope reads does not change what the scope reaches. -/
theorem names_ofName_left (t : Tree) {kind parent : Kind} (h : kind.parent = some parent)
    (field : String) (name? : Option String) :
    (Reach.ofName (name?.toList.flatMap fun name =>
        ((Reference.scopeSource field kind).judgeDangling (t.names parent none) name).left
          name).head?).names t kind =
      (Reach.ofName name?).names t kind := by
  cases name? with
  | none => rfl
  | some name =>
      by_cases hname : name ∈ t.names parent none
      · simp [Reference.judgeDangling, hname]
      · have hkeep : (Reference.scopeSource field kind).keep = none := rfl
        have hunder : (Reach.ofName (some name)).names t kind = [] := names_of_not_mem h hname
        rw [hunder]
        simp [Reference.judgeDangling, hname, hkeep, Reach.ofName, Reach.names]

theorem dangling_scopeSource (t : Tree) {target parent : Kind} (h : target.parent = some parent)
    (kind : Kind) (row : Row) (field : String) :
    t.dangling kind row (.scopeSource field target) =
      (Reference.scopeSource field target).judgeDangling (t.names parent none) := by
  have htarget : (Reference.scopeSource field target).target = parent := by
    simp [Reference.scopeSource, Reference.one, h]
  have hscope : (Reference.scopeSource field target).scope = .anywhere := rfl
  simp only [dangling, Row.reach, hscope, htarget, Reach.names]

/-- A judge that drops nothing but what dangles in a tree. -/
def Spares (t : Tree) (judge : Judge) : Prop :=
  ∀ kind row reference, judge kind row reference = t.dangling kind row reference ∨
    judge kind row reference = fun _ => .keep

/-- Dropping dangling names does not change what the scope of a reference reaches. -/
theorem names_scopeName_revise (t : Tree) {kind holderKind parent : Kind}
    (hparent : kind.parent = some parent) {field : String}
    (hsource : Reference.scopeSource field kind ∈ holderKind.schema.references)
    (q : Option String) (r : Record) {judge : Reference → String → Verdict}
    (hjudge : judge (.scopeSource field kind) =
        t.dangling holderKind (Row.of holderKind q r) (.scopeSource field kind) ∨
      judge (.scopeSource field kind) = fun _ => .keep) :
    (Reach.ofName (((Row.of holderKind q r).revise judge).scopeName field kind)).names t kind =
      (Reach.ofName ((Row.of holderKind q r).scopeName field kind)).names t kind := by
  rcases hjudge with h | h
  · have hmentions : (Row.of holderKind q r).mentions (.scopeSource field kind) =
        (r.filled? field).toList := by
      rw [Row.mentions_of hsource, Reference.scopeSource, Reference.mentions_one]
    have hhead : (r.filled? field).toList.head? = r.filled? field := by
      cases r.filled? field <;> rfl
    simp only [Row.scopeName, Row.revise, h, dangling_scopeSource t hparent, hmentions, hhead]
    exact names_ofName_left t hparent field (r.filled? field)
  · simp [Row.scopeName, Row.revise, h]

theorem names_reviseAll (t : Tree) (judge : Judge) (reach : Reach) (kind : Kind) (name : String) :
    name ∈ reach.names (t.reviseAll judge) kind ↔ name ∈ reach.names t kind := by
  simp only [Reach.mem_names, rows_reviseAll, Rows.revise, List.mem_map, exists_exists_and_eq_and]
  rfl

/-- What dangles is the same before and after some of it was dropped. -/
theorem Spares.dangling_reviseAll {t : Tree} {judge : Judge} (hjudge : t.Spares judge)
    {kind : Kind} {reference : Reference} (h : reference ∈ kind.schema.references) (row : Row) :
    (t.reviseAll judge).dangling kind row reference = t.dangling kind row reference := by
  have hreach : (row.reach (t.reviseAll judge).rows kind reference).names t reference.target =
      (row.reach t.rows kind reference).names t reference.target := by
    cases hscope : reference.scope with
    | anywhere | sibling | underField _ => simp only [Row.reach, hscope]
    | underParentField field =>
        obtain ⟨holderKind, hholder, htarget, hsource⟩ :=
          Kind.tied_of_underParentField h hscope
        obtain ⟨parent, hparent⟩ := Option.isSome_iff_exists.mp htarget
        rw [Row.reach_underParentField hscope, Row.reach_underParentField hscope, rows_reviseAll,
          Row.holder?_revise]
        cases hfound : row.holder? t.rows kind with
        | none => rfl
        | some found =>
            obtain ⟨hkind, hmem, _⟩ := Row.mem_of_holder? hfound
            obtain rfl := Option.some.inj (hkind.symm.trans hholder)
            obtain ⟨q, r, _, hrow⟩ := mem_rows.mp hmem
            simp only [Option.map_some, Option.bind_some, ← hrow]
            exact t.names_scopeName_revise hparent hsource q r (hjudge _ _ _)
  funext name
  apply Reference.judgeDangling_congr
  rw [names_reviseAll, hreach]

/-! ## One record -/

/-- The references of a record are settled one by one as all at once. -/
theorem reconcileRecord_eq (t : Tree) (kind : Kind) (parent : Option String) (r : Record) :
    (t.reconcileRecord kind parent r).2 =
      r.reviseBy kind.schema.references (t.dangling kind (Row.of kind parent r)) := by
  have hfold : (t.reconcileRecord kind parent r).2 =
      kind.schema.references.foldl (fun r reference => reference.revise
        (reference.judgeDangling (t.reached kind parent r reference)) r) r :=
    (List.foldl_hom Prod.snd fun _ _ => rfl).symm
  rw [hfold]
  apply Record.foldl_revise kind.nodup_roots fun r reference =>
    reference.judgeDangling (t.reached kind parent r reference)
  intro before reference after hsplit name _
  have hmem : reference ∈ kind.schema.references := by simp [hsplit]
  rw [← judgeDangling_eq t hmem]
  congr 1
  rw [reached_eq t hmem, reached_eq t hmem, Row.of_reviseBy]
  -- Only the fields that scopes read matter, and these name parents.
  unfold Row.reach
  cases hscope : reference.scope with
  | anywhere | sibling | underParentField _ => rfl
  | underField field =>
      obtain ⟨htarget, hsource⟩ := Kind.tied_of_underField hmem hscope
      obtain ⟨parentKind, hparent⟩ := Option.isSome_iff_exists.mp htarget
      apply names_scopeName_revise t hparent hsource
      unfold Record.judgeAmong
      by_cases hbefore : Reference.scopeSource field reference.target ∈ before
      · left
        simp only [hbefore, if_true]
      · right
        simp only [hbefore, if_false]

/-- Clearing the names one reference after another is a revision as well. -/
theorem cleanRecord_eq (t : Tree) (kind : Kind) (parent : Option String) (before r : Record) :
    t.cleanRecord kind parent before r =
      r.reviseBy kind.schema.references (t.dangling kind (Row.of kind parent before)) := by
  rw [cleanRecord, ← Record.foldl_revise kind.nodup_roots
    fun _ reference => .clearing (t.dangles kind parent before reference)]
  · simp only [Reference.revise_clearing]
  · intro earlier reference later hsplit name _
    rw [dangling_eq_clearing t (by simp [hsplit])]

theorem cleaned_eq (t : Tree) : t.cleaned = t.reviseAll t.dangling := by
  simp only [cleaned, reviseAll, mapAll, cleanRecord_eq, Row.of_mapHeld]

/-! ## Whole trees -/

theorem spares_under (t : Tree) (admits : Option String → Bool) (kinds : List Kind) :
    t.Spares ((t.dangling.under admits).on kinds) := by
  intro kind row reference
  unfold Judge.on Judge.under
  by_cases hkind : kind ∈ kinds
  · by_cases hadmits : admits row.parent = true
    · left
      funext name
      simp only [hkind, hadmits, if_true]
    · right
      funext name
      simp only [hadmits, ite_self, Bool.false_eq_true, if_false]
  · right
    funext name
    simp only [hkind, if_false]

theorem reconcileKind_eq (admits : Option String → Bool) (kind : Kind) (t : Tree) :
    (t.reconcileKind admits kind).2 =
      t.mapKind kind fun parent r => r.reviseBy kind.schema.references
        ((t.dangling.under admits) kind (Row.of kind parent r)) := by
  unfold reconcileKind
  rw [visit_eq]
  intro changed parent r
  by_cases h : admits parent = true
  · simp [h, Judge.under, reconcileRecord_eq]
  · simp [h, Judge.under, Record.reviseBy_keep]

theorem reconcileKinds_eq (admits : Option String → Bool) {kinds : List Kind}
    (hnodup : kinds.Nodup) (t : Tree) :
    (t.reconcileKinds admits kinds).2 = t.reviseAll ((t.dangling.under admits).on kinds) := by
  have hfold : (t.reconcileKinds admits kinds).2 =
      kinds.foldl (fun t kind => (t.reconcileKind admits kind).2) t :=
    (List.foldl_hom Prod.snd fun _ _ => rfl).symm
  simp only [hfold, reconcileKind_eq]
  apply foldl_mapKind hnodup fun t => t.dangling.under admits
  intro before kind after hsplit row hrow reference hmem name _
  by_cases h : admits row.parent = true
  · simp only [Judge.under, h, if_true]
    rw [(t.spares_under admits before).dangling_reviseAll hmem]
  · simp [Judge.under, h]

theorem reconcileAll_eq (t : Tree) : t.reconcileAll.2 = t.reviseAll t.dangling := by
  rw [reconcileAll, reconcileKinds_eq _ Kind.nodup_all, Judge.on_all]
  rfl

theorem reconcileChildren_eq (t : Tree) (kind : Kind) (name : String) :
    (t.reconcileChildren kind name).2 =
      t.reviseAll ((t.dangling.under fun parent => parent = some name).on kind.children) := by
  rw [reconcileChildren, reconcileKinds_eq _ kind.nodup_children]

/-- Reconciliation clears everything that dangles, as all at once, and nothing else. -/
theorem reconcileAll_cleans (t : Tree) :
    t.reconcileAll.2 = t.cleaned ∧
      ∀ kind, ∀ reference ∈ kind.schema.references,
        (t.reconcileAll.2.entries kind).map
            (fun entry => (entry.1, reference.mentions entry.2)) =
          (t.entries kind).map fun entry => (entry.1, (reference.mentions entry.2).filter
            fun name => !t.dangles kind entry.1 entry.2 reference name) := by
  constructor
  · rw [reconcileAll_eq, cleaned_eq]
  · intro kind reference hmem
    have hrows := congrArg (List.map fun row : Row => (row.parent, row.mentions reference))
      (congrFun (rows_reviseAll t t.dangling) kind)
    simp only [rows, Rows.revise, List.map_map] at hrows
    rw [reconcileAll_eq]
    calc (t.reviseAll t.dangling).entries kind |>.map
            (fun entry => (entry.1, reference.mentions entry.2))
        _ = (t.entries kind).map fun entry => (entry.1, (reference.mentions entry.2).flatMap
              fun name => (t.dangling kind (Row.of kind entry.1 entry.2) reference name).left
                name) := by
            simpa only [Function.comp_def, Row.revise, Row.mentions_of hmem, Row.parent_of]
              using hrows
        _ = _ := by
            apply List.map_congr_left
            intro entry _
            rw [dangling_eq_clearing t hmem, Verdict.flatMap_left_clearing]

/-! ## Nothing to clean -/

private theorem reconcileReferences_eq_false_iff (t : Tree) (kind : Kind)
    (parent : Option String) (references : List Reference) (changed : Bool) (r : Record) :
    (references.foldl (t.reconcileReference kind parent) (changed, r)).1 = false ↔
      changed = false ∧ ∀ reference ∈ references,
        reference.touches (reference.judgeDangling (t.reached kind parent r reference)) r =
          false := by
  induction references generalizing changed r with
  | nil => simp
  | cons reference rest ih =>
      rw [List.foldl_cons, reconcileReference, ih, Bool.or_eq_false_iff, List.forall_mem_cons,
        and_assoc]
      refine and_congr_right fun _ => and_congr_right fun htouches => ?_
      rw [Reference.revise_of_not_touches htouches]

theorem reconcileRecord_eq_false_iff (t : Tree) (kind : Kind) (parent : Option String)
    (r : Record) :
    (t.reconcileRecord kind parent r).1 = false ↔ ∀ reference ∈ kind.schema.references,
      ∀ name ∈ reference.mentions r,
        (Row.of kind parent r).Resolves t.rows kind reference name := by
  rw [reconcileRecord, reconcileReferences_eq_false_iff]
  simp only [true_and]
  refine forall_congr' fun reference => forall_congr' fun hmem => ?_
  rw [judgeDangling_eq t hmem,
    Reference.not_touches_iff fun name => t.dangling_ne_replace kind _ _ name]
  simp only [dangling_eq_keep_iff]

theorem reconcileRecord_of_resolves {t : Tree} {kind : Kind} {parent : Option String} {r : Record}
    (h : ∀ reference ∈ kind.schema.references, ∀ name ∈ reference.mentions r,
      (Row.of kind parent r).Resolves t.rows kind reference name) :
    t.reconcileRecord kind parent r = (false, r) := by
  have hrecord : (t.reconcileRecord kind parent r).2 = r := by
    rw [reconcileRecord_eq]
    apply Record.reviseBy_of_keep
    intro reference hmem name hname
    rw [dangling_eq_keep_iff]
    exact h reference hmem name hname
  exact Prod.ext ((reconcileRecord_eq_false_iff t kind parent r).mpr h) hrecord

theorem Consistent.reconcileKinds_eq {t : Tree} (h : t.Consistent)
    (admits : Option String → Bool) {kinds : List Kind} (hnodup : kinds.Nodup) :
    (t.reconcileKinds admits kinds).2 = t := by
  rw [Tree.reconcileKinds_eq admits hnodup]
  apply reviseAll_of_keep
  intro kind row hrow reference hmem name hname
  rcases spares_under t admits kinds kind row reference with hjudge | hjudge
  · rw [hjudge, dangling_eq_keep_iff]
    exact (consistent_iff t).mp h kind row hrow reference hmem name hname
  · rw [hjudge]

theorem Consistent.reconcileChildren_eq {t : Tree} (h : t.Consistent) (kind : Kind)
    (name : String) : (t.reconcileChildren kind name).2 = t :=
  h.reconcileKinds_eq _ kind.nodup_children

theorem Consistent.reconcileRecord_eq {t : Tree} (h : t.Consistent) {kind : Kind}
    {entry : Option String × Record} (hentry : entry ∈ t.entries kind) :
    t.reconcileRecord kind entry.1 entry.2 = (false, entry.2) := by
  apply reconcileRecord_of_resolves
  intro reference hmem name hname
  have hrow : Row.of kind entry.1 entry.2 ∈ t.rows kind :=
    mem_rows.mpr ⟨entry.1, entry.2, hentry, rfl⟩
  exact (consistent_iff t).mp h kind _ hrow reference hmem name (by rwa [Row.mentions_of hmem])

theorem Consistent.reconcileAll_eq {t : Tree} (h : t.Consistent) :
    t.reconcileAll = (false, t) := by
  have hkind : ∀ kind, t.reconcileKind (fun _ => true) kind = (false, t) := by
    intro kind
    have htree : (t.reconcileKind (fun _ => true) kind).2 = t :=
      h.reconcileKinds_eq (fun _ => true) (List.nodup_singleton kind)
    have hflag : (t.reconcileKind (fun _ => true) kind).1 = false := by
      unfold reconcileKind
      simp only [if_true]
      rw [visit_eq (f := fun changed parent r => (changed || (t.reconcileRecord kind parent r).1,
        (t.reconcileRecord kind parent r).2)) (fun _ _ _ => rfl)]
      refine List.foldlRecOn (motive := (· = false)) _ _ rfl fun changed hchanged entry hentry => ?_
      simp [hchanged, h.reconcileRecord_eq hentry]
    exact Prod.ext hflag htree
  have hfold : ∀ kinds : List Kind, t.reconcileKinds (fun _ => true) kinds = (false, t) := by
    intro kinds
    unfold reconcileKinds
    induction kinds with
    | nil => rfl
    | cons kind rest ih =>
        simp only [List.foldl_cons, hkind, Bool.or_self]
        exact ih
  exact hfold Kind.all

/-! ## What is left of a tree -/

theorem dangling_scopeSource_of_held {t : Tree} {target : Kind} (htarget : target.parent.isSome)
    {held : Row} (hheld : held ∈ t.rows target) {parent : String}
    (hparent : held.parent = some parent) (kind : Kind) (row : Row) (field : String) :
    t.dangling kind row (.scopeSource field target) parent = .keep := by
  obtain ⟨parentKind, hkind⟩ := Option.isSome_iff_exists.mp htarget
  rw [dangling_scopeSource t hkind]
  simp [Reference.judgeDangling, parent_mem_names hkind hheld hparent]

theorem resolves_revise {t : Tree} {kind : Kind} {parent : Option String} {r : Record}
    {judge : Reference → String → Verdict}
    (hjudge : ∀ reference, judge reference = t.dangling kind (Row.of kind parent r) reference ∨
      judge reference = fun _ => .keep) {reference : Reference}
    (hmem : reference ∈ kind.schema.references) {name : String}
    (h : (Row.of kind parent r).Resolves t.rows kind reference name) :
    ((Row.of kind parent r).revise judge).Resolves t.rows kind reference name := by
  rcases h with hkeep | ⟨target, htarget, hadmits, hname⟩
  · exact .inl hkeep
  · refine .inr ⟨target, htarget, ?_, hname⟩
    apply Row.admits_revise hmem hadmits
    intro field p hheld hp
    rcases hjudge (.scopeSource field reference.target) with heq | heq
    · rw [heq]
      exact dangling_scopeSource_of_held hheld htarget hp kind _ field
    · rw [heq]

theorem resolves_of_left {t : Tree} {kind : Kind} {parent : Option String} {r : Record}
    {reference : Reference} (hmem : reference ∈ kind.schema.references) {left : String}
    (h : left ∈ ((Row.of kind parent r).revise
      (t.dangling kind (Row.of kind parent r))).mentions reference) :
    ((Row.of kind parent r).revise (t.dangling kind (Row.of kind parent r))).Resolves t.rows kind
      reference left := by
  have hkeep := ((Verdict.mem_flatMap_left fun name => t.dangling_cases kind _ _ name).mp h).2
  exact resolves_revise (fun _ => .inl rfl) hmem ((t.dangling_eq_keep_iff kind _ _ left).mp hkeep)

theorem Spares.resolves_rows {t : Tree} {judge : Judge} (hjudge : t.Spares judge) {kind : Kind}
    {reference : Reference} (hmem : reference ∈ kind.schema.references) {row : Row}
    {name : String} (h : row.Resolves t.rows kind reference name) :
    row.Resolves (t.rows.revise judge) kind reference name := by
  rcases h with hkeep | ⟨target, htarget, hadmits, hname⟩
  · exact .inl hkeep
  · refine .inr ⟨target.revise (judge reference.target target), List.mem_map_of_mem htarget,
      ?_, hname⟩
    apply Row.admits_revise_rows hmem hadmits
    intro other row field p hheld hp
    rcases hjudge other row (.scopeSource field reference.target) with heq | heq
    · rw [heq]
      exact dangling_scopeSource_of_held hheld htarget hp other row field
    · rw [heq]

/-- Dropping dangling names makes a tree consistent if no other names are left that mean
nothing. -/
theorem Spares.consistent {t : Tree} {judge : Judge} (hjudge : t.Spares judge)
    (h : ∀ kind, ∀ row ∈ t.rows kind, ∀ reference ∈ kind.schema.references,
      ∀ name ∈ row.mentions reference, judge kind row reference name = .keep →
        row.Resolves t.rows kind reference name) : (t.reviseAll judge).Consistent := by
  rw [consistent_iff, rows_reviseAll]
  intro kind revised hrevised reference hmem left hleft
  obtain ⟨row, hrow, rfl⟩ := List.mem_map.mp hrevised
  have hcases : ∀ name, judge kind row reference name = .keep ∨
      judge kind row reference name = .drop := by
    intro name
    rcases hjudge kind row reference with heq | heq
    · rw [heq]
      exact t.dangling_cases kind row reference name
    · exact .inl (by rw [heq])
  obtain ⟨hname, hkeep⟩ := (Verdict.mem_flatMap_left hcases).mp hleft
  have hresolves := h kind row hrow reference hmem left hname hkeep
  obtain ⟨parent, r, _, rfl⟩ := mem_rows.mp hrow
  exact hjudge.resolves_rows hmem (resolves_revise (hjudge kind _) hmem hresolves)

theorem consistent_reconcileAll (t : Tree) : t.reconcileAll.2.Consistent := by
  rw [reconcileAll_eq]
  apply Spares.consistent fun _ _ _ => .inl rfl
  intro kind row _ reference _ name _
  exact (t.dangling_eq_keep_iff kind row reference name).mp

/-- Reconciling what a record holds leaves a consistent tree if nothing else dangles. -/
theorem consistent_reconcileChildren {t : Tree} {kind : Kind} {name : String}
    (h : ∀ other, ∀ row ∈ t.rows other, ¬(other.parent = some kind ∧ row.parent = some name) →
      ∀ reference ∈ other.schema.references, ∀ mentioned ∈ row.mentions reference,
        row.Resolves t.rows other reference mentioned) :
    (t.reconcileChildren kind name).2.Consistent := by
  rw [reconcileChildren_eq]
  apply (t.spares_under _ _).consistent
  intro other row hrow reference hmem mentioned hmentioned hkeep
  by_cases hheld : other.parent = some kind ∧ row.parent = some name
  · simp only [Judge.on, Judge.under, Kind.mem_children.mpr hheld.1, hheld.2, decide_true,
      if_true] at hkeep
    exact (t.dangling_eq_keep_iff other row reference mentioned).mp hkeep
  · exact h other row hrow hheld reference hmem mentioned hmentioned

end Tree

end Blueprint
