import Blueprint.Proofs.Cascades
import Blueprint.Proofs.Cleanup
import Blueprint.Store.Defaults

/-!
# Settling

A fixup tells whether it changed anything, a cascade how many references it affected. Both
are exact, and a fixup has nothing left to do on what it leaves. Every fixup of a tree is a
revision by a judge, so all of it comes down to one question: whether the judge keeps every
name of the tree.
-/

namespace Blueprint

/-- A pass that reports `idle` exactly if it changes nothing, and finds nothing to do in
what it leaves. -/
structure Settles {σ α : Type} (idle : σ) (pass : α → σ × α) : Prop where
  reports : ∀ a, (pass a).1 ≠ idle ↔ (pass a).2 ≠ a
  again : ∀ a, pass (pass a).2 = (idle, (pass a).2)

/-! ## Judges that keep every name -/

namespace Judge

/-- Every name at the references of a kind is kept. -/
def KeepsKind (judge : Judge) (t : Tree) (kind : Kind) : Prop :=
  ∀ row ∈ t.rows kind, ∀ reference ∈ kind.schema.references, ∀ name ∈ row.mentions reference,
    judge kind row reference name = .keep

/-- Every name of a tree is kept. -/
def KeepsTree (judge : Judge) (t : Tree) : Prop := ∀ kind, judge.KeepsKind t kind

/-- No name is replaced by itself. -/
def Strict (judge : Judge) : Prop :=
  ∀ kind row reference name, judge kind row reference name ≠ .replace name

theorem keepsTree_on_iff {judge : Judge} {kinds : List Kind} {t : Tree} :
    (judge.on kinds).KeepsTree t ↔ ∀ kind ∈ kinds, judge.KeepsKind t kind := by
  constructor
  · intro h kind hkind row hrow reference hmem name hname
    have hkeep := h kind row hrow reference hmem name hname
    rwa [on, if_pos hkind] at hkeep
  · intro h kind row hrow reference hmem name hname
    rw [on]
    split
    · next hkind => exact h kind hkind row hrow reference hmem name hname
    · rfl

end Judge

theorem Record.reviseBy_eq_self_iff {references : List Reference}
    (hnodup : (references.map (·.path.root)).Nodup) {judge : Reference → String → Verdict}
    (hjudge : ∀ reference name, judge reference name ≠ .replace name) {r : Record} :
    r.reviseBy references judge = r ↔
      ∀ reference ∈ references, ∀ name ∈ reference.mentions r, judge reference name = .keep := by
  refine ⟨fun h reference hmem => ?_, reviseBy_of_keep⟩
  apply Verdict.keep_of_flatMap_left (hjudge reference)
  rw [← mentions_reviseBy hnodup hmem, h]

theorem Tree.reviseAll_eq_self_iff {t : Tree} {judge : Judge} (hjudge : judge.Strict) :
    t.reviseAll judge = t ↔ judge.KeepsTree t := by
  refine ⟨fun h kind row hrow reference _ => ?_, reviseAll_of_keep⟩
  have hrows : (t.rows kind).map (fun row => row.revise (judge kind row)) =
      (t.rows kind).map id := by
    rw [List.map_id]
    exact (congrFun (rows_reviseAll t judge) kind).symm.trans (by rw [h])
  apply Verdict.keep_of_flatMap_left (hjudge kind row reference)
  exact congrFun (congrArg Row.mentions (List.map_inj_left.mp hrows row hrow)) reference

/-- A pass that revises settles, if it is idle exactly where its judge keeps every name,
and its judge keeps every name that a revision leaves. -/
theorem Settles.of_judge {σ : Type} {idle : σ} {pass : Tree → σ × Tree} (judge : Tree → Judge)
    (hstrict : ∀ t, (judge t).Strict) (hpass : ∀ t, (pass t).2 = t.reviseAll (judge t))
    (hidle : ∀ t, (pass t).1 = idle ↔ (judge t).KeepsTree t)
    (hleft : ∀ t : Tree, (judge (t.reviseAll (judge t))).KeepsTree (t.reviseAll (judge t))) :
    Settles idle pass where
  reports t := by
    rw [hpass, Ne, Ne, Tree.reviseAll_eq_self_iff (hstrict t), hidle]
  again t := by
    rw [hpass]
    apply Prod.ext
    · exact (hidle _).mpr (hleft t)
    · exact (hpass _).trans (Tree.reviseAll_of_keep (hleft t))

/-! ## What is still reached -/

namespace Row

variable {t : Tree} {judge : Judge}
  (hjudge : ∀ kind row reference name, judge kind row reference name = .keep ∨
    judge kind row reference name = .drop)

private theorem ofName_scopeName_revise {kind target : Kind} {row : Row} (hrow : row ∈ t.rows kind)
    {field : String} (hcases : ∀ name, judge kind row (.scopeSource field target) name = .keep ∨
      judge kind row (.scopeSource field target) name = .drop) :
    Reach.ofName ((row.revise (judge kind row)).scopeName field target) =
        .ofName (row.scopeName field target) ∨
      ∃ name, row.scopeName field target = some name ∧
        judge kind row (.scopeSource field target) name = .drop ∧
        Reach.ofName ((row.revise (judge kind row)).scopeName field target) = .nowhere := by
  obtain ⟨parent, r, _, rfl⟩ := Tree.mem_rows.mp hrow
  have hmentions := mentions_scopeSource kind parent r field target
  cases hscope : (of kind parent r).scopeName field target with
  | none =>
      rw [hscope] at hmentions
      left
      simp [scopeName, revise, hmentions]
  | some name =>
      rcases hcases name with hkeep | hdrop
      · left
        rw [scopeName_revise hscope hkeep]
      · rw [hscope] at hmentions
        exact .inr ⟨name, rfl, hdrop, by simp [scopeName, revise, hmentions, hdrop, Reach.ofName]⟩

include hjudge

/-- What a reference reaches after names are dropped is what it reached before, unless the
name that its scope reads is among those dropped. -/
theorem reach_revise_cases {kind : Kind} {reference : Reference}
    (hmem : reference ∈ kind.schema.references) {row : Row} (hrow : row ∈ t.rows kind) :
    (row.revise (judge kind row)).reach (t.rows.revise judge) kind reference =
        row.reach t.rows kind reference ∨
      (row.revise (judge kind row)).reach (t.rows.revise judge) kind reference = .nowhere ∧
        ∃ other, ∃ holder ∈ t.rows other, ∃ field name,
          Reference.scopeSource field reference.target ∈ other.schema.references ∧
          row.reach t.rows kind reference = .under name ∧
          judge other holder (.scopeSource field reference.target) name = .drop := by
  cases hscope : reference.scope with
  | anywhere | sibling =>
      left
      simp only [reach, hscope, revise]
  | underField field =>
      have hsource := (Kind.tied_of_underField hmem hscope).2
      simp only [reach, hscope]
      rcases ofName_scopeName_revise hrow (hjudge kind row (.scopeSource field reference.target))
        with hsame | ⟨name, hname, hdrop, hnowhere⟩
      · exact .inl hsame
      · exact .inr ⟨hnowhere, kind, row, hrow, field, name, hsource,
          congrArg Reach.ofName hname, hdrop⟩
  | underParentField field =>
      obtain ⟨parentKind, hparent, _, hsource⟩ := Kind.tied_of_underParentField hmem hscope
      have hrevised : (row.revise (judge kind row)).holder? (t.rows.revise judge) kind =
          row.holder? (t.rows.revise judge) kind := rfl
      rw [reach_underParentField hscope, reach_underParentField hscope, hrevised, holder?_revise]
      cases hfound : row.holder? t.rows kind with
      | none => exact .inl rfl
      | some found =>
          obtain ⟨hkind, hholder, _⟩ := mem_of_holder? hfound
          obtain rfl := Option.some.inj (hkind.symm.trans hparent)
          simp only [Option.map_some, Option.bind_some]
          rcases ofName_scopeName_revise hholder
              (hjudge found.1 found.2 (.scopeSource field reference.target))
            with hsame | ⟨name, hname, hdrop, hnowhere⟩
          · exact .inl hsame
          · exact .inr ⟨hnowhere, found.1, found.2, hholder, field, name, hsource,
              congrArg Reach.ofName hname, hdrop⟩

theorem meets_of_meets_revise {kind : Kind} {reference : Reference}
    (hmem : reference ∈ kind.schema.references) {row : Row} (hrow : row ∈ t.rows kind)
    {q : Option String}
    (h : ((row.revise (judge kind row)).reach (t.rows.revise judge) kind reference).meets q =
      true) : (row.reach t.rows kind reference).meets q = true := by
  rcases reach_revise_cases hjudge hmem hrow with hsame | ⟨hnowhere, _⟩
  · rwa [hsame] at h
  · rw [hnowhere] at h
    cases h

end Row

/-! ## Folds that report -/

section

variable {σ α β : Type} {idle : σ}

private theorem foldl_eq_idle_iff {step : σ → α → σ} {quiet : α → Prop}
    (h : ∀ state a, step state a = idle ↔ state = idle ∧ quiet a) (state : σ) (items : List α) :
    items.foldl step state = idle ↔ state = idle ∧ ∀ a ∈ items, quiet a := by
  induction items generalizing state with
  | nil => simp
  | cons a rest ih => rw [List.foldl_cons, ih, h, List.forall_mem_cons, and_assoc]

/-- Steps that change nothing as long as they are quiet are all taken on what was there at
first. -/
private theorem foldl_fst_eq_idle_iff {step : σ × β → α → σ × β}
    (quiet : β → α → Prop)
    (h : ∀ state b a, (step (state, b) a).1 = idle ↔ state = idle ∧ quiet b a)
    (hquiet : ∀ state b a, quiet b a → (step (state, b) a).2 = b) (state : σ) (b : β)
    (items : List α) :
    (items.foldl step (state, b)).1 = idle ↔ state = idle ∧ ∀ a ∈ items, quiet b a := by
  induction items generalizing state b with
  | nil => simp
  | cons a rest ih =>
      rw [List.foldl_cons, ← Prod.mk.eta (p := step (state, b) a), ih, h, List.forall_mem_cons,
        and_assoc]
      exact and_congr_right fun _ => and_congr_right fun ha => by rw [hquiet state b a ha]

end

namespace Tree

/-! ## Reconciliation -/

theorem strict_dangling (t : Tree) : t.dangling.Strict := fun kind row reference name =>
  t.dangling_ne_replace kind row reference name

theorem Spares.strict {t : Tree} {judge : Judge} (h : t.Spares judge) : judge.Strict := by
  intro kind row reference name
  rcases h kind row reference with heq | heq
  · rw [heq]
    exact t.dangling_ne_replace kind row reference name
  · simp [heq]

theorem settles_reconcileRecord (t : Tree) (kind : Kind) (parent : Option String) :
    Settles false (t.reconcileRecord kind parent) where
  reports r := by
    rw [reconcileRecord_eq, Ne, Ne,
      Record.reviseBy_eq_self_iff kind.nodup_roots (t.strict_dangling kind _),
      reconcileRecord_eq_false_iff]
    simp only [dangling_eq_keep_iff]
  again r := by
    apply reconcileRecord_of_resolves
    rw [reconcileRecord_eq]
    intro reference hmem name hname
    rw [Row.of_reviseBy]
    apply resolves_of_left hmem
    rwa [← Row.of_reviseBy, Row.mentions_of hmem]

theorem reconcileKind_fst_eq_false_iff (admits : Option String → Bool) (kind : Kind) (t : Tree) :
    (t.reconcileKind admits kind).1 = false ↔ (t.dangling.under admits).KeepsKind t kind := by
  have hflag : (t.reconcileKind admits kind).1 = false ↔ false = false ∧ ∀ entry ∈ t.entries kind,
      admits entry.1 = true → (t.reconcileRecord kind entry.1 entry.2).1 = false := by
    rw [reconcileKind, visit_eq (g := fun parent r =>
      if admits parent then (t.reconcileRecord kind parent r).2 else r)]
    · apply foldl_eq_idle_iff
      intro changed entry
      by_cases hadmits : admits entry.1 = true <;> simp [hadmits]
    · intro changed parent r
      by_cases hadmits : admits parent = true <;> simp [hadmits]
  rw [hflag]
  simp only [true_and, reconcileRecord_eq_false_iff]
  constructor
  · intro h row hrow reference hmem name hname
    obtain ⟨parent, r, hentry, rfl⟩ := mem_rows.mp hrow
    rw [Judge.under]
    split
    · next hadmits =>
        rw [Row.mentions_of hmem] at hname
        rw [dangling_eq_keep_iff]
        exact h _ hentry hadmits reference hmem name hname
    · rfl
  · intro h entry hentry hadmits reference hmem name hname
    have hkeep := h _ (mem_rows.mpr ⟨entry.1, entry.2, hentry, rfl⟩) reference hmem name
      (by rwa [Row.mentions_of hmem])
    rw [Judge.under, Row.parent_of, if_pos hadmits, dangling_eq_keep_iff] at hkeep
    exact hkeep

theorem reconcileKinds_fst_eq_false_iff (admits : Option String → Bool) (kinds : List Kind)
    (t : Tree) : (t.reconcileKinds admits kinds).1 = false ↔
      ((t.dangling.under admits).on kinds).KeepsTree t := by
  rw [reconcileKinds, Judge.keepsTree_on_iff,
    foldl_fst_eq_idle_iff fun u kind => (u.dangling.under admits).KeepsKind u kind]
  · simp
  · intro changed u kind
    simp [← reconcileKind_fst_eq_false_iff]
  · intro changed u kind hkeeps
    have hone : (u.reconcileKind admits kind).2 = (u.reconcileKinds admits [kind]).2 := rfl
    rw [hone, reconcileKinds_eq admits (List.nodup_singleton kind)]
    apply reviseAll_of_keep
    exact Judge.keepsTree_on_iff.mpr (by simpa using hkeeps)

/-- What dangles afterwards has dangled before, and is gone. -/
theorem settles_reconcileKinds (admits : Option String → Bool) {kinds : List Kind}
    (hnodup : kinds.Nodup) : Settles false (reconcileKinds admits kinds) := by
  apply Settles.of_judge fun t => (t.dangling.under admits).on kinds
  · exact fun t => (t.spares_under admits kinds).strict
  · exact fun t => reconcileKinds_eq admits hnodup t
  · exact fun t => reconcileKinds_fst_eq_false_iff admits kinds t
  · intro t
    rw [Judge.keepsTree_on_iff]
    intro kind hkind revised hrevised reference hmem name hname
    rw [rows_reviseAll] at hrevised
    obtain ⟨row, hrow, rfl⟩ := List.mem_map.mp hrevised
    obtain ⟨parent, r, _, rfl⟩ := mem_rows.mp hrow
    rw [Judge.under]
    split
    · next hadmits =>
        have hjudge : (t.dangling.under admits).on kinds kind (Row.of kind parent r) =
            t.dangling kind (Row.of kind parent r) := by
          funext reference name
          have hparent : admits (Row.of kind parent r).parent = true := hadmits
          rw [Judge.on, if_pos hkind, Judge.under, if_pos hparent]
        rw [hjudge] at hname ⊢
        rw [(t.spares_under admits kinds).dangling_reviseAll hmem, dangling_eq_keep_iff]
        exact resolves_of_left hmem hname
    · rfl

theorem settles_reconcileAll : Settles false reconcileAll :=
  settles_reconcileKinds (fun _ => true) Kind.nodup_all

theorem settles_reconcileChildren (kind : Kind) (name : String) :
    Settles false fun t => reconcileChildren t kind name :=
  settles_reconcileKinds (fun parent => parent = some name) kind.nodup_children

/-! ## Cascades -/

/-- Whether a walk over one place affects nothing. -/
private def QuietAt (before : Tree) (target : Option String) (judge : String → Verdict)
    (t : Tree) (place : Kind × Reference) : Prop :=
  ∀ entry ∈ t.entries place.1, before.mayReach place.1 entry.1 entry.2 place.2 target = true →
    place.2.touches judge entry.2 = false

private theorem reviseHolders_fst_eq_zero_iff (before : Tree) (target : Option String)
    (judge : String → Verdict) (count : Nat) (t : Tree) (place : Kind × Reference) :
    (before.reviseHolders target judge (count, t) place).1 = 0 ↔
      count = 0 ∧ QuietAt before target judge t place := by
  obtain ⟨kind, reference⟩ := place
  rw [reviseHolders, visit_eq (g := fun parent holder =>
    if before.mayReach kind parent holder reference target && reference.touches judge holder then
      reference.revise judge holder
    else holder)]
  · apply foldl_eq_idle_iff
    intro count entry
    by_cases hreach : before.mayReach kind entry.1 entry.2 reference target = true
    · cases reference.touches judge entry.2 <;> simp [hreach]
    · simp [hreach]
  · intro count parent holder
    split <;> rfl

private theorem reviseHolders_snd_of_quiet {before : Tree} {target : Option String}
    {judge : String → Verdict} {count : Nat} {t : Tree} {place : Kind × Reference}
    (h : QuietAt before target judge t place) :
    (before.reviseHolders target judge (count, t) place).2 = t := by
  rw [reviseHolders_eq]
  refine (mapKind_congr fun entry hentry => ?_).trans (t.mapKind_id place.1)
  by_cases hreach : before.mayReach place.1 entry.1 entry.2 place.2 target = true
  · simp only [hreach, if_true, Reference.revise_of_not_touches (h entry hentry hreach)]
  · simp only [hreach, Bool.false_eq_true, if_false, Reference.revise_keep]

theorem reviseReferences_fst_eq_zero_iff {judge : String → Verdict}
    (hjudge : ∀ name, judge name ≠ .replace name) (t : Tree) (target : Kind)
    (parent : Option String) :
    (t.reviseReferences target parent judge).1 = 0 ↔
      (Judge.following t.rows target parent judge).KeepsTree t := by
  rw [reviseReferences, foldl_fst_eq_idle_iff _ (reviseHolders_fst_eq_zero_iff t parent judge)
    fun _ _ _ => reviseHolders_snd_of_quiet]
  simp only [true_and]
  constructor
  · intro h kind row hrow reference hmem name hname
    obtain ⟨q, r, hentry, rfl⟩ := mem_rows.mp hrow
    rw [Judge.following]
    split
    · next hfollows =>
        have hplace : (kind, reference) ∈ target.referencedBy := by
          simp [Kind.referencedBy, Kind.mem_all, hmem, hfollows.1]
        have htouches := h _ hplace _ hentry (by rw [mayReach, reach_eq t hmem, hfollows.2])
        rw [Row.mentions_of hmem] at hname
        exact (Reference.not_touches_iff hjudge).mp htouches name hname
    · rfl
  · rintro h ⟨kind, reference⟩ hplace entry hentry hreach
    obtain ⟨hmem, htarget⟩ : reference ∈ kind.schema.references ∧ reference.target = target := by
      simpa [Kind.referencedBy, Kind.mem_all] using hplace
    rw [mayReach, reach_eq t hmem] at hreach
    rw [Reference.not_touches_iff hjudge]
    intro name hname
    have hkeep := h kind _ (mem_rows.mpr ⟨entry.1, entry.2, hentry, rfl⟩) reference hmem name
      (by rwa [Row.mentions_of hmem])
    rwa [Judge.following, if_pos ⟨htarget, hreach⟩] at hkeep

theorem strict_following {judge : String → Verdict} (h : ∀ name, judge name ≠ .replace name)
    (rows : Rows) (target : Kind) (parent : Option String) :
    (Judge.following rows target parent judge).Strict := by
  intro kind row reference name
  rw [Judge.following]
  split
  · exact h name
  · simp

/-- The new name is not the old one, so a second renaming finds nothing. -/
theorem settles_renameReferences (kind : Kind) (parent : Option String) {old new : String}
    (hne : old ≠ new) : Settles 0 fun t => renameReferences t kind parent old new := by
  have hrename : ∀ name, Verdict.rename old new name ≠ .replace name := by
    intro name
    rw [Verdict.rename]
    split
    · next hold =>
        intro hsame
        exact hne (hold.symm.trans (Verdict.replace.inj hsame).symm)
    · simp
  apply Settles.of_judge fun t => .following t.rows kind parent (.rename old new)
  · exact fun t => strict_following hrename t.rows kind parent
  · exact fun t => reviseReferences_eq t kind parent _
  · exact fun t => reviseReferences_fst_eq_zero_iff hrename t kind parent
  · intro t other revised hrevised reference hmem name hname
    rw [rows_reviseAll] at hrevised ⊢
    obtain ⟨row, hrow, rfl⟩ := List.mem_map.mp hrevised
    rw [Judge.following]
    split
    · next hfollows =>
        obtain ⟨rfl, hmeets⟩ := hfollows
        have hscopes := Judge.keepsScopes_following t.rows reference.target parent
          (.rename old new)
        rw [Row.reach_revise_rows hmem hscopes, Row.reach_revise hmem fun field htarget =>
          hscopes other row field htarget] at hmeets
        -- the name at hand is what was left of one before: the new name, or not the old one
        obtain ⟨before, _, hleft⟩ := List.mem_flatMap.mp hname
        rw [Judge.following, if_pos ⟨rfl, hmeets⟩, Verdict.rename] at hleft
        split at hleft
        · have hnew : name = new := by
            rw [Verdict.left_replace] at hleft
            split at hleft
            · cases hleft
            · exact List.mem_singleton.mp hleft
          rw [Verdict.rename, if_neg (hnew ▸ Ne.symm hne)]
        · next hother =>
            rw [Verdict.left_keep, List.mem_singleton] at hleft
            rw [Verdict.rename, if_neg (hleft ▸ hother)]
    · rfl

private theorem foldl_dropReferences_fst_eq_zero_iff (gone : List (Kind × Option String × String))
    (t : Tree) :
    (gone.foldl (fun (count, t) (kind, parent, name) =>
        let (cleared, t) := t.dropReferences kind parent name
        (count + cleared, t)) (0, t)).1 = 0 ↔
      (Judge.dropping t.rows gone).KeepsTree t := by
  have hremove : ∀ gone name, Verdict.remove gone name ≠ .replace name := by
    intro gone name
    rw [Verdict.remove]
    split <;> simp
  rw [foldl_fst_eq_idle_iff fun u entry =>
    (Judge.following u.rows entry.1 entry.2.1 (.remove entry.2.2)).KeepsTree u]
  · simp only [true_and]
    constructor
    · intro h kind row hrow reference hmem name hname
      rw [Judge.dropping_eq_keep_iff]
      rintro ⟨q, hgone, hmeets⟩
      have hkeep := h _ hgone kind row hrow reference hmem name hname
      simp [Judge.following, hmeets, Verdict.remove] at hkeep
    · intro h entry hgone kind row hrow reference hmem name hname
      have hkeep := Judge.dropping_eq_keep_iff.mp (h kind row hrow reference hmem name hname)
      rw [Judge.following]
      split
      · next hfollows =>
          obtain ⟨htarget, hmeets⟩ := hfollows
          rw [Verdict.remove, if_neg]
          rintro rfl
          exact hkeep ⟨_, htarget ▸ hgone, hmeets⟩
      · rfl
  · rintro count u ⟨target, parent, name⟩
    simp only [dropReferences, Nat.add_eq_zero_iff, reviseReferences_fst_eq_zero_iff (hremove _)]
  · rintro count u ⟨target, parent, name⟩ hkeeps
    simp only [dropReferences, reviseReferences_eq]
    exact reviseAll_of_keep hkeeps

/-- Dropping names brings nothing into reach, so a second cascade finds nothing. -/
theorem settles_dropAllReferences (kind : Kind) (parent : Option String) (removed : Record) :
    Settles 0 fun t => dropAllReferences t kind parent removed := by
  cases hremoved : removed.name? with
  | none =>
      have hpass : (fun t => dropAllReferences t kind parent removed) = fun t => (0, t) := by
        funext t
        rw [dropAllReferences, hremoved]
      rw [hpass]
      exact ⟨fun t => by simp, fun t => rfl⟩
  | some name =>
      apply Settles.of_judge fun t => .dropping t.rows (kind.removedWith parent name removed)
      · intro t other row reference mentioned
        rcases Judge.dropping_cases t.rows (kind.removedWith parent name removed) other row
          reference mentioned with h | h <;> simp [h]
      · exact fun t => dropAllReferences_eq_reviseAll t kind parent hremoved
      · intro t
        rw [dropAllReferences, hremoved]
        exact foldl_dropReferences_fst_eq_zero_iff _ t
      · intro t other revised hrevised reference hmem mentioned hmentioned
        rw [rows_reviseAll] at hrevised ⊢
        obtain ⟨row, hrow, rfl⟩ := List.mem_map.mp hrevised
        have hcases := Judge.dropping_cases t.rows (kind.removedWith parent name removed)
        have hkeep := ((Verdict.mem_flatMap_left (hcases other row reference)).mp hmentioned).2
        rw [Judge.dropping_eq_keep_iff] at hkeep ⊢
        rintro ⟨q, hgone, hmeets⟩
        exact hkeep ⟨q, hgone, Row.meets_of_meets_revise hcases hmem hrow hmeets⟩

end Tree

/-- Fixups are idempotent and report exactly whether they change anything. -/
theorem fixups_settle :
    Settles false Tree.reconcileAll ∧
    (∀ kind name, Settles false fun t => Tree.reconcileChildren t kind name) ∧
    (∀ kind parent old new, old ≠ new →
      Settles 0 fun t => Tree.renameReferences t kind parent old new) ∧
    (∀ kind parent removed, Settles 0 fun t => Tree.dropAllReferences t kind parent removed) ∧
    ∀ t kind parent, Settles false (Tree.reconcileRecord t kind parent) :=
  ⟨Tree.settles_reconcileAll, Tree.settles_reconcileChildren,
    fun kind parent _ _ hne => Tree.settles_renameReferences kind parent hne,
    Tree.settles_dropAllReferences, Tree.settles_reconcileRecord⟩

/-- The resource group of a network is renamed, once and again. -/
theorem fixups_settle_default :
    let renamed := Tree.default.renameReferences .resourceGroup none "workload-rg" "shared-rg"
    "workload-rg" ≠ "shared-rg" ∧ renamed.1 = 1 ∧ renamed.2 ≠ Tree.default ∧
      renamed.2.renameReferences .resourceGroup none "workload-rg" "shared-rg" =
        (0, renamed.2) := by
  have hne : "workload-rg" ≠ "shared-rg" := by decide
  obtain ⟨_, _, hrename, _, _⟩ := fixups_settle
  have hsettles := hrename .resourceGroup none _ _ hne
  have hcount : (Tree.default.renameReferences .resourceGroup none "workload-rg"
      "shared-rg").1 = 1 := by decide +kernel
  exact ⟨hne, hcount, (hsettles.reports _).mp (by simp [hcount]), hsettles.again _⟩

end Blueprint
