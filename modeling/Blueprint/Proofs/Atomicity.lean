import Blueprint.Store.Editing
import Blueprint.Proofs.Operations
import Blueprint.Proofs.Runs

/-!
# Atomicity

Going through the steps of an operation on the tree where it stands comes to the same as
making a new tree and putting it in its place: whatever is refused is refused before
anything is written that shows. Opening a list may create it, but then it is written to
as well, and what the kinds of single records write is never refused. So a call leaves no
trace unless it is accepted, and then its tree is shown once. A tree on which the observer
fails is lost, and nothing that needs a tree is done from then on.
-/

namespace Blueprint

/-! ## Steps -/

namespace Edit

variable {α β : Type}

@[simp] theorem on_pure (a : α) (t : Tree) : (pure a : Edit α).on t = (.ok a, t) := rfl

@[simp] theorem on_get (t : Tree) : (get : Edit Tree).on t = (.ok t, t) := rfl

@[simp] theorem on_set (t u : Tree) : (set u : Edit PUnit).on t = (.ok ⟨⟩, u) := rfl

@[simp] theorem on_modify (f : Tree → Tree) (t : Tree) :
    (modify f : Edit PUnit).on t = (.ok ⟨⟩, f t) := rfl

@[simp] theorem on_throw (e : StoreError) (t : Tree) :
    (throw e : Edit α).on t = (.error e, t) := rfl

theorem on_bind (edit : Edit α) (next : α → Edit β) (t : Tree) :
    (edit >>= next).on t = match edit.on t with
      | (.ok a, u) => (next a).on u
      | (.error e, u) => (.error e, u) := by
  simp only [on, ExceptT.run_bind, StateT.run_bind]
  rcases hedit : StateT.run (ExceptT.run edit) t with ⟨answer, u⟩
  cases answer <;> rfl

theorem on_ite (p : Prop) [Decidable p] (first second : Edit α) (t : Tree) :
    (if p then first else second).on t = if p then first.on t else second.on t :=
  apply_ite (fun edit => edit.on t) p first second

theorem on_refuseIf (p : Prop) [Decidable p] (e : StoreError) (t : Tree) :
    (refuseIf p e).on t = if p then (.error e, t) else (.ok (), t) := by
  rw [refuseIf, on_ite, on_throw, on_pure]

theorem on_openList (kind : Kind) (parent : Option String) (t : Tree) :
    (openList kind parent).on t = match t.items? kind parent with
      | some items => (.ok (some items), t.setItems kind parent items)
      | none => (.ok none, t) := by
  cases hitems : t.items? kind parent <;>
    simp only [openList, on_bind, on_get, hitems, on_modify, on_pure]

/-! ## Operations -/

/-- What a function that may refuse makes of a tree, which stays as it is if it does. -/
def settle (t : Tree) : Except StoreError (α × Tree) → Except StoreError α × Tree
  | .ok (answer, u) => (.ok answer, u)
  | .error e => (.error e, t)

theorem on_append (kind : Kind) (draft : Draft) (t : Tree) :
    (append kind draft).on t = settle t ((t.append kind draft).map ((), ·)) := by
  unfold append Tree.append
  simp only [on_bind, on_get, on_refuseIf]
  by_cases hname : draft.name ∈ t.names kind draft.parent
  · simp [hname, settle, Except.map]
  · simp only [hname, if_false, on_openList]
    cases hitems : t.items? kind draft.parent with
    | none => simp [hname, settle, Except.map, require]
    | some items => simp [hname, settle, Except.map, require, Tree.setItems_setItems]

theorem on_prepare {kind : Kind} (h : kind.location ≠ .single) (stored merged : Record)
    (t : Tree) :
    (prepare kind stored merged).on t = (.ok (kind.schema.saved t stored merged).2, t) := by
  have htree := (Kind.saved_agrees h t stored merged).1
  simp only [prepare, on_bind, on_get, on_set, on_pure, htree]

theorem on_saveSingle (kind : Kind) (fields : Record) (t : Tree) :
    (saveSingle kind fields).on t = (.ok (), t.saveSingle kind fields) := rfl

theorem on_store (kind : Kind) (parent : Option String) (index : Nat) (old : String)
    (draft : Draft) (t : Tree) :
    (store kind parent index old draft).on t =
      settle t ((t.store kind parent index old draft).map ((), ·)) := by
  simp only [store, on_bind, on_get, on_openList]
  cases hitems : t.items? kind parent with
  | none => simp [Tree.store, hitems, require, settle, Except.map]
  | some items =>
      by_cases hname : draft.name = old <;>
        simp [Tree.store, hitems, require, settle, Except.map, hname, on_bind,
          Tree.setItems_setItems]

theorem on_saveFound {kind : Kind} (h : kind.location ≠ .single) (fields : Record)
    (parent : Option String) (old : String) (index : Nat) (stored : Record) (t : Tree) :
    (saveFound kind fields parent old index stored).on t =
      settle t (Except.map ((), ·) (match (stored.extend fields).name? with
        | none => .error (.missingName kind)
        | some name =>
            if name ≠ old ∧ name ∈ t.names kind parent then .error (.duplicateName kind name)
            else t.store kind parent index old
              ⟨parent, name, (kind.schema.saved t stored (stored.extend fields)).2⟩)) := by
  cases hname : (stored.extend fields).name? with
  | none => simp only [saveFound, hname, require, on_bind, on_throw, settle, Except.map]
  | some name =>
      simp only [saveFound, hname, require, on_bind, on_pure, on_get, on_refuseIf]
      by_cases htaken : name ≠ old ∧ name ∈ t.names kind parent
      · simp only [if_pos htaken, settle, Except.map]
      · simp only [if_neg htaken, on_prepare h, on_store]

theorem on_saveNamed {kind : Kind} (h : kind.location ≠ .single) (fields : Record) (op : Context)
    (t : Tree) :
    (saveNamed kind fields op).on t =
      settle t ((t.saveNamed kind fields op).map ((), ·)) := by
  unfold saveNamed
  cases hop : op.addressed kind with
  | error e => simp only [Tree.saveNamed, hop, on_throw, bind, Except.bind, settle, Except.map]
  | ok parent =>
      simp only [on_bind, on_get]
      by_cases hmem : op.name.getD "" ∈ t.names kind parent
      · obtain ⟨r, hr, hname⟩ := List.mem_filterMap.mp hmem
        obtain ⟨before, stored, after, hfirst⟩ := FirstNamed.exists_of_mem ⟨r, hr, hname⟩
        rw [t.saveNamed_of_firstNamed hop hfirst h, hfirst.findIdx?]
        simp only [require, on_pure, hfirst.getElem?, Option.getD_some]
        exact on_saveFound h fields parent _ _ stored t
      · rw [t.saveNamed_of_not_mem hop hmem, t.findIdx?_of_not_mem hmem]
        simp only [require, on_throw, settle, Except.map]

theorem on_erase (kind : Kind) (parent : Option String) (name : String) (t : Tree) :
    (erase kind parent name).on t = (.ok (), t.erase kind parent name) := by
  simp only [erase, on_bind, on_get, on_ite, on_openList]
  by_cases hname : name ∈ t.names kind parent
  · cases hitems : t.items? kind parent with
    | none => simp [Tree.erase, hname, hitems]
    | some items =>
        cases htake : Tree.takeNamed name items with
        | none => simp [Tree.erase, hname, hitems, htake]
        | some taken => simp [Tree.erase, hname, hitems, htake, on_bind, Tree.setItems_setItems]
  · simp [Tree.erase, hname]

theorem on_reconcile (t : Tree) : reconcile.on t = settle t (.ok t.reconcileAll) := by
  simp only [reconcile, on_bind, on_get, on_set, on_pure, settle]

theorem on_save (kind : Kind) (fields : Record) (op : Context) (t : Tree) :
    (save kind fields op).on t = settle t ((t.save kind fields op).map ((), ·)) := by
  by_cases h : kind.location = .single
  · simp only [save, Tree.save, h, if_true, on_saveSingle]
    rfl
  · simp only [save, Tree.save, h, if_false, on_saveNamed h]

end Edit

/-! ## Stores -/

namespace Store

variable {σ α : Type}

theorem edit_eq_update {edit : Edit α} {f : Tree → Except StoreError (α × Tree)}
    (h : ∀ t, edit.on t = Edit.settle t (f t)) (s : Store σ) : s.edit edit = s.update f := by
  obtain ⟨tree, observer, seen⟩ := s
  cases tree with
  | none => rfl
  | some t =>
      simp only [Store.edit, update, h]
      cases f t <;> rfl

/-- Makes a call by editing the tree where it stands. -/
def performInPlace (s : Store σ) : Call → Except StoreError Unit × Store σ
  | .create kind fields op => s.createInPlace kind fields op
  | .save kind fields op => s.saveInPlace kind fields op
  | .delete kind op => s.deleteInPlace kind op
  | .reconcile => (s.reconcileInPlace.1.map fun _ => (), s.reconcileInPlace.2)

/-- Editing a tree where it stands comes to the same as putting a new one in its place. -/
theorem performInPlace_eq_perform (s : Store σ) (call : Call) :
    s.performInPlace call = s.perform call := by
  cases call with
  | create kind fields op =>
      simp only [performInPlace, perform, createInPlace, create]
      cases Draft.ofFields kind fields op with
      | error e => rfl
      | ok draft => exact edit_eq_update (Edit.on_append kind draft) s
  | save kind fields op => exact edit_eq_update (Edit.on_save kind fields op) s
  | delete kind op =>
      simp only [performInPlace, perform, deleteInPlace, delete]
      cases Tree.deletionParent kind op with
      | error e => rfl
      | ok parent => exact edit_eq_update (Edit.on_erase kind parent (op.name.getD "")) s
  | reconcile =>
      have hsame : s.reconcileInPlace = s.reconcile := edit_eq_update Edit.on_reconcile s
      simp only [performInPlace, perform, hsame]

end Store

/-! ## Refusals -/

/-- Whether an operation was refused for what it asks. -/
def StoreError.isRefusal : StoreError → Bool
  | observerFailed | poisoned => false
  | duplicateName _ _ | missingName _ | notFound _ _ | missingParent _ | unsupported _ _ => true

/-- What is refused before a tree is asked for. -/
def Call.refusal? : Call → Option StoreError
  | .create kind fields op =>
      match Draft.ofFields kind fields op with
      | .error e => some e
      | .ok _ => none
  | .delete kind op =>
      match Tree.deletionParent kind op with
      | .error e => some e
      | .ok _ => none
  | .save _ _ _ | .reconcile => none

theorem Context.isRefusal_of_addressed {op : Context} {kind : Kind} {e : StoreError}
    (h : op.addressed kind = .error e) : e.isRefusal = true := by
  unfold addressed at h
  split at h
  · split at h
    · cases h
    · obtain rfl := Except.error.inj h
      rfl
  · cases h
  · cases h

namespace Tree

theorem isRefusal_of_append {t : Tree} {kind : Kind} {draft : Draft} {e : StoreError}
    (h : t.append kind draft = .error e) : e.isRefusal = true := by
  rw [append_eq] at h
  split at h
  · obtain rfl := Except.error.inj h
    rfl
  · split at h
    · cases h
    · obtain rfl := Except.error.inj h
      rfl

theorem isRefusal_of_create {t : Tree} {kind : Kind} {fields : Record} {op : Context}
    {e : StoreError} (h : t.create kind fields op = .error e) : e.isRefusal = true := by
  rw [create_eq] at h
  split at h
  · obtain rfl := Except.error.inj h
    rfl
  · cases hop : op.addressed kind with
    | error other =>
        rw [hop] at h
        obtain rfl := Except.error.inj h
        exact Context.isRefusal_of_addressed hop
    | ok parent =>
        rw [hop] at h
        simp only [bind, Except.bind] at h
        split at h
        · obtain rfl := Except.error.inj h
          rfl
        · exact isRefusal_of_append h

theorem isRefusal_of_saveNamed {t : Tree} {kind : Kind} (hsingle : kind.location ≠ .single)
    {fields : Record} {op : Context} {e : StoreError}
    (h : t.saveNamed kind fields op = .error e) : e.isRefusal = true := by
  cases hop : op.addressed kind with
  | error other =>
      simp only [saveNamed, hop, bind, Except.bind, Except.error.injEq] at h
      exact h ▸ Context.isRefusal_of_addressed hop
  | ok parent =>
      by_cases hmem : op.name.getD "" ∈ t.names kind parent
      · obtain ⟨r, hr, hname⟩ := List.mem_filterMap.mp hmem
        obtain ⟨before, stored, after, hfirst⟩ := FirstNamed.exists_of_mem ⟨r, hr, hname⟩
        rw [t.saveNamed_of_firstNamed hop hfirst hsingle] at h
        split at h
        · obtain rfl := Except.error.inj h
          rfl
        · split at h
          · obtain rfl := Except.error.inj h
            rfl
          · rw [store_eq] at h
            split at h
            · obtain rfl := Except.error.inj h
              rfl
            · cases h
      · rw [t.saveNamed_of_not_mem hop hmem] at h
        obtain rfl := Except.error.inj h
        rfl

theorem isRefusal_of_apply {t : Tree} {call : Call} {e : StoreError}
    (h : t.apply call = .error e) : e.isRefusal = true := by
  cases call with
  | create kind fields op => exact isRefusal_of_create h
  | save kind fields op =>
      by_cases hsingle : kind.location = .single
      · simp [apply, save, hsingle] at h
      · simp only [apply, save, hsingle, if_false] at h
        exact isRefusal_of_saveNamed hsingle h
  | delete kind op =>
      simp only [apply, delete, deletionParent] at h
      split at h
      · obtain rfl := Except.error.inj h
        rfl
      · cases hop : op.addressed kind with
        | error other =>
            rw [hop] at h
            obtain rfl := Except.error.inj h
            exact Context.isRefusal_of_addressed hop
        | ok parent =>
            rw [hop] at h
            cases h
  | reconcile => cases h

end Tree

/-! ## What an observer sees -/

/-- An observer that also keeps the trees it was shown. -/
def Observer.logged {σ : Type} (observer : Observer σ) : Observer (σ × List Tree) :=
  fun seen t => (observer seen.1 t).map fun kept => (kept, seen.2 ++ [t])

namespace Store

variable {σ : Type}

/-- A store whose observer keeps the trees it was shown. -/
def watched (t : Tree) (observer : Observer σ) (kept : σ) (shown : List Tree) :
    Store (σ × List Tree) := ⟨some t, some observer.logged, (kept, shown)⟩

/-- A watched store whose tree was lost. -/
def lost (observer : Observer σ) (kept : σ) (shown : List Tree) : Store (σ × List Tree) :=
  ⟨none, some observer.logged, (kept, shown)⟩

/-- What a call on a watched store comes to. -/
inductive Outcome (t : Tree) (observer : Observer σ) (kept : σ) (shown : List Tree)
    (call : Call) : Except StoreError Unit × Store (σ × List Tree) → Prop
  /-- A refusal leaves the tree as it was and shows nothing. -/
  | refused {e : StoreError} (happly : t.apply call = .error e) (he : e.isRefusal = true) :
      Outcome t observer kept shown call (.error e, watched t observer kept shown)
  /-- What is accepted is shown once, as it is kept. -/
  | accepted {u : Tree} {after : σ} (happly : t.apply call = .ok u)
      (hshown : observer kept u = some after) :
      Outcome t observer kept shown call (.ok (), watched u observer after (shown ++ [u]))
  /-- A tree on which the observer fails is lost. -/
  | failed {u : Tree} (happly : t.apply call = .ok u) (hfailed : observer kept u = none) :
      Outcome t observer kept shown call (.error .observerFailed, lost observer kept shown)

theorem Outcome.eq_of_apply {t u : Tree} {observer : Observer σ} {kept after : σ}
    {shown : List Tree} {call : Call} {result : Except StoreError Unit × Store (σ × List Tree)}
    (h : Outcome t observer kept shown call result) (happly : t.apply call = .ok u)
    (hafter : observer kept u = some after) :
    result = (.ok (), watched u observer after (shown ++ [u])) := by
  cases h with
  | refused hrefused _ =>
      rw [happly] at hrefused
      cases hrefused
  | accepted haccepted hshown =>
      obtain rfl := Except.ok.inj (happly.symm.trans haccepted)
      rw [Option.some.inj (hafter.symm.trans hshown)]
  | failed haccepted hfailed =>
      obtain rfl := Except.ok.inj (happly.symm.trans haccepted)
      rw [hafter] at hfailed
      cases hfailed

theorem Outcome.lost_of_failed {t : Tree} {observer : Observer σ} {kept : σ} {shown : List Tree}
    {call : Call} {result : Except StoreError Unit × Store (σ × List Tree)}
    (h : Outcome t observer kept shown call result)
    (hfailed : result.1 = .error .observerFailed) : result.2 = lost observer kept shown := by
  cases h with
  | refused _ he =>
      obtain rfl := Except.error.inj hfailed
      cases he
  | accepted _ _ => cases hfailed
  | failed _ _ => rfl

theorem outcome_performInPlace (t : Tree) (observer : Observer σ) (kept : σ)
    (shown : List Tree) (call : Call) :
    Outcome t observer kept shown call ((watched t observer kept shown).performInPlace call) := by
  rw [performInPlace_eq_perform, perform_of_tree rfl]
  cases happly : t.apply call with
  | error e => exact .refused happly (Tree.isRefusal_of_apply happly)
  | ok u =>
      cases hshown : observer kept u with
      | none =>
          have hlost : (watched t observer kept shown).commit () u =
              (.error .observerFailed, lost observer kept shown) := by
            simp [commit, watched, lost, Observer.logged, hshown]
          simp only [hlost]
          exact .failed happly hshown
      | some after =>
          have hkept : (watched t observer kept shown).commit () u =
              (.ok (), watched u observer after (shown ++ [u])) := by
            simp [commit, watched, Observer.logged, hshown]
          simp only [hkept]
          exact .accepted happly hshown

/-! ## After a failure -/

/-- What may be done with a store, apart from looking at its tree. -/
inductive Step (σ : Type)
  | call (call : Call)
  | observe (observer : Observer σ)

/-- The store after a step, whether it succeeds or not. -/
def step (s : Store σ) : Step σ → Store σ
  | .call call => (s.performInPlace call).2
  | .observe observer => s.observe observer

/-- Without a tree a call is refused for what it asks, or because there is no tree. -/
theorem performInPlace_of_lost {s : Store σ} (h : s.tree = none) (call : Call) :
    s.performInPlace call = (.error (call.refusal?.getD .poisoned), s) := by
  rw [performInPlace_eq_perform]
  cases call with
  | create kind fields op =>
      simp only [perform, create, Call.refusal?]
      cases Draft.ofFields kind fields op with
      | error e => rfl
      | ok draft => simp only [update, h, Option.getD_none]
  | save kind fields op => simp only [perform, save, update, h, Call.refusal?, Option.getD_none]
  | delete kind op =>
      simp only [perform, delete, Call.refusal?]
      cases Tree.deletionParent kind op with
      | error e => rfl
      | ok parent => simp only [update, h, Option.getD_none]
  | reconcile =>
      simp only [perform, reconcile, update, h, Call.refusal?, Option.getD_none, Except.map]

/-- A lost tree stays lost, and nothing is shown without a tree. -/
theorem foldl_step_of_lost {s : Store σ} (h : s.tree = none) (steps : List (Step σ)) :
    (steps.foldl step s).tree = none ∧ (steps.foldl step s).seen = s.seen := by
  induction steps generalizing s with
  | nil => exact ⟨h, rfl⟩
  | cons next rest ih =>
      rw [List.foldl_cons]
      have hnext : (s.step next).tree = none ∧ (s.step next).seen = s.seen := by
        cases next with
        | call call => simp [step, performInPlace_of_lost h, h]
        | observe observer => exact ⟨h, rfl⟩
      rw [← hnext.2]
      exact ih hnext.1

end Store

theorem Tree.apply_delete_of_not_mem {t : Tree} {kind : Kind} {op : Context}
    {parent : Option String} (hop : Tree.deletionParent kind op = .ok parent)
    (h : op.name.getD "" ∉ t.names kind parent) : t.apply (.delete kind op) = .ok t := by
  simp only [apply, delete, hop, bind, Except.bind, erase_of_not_mem h]
  rfl

/-- Mutations are atomic and notify exactly once, in whatever tree and although they edit
it where it stands. A call that is refused leaves the tree as it was and shows nothing; one
that is accepted shows the new tree once; deleting an absent record is accepted and changes
nothing. Once the observer has failed, nothing that needs the tree is done any more, and
nothing is shown. -/
theorem mutations_atomic {σ : Type} (t : Tree) (observer : Observer σ) (kept : σ)
    (shown : List Tree) (call : Call) :
    (Store.watched t observer kept shown).performInPlace call =
        (Store.watched t observer kept shown).perform call ∧
      Store.Outcome t observer kept shown call
        ((Store.watched t observer kept shown).performInPlace call) ∧
      (∀ kind op parent after, call = .delete kind op →
        Tree.deletionParent kind op = .ok parent → op.name.getD "" ∉ t.names kind parent →
        observer kept t = some after →
          (Store.watched t observer kept shown).performInPlace call =
            (.ok (), Store.watched t observer after (shown ++ [t]))) ∧
      (((Store.watched t observer kept shown).performInPlace call).1 = .error .observerFailed →
        ∀ steps : List (Store.Step (σ × List Tree)),
          let s := steps.foldl Store.step
            ((Store.watched t observer kept shown).performInPlace call).2
          s.seen = (kept, shown) ∧
            (∀ later : Call,
              s.performInPlace later = (.error (later.refusal?.getD .poisoned), s)) ∧
            ∀ (α : Type) (f : Tree → α), s.read f = .error .poisoned) := by
  have houtcome := Store.outcome_performInPlace t observer kept shown call
  refine ⟨Store.performInPlace_eq_perform _ _, houtcome, ?_, ?_⟩
  · rintro kind op parent after rfl hop habsent hafter
    exact houtcome.eq_of_apply (Tree.apply_delete_of_not_mem hop habsent) hafter
  · intro hfailed steps
    rw [houtcome.lost_of_failed hfailed]
    obtain ⟨hnone, hseen⟩ :=
      Store.foldl_step_of_lost (s := Store.lost observer kept shown) rfl steps
    refine ⟨hseen, Store.performInPlace_of_lost hnone, fun α f => ?_⟩
    simp only [Store.read, hnone]

/-- An observer that fails on the second tree it is shown. -/
def Observer.once : Observer Nat := fun count _ => if count = 0 then some 1 else none

theorem mutations_atomic_once :
    (Store.watched Tree.default .once 0 []).performInPlace
        (.delete .resourceGroup (.editing "nowhere" none)) =
      (.ok (), Store.watched Tree.default .once 1 [Tree.default]) ∧
    ((Store.watched Tree.default .once 1 []).performInPlace .reconcile).1 =
      .error .observerFailed ∧
    (((Store.watched Tree.default .once 1 []).performInPlace .reconcile).2.performInPlace
      (.save .resourceGroup [] .blank)).1 = .error .poisoned := by
  have hop : Tree.deletionParent .resourceGroup (.editing "nowhere" none) = .ok none := rfl
  have habsent : "nowhere" ∉ Tree.default.names .resourceGroup none := by decide +kernel
  obtain ⟨_, _, hdelete, _⟩ := mutations_atomic Tree.default .once 0 []
    (.delete .resourceGroup (.editing "nowhere" none))
  obtain ⟨_, houtcome, _, hafter⟩ := mutations_atomic Tree.default .once 1 [] .reconcile
  have hfailed : ((Store.watched Tree.default .once 1 []).performInPlace .reconcile).1 =
      .error .observerFailed := by
    generalize (Store.watched Tree.default .once 1 []).performInPlace .reconcile = result
      at houtcome
    cases houtcome with
    | refused happly _ => cases happly
    | accepted _ hshown => cases hshown
    | failed _ _ => rfl
  refine ⟨hdelete _ _ _ 1 rfl hop habsent rfl, hfailed, ?_⟩
  obtain ⟨_, hlater, _⟩ := hafter hfailed []
  exact congrArg Prod.fst (hlater (.save .resourceGroup [] .blank))

end Blueprint
