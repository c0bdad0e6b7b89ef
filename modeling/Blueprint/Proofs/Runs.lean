import Blueprint.Store
import Blueprint.Proofs.Operations

/-!
# Runs

A run is a list of calls on a store, successful or refused. Without an observer a
store is its tree, so what holds of the default tree and is kept by every call on a
tree holds after every run of a new store.
-/

namespace Blueprint

/-- A call that may change a store. -/
inductive Call
  | create (kind : Kind) (fields : Record) (op : Context)
  | save (kind : Kind) (fields : Record) (op : Context)
  | delete (kind : Kind) (op : Context)
  | reconcile

namespace Call

/-- The kind whose records a call addresses. -/
def kind? : Call → Option Kind
  | create kind _ _ | save kind _ _ | delete kind _ => some kind
  | reconcile => none

/-- The fields that a call passes. -/
def fields : Call → Record
  | create _ fields _ | save _ fields _ => fields
  | delete _ _ | reconcile => []

/-- Whether the fields of a call leave out the records that its kind holds. -/
def sparesHeld (call : Call) : Bool := call.kind?.all fun kind => kind.sparesHeld call.fields

end Call

namespace Store

variable {σ : Type}

/-- Makes a call, with what it answers apart from the outcome left out. -/
def perform (s : Store σ) : Call → Except StoreError Unit × Store σ
  | .create kind fields op => s.create kind fields op
  | .save kind fields op => s.save kind fields op
  | .delete kind op => s.delete kind op
  | .reconcile => (s.reconcile.1.map fun _ => (), s.reconcile.2)

/-- Makes calls one after another, whether they succeed or not. -/
def run (s : Store σ) (calls : List Call) : Store σ :=
  calls.foldl (fun s call => (s.perform call).2) s

end Store

namespace Tree

/-- What a call makes of a tree. -/
def apply (t : Tree) : Call → Except StoreError Tree
  | .create kind fields op => t.create kind fields op
  | .save kind fields op => t.save kind fields op
  | .delete kind op => t.delete kind op
  | .reconcile => .ok t.reconcileAll.2

/-- What the calls that are accepted do. -/
inductive Accepts (t : Tree) : Call → Tree → Prop
  | create {kind : Kind} {fields : Record} {op : Context} {u : Tree}
      (h : t.create kind fields op = .ok u) : Accepts t (.create kind fields op) u
  | saveSingle {kind : Kind} (hsingle : kind.location = .single) (fields : Record) (op : Context) :
      Accepts t (.save kind fields op) (t.saveSingle kind fields)
  | saveNamed {kind : Kind} {fields : Record} {op : Context} {u : Tree}
      (hsingle : kind.location ≠ .single) (h : t.saveNamed kind fields op = .ok u) :
      Accepts t (.save kind fields op) u
  | delete {kind : Kind} {op : Context} {parent : Option String}
      (h : deletionParent kind op = .ok parent) :
      Accepts t (.delete kind op) (t.erase kind parent (op.name.getD ""))
  | reconcile : Accepts t .reconcile (t.reviseAll t.dangling)

theorem accepts_of_apply {t u : Tree} {call : Call} (h : t.apply call = .ok u) :
    t.Accepts call u := by
  cases call with
  | create kind fields op => exact .create h
  | save kind fields op =>
      simp only [apply, save] at h
      split at h
      · next hsingle =>
          obtain rfl := Except.ok.inj h
          exact .saveSingle hsingle fields op
      · next hsingle => exact .saveNamed hsingle h
  | delete kind op =>
      obtain ⟨parent, hparent, hdelete⟩ := bind_eq_ok_iff.mp h
      obtain rfl := Except.ok.inj hdelete
      exact .delete hparent
  | reconcile =>
      obtain rfl := Except.ok.inj h
      rw [reconcileAll_eq]
      exact .reconcile

/-- The tree after a call, which is the same one if the call is refused. -/
def next (t : Tree) (call : Call) : Tree :=
  match t.apply call with
  | .ok u => u
  | .error _ => t

/-- The tree after a run. -/
def after (t : Tree) (calls : List Call) : Tree := calls.foldl next t

theorem after_append (t : Tree) (calls : List Call) (call : Call) :
    t.after (calls ++ [call]) = (t.after calls).next call := by
  rw [after, List.foldl_append]
  rfl

theorem after_preserves {P : Tree → Prop} {t : Tree} (ht : P t) {calls : List Call}
    (hstep : ∀ call ∈ calls, ∀ u v : Tree, P u → u.apply call = .ok v → P v) :
    P (t.after calls) := by
  refine List.foldlRecOn calls next ht fun u hu call hcall => ?_
  unfold next
  split
  · next v hv => exact hstep call hcall u v hu hv
  · exact hu

/-- What exactly the accepted calls of one form keep holds all along exactly if all accepted
calls have that form. -/
theorem after_upholds_iff {t : Tree} {calls : List Call} {P : Tree → Prop} {form : Call → Bool}
    (ht : P t)
    (hstep : ∀ before call u, before ++ [call] <+: calls → P (t.after before) →
      (t.after before).apply call = .ok u → (P u ↔ form call = true)) :
    (∀ before, before <+: calls → P (t.after before)) ↔
      ∀ before call after, calls = before ++ call :: after →
        (∃ u, (t.after before).apply call = .ok u) → form call = true := by
  constructor
  · rintro hupheld before call after hsplit ⟨u, hu⟩
    have hprefix : before ++ [call] <+: calls := ⟨after, by simp [hsplit]⟩
    have hafter := hupheld (before ++ [call]) hprefix
    rw [after_append, next, hu] at hafter
    have hbefore := hupheld before ((List.prefix_append _ _).trans hprefix)
    exact (hstep before call u hprefix hbefore hu).mp hafter
  · intro hform before
    -- on the run so far, whose last call may be one that is refused
    induction before using List.reverseRecOn with
    | nil => exact fun _ => ht
    | append_singleton before call ih =>
        intro hprefix
        have hbefore := ih ((List.prefix_append _ _).trans hprefix)
        rw [after_append, next]
        split
        · next u hu =>
            obtain ⟨after, hsplit⟩ := hprefix
            refine (hstep before call u ⟨after, hsplit⟩ hbefore hu).mpr ?_
            exact hform before call after (by simp [← hsplit]) ⟨u, hu⟩
        · exact hbefore

end Tree

namespace Store

variable {σ : Type}

theorem map_unit_eq_ok_iff {α : Type} {outcome : Except StoreError α} :
    outcome.map (fun _ => ()) = .ok () ↔ ∃ a, outcome = .ok a := by
  cases outcome <;> simp [Except.map]

theorem commit_answer {α β : Type} (s : Store σ) (a : α) (b : β) (t : Tree) :
    s.commit b t = ((s.commit a t).1.map fun _ => b, (s.commit a t).2) := by
  unfold commit
  split
  · rfl
  · split <;> rfl

/-- A call on a store comes to what it makes of the tree: a new one that is kept and
shown, or a refusal. -/
theorem perform_of_tree {s : Store σ} {t : Tree} (h : s.tree = some t) (call : Call) :
    s.perform call = match t.apply call with
      | .ok u => s.commit () u
      | .error e => (.error e, s) := by
  cases call with
  | create kind fields op =>
      simp only [perform, create, Tree.apply, Tree.create]
      cases Draft.ofFields kind fields op with
      | error e => rfl
      | ok draft =>
          simp only [update, h, bind, Except.bind]
          cases t.append kind draft <;> rfl
  | save kind fields op =>
      simp only [perform, save, update, h, Tree.apply]
      cases t.save kind fields op <;> rfl
  | delete kind op =>
      simp only [perform, delete, Tree.apply, Tree.delete]
      cases Tree.deletionParent kind op with
      | error e => rfl
      | ok parent =>
          simp only [update, h]
          rfl
  | reconcile =>
      simp only [perform, reconcile, update, h, Tree.apply]
      exact (s.commit_answer t.reconcileAll.1 () t.reconcileAll.2).symm

theorem perform_eq (t : Tree) (seen : σ) (call : Call) :
    Store.perform ⟨some t, none, seen⟩ call =
      ((t.apply call).map fun _ => (), ⟨some (t.next call), none, seen⟩) := by
  rw [perform_of_tree rfl, Tree.next]
  cases t.apply call <;> rfl

theorem run_append (s : Store σ) (calls : List Call) (call : Call) :
    s.run (calls ++ [call]) = ((s.run calls).perform call).2 := by
  rw [run, List.foldl_append]
  rfl

/-- After a run a new store holds what the run makes of the default tree. -/
theorem run_new (seen : σ) (calls : List Call) :
    (Store.new seen).run calls = ⟨some (Tree.default.after calls), none, seen⟩ := by
  induction calls using List.reverseRecOn with
  | nil => simp only [run, Tree.after, List.foldl_nil, new, ofTree, Tree.default]
  | append_singleton calls call ih => rw [run_append, ih, perform_eq, Tree.after_append]

theorem snapshot_run_new (seen : σ) (calls : List Call) :
    ((Store.new seen).run calls).snapshot = .ok (Tree.default.after calls) := by
  rw [run_new]
  rfl

/-- If the accepted calls of one form are those that keep a property, it holds throughout a
run exactly if all calls of the run that are accepted have that form. -/
theorem run_upholds_iff (seen : σ) {calls : List Call} {P : Tree → Prop} {form : Call → Bool}
    (hdefault : P Tree.default)
    (hstep : ∀ before call u, before ++ [call] <+: calls → P (Tree.default.after before) →
      (Tree.default.after before).apply call = .ok u → (P u ↔ form call = true)) :
    (∀ before, before <+: calls →
      ∃ t, ((Store.new seen).run before).snapshot = .ok t ∧ P t) ↔
    ∀ before call after, calls = before ++ call :: after →
      (((Store.new seen).run before).perform call).1 = .ok () → form call = true := by
  simp only [snapshot_run_new, Except.ok.injEq, exists_eq_left']
  simp only [run_new, perform_eq, map_unit_eq_ok_iff]
  exact Tree.after_upholds_iff hdefault hstep

end Store

end Blueprint
