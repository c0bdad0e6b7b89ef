import Blueprint.Proofs.Refilling
import Blueprint.Proofs.Refinement

/-!
# Consistency of runs

The default tree is consistent and every call keeps it so, as long as new records
mention only what is there, no name is empty, and no call writes what a record holds
behind the back of the store. Names have to be kept apart for this: a record that is
saved or deleted is found by its name.
-/

namespace Blueprint

namespace Call

/-- Whether the name that a call gives, if it gives one, is a text that is not empty. -/
def namesFilled (call : Call) : Bool :=
  call.fields.givenName.all fun value => value.text?.any fun name => !name.isEmpty

theorem exists_name {call : Call} (h : call.namesFilled = true) {value : Value}
    (hvalue : call.fields.givenName = some value) :
    ∃ name, value = .text name ∧ name.isEmpty = false := by
  rw [namesFilled, hvalue] at h
  cases value with
  | text name => exact ⟨name, rfl, by simpa [Value.text?] using h⟩
  | null | bool _ | number _ | list _ | object _ => simp [Value.text?] at h

end Call

namespace Tree

/-- Whether the record that a call adds, if it adds one, mentions only what is there. -/
def groundsCall (t : Tree) : Call → Bool
  | .create kind fields op =>
      match Draft.ofFields kind fields op with
      | .ok draft =>
          match t.append kind draft with
          | .ok _ => !(t.reconcileRecord kind draft.parent draft.record).1
          | .error _ => true
      | .error _ => true
  | .save _ _ _ | .delete _ _ | .reconcile => true

/-- Whether every call of a run gives filled names only, leaves out what records hold,
and adds a record that mentions only what is there at that moment. -/
def groundsRun (t : Tree) : List Call → Bool
  | [] => true
  | call :: rest =>
      call.sparesHeld && call.namesFilled && t.groundsCall call && (t.next call).groundsRun rest

/-! ## What a call keeps -/

theorem ShowsAll.keyed {t : Tree} {c : Catalog} (h : t.ShowsAll c) : t.Keyed := by
  intro kind parent hsingle haddress
  have hshown := h.2 kind hsingle
  rw [hshown.names_eq haddress]
  exact ⟨h.1 kind parent haddress, hshown.named haddress⟩

/-- The names of a tree are those of a catalog, and all its references mean something. -/
def Sound (t : Tree) : Prop := (∃ c, t.ShowsAll c) ∧ t.Consistent

theorem Sound.keyed {t : Tree} (h : t.Sound) : t.Keyed := h.1.elim fun _ => ShowsAll.keyed

theorem Sound.apply {t u : Tree} (h : t.Sound) {call : Call} (hspares : call.sparesHeld = true)
    (hfilled : call.namesFilled = true) (hgrounds : t.groundsCall call = true)
    (hu : t.apply call = .ok u) : u.Consistent := by
  obtain ⟨⟨c, hshows⟩, hconsistent⟩ := h
  have hkeyed := hshows.keyed
  cases call with
  | create kind fields op =>
      have hfields : kind.sparesHeld fields = true := hspares
      refine consistent_create hkeyed hconsistent hfields (fun draft hdraft happend => ?_) hu
      simpa [groundsCall, hdraft, happend] using hgrounds
  | save kind fields op =>
      simp only [Tree.apply, save] at hu
      split at hu
      · next hsingle =>
          obtain rfl := Except.ok.inj hu
          exact consistent_saveSingle hconsistent hsingle fields
      · next hsingle =>
          exact consistent_saveNamed hkeyed hconsistent hsingle hspares
            (fun value => Call.exists_name hfilled) hu
  | delete kind op => exact consistent_delete hkeyed hconsistent hu
  | reconcile =>
      obtain rfl := Except.ok.inj hu
      exact t.consistent_reconcileAll

theorem Sound.next {t : Tree} (h : t.Sound) {call : Call} (hspares : call.sparesHeld = true)
    (hfilled : call.namesFilled = true) (hgrounds : t.groundsCall call = true) :
    (t.next call).Sound := by
  obtain ⟨c, hshows⟩ := h.1
  refine ⟨⟨c.next call, hshows.next hspares⟩, ?_⟩
  unfold Tree.next
  split
  · next u hu => exact h.apply hspares hfilled hgrounds hu
  · exact h.2

/-! ## What a run keeps -/

theorem Sound.after {t : Tree} (h : t.Sound) {calls : List Call}
    (hcalls : t.groundsRun calls = true) {before : List Call} (hbefore : before <+: calls) :
    (t.after before).Sound := by
  induction before generalizing t calls with
  | nil => exact h
  | cons call before ih =>
      obtain ⟨rest, rfl⟩ := hbefore
      simp only [List.cons_append, groundsRun, Bool.and_eq_true] at hcalls
      obtain ⟨⟨⟨hspares, hfilled⟩, hgrounds⟩, hrest⟩ := hcalls
      exact ih (h.next hspares hfilled hgrounds) hrest (List.prefix_append before rest)

theorem default_consistent : default.Consistent := by
  rw [consistent_iff]
  intro kind row hrow reference hmem name hname
  obtain ⟨parent, r, hentry, rfl⟩ := mem_rows.mp hrow
  rw [Row.mentions_of hmem] at hname
  exact (reconcileRecord_eq_false_iff default kind parent r).mp
    ((default_startsWell kind).resolved (parent, r) hentry) reference hmem name hname

theorem default_sound : default.Sound := ⟨⟨_, default_showsAll⟩, default_consistent⟩

theorem sound_after {calls : List Call} (h : default.groundsRun calls = true) :
    (default.after calls).Sound := default_sound.after h (List.prefix_refl _)

end Tree

/-- References never dangle. At every moment of a run whose new records mention only
what is there, reconciliation finds nothing to clear. -/
theorem run_keeps_references {σ : Type} (seen : σ) {calls : List Call}
    (h : Tree.default.groundsRun calls = true) {before : List Call} (hbefore : before <+: calls) :
    ∃ t, ((Store.new seen).run before).snapshot = .ok t ∧ t.Consistent ∧
      t.reconcileAll = (false, t) := by
  have hsound : (Tree.default.after before).Sound := Tree.default_sound.after h hbefore
  exact ⟨_, Store.snapshot_run_new seen before, hsound.2, hsound.2.reconcileAll_eq⟩

/-- A run over records that refer to each other, one of them renamed and one deleted. -/
def sampleRun : List Call := [
  .create .resourceGroup [("name", .text "shared")] .blank,
  .create .keyManagement [("name", .text "vault"), ("resource_group", .text "shared")] .blank,
  .create .encryptionKey [("name", .text "root")] ⟨none, some "vault", []⟩,
  .create .objectStorage [("name", .text "store"), ("resource_group", .text "shared"),
    ("kms", .text "vault")] .blank,
  .create .bucket [("name", .text "logs"), ("kms_key", .text "root")] ⟨none, some "store", []⟩,
  .create .resourceGroup [("name", .text "shared")] .blank,
  .save .keyManagement [("name", .text "strongbox")] (.editing "vault" none),
  .delete .encryptionKey (.editing "root" (some "strongbox")),
  .reconcile]

theorem run_keeps_references_sample :
    Tree.default.groundsRun sampleRun = true ∧
      ∃ t, ((Store.new ()).run sampleRun).snapshot = .ok t ∧ t.Consistent ∧
        t.reconcileAll = (false, t) := by
  have hgrounds : Tree.default.groundsRun sampleRun = true := by decide +kernel
  exact ⟨hgrounds, run_keeps_references () hgrounds (List.prefix_refl _)⟩

end Blueprint
