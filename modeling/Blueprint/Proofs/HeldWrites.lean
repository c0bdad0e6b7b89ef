import Blueprint.Proofs.Consistency

/-!
# Writing what a record holds

Saving a record together with what it holds is the one way of removing records without
deleting them. No reference dangles afterwards if everything that other records mean is
still held. If it is not, its references are left as they are, where deleting it would
have cleared them.
-/

namespace Blueprint

/-- A save that brings along all that is meant of the saved record's own records leaves
nothing to reconcile, whatever else it drops, adds or renames among them. -/
theorem save_held_keeps_references {t u : Tree} (hkeyed : t.Keyed) (hconsistent : t.Consistent)
    {kind : Kind} {fields : Record} {op : Context} (hsingle : kind.location ≠ .single)
    (hmeant : ∀ parent stored, op.addressed kind = .ok parent →
      t.find? kind parent (op.name.getD "") = some stored →
        t.KeepsMeant kind stored (stored.extend fields))
    (hfilled : (Call.save kind fields op).namesFilled = true)
    (h : t.save kind fields op = .ok u) : u.reconcileAll = (false, u) := by
  rw [Tree.save, if_neg hsingle] at h
  exact (Tree.consistent_saveNamed_of_keepsMeant hkeyed hconsistent hsingle hmeant
    (fun _ => Call.exists_name hfilled) h).reconcileAll_eq

/-- A key management instance with two keys, one of them in use. -/
def sampleKeys : List Call := [
  .create .keyManagement [("name", .text "vault"), ("resource_group", .text "service-rg")] .blank,
  .create .encryptionKey [("name", .text "root")] ⟨none, some "vault", []⟩,
  .create .encryptionKey [("name", .text "spare")] ⟨none, some "vault", []⟩,
  .create .secretsManager [("name", .text "secrets"), ("resource_group", .text "service-rg"),
    ("kms", .text "vault"), ("encryption_key", .text "root")] .blank]

/-- The keys of an instance as they are brought along. -/
def keysNamed (names : List String) : Record :=
  [("keys", .list (names.map fun name => .object [("name", .text name)]))]

/-- The spare key is dropped, and another one is added. -/
theorem save_held_keeps_references_spare :
    (Tree.default.after sampleKeys).Keyed ∧ (Tree.default.after sampleKeys).Consistent ∧
    ∃ u, (Tree.default.after sampleKeys).save .keyManagement (keysNamed ["root", "next"])
      (.editing "vault" none) = .ok u ∧ u.reconcileAll = (false, u) := by
  obtain ⟨hgrounds, hsaved, hmeant⟩ : Tree.default.groundsRun sampleKeys = true ∧
      ((Tree.default.after sampleKeys).save .keyManagement (keysNamed ["root", "next"])
        (.editing "vault" none)).isOk = true ∧
      (Tree.default.after sampleKeys).KeepsMeant .keyManagement
        (((Tree.default.after sampleKeys).find? .keyManagement none "vault").getD [])
        ((((Tree.default.after sampleKeys).find? .keyManagement none "vault").getD []).extend
          (keysNamed ["root", "next"])) := by
    unfold Tree.KeepsMeant
    decide +kernel
  have hsound := Tree.sound_after hgrounds
  have hkeyed := hsound.keyed
  have hconsistent := hsound.2
  generalize Tree.default.after sampleKeys = t at *
  refine ⟨hkeyed, hconsistent, ?_⟩
  cases hu : t.save .keyManagement (keysNamed ["root", "next"]) (.editing "vault" none) with
  | error e => simp [hu, Except.isOk, Except.toBool] at hsaved
  | ok u =>
      refine ⟨u, rfl, save_held_keeps_references hkeyed hconsistent (by decide) ?_
        (by decide) hu⟩
      intro parent stored hop hfind
      obtain rfl : none = parent := Except.ok.inj hop
      rw [show (Context.editing "vault" none).name.getD "" = "vault" from rfl] at hfind
      rwa [hfind, Option.getD_some] at hmeant

/-- The key in use is dropped, and its name is left dangling; deleting the key leaves
nothing to reconcile. -/
theorem save_held_leaves_dangling :
    ((Tree.default.after sampleKeys).save .keyManagement (keysNamed ["spare"])
      (.editing "vault" none)).map (fun u => u.reconcileAll.1) = .ok true ∧
    ((Tree.default.after sampleKeys).delete .encryptionKey
      (.editing "root" (some "vault"))).map (fun u => u.reconcileAll.1) = .ok false := by
  decide +kernel

end Blueprint
