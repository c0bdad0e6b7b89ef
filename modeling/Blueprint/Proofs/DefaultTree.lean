import Blueprint.Proofs.Labels
import Blueprint.Store.Defaults

/-!
# The default tree

What the tree that a store starts from satisfies, kind by kind. The tree is evaluated once
for all of it.
-/

namespace Blueprint

namespace Tree

/-- The records of a kind have keys of their own and names, their lists are lists, none of
their references dangles, and they name their parents. -/
structure StartsWell (t : Tree) (kind : Kind) : Prop where
  hasLists : t.HasLists kind
  keys : ((t.rows kind).map fun row => (row.parent, row.name)).Nodup
  named : kind.location ≠ .single → ∀ entry ∈ t.entries kind, entry.2.name?.isSome
  resolved : ∀ entry ∈ t.entries kind, (t.reconcileRecord kind entry.1 entry.2).1 = false
  linked : ∀ link ∈ kind.schema.parentLink, ∀ entry ∈ t.entries kind,
    ∃ name ∈ entry.1, entry.2.get? link = some (.text name)

instance (t : Tree) (kind : Kind) : Decidable (t.StartsWell kind) :=
  decidable_of_iff
    (t.HasLists kind ∧ ((t.rows kind).map fun row => (row.parent, row.name)).Nodup ∧
      (kind.location ≠ .single → ∀ entry ∈ t.entries kind, entry.2.name?.isSome) ∧
      (∀ entry ∈ t.entries kind, (t.reconcileRecord kind entry.1 entry.2).1 = false) ∧
      ∀ link ∈ kind.schema.parentLink, ∀ entry ∈ t.entries kind,
        ∃ name ∈ entry.1, entry.2.get? link = some (.text name))
    ⟨fun ⟨hasLists, keys, named, resolved, linked⟩ => ⟨hasLists, keys, named, resolved, linked⟩,
      fun h => ⟨h.hasLists, h.keys, h.named, h.resolved, h.linked⟩⟩

theorem default_startsWell (kind : Kind) : default.StartsWell kind := by
  have hall : ∀ kind ∈ Kind.all, default.StartsWell kind := by decide +kernel
  exact hall kind kind.mem_all

end Tree

end Blueprint
