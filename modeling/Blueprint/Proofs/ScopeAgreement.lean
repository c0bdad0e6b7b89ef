import Blueprint.Proofs.Rows

/-!
# Two readings of a scope

Reconciliation lists the names that a scope reaches, a cascade asks of one parent whether the
scope reaches it. Both settle the scope in the same way and come to the same for every stored
record, with one exception. A cascade takes a missing parent for any parent, so it follows a
record whose holder has no name also from where the scope asks for a holder of a given name;
to reconciliation no such holder has that name.
-/

namespace Blueprint

/-! ## Records under holders without a name -/

/-- Whether a record is held by one that has no name. -/
def Located.IsHeldNameless (entry : Located) : Prop :=
  ∃ holder, entry.holder = some holder ∧ holder.name? = none

theorem Located.IsHeldNameless.parent_eq {entry : Located} (h : entry.IsHeldNameless) :
    entry.parent = none := by
  obtain ⟨holder, hholder, hname⟩ := h
  rw [parent, hholder, Option.bind_some, hname]

/-- Without the name of a parent, a record of a nested kind is held by one without a name. -/
theorem Located.isHeldNameless_of_nested {t : Tree} {kind : Kind} (hkind : kind.parent ≠ none)
    {entry : Located} (hentry : entry ∈ t.located kind) (hparent : entry.parent = none) :
    entry.IsHeldNameless := by
  cases hlocation : kind.location with
  | single => exact absurd (Kind.parent_of_single hlocation) hkind
  | collection => exact absurd (Kind.parent_of_collection hlocation) hkind
  | nested parentKind field =>
      simp only [Tree.located, hlocation, List.mem_flatMap, List.mem_map] at hentry
      obtain ⟨holder, -, r, -, rfl⟩ := hentry
      exact ⟨holder, rfl, hparent⟩

/-! ## Where the two readings differ -/

namespace Tree

variable {kind : Kind} {reference : Reference}

/-- The records whose names a reference in a record may hold. -/
def sources (t : Tree) (kind : Kind) (parent : Option String) (holder : Record)
    (reference : Reference) : List Located :=
  (t.located reference.target).filter fun entry =>
    (reference.scope.reach t kind parent holder).admits entry.parent

/-- Whether the scope of a reference asks for a holder of a given name where a record is held
by one that has none. -/
def PassesOver (t : Tree) (kind : Kind) (parent : Option String) (holder : Record)
    (reference : Reference) (entry : Located) : Prop :=
  entry.IsHeldNameless ∧ ∃ name, reference.scope.reach t kind parent holder = .under name

theorem passesOver_iff (h : reference ∈ kind.schema.references) {t : Tree}
    {parent : Option String} {holder : Record} {entry : Located}
    (hentry : entry ∈ t.located reference.target) :
    t.PassesOver kind parent holder reference entry ↔
      entry.parent = none ∧ ∃ name, reference.scope.reach t kind parent holder = .under name := by
  constructor
  · exact fun ⟨hheld, hunder⟩ => ⟨hheld.parent_eq, hunder⟩
  · rintro ⟨hparent, name, hreach⟩
    have hnested := Row.target_nested_of_under h ((t.reach_eq h parent holder).symm.trans hreach)
    exact ⟨Located.isHeldNameless_of_nested hnested hentry hparent, name, hreach⟩

theorem PassesOver.mayReach {t : Tree} {parent : Option String} {holder : Record}
    {entry : Located} (h : t.PassesOver kind parent holder reference entry) :
    t.mayReach kind parent holder reference entry.parent = true := by
  obtain ⟨hheld, name, hreach⟩ := h
  simp [Tree.mayReach, hreach, hheld.parent_eq, Reach.meets]

/-- A reference may hold the names of exactly those records that a cascade follows it to, but
for records whose holder lacks the name that the scope asks for: to these it is followed all
the same. -/
theorem mem_sources_iff_mayReach (h : reference ∈ kind.schema.references) (t : Tree)
    (parent : Option String) (holder : Record) :
    t.reached kind parent holder reference =
        (t.sources kind parent holder reference).filterMap (fun entry => entry.record.name?) ∧
      ∀ entry ∈ t.located reference.target,
        (entry ∈ t.sources kind parent holder reference ↔
          t.mayReach kind parent holder reference entry.parent = true ∧
            ¬t.PassesOver kind parent holder reference entry) ∧
        (t.PassesOver kind parent holder reference entry →
          t.mayReach kind parent holder reference entry.parent = true) := by
  refine ⟨Reach.names_eq _ t reference.target, fun entry hentry => ⟨?_, PassesOver.mayReach⟩⟩
  rw [passesOver_iff h hentry, sources, List.mem_filter, and_iff_right hentry,
    Reach.admits_iff_meets]
  rfl

/-- A key in an instance without a name. -/
def namelessKey : Located :=
  { holder := some [("keys", .list [.object [("name", .text "root")]])]
    record := [("name", .text "root")] }

/-- A key in an instance with a name. -/
def vaultKey : Located :=
  { holder := some [("keys", .list [.object [("name", .text "spare")]]), ("name", .text "vault")]
    record := [("name", .text "spare")] }

/-- The two key management instances. -/
def namelessVault : Tree := ⟨[("key_management", .list [
  .object [("keys", .list [.object [("name", .text "root")]])],
  .object [("keys", .list [.object [("name", .text "spare")]]), ("name", .text "vault")]])]⟩

/-- A record that asks the named instance for the key of the other one. -/
def keyedSecrets : Record :=
  [("encryption_key", .text "root"), ("kms", .text "vault"), ("name", .text "secrets")]

/-- A cascade follows the key of the nameless instance, whose name the reference may not hold. -/
theorem nameless_parent_followed :
    Reference.encryptionKey ∈ Kind.secretsManager.schema.references ∧
    namelessKey ∈ namelessVault.located Reference.encryptionKey.target ∧
    namelessKey.record.name? = some "root" ∧
    namelessVault.mayReach .secretsManager none keyedSecrets .encryptionKey namelessKey.parent =
      true ∧
    "root" ∉ namelessVault.reached .secretsManager none keyedSecrets .encryptionKey :=
  ⟨by decide, .head _, by decide⟩

/-- Of the two keys only that of the named instance gives a name. -/
theorem nameless_parent_passed_over :
    Reference.encryptionKey ∈ Kind.secretsManager.schema.references ∧
    namelessVault.reached .secretsManager none keyedSecrets .encryptionKey = ["spare"] ∧
    vaultKey ∈ namelessVault.sources .secretsManager none keyedSecrets .encryptionKey ∧
    namelessKey ∉ namelessVault.sources .secretsManager none keyedSecrets .encryptionKey := by
  have hmem : Reference.encryptionKey ∈ Kind.secretsManager.schema.references := by decide
  obtain ⟨-, hentries⟩ := mem_sources_iff_mayReach hmem namelessVault none keyedSecrets
  have hvault := (hentries vaultKey (.tail _ (.head _))).1
  have hnameless := (hentries namelessKey (.head _)).1
  refine ⟨hmem, by decide, hvault.mpr ⟨by decide, fun hpassed => ?_⟩, fun hsource => ?_⟩
  · exact absurd hpassed.1.parent_eq (by decide)
  · exact (hnameless.mp hsource).2 ⟨⟨_, rfl, by decide⟩, "vault", by decide⟩

end Tree

end Blueprint
