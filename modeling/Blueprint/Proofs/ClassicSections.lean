import Mathlib
import Blueprint.Proofs.ByteOrder
import Blueprint.Proofs.SpelledDocuments

/-!
# Sections of classic records

The sections of classic infrastructure share out the classic records that are in a datacenter.
Each section lists the SSH keys or the VLANs of one datacenter in their stored order. The
datacenters come in the order of their bytes, in each of them the SSH keys before the VLANs.
-/

namespace Blueprint.Terraform.Classic

/-- What a section lists. -/
inductive Subject
  | sshKeys
  | vlans
  deriving DecidableEq

namespace Subject

def kind : Subject → Kind
  | sshKeys => .classicSshKey
  | vlans => .classicVlan

def heading : Subject → String
  | sshKeys => " SSH Keys"
  | vlans => " VLANs"

def block (t : Tree) : Subject → Record → Block
  | sshKeys => keyBlock
  | vlans => vlanBlock t

end Subject

/-- The records that a section is made for. -/
structure Group where
  datacenter : String
  subject : Subject
  records : List Record

/-- The section that is made for a group. -/
def Group.toSection (t : Tree) (g : Group) : Section :=
  ⟨titleCase g.datacenter ++ g.subject.heading, g.records.map (g.subject.block t)⟩

/-- Whether a group comes before another one: its datacenter has the smaller bytes, or it has
the SSH keys of the same datacenter and the other one the VLANs. -/
def Group.Before (g h : Group) : Prop :=
  Text.bytes g.datacenter < Text.bytes h.datacenter ∨
    g.datacenter = h.datacenter ∧ g.subject = .sshKeys ∧ h.subject = .vlans

variable (t : Tree)

/-! ## Groups of a tree -/

/-- The records of a subject in a datacenter. -/
def groupOf (datacenter : String) (subject : Subject) : Group :=
  ⟨datacenter, subject, located datacenter (t.topLevel subject.kind)⟩

/-- The groups in a datacenter that have a record. -/
def groupsIn (datacenter : String) : List Group :=
  [groupOf t datacenter .sshKeys, groupOf t datacenter .vlans].filter (!·.records.isEmpty)

def groups : List Group := (datacenters t).flatMap (groupsIn t)

theorem mem_groupsIn {datacenter : String} {g : Group} (h : g ∈ groupsIn t datacenter) :
    g = groupOf t datacenter g.subject ∧ g.records ≠ [] := by
  simp only [groupsIn, List.mem_filter, List.mem_cons, List.not_mem_nil, or_false,
    Bool.not_eq_true', List.isEmpty_eq_false_iff] at h
  rcases h with ⟨rfl | rfl, hrecords⟩
  · exact ⟨rfl, hrecords⟩
  · exact ⟨rfl, hrecords⟩

theorem ofBlocks_groupOf (datacenter : String) (subject : Subject) :
    Section.ofBlocks (titleCase datacenter ++ subject.heading)
        ((located datacenter (t.topLevel subject.kind)).map (subject.block t)) =
      ([groupOf t datacenter subject].filter (!·.records.isEmpty)).map (Group.toSection t) := by
  unfold Section.ofBlocks
  cases hrecords : located datacenter (t.topLevel subject.kind) with
  | nil => simp [groupOf, hrecords]
  | cons r rest => simp [groupOf, Group.toSection, hrecords]

theorem sections_eq : sections t = (groups t).map (Group.toSection t) := by
  rw [sections, groups, List.map_flatMap]
  refine List.flatMap_congr fun datacenter _ => ?_
  have hkeys := ofBlocks_groupOf t datacenter .sshKeys
  have hvlans := ofBlocks_groupOf t datacenter .vlans
  refine (congrArg₂ (· ++ ·) hkeys hvlans).trans ?_
  rw [← List.map_append, ← List.filter_append]
  rfl

theorem pairwise_groupsIn (datacenter : String) :
    (groupsIn t datacenter).Pairwise Group.Before := by
  refine List.Pairwise.filter _ (List.pairwise_pair.mpr ?_)
  exact .inr ⟨rfl, rfl, rfl⟩

theorem pairwise_groups : (groups t).Pairwise Group.Before := by
  refine List.pairwise_flatMap.mpr ⟨fun datacenter _ => pairwise_groupsIn t datacenter, ?_⟩
  refine (Text.pairwise_distinct _).imp fun {first second} hlt g hg h hh => .inl ?_
  rwa [(mem_groupsIn t hg).1, (mem_groupsIn t hh).1]

/-- A group of a subject that has no record is left out without a loss. -/
theorem flatMap_records_groupsIn (datacenter : String) (subject : Subject) :
    ((groupsIn t datacenter).filter (·.subject = subject)).flatMap Group.records =
      located datacenter (t.topLevel subject.kind) := by
  have hkept (gs : List Group) : (gs.filter (!·.records.isEmpty)).flatMap Group.records =
      gs.flatMap Group.records := by
    induction gs with
    | nil => rfl
    | cons g rest ih => cases hrecords : g.records <;> simp [hrecords, ih]
  rw [groupsIn, List.filter_comm, hkept]
  cases subject <;> simp [groupOf]

/-- The groups of a subject have every record that is in a datacenter once. -/
theorem perm_records_groups (subject : Subject) :
    (((groups t).filter (·.subject = subject)).flatMap Group.records).Perm
      ((t.topLevel subject.kind).filter fun r => (r.text? "datacenter").isSome) := by
  have hrecords : ((groups t).filter (·.subject = subject)).flatMap Group.records =
      (datacenters t).flatMap fun datacenter => located datacenter (t.topLevel subject.kind) := by
    rw [groups, List.filter_flatMap, List.flatMap_assoc]
    exact List.flatMap_congr fun datacenter _ => flatMap_records_groupsIn t datacenter subject
  rw [hrecords]
  apply perm_located_datacenters
  cases subject with
  | sshKeys => exact List.subset_append_left _ _
  | vlans => exact List.subset_append_right _ _

/-- The sections for classic records are made for groups of them, one section for each. The
groups come in strictly ascending order of the bytes of their datacenters, SSH keys before
VLANs, and none is empty. A group has the stored records of its subject that are in its
datacenter, in stored order. All groups together have each record that is in a datacenter
exactly once, and no others. -/
theorem sections_partition_records :
    ∃ groups : List Group, sections t = groups.map (Group.toSection t) ∧
      groups.Pairwise Group.Before ∧
      (∀ g ∈ groups, g.records ≠ [] ∧ g.records =
        (t.topLevel g.subject.kind).filter fun r => r.text? "datacenter" = some g.datacenter) ∧
      ∀ subject : Subject,
        ((groups.filter (·.subject = subject)).flatMap Group.records).Perm
          ((t.topLevel subject.kind).filter fun r => (r.text? "datacenter").isSome) := by
  refine ⟨groups t, sections_eq t, pairwise_groups t, fun g hg => ?_, perm_records_groups t⟩
  obtain ⟨datacenter, _, hmem⟩ := List.mem_flatMap.mp hg
  obtain ⟨heq, hrecords⟩ := mem_groupsIn t hmem
  refine ⟨hrecords, ?_⟩
  rw [heq]
  rfl

end Blueprint.Terraform.Classic
