import Mathlib
import Blueprint.Terraform.TransitGateways

/-!
# Connections of transit gateways

A gateway is connected as its stored connections say, and after them to those of its CRNs that
no stored connection has. Each of these gets one connection, however often it is listed, in the
order in which the CRNs are listed first.
-/

namespace Blueprint.Terraform.TransitGateways

variable {name crn : String} {stored : List Record} {crns added : List String}

/-- Whether a connection has a CRN. -/
def carries (crn : String) (connection : Record) : Bool := connection.text? "crn" = some crn

@[simp] theorem text?_remoteConnection (name crn : String) :
    (remoteConnection name crn).text? "crn" = some crn :=
  rfl

/-- Whether CRNs are those in a list that no stored connection has, in the order in which the
list has them first. -/
structure Misses (stored : List Record) (crns added : List String) : Prop where
  mem_iff : ∀ crn, crn ∈ added ↔
    crn ∈ crns ∧ ∀ connection ∈ stored, connection.text? "crn" ≠ some crn
  ordered : added.Pairwise fun first second => crns.idxOf first < crns.idxOf second

namespace Misses

theorem nodup (h : Misses stored crns added) : added.Nodup := by
  refine h.ordered.imp fun {first second} hlt heq => ?_
  subst heq
  exact Nat.lt_irrefl _ hlt

theorem mem (h : Misses stored crns added) (hcrn : crn ∈ added) : crn ∈ crns :=
  ((h.mem_iff crn).mp hcrn).1

theorem nil (stored : List Record) : Misses stored [] [] where
  mem_iff := by simp
  ordered := .nil

theorem append_of_known (h : Misses stored crns added)
    (hknown : (∃ connection ∈ stored, connection.text? "crn" = some crn) ∨ crn ∈ added) :
    Misses stored (crns ++ [crn]) added where
  mem_iff other := by
    rw [h.mem_iff other, List.mem_append, List.mem_singleton]
    constructor
    · rintro ⟨hlisted, hnew⟩
      exact ⟨.inl hlisted, hnew⟩
    · rintro ⟨hlisted | rfl, hnew⟩
      · exact ⟨hlisted, hnew⟩
      · rcases hknown with ⟨connection, hstored, hcrn⟩ | hadded
        · exact absurd hcrn (hnew connection hstored)
        · exact ⟨h.mem hadded, hnew⟩
  ordered := by
    refine h.ordered.imp_of_mem fun {first second} hfirst hsecond hlt => ?_
    rwa [List.idxOf_append_of_mem (h.mem hfirst), List.idxOf_append_of_mem (h.mem hsecond)]

theorem append_of_new (h : Misses stored crns added)
    (hnew : ∀ connection ∈ stored, connection.text? "crn" ≠ some crn) (hadded : crn ∉ added) :
    Misses stored (crns ++ [crn]) (added ++ [crn]) where
  mem_iff other := by
    rw [List.mem_append, h.mem_iff other, List.mem_append, List.mem_singleton]
    constructor
    · rintro (⟨hlisted, hmissing⟩ | rfl)
      · exact ⟨.inl hlisted, hmissing⟩
      · exact ⟨.inr rfl, hnew⟩
    · rintro ⟨hlisted | rfl, hmissing⟩
      · exact .inl ⟨hlisted, hmissing⟩
      · exact .inr rfl
  ordered := by
    have hunlisted : crn ∉ crns := fun hlisted => hadded ((h.mem_iff crn).mpr ⟨hlisted, hnew⟩)
    have hlast : (crns ++ [crn]).idxOf crn = crns.length := by
      rw [List.idxOf_append_of_notMem hunlisted, List.idxOf_cons_self, Nat.add_zero]
    refine List.pairwise_append.mpr ⟨?_, List.pairwise_singleton _ _, ?_⟩
    · refine h.ordered.imp_of_mem fun {first second} hfirst hsecond hlt => ?_
      rwa [List.idxOf_append_of_mem (h.mem hfirst), List.idxOf_append_of_mem (h.mem hsecond)]
    · intro first hfirst second hsecond
      rw [List.mem_singleton.mp hsecond, hlast, List.idxOf_append_of_mem (h.mem hfirst)]
      exact List.idxOf_lt_length_of_mem (h.mem hfirst)

theorem any_carries_iff :
    (stored ++ added.map (remoteConnection name)).any (carries crn) = true ↔
      (∃ connection ∈ stored, connection.text? "crn" = some crn) ∨ crn ∈ added := by
  simp [List.any_append, List.any_map, Function.comp_def, carries]

/-- One more CRN adds a connection to it unless there is one. -/
theorem exists_connect (h : Misses stored crns added) (name crn : String) :
    ∃ added', connect name (stored ++ added.map (remoteConnection name)) crn =
        stored ++ added'.map (remoteConnection name) ∧ Misses stored (crns ++ [crn]) added' := by
  by_cases hknown : (∃ connection ∈ stored, connection.text? "crn" = some crn) ∨ crn ∈ added
  · exact ⟨added, if_pos (any_carries_iff.mpr hknown), h.append_of_known hknown⟩
  · refine ⟨added ++ [crn], (if_neg (mt any_carries_iff.mp hknown)).trans ?_, ?_⟩
    · rw [List.map_append, List.map_singleton, List.append_assoc]
    · push Not at hknown
      exact h.append_of_new hknown.1 hknown.2

end Misses

/-- The connections of a gateway are the stored ones and one for each CRN that these miss. -/
theorem exists_connections_eq (gateway : Record) :
    ∃ added, connections gateway =
        gateway.records "connections" ++ added.map (remoteConnection gateway.label) ∧
      Misses (gateway.records "connections") (gateway.texts "crns") added := by
  unfold connections
  -- on the CRNs from the last one, so that those before it have been connected
  induction gateway.texts "crns" using List.reverseRecOn with
  | nil => exact ⟨[], by simp, .nil _⟩
  | append_singleton crns crn ih =>
      obtain ⟨added, heq, hmisses⟩ := ih
      rw [List.foldl_append, List.foldl_cons, List.foldl_nil, heq]
      exact hmisses.exists_connect gateway.label crn

/-- A listed CRN has as many connections as are stored, and one if none is. -/
theorem countP_carries (h : Misses stored crns added) (hcrn : crn ∈ crns) (name : String) :
    (stored ++ added.map (remoteConnection name)).countP (carries crn) =
      max 1 (stored.countP (carries crn)) := by
  have hadded : (added.map (remoteConnection name)).countP (carries crn) = added.count crn := by
    rw [List.countP_map, List.count]
    exact List.countP_congr fun first _ => by simp [carries]
  rw [List.countP_append, hadded]
  by_cases hstored : ∃ connection ∈ stored, connection.text? "crn" = some crn
  · have habsent : crn ∉ added := fun hmem => by
      obtain ⟨connection, hconnection, hheld⟩ := hstored
      exact ((h.mem_iff crn).mp hmem).2 connection hconnection hheld
    have hpos : 0 < stored.countP (carries crn) := by
      obtain ⟨connection, hconnection, hheld⟩ := hstored
      exact List.countP_pos_iff.mpr ⟨connection, hconnection, decide_eq_true hheld⟩
    rw [List.count_eq_zero_of_not_mem habsent]
    omega
  · push Not at hstored
    have hmem : crn ∈ added := (h.mem_iff crn).mpr ⟨hcrn, hstored⟩
    have hzero : stored.countP (carries crn) = 0 :=
      List.countP_eq_zero.mpr fun connection hconnection => by
        simpa [carries] using hstored connection hconnection
    rw [List.count_eq_one_of_mem h.nodup hmem, hzero]
    rfl

/-- The section of a gateway has the block of the gateway and one for each of its connections.
These are the stored connections in their order, and after them one for each CRN in the list
of the gateway that no stored connection has, in the order in which the list has them first.
So every CRN in the list has a connection, and exactly one if it is not stored more than once. -/
theorem connections_merged (t : Tree) :
    List.Forall₂ (fun gateway (s : Section) =>
        s.blocks = block t gateway :: (connections gateway).map (connectionBlock t) ∧
        (∃ added, connections gateway =
            gateway.records "connections" ++ added.map (remoteConnection gateway.label) ∧
          Misses (gateway.records "connections") (gateway.texts "crns") added) ∧
        ∀ crn ∈ gateway.texts "crns", 1 ≤ (connections gateway).countP (carries crn) ∧
          ((gateway.records "connections").countP (carries crn) ≤ 1 →
            (connections gateway).countP (carries crn) = 1))
      (t.topLevel .transitGateway) (sections t) := by
  rw [sections, List.forall₂_map_right_iff, List.forall₂_same]
  intro gateway _
  obtain ⟨added, heq, hmisses⟩ := exists_connections_eq gateway
  refine ⟨rfl, ⟨added, heq, hmisses⟩, fun crn hcrn => ?_⟩
  have hcount := countP_carries hmisses hcrn gateway.label
  rw [← heq] at hcount
  omega

end Blueprint.Terraform.TransitGateways
