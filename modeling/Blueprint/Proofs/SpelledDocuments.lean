import Blueprint.Proofs.Spellings

/-!
# Spelled documents

The addresses of a document, told kind by kind of its records. Families are told in their
order, and only classic records are told in another one than they are stored in.
-/

namespace Blueprint.Terraform

variable (t : Tree)

theorem Classic.perm_located (records : List Record) {datacenters : List String}
    (h : datacenters.Nodup) :
    (datacenters.flatMap fun datacenter => located datacenter records).Perm
      (records.filter fun r => (r.text? "datacenter").any (· ∈ datacenters)) := by
  induction datacenters with
  | nil => simp
  | cons first rest ih =>
      obtain ⟨hfirst, hrest⟩ := List.nodup_cons.mp h
      -- those in the first one come first, the others keep their order
      have hhere : located first records =
          (records.filter fun r => (r.text? "datacenter").any (· ∈ first :: rest)).filter
            fun r => r.text? "datacenter" = some first := by
        rw [located, List.filter_filter]
        apply List.filter_congr
        intro r _
        cases hplace : r.text? "datacenter" with
        | none => simp
        | some place => by_cases heq : place = first <;> simp [heq]
      have hthere : (records.filter fun r => (r.text? "datacenter").any (· ∈ rest)) =
          (records.filter fun r => (r.text? "datacenter").any (· ∈ first :: rest)).filter
            fun r => !decide (r.text? "datacenter" = some first) := by
        rw [List.filter_filter]
        apply List.filter_congr
        intro r _
        cases hplace : r.text? "datacenter" with
        | none => simp
        | some place => by_cases heq : place = first <;> simp [heq, hfirst]
      rw [List.flatMap_cons]
      refine ((ih hrest).append_left _).trans ?_
      rw [hhere, hthere]
      exact List.filter_append_perm _ _

theorem Classic.mem_datacenters {r : Record}
    (hr : r ∈ t.topLevel .classicSshKey ++ t.topLevel .classicVlan) {place : String}
    (hplace : r.text? "datacenter" = some place) : place ∈ datacenters t := by
  rw [datacenters, Text.mem_distinct]
  exact List.mem_filterMap.mpr ⟨r, hr, hplace⟩

theorem Classic.perm_located_datacenters {records : List Record}
    (h : records ⊆ t.topLevel .classicSshKey ++ t.topLevel .classicVlan) :
    ((datacenters t).flatMap fun datacenter => located datacenter records).Perm
      (records.filter fun r => (r.text? "datacenter").isSome) := by
  have hplaced : (records.filter fun r => (r.text? "datacenter").any (· ∈ datacenters t)) =
      records.filter fun r => (r.text? "datacenter").isSome := by
    apply List.filter_congr
    intro r hr
    cases hplace : r.text? "datacenter" with
    | none => rfl
    | some place => simpa using mem_datacenters t (h hr) hplace
  rw [← hplaced]
  exact perm_located records (Text.nodup_distinct _)

/-- The blocks for the records of a kind. -/
def blocksOfKind (t : Tree) (kind : Kind) : List Block := (t.tops kind).flatMap (blocksOf t kind)

theorem Classic.perm_map_located {kind : Kind} {made : Record → Block}
    (hmade : ∀ r, blocksOf t kind r = if (r.text? "datacenter").isSome then [made r] else [])
    (hkind : kind.location = .collection)
    (h : t.topLevel kind ⊆ t.topLevel .classicSshKey ++ t.topLevel .classicVlan) :
    ((datacenters t).flatMap fun datacenter =>
      (located datacenter (t.topLevel kind)).map made).Perm (blocksOfKind t kind) := by
  have hblocks : blocksOfKind t kind =
      ((t.topLevel kind).filter fun r => (r.text? "datacenter").isSome).map made := by
    rw [blocksOfKind, funext hmade, flatMap_if, Tree.tops_eq_topLevel t hkind]
  rw [← List.map_flatMap, hblocks]
  exact (perm_located_datacenters t h).map made

/-- The datacenters only tell in which order the blocks for classic records come. -/
theorem Classic.perm_blocks :
    (Family.classic.blocks t).Perm
      (blocksOfKind t .classicSshKey ++ blocksOfKind t .classicVlan) := by
  have hsections : Family.classic.blocks t = (datacenters t).flatMap fun datacenter =>
      (located datacenter (t.topLevel .classicSshKey)).map keyBlock ++
        (located datacenter (t.topLevel .classicVlan)).map (vlanBlock t) := by
    simp only [Family.blocks, Family.sections, sections, datacenterSections,
      List.flatMap_assoc, List.flatMap_append, Section.flatMap_ofBlocks]
  rw [hsections]
  refine (List.flatMap_append_perm _ _ _).symm.trans (List.Perm.append ?_ ?_)
  · exact perm_map_located t (fun _ => rfl) rfl (List.subset_append_left _ _)
  · exact perm_map_located t (fun _ => rfl) rfl (List.subset_append_right _ _)

namespace Family

/-- The kinds whose records a family is about. -/
def kinds : Family → List Kind
  | classic => [.classicSshKey, .classicVlan]
  | family => family.kind?.toList

theorem perm_blocks {family : Family} (h : family ≠ provider) :
    (family.blocks t).Perm (family.kinds.flatMap (blocksOfKind t)) := by
  cases hkind : family.kind? with
  | some kind =>
      have hkinds : family.kinds = [kind] := by
        cases family <;> simp_all [kinds, kind?]
      rw [blocks_eq t hkind, hkinds, List.flatMap_singleton]
      rfl
  | none =>
      obtain rfl : family = classic := by cases family <;> simp_all [kind?]
      simpa [kinds] using Classic.perm_blocks t

/-- The kinds whose records a document is about. -/
def documentKinds : List Kind := all.flatMap kinds

theorem nodup_documentKinds : documentKinds.Nodup := by decide

/-- A document tells of its providers first, and then kind by kind of its records. -/
theorem perm_spellings :
    ((all.tail.flatMap fun family => family.blocks t).map Block.spelling).Perm
      (documentKinds.flatMap fun kind => (t.tops kind).flatMap (spellings kind)) := by
  have hkinds : documentKinds = all.tail.flatMap kinds := rfl
  rw [hkinds, List.flatMap_assoc, List.map_flatMap]
  refine List.Perm.flatMap_left _ fun family hfamily => ?_
  have hprovider : family ≠ provider := by rintro rfl; revert hfamily; decide
  refine ((perm_blocks t hprovider).map _).trans ?_
  rw [List.map_flatMap]
  refine List.Perm.flatMap_left _ fun kind _ => ?_
  rw [blocksOfKind, List.map_flatMap]
  exact List.Perm.flatMap_left _ fun r _ => spellings_blocksOf t kind r

end Family

end Blueprint.Terraform
