import Blueprint.Proofs.Runs
import Blueprint.Proofs.StoredFields

/-!
# Accepted calls that are applied

A record is looked for among the records of all parents with the name that is addressed,
and written to the list of the first of them. In a tree that was loaded several parents may
have the name: a save or a deletion of a record that only a later one holds is accepted, and
changes nothing.
-/

namespace Blueprint

namespace Tree

variable {t u : Tree} {kind : Kind} {parent : Option String} {fields : Record} {op : Context}

/-- Whether a name finds a record with the given fields, as far as they are its own. -/
def Holds (t : Tree) (kind : Kind) (parent : Option String) (name : String) (fields : Record) :
    Prop :=
  ∃ r, t.find? kind parent name = some r ∧ ∀ field value, kind.isOwn field = true →
    (Record.ofFields fields).get? field = some value → r.get? field = some value

theorem holds_iff_of_find? {name : String} {r : Record}
    (h : t.find? kind parent name = some r) :
    t.Holds kind parent name fields ↔ ∀ field value, kind.isOwn field = true →
      (Record.ofFields fields).get? field = some value → r.get? field = some value := by
  simp [Holds, h]

/-- A save that is accepted is applied if the first parent holds the record, or else if
there was nothing to apply. -/
theorem holds_saveNamed_iff (hsingle : kind.location ≠ .single)
    (hop : op.addressed kind = .ok parent) (hu : t.saveNamed kind fields op = .ok u) :
    ∃ name, Catalog.nameAfter (op.name.getD "") fields = some name ∧
      (u.Holds kind parent name fields ↔ t.HeldFirst kind parent (op.name.getD "") ∨
        t.Holds kind parent (op.name.getD "") fields) := by
  by_cases hheld : t.HeldFirst kind parent (op.name.getD "")
  · obtain ⟨stored, name, r, hfind, hmerged, hfound, hkeeps⟩ :=
      saveNamed_of_heldFirst hsingle hop hheld hu
    refine ⟨name, nameAfter_eq (name?_of_find? hfind) hmerged, iff_of_true ?_ (.inl hheld)⟩
    rw [holds_iff_of_find? hfound]
    intro field value hown hvalue
    rw [hkeeps.own field hown, Record.get?_extend_ofFields, hvalue, Option.some_or]
  · obtain ⟨stored, name, hfind, hmerged, hfound⟩ :=
      saveNamed_of_not_heldFirst hsingle hop hheld hu
    have hold := name?_of_find? hfind
    have hafter := nameAfter_eq hold hmerged
    refine ⟨name, hafter, ?_⟩
    simp only [hheld, false_or]
    rw [holds_iff_of_find? hfind]
    split at hfound
    · obtain ⟨r, hfound, hkeeps⟩ := hfound
      rw [holds_iff_of_find? hfound]
      refine forall₃_congr fun field value hown => ?_
      rw [hkeeps.own field hown]
    -- A new name is among the fields, and the record that was found has the old one.
    · next hnew =>
        refine iff_of_false (fun ⟨r, hr, _⟩ => ?_) fun hsaved => hnew ?_
        · rw [hfound] at hr
          cases hr
        · cases hgiven : fields.givenName with
          | none =>
              rw [Catalog.nameAfter, hgiven] at hafter
              exact (Option.some.inj hafter).symm
          | some value =>
              rw [Record.name?_eq, hsaved "name" value kind.isOwn_name hgiven] at hold
              rw [Catalog.nameAfter, hgiven] at hafter
              exact Option.some.inj (hafter.symm.trans hold)

/-! ## Deleting -/

theorem count_names_erase_iff (haddress : kind.Addresses parent) {name : String}
    (hmem : name ∈ t.names kind parent) :
    ((t.erase kind parent name).names kind parent).count name + 1 =
        (t.names kind parent).count name ↔ t.HeldFirst kind parent name := by
  by_cases hheld : t.HeldFirst kind parent name
  · refine iff_of_true ?_ hheld
    obtain ⟨items, hitems, hnamed⟩ := hheld
    obtain ⟨before, removed, after, hfirst⟩ := FirstNamed.exists_of_mem hnamed
    obtain ⟨left, hleft, herase⟩ := erase_of_firstNamed hitems hmem hfirst
    obtain ⟨rest, hcollection, hset⟩ := exists_rest haddress hitems
    have hretains := (Retains.refl (t.setItems kind parent left) kind).dropAllReferences kind
      parent removed
    rw [herase, hretains.names_eq, names, names, hcollection, hset, hleft, hfirst.split]
    simp only [List.filterMap_append, List.filterMap_cons_some hfirst.named, List.count_append,
      List.count_cons_self]
    omega
  · refine iff_of_false ?_ hheld
    have hsame : (t.erase kind parent name).names kind parent = t.names kind parent := by
      unfold erase
      split
      · split
        · rfl
        · next items hitems =>
            have htake : takeNamed name items = none :=
              takeNamed_eq_none fun r hr hname => hheld ⟨items, hitems, r, hr, hname⟩
            obtain ⟨rest, hcollection, hset⟩ := exists_rest haddress hitems
            simp only [htake, names, hset, hcollection]
      · rfl
    rw [hsame]
    omega

/-- Which of the accepted calls are applied. The record that is found has what is saved
exactly if the first parent with the name holds the record, or if the record had it before;
and a record less has the name exactly if the first parent holds it. So it is wherever the
parents have different names. -/
theorem accepted_applied_iff (t : Tree) {kind : Kind} (hsingle : kind.location ≠ .single)
    {op : Context} {parent : Option String} (hop : op.addressed kind = .ok parent)
    (hmem : op.name.getD "" ∈ t.names kind parent) :
    (∀ fields u, t.save kind fields op = .ok u →
      ∃ name, Catalog.nameAfter (op.name.getD "") fields = some name ∧
        (u.Holds kind parent name fields ↔ t.HeldFirst kind parent (op.name.getD "") ∨
          t.Holds kind parent (op.name.getD "") fields)) ∧
    (∀ u, t.delete kind op = .ok u →
      ((u.names kind parent).count (op.name.getD "") + 1 =
          (t.names kind parent).count (op.name.getD "") ↔
        t.HeldFirst kind parent (op.name.getD ""))) ∧
    ((∀ parentKind, kind.parent = some parentKind → (t.names parentKind none).Nodup) →
      t.HeldFirst kind parent (op.name.getD "")) := by
  have haddress := Context.addresses_of_addressed hop
  refine ⟨fun fields u hu => ?_, fun u hu => ?_, fun hunique => ?_⟩
  · rw [save, if_neg hsingle] at hu
    exact holds_saveNamed_iff hsingle hop hu
  · obtain ⟨addressed, haddressed, hdelete⟩ := bind_eq_ok_iff.mp hu
    rw [deletionParent, if_neg hsingle, hop] at haddressed
    obtain rfl := Except.ok.inj haddressed
    obtain rfl := Except.ok.inj hdelete
    exact count_names_erase_iff haddress hmem
  · exact heldFirst_of_nodup haddress hunique hsingle hmem

/-- A subnet of the default tree is saved and deleted. -/
theorem accepted_applied_iff_subnet :
    (∃ u, default.save .subnet [("zone", .ofInt 2)]
        (.editing "vsi-zone-1" (some "management")) = .ok u ∧
      u.Holds .subnet (some "management") "vsi-zone-1" [("zone", .ofInt 2)]) ∧
    ∃ u, default.delete .subnet (.editing "vsi-zone-1" (some "management")) = .ok u ∧
      (u.names .subnet (some "management")).count "vsi-zone-1" + 1 =
        (default.names .subnet (some "management")).count "vsi-zone-1" := by
  obtain ⟨hmem, hunique, hsaved⟩ :
      "vsi-zone-1" ∈ default.names .subnet (some "management") ∧
      (default.names .vpc none).Nodup ∧
      (default.save .subnet [("zone", .ofInt 2)]
        (.editing "vsi-zone-1" (some "management"))).isOk = true := by
    decide +kernel
  have hop : (Context.editing "vsi-zone-1" (some "management")).addressed .subnet =
      .ok (some "management") := rfl
  obtain ⟨hsave, hdelete, hheld⟩ := accepted_applied_iff default (by decide) hop hmem
  have hfirst := hheld fun parentKind hparent => by
    obtain rfl := Option.some.inj hparent
    exact hunique
  refine ⟨?_, _, rfl, (hdelete _ rfl).mpr hfirst⟩
  cases hu : default.save .subnet [("zone", .ofInt 2)]
      (.editing "vsi-zone-1" (some "management")) with
  | error e => simp [hu, Except.isOk, Except.toBool] at hsaved
  | ok u =>
      obtain ⟨name, hname, happlied⟩ := hsave _ _ hu
      obtain rfl : "vsi-zone-1" = name := Option.some.inj hname
      exact ⟨u, rfl, happlied.mpr (.inl hfirst)⟩

/-- Two VPCs of one name, of which the second one has a subnet. -/
def twinVpcs : Tree := ⟨[("vpcs", .list [
  .object [("name", .text "edge"), ("subnets", .list [])],
  .object [("name", .text "edge"), ("subnets", .list [.object [("name", .text "app")]])]])]⟩

/-- A save of the subnet and a deletion are accepted, and the subnet is still there, as it
was. -/
theorem accepted_not_applied :
    let s := Store.ofTree twinVpcs ()
    let op := Context.editing "app" (some "edge")
    let saved := s.save .subnet [("cidr", .text "10.0.0.0/24")] op
    let deleted := s.delete .subnet op
    saved.1 = .ok () ∧ deleted.1 = .ok () ∧
      ∀ after ∈ [s, saved.2, deleted.2],
        after.read (·.collection .subnet (some "edge")) = .ok [[("name", .text "app")]] := by
  decide +kernel

end Tree

end Blueprint
