import Blueprint.Proofs.Consistency
import Blueprint.Terraform.Resolution

/-!
# Look-ups

A look-up that succeeds ends at a record of the tree, for a held record with the
record that holds it. In a reconciled tree whose names are kept apart it succeeds
for every name that a record mentions: what reconciliation takes for a meaning is
what the look-up finds.
-/

namespace Blueprint

namespace Record

theorem label_eq {r : Record} {name : String} (h : r.name? = some name) : r.label = name := by
  rw [label, textOr, ← name?, h, Option.getD_some]

theorem filled?_eq_some_iff {r : Record} {field name : String} :
    r.filled? field = some name ↔ r.text? field = some name ∧ name ≠ "" := by
  simp [filled?, Option.filter_eq_some_iff]

theorem get?_of_filled {r : Record} {field name : String} (h : r.filled? field = some name) :
    r.get? field = some (.text name) ∧ name ≠ "" := by
  obtain ⟨htext, hne⟩ := filled?_eq_some_iff.mp h
  obtain ⟨value, hvalue, hheld⟩ := Option.bind_eq_some_iff.mp htext
  cases value with
  | text held => exact ⟨by rw [hvalue, Option.some.inj hheld], hne⟩
  | null | bool _ | number _ | list _ | object _ => cases hheld

end Record

namespace Reference

variable {reference : Reference} {r : Record} {name : String}

theorem mem_mentions_of_filled {field : String} (hpath : reference.path = .field field)
    (harity : reference.arity = .one) (h : r.filled? field = some name) :
    name ∈ reference.mentions r := by
  obtain ⟨hvalue, hne⟩ := Record.get?_of_filled h
  simp [mentions, mentionedAt, hpath, harity, Path.root, hvalue, Arity.mentioned, Value.mentioned,
    hne]

theorem mem_mentions_of_inside {object field : String}
    (hpath : reference.path = .inside object field)
    (harity : reference.arity = .one) {inner : Record} (hinner : r.object? object = some inner)
    (h : inner.filled? field = some name) : name ∈ reference.mentions r := by
  obtain ⟨value, hobject, hheld⟩ := Option.bind_eq_some_iff.mp hinner
  obtain ⟨hvalue, hne⟩ := Record.get?_of_filled h
  simp [mentions, mentionedAt, hpath, harity, Path.root, hobject, hheld, hvalue, Arity.mentioned,
    Value.mentioned, hne]

theorem mem_mentions_of_each {list field : String} (hpath : reference.path = .each list field)
    {held : Record} (hheld : held ∈ r.records list) (h : held.filled? field = some name) :
    name ∈ reference.mentions r := by
  obtain ⟨hvalue, hne⟩ := Record.get?_of_filled h
  obtain ⟨item, hitem, hobject⟩ := List.mem_filterMap.mp hheld
  have hmention : name ∈ Value.mentionedIn field item := by
    simp [Value.mentionedIn, hobject, hvalue, Value.mentioned, hne]
  cases hlist : r.get? list with
  | none => simp [Record.list?, hlist] at hitem
  | some value =>
      simp only [Record.list?, hlist, Option.bind_some] at hitem
      simp only [mentions, mentionedAt, hpath, Path.root, hlist, Option.map_some, Option.getD_some]
      exact List.mem_flatMap.mpr ⟨item, hitem, hmention⟩

theorem mem_mentions_of_texts {field : String} (hpath : reference.path = .field field)
    (harity : reference.arity = .many) (h : name ∈ r.texts field) (hne : name ≠ "") :
    name ∈ reference.mentions r := by
  obtain ⟨item, hitem, htext⟩ := List.mem_filterMap.mp h
  cases item with
  | text held =>
      obtain rfl := Option.some.inj htext
      have hmention : held ∈ Value.mentioned (.text held) := by simp [Value.mentioned, hne]
      cases hlist : r.get? field with
      | none => simp [Record.list?, hlist] at hitem
      | some value =>
          simp only [Record.list?, hlist, Option.bind_some] at hitem
          simp only [mentions, mentionedAt, hpath, harity, Path.root, hlist, Option.map_some,
            Option.getD_some, Arity.mentioned]
          exact List.mem_flatMap.mpr ⟨.text held, hitem, hmention⟩
  | null | bool _ | number _ | list _ | object _ => cases htext

end Reference

namespace Tree

variable {t : Tree}

/-! ## What is found -/

theorem mem_topLevel_of_lookup? {kind : Kind} (hkind : kind.location = .collection)
    {name : Option String} {r : Record} (h : t.lookup? kind name = some r) :
    r ∈ t.topLevel kind := by
  obtain ⟨given, _, hfind⟩ := Option.bind_eq_some_iff.mp h
  have hmem := List.mem_of_find?_eq_some hfind
  rwa [collection_of_top t (Kind.parent_of_collection hkind), tops_eq_topLevel t hkind] at hmem

theorem exists_holder_of_find? {kind parentKind : Kind} {field : String}
    (hkind : kind.location = .nested parentKind field) {parent name : String}
    (h : (t.find? kind (some parent) name).isSome) :
    ∃ holder ∈ t.topLevel parentKind, holder.name? = some parent ∧
      ∃ r ∈ holder.records field, r.name? = some name := by
  obtain ⟨r, hfind⟩ := Option.isSome_iff_exists.mp h
  have hname : r.name? = some name := by simpa using List.find?_some hfind
  obtain ⟨q, hentry, hq⟩ := mem_collection.mp (List.mem_of_find?_eq_some hfind)
  obtain rfl : q = some parent := by simpa using hq
  obtain ⟨holder, hholder, hparent, hr⟩ := (mem_entries_of_nested hkind).mp hentry
  rw [tops_eq_topLevel t (Kind.location_of_parent (Kind.parent_eq_some_iff.mpr ⟨field, hkind⟩))]
    at hholder
  exact ⟨holder, hholder, hparent, r, hr, hname⟩

theorem exists_holder_of_ownerOf {kind parentKind : Kind} {field : String}
    (hkind : kind.location = .nested parentKind field) {name : Option String} {owner : String}
    (h : t.ownerOf kind name = some owner) :
    ∃ holder ∈ t.topLevel parentKind, holder.name? = some owner ∧
      ∃ r ∈ holder.records field, r.name? = name := by
  obtain ⟨given, hgiven, howner⟩ := Option.bind_eq_some_iff.mp h
  obtain ⟨entry, hfind, hparent⟩ := Option.bind_eq_some_iff.mp howner
  obtain ⟨rfl, _⟩ := Option.filter_eq_some_iff.mp hgiven
  have hname : entry.record.name? = some given := by simpa using List.find?_some hfind
  have hentry := List.mem_of_find?_eq_some hfind
  simp only [located, hkind, List.mem_flatMap, List.mem_map] at hentry
  obtain ⟨holder, hholder, r, hr, rfl⟩ := hentry
  exact ⟨holder, hholder, hparent, r, hr, hname⟩

/-! ## What can be found -/

theorem isSome_find?_iff {kind : Kind} {parent : Option String} {name : String} :
    (t.find? kind parent name).isSome ↔ name ∈ t.names kind parent := by
  simp [find?, names, List.find?_isSome]

theorem isSome_lookup? {kind : Kind} {name : String} (h : name ∈ t.names kind none)
    (hne : name ≠ "") : (t.lookup? kind name).isSome := by
  have hfind := isSome_find?_iff.mpr h
  have hfilled : (some name).filter (!·.isEmpty) = some name := by simpa using hne
  rwa [lookup?, hfilled, Option.bind_some]

theorem mem_names_ofField {r : Record} {field name : String} {kind : Kind} :
    name ∈ (Reach.ofField r field).names t kind ↔
      ∃ parent, r.filled? field = some parent ∧ name ∈ t.names kind (some parent) := by
  cases h : r.filled? field <;> simp [Reach.ofField, Reach.names, h]

/-! ## Places of records -/

theorem mem_entries_of_topLevel {kind : Kind} (hkind : kind.location = .collection) {r : Record}
    (hr : r ∈ t.topLevel kind) : (none, r) ∈ t.entries kind := by
  rw [entries_of_top t (Kind.parent_of_collection hkind), tops_eq_topLevel t hkind]
  exact List.mem_map_of_mem hr

theorem mem_entries_of_single {kind : Kind} (hkind : kind.location = .single) {r : Record}
    (hr : t.single? kind = some r) : (none, r) ∈ t.entries kind := by
  rw [entries_of_top t (Kind.parent_of_single hkind), tops_eq_single t hkind]
  exact List.mem_map_of_mem (by simp [hr])

theorem mem_entries_of_held {kind parentKind : Kind} {field : String}
    (hkind : kind.location = .nested parentKind field) {holder r : Record}
    (hholder : holder ∈ t.topLevel parentKind) (hr : r ∈ holder.records field) :
    (holder.name?, r) ∈ t.entries kind := by
  have hcollection := Kind.location_of_parent (Kind.parent_eq_some_iff.mpr ⟨field, hkind⟩)
  rw [← tops_eq_topLevel t hcollection] at hholder
  exact (mem_entries_of_nested hkind).mpr ⟨holder, hholder, rfl, hr⟩

/-! ## Consistent trees -/

namespace Consistent

variable (h : t.Consistent)

include h

theorem mem_reached {kind : Kind} {reference : Reference}
    (hmem : reference ∈ kind.schema.references) {parent : Option String} {r : Record}
    (hentry : (parent, r) ∈ t.entries kind) {name : String} (hname : name ∈ reference.mentions r)
    (hkeep : reference.keep ≠ some name) : name ∈ t.reached kind parent r reference :=
  (h kind (parent, r) hentry reference hmem name hname).resolve_left hkeep

theorem mem_reached_of_plain {kind : Kind} {reference : Reference}
    (hmem : reference ∈ kind.schema.references) {parent : Option String} {r : Record}
    (hentry : (parent, r) ∈ t.entries kind) {name : String} (hname : name ∈ reference.mentions r)
    (hplain : reference.keep = none) : name ∈ t.reached kind parent r reference :=
  h.mem_reached hmem hentry hname (by simp [hplain])

theorem mem_names_of_filled {kind target : Kind} {field : String}
    (hmem : Reference.one field target ∈ kind.schema.references) {parent : Option String}
    {r : Record} (hentry : (parent, r) ∈ t.entries kind) {name : String}
    (hname : r.filled? field = some name) : name ∈ t.names target none :=
  h.mem_reached_of_plain hmem hentry (Reference.mem_mentions_of_filled rfl rfl hname) rfl

theorem isSome_lookup?_of_filled {kind target : Kind} {field : String}
    (hmem : Reference.one field target ∈ kind.schema.references) {parent : Option String}
    {r : Record} (hentry : (parent, r) ∈ t.entries kind) {name : String}
    (hname : r.filled? field = some name) : (t.lookup? target name).isSome :=
  isSome_lookup? (h.mem_names_of_filled hmem hentry hname) (Record.filled?_eq_some_iff.mp hname).2

end Consistent

/-! ## Settled trees -/

/-- A tree that reconciliation leaves as it is, in which records are kept apart by names
that are not empty. -/
structure Settled (t : Tree) : Prop where
  reconciled : t.reconcileAll.2 = t
  keyed : t.Keyed
  named : ∀ kind : Kind, kind.location ≠ .single → "" ∉ t.names kind none

namespace Settled

variable (h : t.Settled)

include h

theorem consistent : t.Consistent := h.reconciled ▸ t.consistent_reconcileAll

theorem exists_name {kind : Kind} (hkind : kind.location = .collection) {r : Record}
    (hr : r ∈ t.topLevel kind) :
    ∃ name, r.name? = some name ∧ name ≠ "" ∧ name ∈ t.names kind none := by
  have hsingle : kind.location ≠ .single := by simp [hkind]
  have hentry := mem_entries_of_topLevel hkind hr
  have hcollected : r ∈ t.collection kind none := mem_collection.mpr ⟨none, hentry, .inl rfl⟩
  obtain ⟨name, hname⟩ :=
    (h.keyed kind none hsingle (Kind.addresses_none (Kind.parent_of_collection hkind))).2 r
      hcollected
  have hmem : name ∈ t.names kind none := mem_names.mpr ⟨none, r, hentry, .inl rfl, hname⟩
  exact ⟨name, hname, fun hempty => h.named kind hsingle (hempty ▸ hmem), hmem⟩

theorem lookup?_label {kind : Kind} (hkind : kind.location = .collection) {r : Record}
    (hr : r ∈ t.topLevel kind) : t.lookup? kind r.label = some r := by
  obtain ⟨name, hname, hne, _⟩ := h.exists_name hkind hr
  have hcollected : r ∈ t.collection kind none :=
    mem_collection.mpr ⟨none, mem_entries_of_topLevel hkind hr, .inl rfl⟩
  have hfilled : (some name).filter (!·.isEmpty) = some name := by simpa using hne
  rw [Record.label_eq hname, lookup?, hfilled, Option.bind_some]
  exact h.keyed.find?_eq_some (by simp [hkind])
    (Kind.addresses_none (Kind.parent_of_collection hkind)) hcollected hname

theorem exists_owner {kind parentKind : Kind} {field : String}
    (hkind : kind.location = .nested parentKind field) {name : String}
    (hname : name ∈ t.names kind none) :
    ∃ owner, t.ownerOf kind name = some owner ∧ (t.lookup? parentKind owner).isSome := by
  have hparent := Kind.location_of_parent (Kind.parent_eq_some_iff.mpr ⟨field, hkind⟩)
  have hne : name ≠ "" := fun hempty => h.named kind (by simp [hkind]) (hempty ▸ hname)
  have hfilled : (some name).filter (!·.isEmpty) = some name := by simpa using hne
  have hfound : ((t.located kind).find? fun entry => entry.record.name? = some name).isSome := by
    simpa [find?, collection, List.find?_isSome] using isSome_find?_iff.mpr hname
  obtain ⟨entry, hentry⟩ := Option.isSome_iff_exists.mp hfound
  have hlocated := List.mem_of_find?_eq_some hentry
  simp only [located, hkind, List.mem_flatMap, List.mem_map] at hlocated
  obtain ⟨holder, hholder, r, _, rfl⟩ := hlocated
  obtain ⟨owner, howner, _, _⟩ := h.exists_name hparent hholder
  refine ⟨owner, ?_, ?_⟩
  · rw [ownerOf, hfilled, Option.bind_some, hentry, Option.bind_some]
    exact howner
  · rw [← Record.label_eq howner, h.lookup?_label hparent hholder]
    rfl

end Settled

/-- At every moment of a run whose new records mention only what is there the tree is
settled, as long as no name is empty. -/
theorem Sound.settled (h : t.Sound)
    (hnamed : ∀ kind : Kind, kind.location ≠ .single → "" ∉ t.names kind none) : t.Settled where
  reconciled := by rw [h.2.reconcileAll_eq]
  keyed := h.1.elim fun _ hshows => hshows.keyed
  named := hnamed

end Tree

/-! ## A tree of services -/

/-- A run that adds services which refer to each other, a gateway from outside the
deployment among them, to a new deployment. -/
def servicesRun : List Call := [
  .create .keyManagement [("name", .text "vault"), ("resource_group", .text "service-rg"),
    ("authorize_vpc_reader_role", .bool true)] .blank,
  .create .encryptionKey [("name", .text "root"), ("key_ring", .text "ring")]
    ⟨none, some "vault", []⟩,
  .create .objectStorage [("name", .text "store"), ("resource_group", .text "service-rg"),
    ("kms", .text "vault")] .blank,
  .create .bucket [("name", .text "logs"), ("kms_key", .text "root")] ⟨none, some "store", []⟩,
  .create .storageKey [("name", .text "writer")] ⟨none, some "store", []⟩,
  .save .activityTracker [("enabled", .bool true), ("bucket", .text "logs"),
    ("cos_key", .text "writer")] .blank,
  .save .vpc [("bucket", .text "logs")] (.editing "management" none),
  .create .securityGroup [("name", .text "web"), ("vpc", .text "management"),
    ("resource_group", .text "management-rg")] .blank,
  .create .transitGateway [("name", .text "hub"), ("use_data", .bool true),
    ("connections", .list [.object [("tgw", .text "hub"), ("vpc", .text "management")]])] .blank,
  .create .dns [("name", .text "names"), ("resource_group", .text "service-rg")] .blank,
  .create .dnsZone [("name", .text "corp"), ("vpcs", .texts ["management"])]
    ⟨none, some "names", []⟩,
  .create .dnsRecord [("name", .text "www"), ("dns_zone", .text "corp")] ⟨none, some "names", []⟩,
  .create .dnsResolver [("name", .text "local"), ("vpc", .text "management"),
    ("subnets", .texts ["vsi-zone-1"])] ⟨none, some "names", []⟩,
  .create .classicVlan [("name", .text "front"), ("datacenter", .text "dal10")] .blank,
  .create .classicVlan [("name", .text "back"), ("datacenter", .text "dal10"),
    ("router_hostname", .text "front")] .blank]

/-- The tree at the end of the run. -/
def servicesTree : Tree := Tree.default.after servicesRun

theorem servicesTree_settled : servicesTree.Settled := by
  obtain ⟨hgrounds, hnamed⟩ : Tree.default.groundsRun servicesRun = true ∧
      (Kind.all.all fun kind => !(servicesTree.names kind none).contains "") = true := by
    decide +kernel
  have hsound : servicesTree.Sound := Tree.sound_after hgrounds
  generalize servicesTree = t at hsound hnamed
  refine hsound.settled fun kind _ => ?_
  simpa using List.all_eq_true.mp hnamed kind kind.mem_all

end Blueprint
