import Blueprint.Proofs.Consistency
import Blueprint.Terraform.Resolution

/-!
# Names shared between stores

Buckets and storage keys are held by object storage instances, but the references to
them do not say by which one, so records of several instances may have one name. A
cascade goes by the name alone: whoever holds it follows the record that is renamed or
removed, whichever record of that name is found first. The cascade touches nothing else.
-/

namespace Blueprint

/-- Puts a value in the place of a name. What stands for no name is left as it is. -/
def Value.exchange (keep : Option String) (old : String) (next value : Value) : Value :=
  if old ∈ value.mentioned ∧ keep ≠ some old then next else value

namespace Kind

/-- The field of a holder that names a record of a kind whose names are shared, with the
text that stands for no name there. -/
def sharedField (target holder : Kind) : Option (String × Option String) :=
  match target, holder with
  | bucket, vpc => some ("bucket", some Vpc.logsDisabled)
  | bucket, activityTracker => some ("bucket", none)
  | storageKey, activityTracker => some ("cos_key", none)
  | _, _ => none

/-- Puts a value in the place of a shared name that a record holds. -/
def exchange (target : Kind) (old : String) (next : Value) (holder : Kind) (r : Record) :
    Record :=
  match target.sharedField holder with
  | some (field, keep) => r.modify field (Value.exchange keep old next)
  | none => r

end Kind

/-! ## One cascade -/

/-- What a verdict makes of a name. -/
def Verdict.outcome (name : String) : Verdict → Value
  | keep => .text name
  | replace other => .text other
  | drop => .null

theorem Value.reviseName_eq_ite {judge : String → Verdict} {old : String}
    (h : ∀ name, name ≠ old → judge name = .keep) (value : Value) :
    value.reviseName judge = if old ∈ value.mentioned then (judge old).outcome old else value := by
  rcases mentioned_cases value with hnone | ⟨name, rfl, _, hname⟩
  · simp [reviseName, verdict_eq, hnone]
  · by_cases hold : name = old
    · subst hold
      simp only [reviseName, verdict_eq, hname, List.mem_singleton, if_true]
      cases judge name <;> rfl
    · simp [reviseName, verdict_eq, hname, h name hold, Ne.symm hold]

theorem Value.exchange_of_ne {keep : Option String} {old : String} (h : keep ≠ some old)
    (next value : Value) :
    exchange keep old next value = if old ∈ value.mentioned then next else value := by
  simp [exchange, h]

theorem Value.exchange_self (keep : Option String) (old : String) (value : Value) :
    exchange keep old (.text old) value = value := by
  unfold exchange
  rcases mentioned_cases value with hnone | ⟨name, rfl, _, hname⟩
  · simp [hnone]
  · simp only [hname, List.mem_singleton]
    split
    · next h => rw [h.1]
    · rfl

namespace Kind

theorem exchange_self (target : Kind) (old : String) (holder : Kind) (r : Record) :
    target.exchange old (.text old) holder r = r := by
  unfold exchange
  split
  · next field keep _ =>
      have hid : Value.exchange keep old (.text old) = fun value => value :=
        funext (Value.exchange_self keep old)
      rw [hid, Record.modify_of_same fun _ _ => rfl]
  · rfl

/-- Only the buckets of a VPC have a text that stands for no name. -/
theorem keep_of_sharedField {target holder : Kind} {field name : String}
    (h : target.sharedField holder = some (field, some name)) :
    target = bucket ∧ name = Vpc.logsDisabled := by
  unfold sharedField at h
  split at h <;> simp_all

private theorem referencedBy_bucket : bucket.referencedBy =
    [(vpc, { Reference.one "bucket" bucket with keep := some Vpc.logsDisabled }),
      (activityTracker, Reference.one "bucket" bucket)] := by
  decide

private theorem referencedBy_storageKey : storageKey.referencedBy =
    [(activityTracker, Reference.one "cos_key" storageKey)] := by
  decide

end Kind

namespace Tree

private theorem reviseHolders_anywhere (before : Tree) (target : Option String)
    (judge : String → Verdict) (state : Nat × Tree) {holder : Kind} (hholder : holder.parent = none)
    {reference : Reference} {field : String} (hpath : reference.path = .field field)
    (harity : reference.arity = .one) (hscope : reference.scope = .anywhere) :
    (before.reviseHolders target judge state (holder, reference)).2 =
      state.2.mapTop fun kind r =>
        if kind = holder then r.modify field (Value.reviseName judge) else r := by
  have hreach : ∀ parent r, before.mayReach holder parent r reference target = true := by
    intro parent r
    rw [mayReach, hscope]
    rfl
  rw [reviseHolders_eq, mapKind]
  congr 1
  funext kind r
  simp only [Kind.lift_of_top hholder, hreach, if_true, Reference.revise, hpath, harity,
    Arity.revise]

/-- The cascade for a shared name. -/
theorem reviseReferences_shared (t : Tree) {kind : Kind}
    (hkind : kind = .bucket ∨ kind = .storageKey) (parent : Option String)
    (judge : String → Verdict) :
    (t.reviseReferences kind parent judge).2 = t.mapTop fun holder r =>
      match kind.sharedField holder with
      | some (field, _) => r.modify field (Value.reviseName judge)
      | none => r := by
  rcases hkind with rfl | rfl
  · rw [reviseReferences, Kind.referencedBy_bucket, List.foldl_cons, List.foldl_cons,
      List.foldl_nil, reviseHolders_anywhere t parent judge _ rfl rfl rfl rfl,
      reviseHolders_anywhere t parent judge _ rfl rfl rfl rfl, mapTop_mapTop]
    congr 1
    funext holder r
    cases holder <;> rfl
  · rw [reviseReferences, Kind.referencedBy_storageKey, List.foldl_cons, List.foldl_nil,
      reviseHolders_anywhere t parent judge _ rfl rfl rfl rfl]
    congr 1
    funext holder r
    cases holder <;> rfl

/-- A cascade with a verdict on one shared name exchanges it in all its holders. -/
theorem reviseReferences_exchange (t : Tree) {kind : Kind}
    (hkind : kind = .bucket ∨ kind = .storageKey) (parent : Option String) {old : String}
    (hold : kind = .bucket → old ≠ Vpc.logsDisabled) {judge : String → Verdict}
    (hjudge : ∀ name, name ≠ old → judge name = .keep) :
    (t.reviseReferences kind parent judge).2 =
      t.mapTop (kind.exchange old ((judge old).outcome old)) := by
  rw [reviseReferences_shared t hkind]
  congr 1
  funext holder r
  unfold Kind.exchange
  cases hfield : kind.sharedField holder with
  | none => rfl
  | some place =>
      obtain ⟨field, keep⟩ := place
      have hkeep : keep ≠ some old := by
        rintro rfl
        exact hold (Kind.keep_of_sharedField hfield).1 (Kind.keep_of_sharedField hfield).2
      have hsame : Value.reviseName judge =
          Value.exchange keep old ((judge old).outcome old) := by
        funext value
        rw [Value.reviseName_eq_ite hjudge, Value.exchange_of_ne hkeep]
      simp only [hsame]

/-! ## Renaming and removing -/

section

variable {t u : Tree} {kind holder : Kind} {field store old : String} {op : Context}

theorem tops_setItems_of_nested {parentKind : Kind} {parent : Option String}
    {items : List Value} (hlocation : kind.location = .nested parentKind field)
    (hitems : t.items? kind parent = some items) (hholder : holder ≠ parentKind)
    (new : List Value) : (t.setItems kind parent new).tops holder = t.tops holder := by
  cases parent with
  | none => simp [items?, hlocation] at hitems
  | some name =>
      obtain ⟨_, _, _, _, _, htops⟩ := setItems_of_nested hlocation hitems
      rw [htops, if_neg hholder]

theorem settled_shared (hkind : kind = .bucket ∨ kind = .storageKey) (parent : Option String)
    (hold : kind = .bucket → old ≠ Vpc.logsDisabled) (new : String) :
    t.settled kind parent old new = t.mapTop (kind.exchange old (.text new)) := by
  have hchildren : kind.children = [] := by rcases hkind with rfl | rfl <;> decide
  simp only [settled, reconcileChildren, hchildren, reconcileKinds, List.foldl_nil]
  split
  · have hjudge : ∀ name, name ≠ old → Verdict.rename old new name = .keep :=
      fun name hname => if_neg hname
    rw [renameReferences, t.reviseReferences_exchange hkind parent hold hjudge]
    simp [Verdict.rename, Verdict.outcome]
  · next hsame =>
      -- nothing is cascaded, and exchanging a name for itself is nothing either
      obtain rfl : new = old := not_not.mp hsame
      have hid : kind.exchange new (.text new) = fun _ r => r := by
        funext holder r
        exact kind.exchange_self new holder r
      rw [hid, mapTop_id]

/-- The names of a renamed record are exchanged for the new one. -/
theorem tops_save_shared (hlocation : kind.location = .nested .objectStorage field)
    (hkind : kind = .bucket ∨ kind = .storageKey) (hparent : op.parent = some store)
    (hname : op.name = some old) (hold : kind = .bucket → old ≠ Vpc.logsDisabled)
    {fields stored : Record} {new : String}
    (hstored : t.find? kind (some store) old = some stored)
    (hnew : (stored.extend fields).name? = some new) (hu : t.save kind fields op = .ok u)
    (htop : holder.parent = none) (hholder : holder ≠ .objectStorage) :
    u.tops holder = (t.tops holder).map (kind.exchange old (.text new) holder) := by
  have hsingle : kind.location ≠ .single := by simp [hlocation]
  rw [save, if_neg hsingle] at hu
  obtain ⟨parent, before, found, after, name, hop, hfirst, hmerged, _, hstore⟩ :=
    saveNamed_eq_ok hsingle hu
  simp only [Context.addressed, hlocation, hparent, Except.ok.injEq] at hop
  subst hop
  rw [hname, Option.getD_some] at hfirst hstore
  obtain rfl := Option.some.inj (hfirst.find?.symm.trans hstored)
  obtain rfl := Option.some.inj (hmerged.symm.trans hnew)
  obtain ⟨items, hitems, rfl⟩ := store_eq_ok hstore
  rw [settled_shared hkind _ hold, tops_mapTop _ _ htop,
    tops_setItems_of_nested hlocation hitems hholder]

theorem exists_items?_of_mem_names {parentKind : Kind} {parent name : String}
    (hlocation : kind.location = .nested parentKind field)
    (hunique : (t.names parentKind none).Nodup) (hmem : name ∈ t.names kind (some parent)) :
    ∃ items, t.items? kind (some parent) = some items := by
  have hcollection := Kind.location_of_parent (Kind.parent_eq_some_iff.mpr ⟨field, hlocation⟩)
  obtain ⟨r, hr, _⟩ := List.mem_filterMap.mp hmem
  obtain ⟨q, hentry, hq⟩ := mem_collection.mp hr
  obtain ⟨holder, hholder, rfl, hheld⟩ := (mem_entries_of_nested hlocation).mp hentry
  have hname : holder.name? = some parent := hq.resolve_left (by simp)
  rw [names_eq_filterMap_tops t (Kind.parent_of_collection hcollection)] at hunique
  have hfind := find?_of_distinct hunique hholder hname
  rw [tops_eq_topLevel t hcollection] at hfind
  obtain ⟨before, after, hitems⟩ := exists_append_of_mem_records hheld
  refine ⟨before ++ .object r :: after, ?_⟩
  simp only [items?, hlocation, Option.bind_eq_bind, Option.bind_some, hfind]
  exact hitems

/-- The names of a removed record are exchanged for null. -/
theorem tops_delete_shared (hlocation : kind.location = .nested .objectStorage field)
    (hkind : kind = .bucket ∨ kind = .storageKey) (hparent : op.parent = some store)
    (hname : op.name = some old) (hold : kind = .bucket → old ≠ Vpc.logsDisabled)
    (hunique : (t.names .objectStorage none).Nodup)
    (hpresent : old ∈ t.names kind (some store)) (hu : t.delete kind op = .ok u)
    (htop : holder.parent = none) (hholder : holder ≠ .objectStorage) :
    u.tops holder = (t.tops holder).map (kind.exchange old .null holder) := by
  have hparentKind : kind.parent = some .objectStorage :=
    Kind.parent_eq_some_iff.mpr ⟨field, hlocation⟩
  have haddress : kind.Addresses (some store) := by simp [Kind.Addresses, hparentKind]
  have hchildren : kind.children = [] := by rcases hkind with rfl | rfl <;> decide
  have herased : t.erase kind (some store) old = u := by
    simpa [delete, deletionParent, Context.addressed, hlocation, hparent, hname, bind,
      Except.bind, pure, Except.pure] using hu
  obtain ⟨items, hitems⟩ := exists_items?_of_mem_names hlocation hunique hpresent
  obtain ⟨_, _, hplace⟩ := exists_place haddress
    (fun parentKind hsome => Option.some.inj (hparentKind.symm.trans hsome) ▸ hunique) hitems
  obtain ⟨r, hr, hnamed⟩ := List.mem_filterMap.mp hpresent
  rw [hplace.collection_eq] at hr
  obtain ⟨before, removed, after, hfirst⟩ := FirstNamed.exists_of_mem ⟨r, hr, hnamed⟩
  obtain ⟨rest, _, hrest⟩ := erase_of_firstNamed hitems hpresent hfirst
  have hjudge : ∀ name, name ≠ old → Verdict.remove old name = .keep :=
    fun name hne => if_neg hne
  rw [← herased, hrest, dropAllReferences_eq _ _ _ hfirst.named, Kind.removedWith, hchildren]
  simp only [List.flatMap_nil, List.nil_append, List.foldl_cons, List.foldl_nil]
  rw [dropReferences, reviseReferences_exchange _ hkind _ hold hjudge, tops_mapTop _ _ htop,
    tops_setItems_of_nested hlocation hitems hholder]
  simp [Verdict.remove, Verdict.outcome]

end

end Tree

/-- Buckets and storage keys are followed by name. In every state of a store, a bucket or
storage key that is renamed or removed takes along exactly the names equal to its own, of
whichever instance they are found to mean a record: they become the new name, or null. No
other record outside of the instances changes, and these change nowhere else. -/
theorem shared_names_exchanged {σ : Type} (seen : σ) (calls : List Call) {kind : Kind}
    (hkind : kind = .bucket ∨ kind = .storageKey) {op : Context} {store old : String}
    (hparent : op.parent = some store) (hname : op.name = some old)
    (hold : kind = .bucket → old ≠ Vpc.logsDisabled) :
    ∃ t, ((Store.new seen).run calls).snapshot = .ok t ∧
      (∀ fields stored new u, t.find? kind (some store) old = some stored →
        (stored.extend fields).name? = some new → t.save kind fields op = .ok u →
          ∀ holder : Kind, holder.parent = none → holder ≠ .objectStorage →
            u.tops holder = (t.tops holder).map (kind.exchange old (.text new) holder)) ∧
      ∀ u, old ∈ t.names kind (some store) → t.delete kind op = .ok u →
        ∀ holder : Kind, holder.parent = none → holder ≠ .objectStorage →
          u.tops holder = (t.tops holder).map (kind.exchange old .null holder) := by
  obtain ⟨field, hlocation⟩ : ∃ field, kind.location = .nested .objectStorage field := by
    rcases hkind with rfl | rfl <;> exact ⟨_, rfl⟩
  have hshows := Tree.default_showsAll.showsTop.after calls
  have haddress : Kind.objectStorage.Addresses none := Kind.addresses_none rfl
  have hunique : ((Tree.default.after calls).names .objectStorage none).Nodup :=
    ((hshows.2 .objectStorage rfl).toLists hshows.1 haddress).1 ▸ hshows.1 _ _ haddress
  refine ⟨_, Store.snapshot_run_new seen calls, ?_, ?_⟩
  · intro fields stored new u hstored hnew hu holder htop hholder
    exact Tree.tops_save_shared hlocation hkind hparent hname hold hstored hnew hu htop hholder
  · intro u hpresent hu holder htop hholder
    exact Tree.tops_delete_shared hlocation hkind hparent hname hold hunique hpresent hu htop
      hholder

/-- Two instances that hold a bucket and a key of the same names, which are in use. -/
def sampleStores : List Call := [
  .create .keyManagement [("name", .text "vault"), ("resource_group", .text "service-rg")] .blank,
  .create .objectStorage [("name", .text "first"), ("resource_group", .text "service-rg"),
    ("kms", .text "vault")] .blank,
  .create .objectStorage [("name", .text "second"), ("resource_group", .text "service-rg"),
    ("kms", .text "vault")] .blank,
  .create .bucket [("name", .text "logs")] ⟨none, some "first", []⟩,
  .create .bucket [("name", .text "logs")] ⟨none, some "second", []⟩,
  .create .storageKey [("name", .text "writer")] ⟨none, some "first", []⟩,
  .create .storageKey [("name", .text "writer")] ⟨none, some "second", []⟩,
  .save .vpc [("bucket", .text "logs")] (.editing "management" none),
  .save .activityTracker [("bucket", .text "logs"), ("cos_key", .text "writer")] .blank]

/-- The shared names that the management network and the activity tracker hold. -/
def sharedNamesIn (t : Tree) : List (Option Value) := [
  (t.find? .vpc none "management").bind (·.get? "bucket"),
  (t.single? .activityTracker).bind (·.get? "bucket"),
  (t.single? .activityTracker).bind (·.get? "cos_key")]

theorem shared_names_exchanged_sample :
    (∃ t u, ((Store.new ()).run sampleStores).snapshot = .ok t ∧
      t.save .bucket [("name", .text "archive")] (.editing "logs" (some "second")) = .ok u ∧
      u.tops .vpc = (t.tops .vpc).map (Kind.exchange .bucket "logs" (.text "archive") .vpc)) ∧
    ∃ t u, ((Store.new ()).run sampleStores).snapshot = .ok t ∧
      t.delete .storageKey (.editing "writer" (some "second")) = .ok u ∧
      u.tops .activityTracker =
        (t.tops .activityTracker).map
          (Kind.exchange .storageKey "writer" .null .activityTracker) := by
  obtain ⟨hstored, hsaved, hpresent⟩ :
      ((Tree.default.after sampleStores).find? .bucket (some "second") "logs").map
          (fun stored => (stored.extend [("name", .text "archive")]).name?) =
        some (some "archive") ∧
      ((Tree.default.after sampleStores).save .bucket [("name", .text "archive")]
        (.editing "logs" (some "second"))).isOk = true ∧
      "writer" ∈ (Tree.default.after sampleStores).names .storageKey (some "second") := by
    decide +kernel
  obtain ⟨t, ht, hrename, _⟩ := shared_names_exchanged () sampleStores (.inl rfl)
    (show (Context.editing "logs" (some "second")).parent = some "second" from rfl) rfl
    (fun _ => by decide)
  obtain ⟨t', ht', _, hremove⟩ := shared_names_exchanged () sampleStores (.inr rfl)
    (show (Context.editing "writer" (some "second")).parent = some "second" from rfl) rfl nofun
  obtain rfl := Except.ok.inj (ht.symm.trans ht')
  have hrun := Except.ok.inj ((Store.snapshot_run_new () sampleStores).symm.trans ht)
  rw [hrun] at hstored hsaved hpresent
  constructor
  · obtain ⟨stored, hfind, hnew⟩ := Option.map_eq_some_iff.mp hstored
    cases hu : t.save .bucket [("name", .text "archive")] (.editing "logs" (some "second")) with
    | error e => simp [hu, Except.isOk, Except.toBool] at hsaved
    | ok u =>
        exact ⟨t, u, ht, hu, hrename _ stored "archive" u hfind hnew hu .vpc rfl (by decide)⟩
  · exact ⟨t, _, ht, rfl, hremove _ hpresent rfl .activityTracker rfl (by decide)⟩

/-- A bucket or key of another instance is not spared, even if it is the one that the
names mean. -/
theorem shared_names_not_spared :
    (Tree.default.after sampleStores).reconcileAll.1 = false ∧
    (Tree.default.after sampleStores).bucketOwner (some "logs") = some "first" ∧
    (Tree.default.after sampleStores).storageKeyOwner (some "writer") = some "first" ∧
    sharedNamesIn (Tree.default.after sampleStores) =
      [some (.text "logs"), some (.text "logs"), some (.text "writer")] ∧
    ((Tree.default.after sampleStores).save .bucket [("name", .text "archive")]
      (.editing "logs" (some "second"))).map sharedNamesIn =
        .ok [some (.text "archive"), some (.text "archive"), some (.text "writer")] ∧
    ((Tree.default.after sampleStores).delete .storageKey
      (.editing "writer" (some "second"))).map sharedNamesIn =
        .ok [some (.text "logs"), some (.text "logs"), some .null] := by
  decide +kernel

end Blueprint
