import Blueprint.Proofs.Lookups

/-!
# Keys of buckets

A bucket names a key of the key management instance that its object storage instance names.
The gate, reconciliation and the document each find that key in their own way. All three come
to the same: the instance names a key management under which the key is held. Only an
instance that names the empty text could tell them apart, and nothing is held under it as long
as no key management has an empty name.
-/

namespace Blueprint

namespace Tree

/-- Whether the buckets of a storage instance may use a key. -/
def Offers (t : Tree) (storage : Record) (key : String) : Prop :=
  ∃ keyManagement, storage.text? "kms" = some keyManagement ∧
    key ∈ t.names .encryptionKey (some keyManagement)

variable {t : Tree} {parent key : String} {storage r : Record}

theorem bucketKeyInvalid_eq_false_iff {situation : Situation}
    (hkey : r.filled? "kms_key" = some key) (hparent : situation.op.parent = some parent)
    (hstorage : situation.tree.find? .objectStorage none parent = some storage) :
    ObjectStorage.bucketKeyInvalid r situation = false ↔ situation.tree.Offers storage key := by
  simp only [ObjectStorage.bucketKeyInvalid, hkey, hparent, hstorage, Option.bind_some, Offers]
  cases storage.text? "kms" with
  | none => simp
  | some keyManagement =>
      rw [Option.isNone_eq_false_iff, isSome_find?_iff]
      simp

theorem mem_reached_bucketKey_iff (hnamed : "" ∉ t.names .keyManagement none)
    (hstorage : t.find? .objectStorage none parent = some storage) :
    key ∈ (Scope.reach (.underParentField "kms") t .bucket (some parent) r).names t .encryptionKey ↔
      t.Offers storage key := by
  have hreach : Scope.reach (.underParentField "kms") t .bucket (some parent) r =
      Reach.ofField storage "kms" := by
    have hholder : Kind.bucket.parent = some .objectStorage := rfl
    simp only [Scope.reach, hholder, hstorage]
  rw [hreach, mem_names_ofField, Offers]
  refine exists_congr fun keyManagement => and_congr_left fun hheld => ?_
  rw [Record.filled?_eq_some_iff, and_iff_left_iff_imp]
  rintro - rfl
  -- The empty name is the name of no key management, so that no key is held under it.
  have hholder : Kind.encryptionKey.parent = some .keyManagement := rfl
  rw [names_of_not_mem hholder hnamed] at hheld
  cases hheld

theorem reconcileRecord_bucket (t : Tree) (parent : Option String) (r : Record) :
    (t.reconcileRecord .bucket parent r).2 =
      r.modify "kms_key" (Value.reviseName
        (Reference.judgeDangling
          ((Reference.one "kms_key" .encryptionKey).under (.underParentField "kms"))
          ((Scope.reach (.underParentField "kms") t .bucket parent r).names t
            .encryptionKey))) := rfl

/-- A key that is not reached is cleared, and no other. -/
theorem get?_reconcileRecord_bucket_iff (hkey : r.filled? "kms_key" = some key) :
    (t.reconcileRecord .bucket (some parent) r).2.get? "kms_key" = r.get? "kms_key" ↔
      key ∈ (Scope.reach (.underParentField "kms") t .bucket (some parent) r).names t
        .encryptionKey := by
  obtain ⟨hvalue, hne⟩ := Record.get?_of_filled hkey
  rw [reconcileRecord_bucket, Record.get?_modify, if_pos rfl, hvalue, Option.map_some]
  generalize (Scope.reach _ t .bucket (some parent) r).names t .encryptionKey = reached
  have hverdict : ∀ judge, (Value.text key).verdict judge = judge key := by
    intro judge
    simp [Value.verdict, hne]
  simp only [Value.reviseName, hverdict, Reference.judgeDangling]
  by_cases hreached : key ∈ reached <;> simp [hreached, Reference.under, Reference.one]

/-- The document asks for the text of the field, as the gate does. -/
theorem encryptionKeyCrn_ne_unfound_iff :
    t.encryptionKeyCrn (storage.text? "kms") (some key) ≠ .unfound ↔ t.Offers storage key := by
  unfold encryptionKeyCrn Offers
  cases storage.text? "kms" with
  | none => simp
  | some keyManagement =>
      by_cases hheld : key ∈ t.names .encryptionKey (some keyManagement)
      · simp [isSome_find?_iff, hheld]
      · simp [isSome_find?_iff, hheld]

end Tree

/-- The gate lets the key of a bucket pass exactly if reconciliation leaves it where it is, and
exactly if the document finds it under the instance that the bucket is stored in. -/
theorem bucket_key_agreed {t : Tree} (hnamed : "" ∉ t.names .keyManagement none)
    {op : Context} {parent : String} (hparent : op.parent = some parent) {storage : Record}
    (hstorage : t.find? .objectStorage none parent = some storage) {r : Record} {key : String}
    (hkey : r.filled? "kms_key" = some key) :
    (ObjectStorage.bucketKeyInvalid r ⟨.bucket, t, op⟩ = false ↔
        (t.reconcileRecord .bucket (some parent) r).2.get? "kms_key" = r.get? "kms_key") ∧
      (ObjectStorage.bucketKeyInvalid r ⟨.bucket, t, op⟩ = false ↔
        t.encryptionKeyCrn (storage.text? "kms") (r.text? "kms_key") ≠ .unfound) := by
  have hgate : ObjectStorage.bucketKeyInvalid r ⟨.bucket, t, op⟩ = false ↔ t.Offers storage key :=
    Tree.bucketKeyInvalid_eq_false_iff hkey hparent hstorage
  constructor
  · rw [hgate, Tree.get?_reconcileRecord_bucket_iff hkey,
      Tree.mem_reached_bucketKey_iff hnamed hstorage]
  · rw [hgate, (Record.filled?_eq_some_iff.mp hkey).1, Tree.encryptionKeyCrn_ne_unfound_iff]

/-- A storage instance that uses a key management instance. -/
def sampleStorage : Record :=
  [("buckets", .list []), ("kms", .text "vault"), ("name", .text "store")]

/-- Two key management instances with a key each, and the storage instance. -/
def sampleKeyHolders : Tree := ⟨[
  ("key_management", .list [
    .object [("keys", .list [.object [("name", .text "root")]]), ("name", .text "vault")],
    .object [("keys", .list [.object [("name", .text "spare")]]), ("name", .text "attic")]]),
  ("object_storage", .list [.object sampleStorage])]⟩

/-- A bucket that names the key of the instance that its storage does not use. -/
def sampleStrayBucket : Record := [("kms_key", .text "spare"), ("name", .text "logs")]

/-- The key of another instance is refused, cleared and not found. -/
theorem bucket_key_agreed_stray :
    "" ∉ sampleKeyHolders.names .keyManagement none ∧
    sampleKeyHolders.find? .objectStorage none "store" = some sampleStorage ∧
    ObjectStorage.bucketKeyInvalid sampleStrayBucket
      ⟨.bucket, sampleKeyHolders, ⟨none, some "store", []⟩⟩ = true ∧
    (sampleKeyHolders.reconcileRecord .bucket (some "store") sampleStrayBucket).2.get? "kms_key" ≠
      sampleStrayBucket.get? "kms_key" ∧
    sampleKeyHolders.encryptionKeyCrn (sampleStorage.text? "kms")
      (sampleStrayBucket.text? "kms_key") = .unfound := by
  have hnamed : "" ∉ sampleKeyHolders.names .keyManagement none := by decide
  have hrefused : ObjectStorage.bucketKeyInvalid sampleStrayBucket
      ⟨.bucket, sampleKeyHolders, ⟨none, some "store", []⟩⟩ = true := by decide
  have hparent : (⟨none, some "store", []⟩ : Context).parent = some "store" := rfl
  have hstorage : sampleKeyHolders.find? .objectStorage none "store" = some sampleStorage := rfl
  have hkey : sampleStrayBucket.filled? "kms_key" = some "spare" := by decide
  obtain ⟨hreconciled, hfound⟩ := bucket_key_agreed hnamed hparent hstorage hkey
  rw [hrefused] at hreconciled hfound
  exact ⟨hnamed, rfl, hrefused, fun hkept => Bool.noConfusion (hreconciled.mpr hkept),
    of_not_not fun hkept => Bool.noConfusion (hfound.mpr hkept)⟩

end Blueprint
