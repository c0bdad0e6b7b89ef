import Blueprint.Proofs.GatedFields
import Blueprint.Proofs.Operations
import Blueprint.Proofs.Runs

/-!
# The gate before a save

A form offers to save a record only if the record meets what its kind requires. The
name is decided there and once more by the store, each in its own way. The gate is the
stricter of the two: an operation that it lets through is not refused for its name.
-/

namespace Blueprint

/-- Whether a refusal is about the name that the record would have. -/
def StoreError.refusesName : StoreError → Bool
  | missingName _ | duplicateName _ _ => true
  | notFound _ _ | missingParent _ | unsupported _ _ | observerFailed | poisoned => false

/-! ## What the gate requires of names -/

namespace Kind

theorem name_asked (kind : Kind) (h : kind.location ≠ .single) : "name" ∈ kind.schema.asked := by
  cases kind with
  | options | accountSettings | activityTracker => exact absurd rfl h
  | _ => decide

theorem fieldInvalid_name {kind : Kind} (h : kind.location ≠ .single) (r : Record)
    (situation : Situation) :
    kind.schema.fieldInvalid "name" r situation = nameInvalid r situation := by
  cases kind with
  | options | accountSettings | activityTracker => exact absurd rfl h
  | _ => rfl

theorem nameInvalid_of_blocksSave {kind : Kind} (hsingle : kind.location ≠ .single) {r : Record}
    {t : Tree} {op : Context} (h : kind.blocksSave r t op = false) :
    nameInvalid r ⟨kind, t, op⟩ = false := by
  rw [← fieldInvalid_name hsingle]
  exact Schema.fieldInvalid_of_asked h (kind.name_asked hsingle)

end Kind

theorem Grammar.isRecordName_empty : Grammar.isRecordName "" = false := by decide

theorem Grammar.isZoneName_empty : Grammar.isZoneName "" = false := by decide

/-- A record that passes has a name, which is not empty and in use by no other record. -/
theorem Kind.exists_name_of_blocksSave {kind : Kind} (hsingle : kind.location ≠ .single)
    {r : Record} {t : Tree} {op : Context} (h : kind.blocksSave r t op = false) :
    ∃ name, r.name? = some name ∧ name.isEmpty = false ∧
      (op.name = some name ∨ name ∉ t.names kind op.parent) := by
  have hvalid := nameInvalid_of_blocksSave hsingle h
  simp only [nameInvalid, Bool.or_eq_false_iff, Bool.not_eq_eq_eq_not, Bool.not_false] at hvalid
  obtain ⟨hformed, htaken⟩ := hvalid
  have hlabel : r.label ≠ "" := by
    intro hempty
    rw [hempty, Grammar.isZoneName_empty, Grammar.isRecordName_empty, ite_self] at hformed
    cases hformed
  cases hname : r.name? with
  | none => exact absurd (show r.label = "" by rw [Record.label, Record.textOr, ← Record.name?,
      hname, Option.getD_none]) hlabel
  | some name =>
      have heq : r.label = name := by
        rw [Record.label, Record.textOr, ← Record.name?, hname, Option.getD_some]
      rw [heq] at hlabel htaken
      refine ⟨name, rfl, by simpa using hlabel, ?_⟩
      simpa [nameTaken, Grammar.isTaken, imp_iff_not_or] using htaken

/-! ## What the store makes of them -/

theorem Context.addressed_of_addresses {op : Context} {kind : Kind}
    (h : kind.Addresses op.parent) : op.addressed kind = .ok op.parent := by
  unfold addressed
  cases hlocation : kind.location with
  | single | collection =>
      have htop : kind.parent = none := Kind.parent_eq_none_iff.mpr (by simp [hlocation])
      simp only [h.eq_none htop]
  | nested parentKind field =>
      obtain ⟨name, hname⟩ := h.eq_some (Kind.parent_eq_some_iff.mpr ⟨field, hlocation⟩)
      simp only [hname]

namespace Tree

variable {t : Tree} {kind : Kind} {op : Context} {fields : Record} {e : StoreError}

/-- A creation that passes the gate is refused only for want of the list it goes to. -/
theorem create_error_of_unblocked (hsingle : kind.location ≠ .single)
    (haddress : kind.Addresses op.parent) (hnew : op.name = none)
    (h : kind.blocksSave (Draft.recordOf kind fields op.parent) t op = false)
    (he : t.create kind fields op = .error e) : e = .noCollection kind op.parent := by
  obtain ⟨name, hname, _, hfree⟩ := Kind.exists_name_of_blocksSave hsingle h
  have hfresh : name ∉ t.names kind op.parent :=
    hfree.resolve_left fun hedited => by rw [hnew] at hedited; cases hedited
  rw [Draft.name?_recordOf] at hname
  rw [create_eq, if_neg hsingle, Context.addressed_of_addresses haddress] at he
  simp only [hname, bind, Except.bind] at he
  rw [append_eq, if_neg hfresh] at he
  split at he
  · cases he
  · exact (Except.error.inj he).symm

theorem save_error_of_unblocked (hsingle : kind.location ≠ .single)
    (haddress : kind.Addresses op.parent) {old : String} (hedited : op.name = some old)
    {stored : Record} (hstored : t.find? kind op.parent old = some stored)
    (h : kind.blocksSave (stored.extend fields) t op = false)
    (he : t.save kind fields op = .error e) : e = .noCollection kind op.parent := by
  obtain ⟨name, hname, _, hfree⟩ := Kind.exists_name_of_blocksSave hsingle h
  have hnot : ¬(name ≠ op.name.getD "" ∧ name ∈ t.names kind op.parent) := by
    rintro ⟨hne, hmem⟩
    rcases hfree with hsame | hfresh
    · exact hne (by rw [hsame, Option.getD_some])
    · exact hfresh hmem
  have hfind : t.find? kind op.parent (op.name.getD "") = some stored := by
    rw [hedited, Option.getD_some, hstored]
  obtain ⟨before, after, hfirst⟩ := FirstNamed.of_find? hfind
  rw [save, if_neg hsingle,
    t.saveNamed_of_firstNamed (Context.addressed_of_addresses haddress) hfirst hsingle] at he
  simp only [hname, if_neg hnot] at he
  rw [store_eq] at he
  split at he
  · exact (Except.error.inj he).symm
  · cases he

end Tree

namespace Store

variable {σ : Type}

/-- What a store refuses is refused by its tree, but for what its observer does. -/
theorem perform_eq_error {s : Store σ} {t : Tree} (h : s.tree = some t) (call : Call)
    {e : StoreError} (he : (s.perform call).1 = .error e) :
    t.apply call = .error e ∨ e = .observerFailed := by
  rw [perform_of_tree h] at he
  split at he
  · unfold commit at he
    split at he
    · cases he
    · split at he
      · cases he
      · exact .inr (Except.error.inj he).symm
  · next e' happly => exact .inl (by rw [happly, Except.error.inj he])

theorem read_eq_ok {α : Type} {s : Store σ} {f : Tree → α} {a : α} (h : s.read f = .ok a) :
    ∃ t, s.tree = some t ∧ f t = a := by
  unfold read at h
  cases htree : s.tree with
  | none => simp [htree] at h
  | some t => exact ⟨t, rfl, by simpa [htree] using h⟩

end Store

theorem StoreError.refusesName_noCollection (kind : Kind) (parent : Option String) :
    (StoreError.noCollection kind parent).refusesName = false := rfl

/-- The gate covers the checks of names in the store. A new record that passes is not
refused for its name, and neither is a stored one that passes with the fields that are
merged into it. -/
theorem unblocked_not_refused_for_name {σ : Type} (s : Store σ) {kind : Kind}
    (hsingle : kind.location ≠ .single) (op : Context) (haddress : kind.Addresses op.parent)
    (fields : Record) :
    (op.name = none →
      s.blocksSave kind (Draft.recordOf kind fields op.parent) op = .ok false →
        ∀ e, (s.create kind fields op).1 = .error e → e.refusesName = false) ∧
    ∀ old stored, op.name = some old →
      s.read (fun t => t.find? kind op.parent old) = .ok (some stored) →
        s.blocksSave kind (stored.extend fields) op = .ok false →
          ∀ e, (s.save kind fields op).1 = .error e → e.refusesName = false := by
  constructor
  · intro hnew hgate e he
    obtain ⟨t, htree, hopen⟩ := Store.read_eq_ok hgate
    rcases Store.perform_eq_error htree (.create kind fields op) he with hrefused | rfl
    · rw [Tree.create_error_of_unblocked hsingle haddress hnew hopen hrefused]
      exact StoreError.refusesName_noCollection kind op.parent
    · rfl
  · intro old stored hedited hstored hgate e he
    obtain ⟨t, htree, hopen⟩ := Store.read_eq_ok hgate
    obtain ⟨u, hsame, hfind⟩ := Store.read_eq_ok hstored
    obtain rfl := Option.some.inj (hsame.symm.trans htree)
    rcases Store.perform_eq_error htree (.save kind fields op) he with hrefused | rfl
    · rw [Tree.save_error_of_unblocked hsingle haddress hedited hfind hopen hrefused]
      exact StoreError.refusesName_noCollection kind op.parent
    · rfl

/-- The fields of a subnet as a form sends them. -/
def sampleSubnet : Record :=
  [("cidr", .text "10.10.50.0/24"), ("name", .text "app-zone-1"), ("zone", .ofInt 1)]

theorem unblocked_not_refused_for_name_subnet :
    (∀ e, ((Store.new ()).create .subnet sampleSubnet ⟨none, some "management", []⟩).1 = .error e →
      e.refusesName = false) ∧
    ∀ e, ((Store.new ()).save .subnet sampleSubnet
      (.editing "vsi-zone-1" (some "management"))).1 = .error e → e.refusesName = false := by
  have hsingle : Kind.subnet.location ≠ .single := by decide
  constructor
  · exact (unblocked_not_refused_for_name (Store.new ()) hsingle ⟨none, some "management", []⟩ rfl
      sampleSubnet).1 rfl (by decide +kernel)
  · refine (unblocked_not_refused_for_name (Store.new ()) hsingle
      (.editing "vsi-zone-1" (some "management")) rfl sampleSubnet).2 "vsi-zone-1"
      ((Tree.default.find? .subnet (some "management") "vsi-zone-1").getD []) rfl ?_ ?_
    · decide +kernel
    · decide +kernel

end Blueprint
