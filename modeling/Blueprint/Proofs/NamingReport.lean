import Mathlib
import Blueprint.Command.Findings
import Blueprint.Proofs.HeldNames

/-!
# The report on names

The report goes by the name of a holder where the store goes by the holder itself. Neither
misses what the other one finds: holders that share a name or have none are in the report
themselves. So the report is empty exactly if in every list the records have names of their own.
-/

namespace Blueprint

theorem namedApart_iff_pairwise {records : List Record} :
    NamedApart records ↔ (∀ r ∈ records, ∃ name, r.name? = some name) ∧
      records.Pairwise fun first second => first.name? ≠ second.name? := by
  simp only [NamedApart, List.Nodup, List.pairwise_filterMap, Option.isSome_iff_exists]
  rw [and_comm]
  refine and_congr_right fun hnamed => ?_
  constructor
  · refine fun h => h.imp_of_mem fun {first second} hfirst _ hne heq => ?_
    obtain ⟨name, hname⟩ := hnamed first hfirst
    exact hne name hname name (heq ▸ hname) rfl
  · refine fun h => h.imp fun {first second} hne name hname other hother heq => ?_
    exact hne (hname.trans (heq ▸ hother.symm))

namespace Tree

variable {t : Tree} {kind : Kind} {seen : List (Option String × String)}

/-! ## What is reported -/

/-- Whether a record has a name that has not been seen under its parent. -/
def IsNewlyNamed (seen : List (Option String × String)) (entry : Located) : Prop :=
  ∃ name, entry.record.name? = some name ∧ (entry.parent, name) ∉ seen

/-- Whether two records differ in their names or in the names of their parents. -/
def NamesDiffer (first second : Located) : Prop :=
  first.parent = second.parent → first.record.name? ≠ second.record.name?

theorem namesDiffer_same_holder_iff {holder : Option Record} {first second : Record} :
    NamesDiffer ⟨holder, first⟩ ⟨holder, second⟩ ↔ first.name? ≠ second.name? :=
  ⟨fun h => h rfl, fun h _ => h⟩

/-- After a record with a name, those are newly named that were so and differ from it. -/
theorem isNewlyNamed_cons_iff {entry other : Located} {name : String}
    (hname : entry.record.name? = some name) :
    IsNewlyNamed ((entry.parent, name) :: seen) other ↔
      IsNewlyNamed seen other ∧ NamesDiffer entry other := by
  simp only [IsNewlyNamed, NamesDiffer, hname, List.mem_cons, Prod.mk.injEq, not_or]
  constructor
  · rintro ⟨found, hfound, hother, hseen⟩
    refine ⟨⟨found, hfound, hseen⟩, fun hparent heq => hother ⟨hparent.symm, ?_⟩⟩
    exact Option.some_inj.mp (hfound.symm.trans heq.symm)
  · rintro ⟨⟨found, hfound, hseen⟩, hdiffer⟩
    refine ⟨found, hfound, fun hsame => hdiffer hsame.1.symm ?_, hseen⟩
    rw [hfound, hsame.2]

theorem namingProblemsIn_eq_nil_iff {entries : List Located} :
    namingProblemsIn kind seen entries = [] ↔
      (∀ entry ∈ entries, IsNewlyNamed seen entry) ∧ entries.Pairwise NamesDiffer := by
  induction entries generalizing seen with
  | nil => simp [namingProblemsIn]
  | cons entry rest ih =>
      rw [List.forall_mem_cons, List.pairwise_cons]
      cases hname : entry.record.name? with
      | none => simp [namingProblemsIn, hname, IsNewlyNamed]
      | some name =>
          have hnew : IsNewlyNamed seen entry ↔ (entry.parent, name) ∉ seen := by
            simp [IsNewlyNamed, hname]
          by_cases hseen : (entry.parent, name) ∈ seen
          · simp [namingProblemsIn, hname, hnew, hseen]
          · simp only [namingProblemsIn, hname, List.contains_iff_mem, hseen, if_false, hnew, ih,
              isNewlyNamed_cons_iff hname, forall₂_and, not_false_eq_true, true_and, and_assoc]

theorem namingProblemsIn_nil_eq_nil_iff {entries : List Located} :
    namingProblemsIn kind [] entries = [] ↔
      (∀ entry ∈ entries, ∃ name, entry.record.name? = some name) ∧
        entries.Pairwise NamesDiffer := by
  simp [namingProblemsIn_eq_nil_iff, IsNewlyNamed]

/-! ## Lists of records -/

theorem namingProblemsOf_collection_eq_nil_iff (h : kind.location = .collection) :
    t.namingProblemsOf kind = [] ↔ NamedApart (t.tops kind) := by
  simp only [namingProblemsOf, h, located, namingProblemsIn_nil_eq_nil_iff, List.forall_mem_map,
    List.pairwise_map, namesDiffer_same_holder_iff, tops_eq_topLevel t h, namedApart_iff_pairwise]

/-- Where holders have names of their own, these tell apart what is held by different ones. -/
theorem namingProblemsOf_nested_eq_nil_iff {parent : Kind} {field : String}
    (h : kind.location = .nested parent field) (hholders : NamedApart (t.topLevel parent)) :
    t.namingProblemsOf kind = [] ↔
      ∀ holder ∈ t.topLevel parent, NamedApart (holder.records field) := by
  have hacross : (t.topLevel parent).Pairwise fun first second =>
      ∀ r ∈ first.records field, ∀ other ∈ second.records field,
        NamesDiffer ⟨some first, r⟩ ⟨some second, other⟩ := by
    refine (namedApart_iff_pairwise.mp hholders).2.imp fun {first second} hne => ?_
    exact fun _ _ _ _ hparent => absurd hparent hne
  simp only [namingProblemsOf, h, located, namingProblemsIn_nil_eq_nil_iff,
    List.forall_mem_flatMap, List.forall_mem_map, List.pairwise_flatMap, hacross, and_true,
    List.pairwise_map, namesDiffer_same_holder_iff, namedApart_iff_pairwise, forall₂_and]

/-- The report on names is empty exactly if the records in every list at the top have names of
their own, and so have the records in every list that a record at the top holds. -/
theorem namingProblems_eq_nil_iff (t : Tree) : t.namingProblems = [] ↔ t.NamesApart := by
  have hkinds : t.namingProblems = [] ↔ ∀ kind, t.namingProblemsOf kind = [] := by
    simp [namingProblems, List.flatMap_eq_nil_iff, Kind.mem_all]
  rw [hkinds]
  -- lists at the top come first: they tell the holders apart
  constructor
  · intro hnone kind hcollection
    have htops := (namingProblemsOf_collection_eq_nil_iff hcollection).mp (hnone kind)
    refine ⟨htops, fun holder hholder child field hlocation => ?_⟩
    rw [tops_eq_topLevel t hcollection] at htops hholder
    exact (namingProblemsOf_nested_eq_nil_iff hlocation htops).mp (hnone child) holder hholder
  · intro hapart kind
    cases hlocation : kind.location with
    | single => simp [namingProblemsOf, hlocation]
    | collection =>
        exact (namingProblemsOf_collection_eq_nil_iff hlocation).mpr (hapart kind hlocation).1
    | nested parent field =>
        have hparent : parent.location = .collection :=
          Kind.location_of_parent (Kind.parent_eq_some_iff.mpr ⟨field, hlocation⟩)
        obtain ⟨htops, hheld⟩ := hapart parent hparent
        rw [tops_eq_topLevel t hparent] at htops hheld
        exact (namingProblemsOf_nested_eq_nil_iff hlocation htops).mpr fun holder hholder =>
          hheld holder hholder kind field hlocation

end Tree

end Blueprint
