import Blueprint.Proofs.DefaultTree
import Blueprint.Proofs.Shown

/-!
# Refinement

A store refines the catalog: after every run it lists the same names, and it gives the
same answers.
-/

namespace Blueprint

/-! ## Runs -/

namespace Tree

/-- The holders show the catalog, whatever was written into them. -/
def ShowsTop (t : Tree) (c : Catalog) : Prop :=
  c.Distinct ∧ ∀ kind, kind.location = .collection → t.Shows c kind

/-- All kinds with lists show the catalog. -/
def ShowsAll (t : Tree) (c : Catalog) : Prop :=
  c.Distinct ∧ ∀ kind, kind.location ≠ .single → t.Shows c kind

namespace ShowsTop

variable {t : Tree} {c : Catalog}

theorem parentShown (h : t.ShowsTop c) (kind : Kind) : ParentShown t c kind :=
  fun parentKind hparent => h.2 parentKind (Kind.location_of_parent hparent)

theorem apply_matches (h : t.ShowsTop c) {call : Call}
    (hcall : ∀ kind, call.kind? = some kind → kind.parent = none) :
    Matches (fun u d => ∀ kind, kind.location = .collection → u.Shows d kind) (t.apply call)
      (c.apply call) := by
  refine (Tree.apply_matches h.1 (fun kind hkind hsingle => h.2 kind ?_)
    fun kind _ => h.parentShown kind).mono fun u d hud kind hkind => ?_
  · rcases Kind.parent_eq_none_iff.mp (hcall kind hkind) with hlocation | hlocation
    · exact absurd hlocation hsingle
    · exact hlocation
  · refine hud kind (by simp [hkind]) (h.2 kind hkind) fun hparent => ?_
    rw [Kind.parent_of_collection hkind] at hparent
    cases hparent

theorem next (h : t.ShowsTop c) (call : Call) : (t.next call).ShowsTop (c.next call) := by
  refine ⟨h.1.next call, fun kind hkind => ?_⟩
  have htop : kind.parent = none := Kind.parent_of_collection hkind
  by_cases hcall : ∀ other, call.kind? = some other → other.parent = none
  · refine next_shows_of_matches ?_ (h.2 kind hkind)
    exact (h.apply_matches hcall).mono fun u d hud => hud kind hkind
  · obtain ⟨other, hother, hparent⟩ : ∃ other, call.kind? = some other ∧ other.parent ≠ none := by
      simpa using hcall
    have hheld : other.parent.isSome := Option.ne_none_iff_isSome.mp hparent
    exact ((h.2 kind hkind).next_held hother hheld hkind).congr fun parent _ =>
      Catalog.next_held hother hheld htop parent

theorem after (h : t.ShowsTop c) (calls : List Call) :
    (t.after calls).ShowsTop (c.after calls) := by
  induction calls using List.reverseRecOn with
  | nil => exact h
  | append_singleton calls call ih =>
      rw [after_append, Catalog.after_append]
      exact ih.next call

end ShowsTop

namespace ShowsAll

variable {t : Tree} {c : Catalog}

theorem showsTop (h : t.ShowsAll c) : t.ShowsTop c :=
  ⟨h.1, fun kind hkind => h.2 kind (by simp [hkind])⟩

theorem answer_eq (h : t.ShowsAll c) (call : Call) :
    (t.apply call).map (fun _ => ()) = (c.apply call).map fun _ => () :=
  (Tree.apply_matches h.1 (fun kind _ hkind => h.2 kind hkind)
    fun kind _ => h.showsTop.parentShown kind).map_eq

theorem next (h : t.ShowsAll c) {call : Call} (hcall : call.sparesHeld = true) :
    (t.next call).ShowsAll (c.next call) := by
  refine ⟨h.1.next call, fun kind hkind => ?_⟩
  refine next_shows_of_matches (Matches.mono (fun u d hud => ?_) (Tree.apply_matches h.1
    (fun other _ hother => h.2 other hother) fun other _ => h.showsTop.parentShown other))
    (h.2 kind hkind)
  exact hud kind hkind (h.2 kind hkind) fun _ => hcall

theorem after (h : t.ShowsAll c) {calls : List Call}
    (hcalls : ∀ call ∈ calls, call.sparesHeld = true) :
    (t.after calls).ShowsAll (c.after calls) := by
  induction calls using List.reverseRecOn with
  | nil => exact h
  | append_singleton calls call ih =>
      rw [after_append, Catalog.after_append]
      exact (ih fun other hother => hcalls other (List.mem_append_left _ hother)).next
        (hcalls call (by simp))

end ShowsAll

theorem default_showsAll : default.ShowsAll .initial := by
  refine ⟨fun kind parent haddress => nodup_names (default_startsWell kind).keys haddress,
    fun kind hkind => ⟨(default_startsWell kind).hasLists, fun parent _ => ?_⟩⟩
  refine labels_eq_map_some fun r hr => ?_
  obtain ⟨q, hentry, _⟩ := mem_collection.mp hr
  exact (default_startsWell kind).named hkind (q, r) hentry

/-- Whether the records of a kind under a parent all have names, the given ones, and no
two the same. -/
def Lists (t : Tree) (kind : Kind) (parent : Option String) (names : List String) : Prop :=
  t.names kind parent = names ∧ names.Nodup ∧
    ∀ r ∈ t.collection kind parent, ∃ name, r.name? = some name

theorem Shows.toLists {t : Tree} {c : Catalog} {kind : Kind} (h : t.Shows c kind)
    (hdistinct : c.Distinct) {parent : Option String} (haddress : kind.Addresses parent) :
    t.Lists kind parent (c kind parent) :=
  ⟨h.names_eq haddress, hdistinct kind parent haddress, h.named haddress⟩

end Tree

/-- A store refines the catalog. After every run the kinds at the top level list the
names of the catalog, and every call on them is answered as by the catalog. If the
fields of the run leave out what records hold, the same is true of all kinds, under
every parent. -/
theorem run_refines_catalog {σ : Type} (seen : σ) (calls : List Call) :
    ∃ t, ((Store.new seen).run calls).snapshot = .ok t ∧
      (∀ kind : Kind, kind.location = .collection →
        t.Lists kind none (Catalog.initial.after calls kind none)) ∧
      (∀ call : Call, (∀ kind, call.kind? = some kind → kind.parent = none) →
        (((Store.new seen).run calls).perform call).1 =
          ((Catalog.initial.after calls).apply call).map fun _ => ()) ∧
      ((∀ call ∈ calls, call.sparesHeld = true) →
        (∀ (kind : Kind) (parent : Option String), kind.location ≠ .single →
          kind.Addresses parent → t.Lists kind parent (Catalog.initial.after calls kind parent)) ∧
        ∀ call : Call, (((Store.new seen).run calls).perform call).1 =
          ((Catalog.initial.after calls).apply call).map fun _ => ()) := by
  have htop := Tree.default_showsAll.showsTop.after calls
  rw [Store.run_new]
  refine ⟨Tree.default.after calls, rfl, ?_, ?_, ?_⟩
  · intro kind hkind
    have haddress := Kind.addresses_none (Kind.parent_of_collection hkind)
    exact (htop.2 kind hkind).toLists htop.1 haddress
  · intro call hcall
    rw [Store.perform_eq]
    exact (htop.apply_matches hcall).map_eq
  · intro hcalls
    have hall := Tree.default_showsAll.after hcalls
    refine ⟨fun kind parent hkind haddress => (hall.2 kind hkind).toLists hall.1 haddress, ?_⟩
    intro call
    rw [Store.perform_eq]
    exact hall.answer_eq call

end Blueprint
