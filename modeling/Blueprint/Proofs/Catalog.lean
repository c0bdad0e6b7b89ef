import Blueprint.Proofs.Operations
import Blueprint.Proofs.Runs

/-!
# Catalogs

A catalog keeps nothing but names, by kind and parent, in the order of insertion:
creating appends a name, saving replaces it where it stands, and deleting takes it
out. What a record holds follows its name and goes with it.
-/

namespace Blueprint

/-- The names of the records of a kind under a parent, in the order of insertion. -/
abbrev Catalog := Kind → Option String → List String

namespace Catalog

/-- Puts other names under a parent. -/
def put (c : Catalog) (kind : Kind) (parent : Option String) (names : List String) : Catalog :=
  fun other q => if other = kind ∧ q = parent then names else c other q

theorem put_held {kind child : Kind} (h : child.parent = some kind) (c : Catalog)
    (parent : Option String) (names : List String) (q : Option String) :
    c.put kind parent names child q = c child q :=
  if_neg fun hsame => Kind.ne_of_parent h hsame.1

/-- Moves what a record of a kind holds to a new name. -/
def move (c : Catalog) (kind : Kind) (old new : String) : Catalog := fun other q =>
  if other.parent = some kind then
    if q = some new then c other (some old) else if q = some old then [] else c other q
  else c other q

/-- Drops what a record of a kind holds. -/
def discard (c : Catalog) (kind : Kind) (name : String) : Catalog := fun other q =>
  if other.parent = some kind ∧ q = some name then [] else c other q

/-- Whether there is a record to be the parent. -/
def hasParent (c : Catalog) (kind : Kind) (parent : Option String) : Bool :=
  match kind.parent, parent with
  | some parentKind, some name => name ∈ c parentKind none
  | _, _ => true

def create (c : Catalog) (kind : Kind) (fields : Record) (op : Context) :
    Except StoreError Catalog :=
  if kind.location = .single then .error (.unsupported kind "create")
  else op.addressed kind >>= fun parent =>
    match fields.givenName.bind Value.text? with
    | none => .error (.missingName kind)
    | some name =>
        if name ∈ c kind parent then .error (.duplicateName kind name)
        else if c.hasParent kind parent then .ok (c.put kind parent (c kind parent ++ [name]))
        else .error (.notFound (kind.parent.getD kind) (parent.getD ""))

/-- The name of a record with a given name after fields are set. -/
def nameAfter (old : String) (fields : Record) : Option String :=
  match fields.givenName with
  | some value => value.text?
  | none => some old

def save (c : Catalog) (kind : Kind) (fields : Record) (op : Context) :
    Except StoreError Catalog :=
  if kind.location = .single then .ok c
  else op.addressed kind >>= fun parent =>
    let old := op.name.getD ""
    if old ∉ c kind parent then .error (.notFound kind old)
    else match nameAfter old fields with
      | none => .error (.missingName kind)
      | some new =>
          if new ≠ old ∧ new ∈ c kind parent then .error (.duplicateName kind new)
          else .ok ((c.put kind parent
            ((c kind parent).map fun name => if name = old then new else name)).move kind old new)

def delete (c : Catalog) (kind : Kind) (op : Context) : Except StoreError Catalog :=
  if kind.location = .single then .error (.unsupported kind "delete")
  else op.addressed kind >>= fun parent =>
    let name := op.name.getD ""
    if name ∈ c kind parent then
      .ok ((c.put kind parent ((c kind parent).erase name)).discard kind name)
    else .ok c

/-- What a call makes of a catalog. -/
def apply (c : Catalog) : Call → Except StoreError Catalog
  | .create kind fields op => c.create kind fields op
  | .save kind fields op => c.save kind fields op
  | .delete kind op => c.delete kind op
  | .reconcile => .ok c

/-- What the calls that are accepted do. -/
inductive Accepts (c : Catalog) : Call → Catalog → Prop
  | create {kind : Kind} {fields : Record} {op : Context} {parent : Option String} {name : String}
      (hsingle : kind.location ≠ .single) (hop : op.addressed kind = .ok parent)
      (hname : fields.givenName.bind Value.text? = some name) (hfresh : name ∉ c kind parent)
      (hparent : c.hasParent kind parent = true) :
      Accepts c (.create kind fields op) (c.put kind parent (c kind parent ++ [name]))
  | saveSingle {kind : Kind} (hsingle : kind.location = .single) (fields : Record) (op : Context) :
      Accepts c (.save kind fields op) c
  | saveNamed {kind : Kind} {fields : Record} {op : Context} {parent : Option String} {new : String}
      (hsingle : kind.location ≠ .single) (hop : op.addressed kind = .ok parent)
      (hold : op.name.getD "" ∈ c kind parent)
      (hname : nameAfter (op.name.getD "") fields = some new)
      (hnew : ¬(new ≠ op.name.getD "" ∧ new ∈ c kind parent)) :
      Accepts c (.save kind fields op) ((c.put kind parent
        ((c kind parent).map fun name => if name = op.name.getD "" then new else name)).move kind
          (op.name.getD "") new)
  | delete {kind : Kind} {op : Context} {parent : Option String}
      (hsingle : kind.location ≠ .single) (hop : op.addressed kind = .ok parent)
      (hold : op.name.getD "" ∈ c kind parent) :
      Accepts c (.delete kind op)
        ((c.put kind parent ((c kind parent).erase (op.name.getD ""))).discard kind
          (op.name.getD ""))
  | deleteAbsent {kind : Kind} {op : Context} {parent : Option String}
      (hsingle : kind.location ≠ .single) (hop : op.addressed kind = .ok parent)
      (hold : op.name.getD "" ∉ c kind parent) : Accepts c (.delete kind op) c
  | reconcile : Accepts c .reconcile c

theorem accepts_of_create {c d : Catalog} {kind : Kind} {fields : Record} {op : Context}
    (h : c.create kind fields op = .ok d) : c.Accepts (.create kind fields op) d := by
  simp only [create] at h
  split at h
  · cases h
  · next hsingle =>
      obtain ⟨parent, hop, h⟩ := bind_eq_ok_iff.mp h
      split at h
      · cases h
      · next name hname =>
          split at h
          · cases h
          · next hfresh =>
              split at h
              · next hparent =>
                  obtain rfl := Except.ok.inj h
                  exact .create hsingle hop hname hfresh hparent
              · cases h

theorem accepts_of_save {c d : Catalog} {kind : Kind} {fields : Record} {op : Context}
    (h : c.save kind fields op = .ok d) : c.Accepts (.save kind fields op) d := by
  simp only [save] at h
  split at h
  · next hsingle =>
      obtain rfl := Except.ok.inj h
      exact .saveSingle hsingle fields op
  · next hsingle =>
      obtain ⟨parent, hop, h⟩ := bind_eq_ok_iff.mp h
      split at h
      · cases h
      · next hold =>
          split at h
          · cases h
          · next new hname =>
              split at h
              · cases h
              · next hnew =>
                  obtain rfl := Except.ok.inj h
                  exact .saveNamed hsingle hop (not_not.mp hold) hname hnew

theorem accepts_of_delete {c d : Catalog} {kind : Kind} {op : Context}
    (h : c.delete kind op = .ok d) : c.Accepts (.delete kind op) d := by
  simp only [delete] at h
  split at h
  · cases h
  · next hsingle =>
      obtain ⟨parent, hop, h⟩ := bind_eq_ok_iff.mp h
      split at h
      · next hold =>
          obtain rfl := Except.ok.inj h
          exact .delete hsingle hop hold
      · next hold =>
          obtain rfl := Except.ok.inj h
          exact .deleteAbsent hsingle hop hold

theorem accepts_of_apply {c d : Catalog} {call : Call} (h : c.apply call = .ok d) :
    c.Accepts call d := by
  cases call with
  | create kind fields op => exact accepts_of_create h
  | save kind fields op => exact accepts_of_save h
  | delete kind op => exact accepts_of_delete h
  | reconcile =>
      obtain rfl := Except.ok.inj h
      exact .reconcile

def next (c : Catalog) (call : Call) : Catalog :=
  match c.apply call with
  | .ok d => d
  | .error _ => c

/-- The catalog after a run. -/
def after (c : Catalog) (calls : List Call) : Catalog := calls.foldl next c

theorem after_append (c : Catalog) (calls : List Call) (call : Call) :
    c.after (calls ++ [call]) = (c.after calls).next call := by
  rw [after, List.foldl_append]
  rfl

/-- The catalog of the default tree. -/
def initial : Catalog := Tree.default.names

/-! ## Names are distinct -/

/-- No name is listed twice under a parent. -/
def Distinct (c : Catalog) : Prop :=
  ∀ kind parent, kind.Addresses parent → (c kind parent).Nodup

theorem Distinct.put {c : Catalog} (h : c.Distinct) (kind : Kind) (parent : Option String)
    {names : List String} (hnames : names.Nodup) : (c.put kind parent names).Distinct := by
  intro other q hother
  unfold Catalog.put
  split
  · exact hnames
  · exact h other q hother

theorem Distinct.move {c : Catalog} (h : c.Distinct) (kind : Kind) (old new : String) :
    (c.move kind old new).Distinct := by
  intro other q hother
  unfold Catalog.move
  split
  · next hparent =>
      split
      · exact h other (some old) (by simp [Kind.Addresses, hparent])
      · split
        · exact List.nodup_nil
        · exact h other q hother
  · exact h other q hother

theorem Distinct.discard {c : Catalog} (h : c.Distinct) (kind : Kind) (name : String) :
    (c.discard kind name).Distinct := by
  intro other q hother
  unfold Catalog.discard
  split
  · exact List.nodup_nil
  · exact h other q hother

theorem nodup_map_rename {names : List String} (h : names.Nodup) {old new : String}
    (hnew : ¬(new ≠ old ∧ new ∈ names)) :
    (names.map fun name => if name = old then new else name).Nodup := by
  apply h.map_on
  intro first hfirst second hsecond heq
  by_cases hf : first = old <;> by_cases hs : second = old
  · rw [hf, hs]
  · simp only [hf, hs, if_true, if_false] at heq
    subst heq
    exact absurd ⟨hs, hsecond⟩ hnew
  · simp only [hf, hs, if_true, if_false] at heq
    subst heq
    exact absurd ⟨hf, hfirst⟩ hnew
  · simpa only [hf, hs, if_false] using heq

theorem Distinct.apply {c d : Catalog} (h : c.Distinct) {call : Call} (hd : c.apply call = .ok d) :
    d.Distinct := by
  cases accepts_of_apply hd with
  | @create kind fields op parent name _ hop _ hfresh _ =>
      have hnodup := h kind parent (Context.addresses_of_addressed hop)
      refine h.put kind parent (List.nodup_append.mpr ⟨hnodup, by simp, ?_⟩)
      rintro other hother last hlast rfl
      exact hfresh (List.mem_singleton.mp hlast ▸ hother)
  | saveSingle _ _ _ => exact h
  | @saveNamed kind fields op parent new _ hop _ _ hnew =>
      have hnodup := h kind parent (Context.addresses_of_addressed hop)
      exact (h.put kind parent (nodup_map_rename hnodup hnew)).move kind _ _
  | @delete kind op parent _ hop _ =>
      have hnodup := h kind parent (Context.addresses_of_addressed hop)
      exact (h.put kind parent (hnodup.erase _)).discard kind _
  | deleteAbsent _ _ _ => exact h
  | reconcile => exact h

theorem Distinct.next {c : Catalog} (h : c.Distinct) (call : Call) : (c.next call).Distinct := by
  unfold Catalog.next
  split
  · next d hd => exact h.apply hd
  · exact h

/-! ## Calls on held records -/

/-- A call on held records keeps the names at the top level. -/
theorem next_held {c : Catalog} {call : Call} {kind other : Kind}
    (hcall : call.kind? = some kind) (hkind : kind.parent.isSome) (hother : other.parent = none)
    (parent : Option String) : c.next call other parent = c other parent := by
  have hne : other ≠ kind := by
    rintro rfl
    rw [hother] at hkind
    cases hkind
  have hput : ∀ (q : Option String) (names : List String) (p : Option String),
      c.put kind q names other p = c other p := fun q names p => if_neg fun h => hne h.1
  unfold next
  cases hd : c.apply call with
  | error e => rfl
  | ok d =>
      cases accepts_of_apply hd with
      | create _ _ _ _ _ =>
          obtain rfl := Option.some.inj hcall
          exact hput _ _ _
      | saveSingle _ _ _ => rfl
      | saveNamed _ _ _ _ _ =>
          obtain rfl := Option.some.inj hcall
          simp only [move, hother, reduceCtorEq, if_false, hput]
      | delete _ _ _ =>
          obtain rfl := Option.some.inj hcall
          simp only [discard, hother, reduceCtorEq, false_and, if_false, hput]
      | deleteAbsent _ _ _ => rfl
      | reconcile => rfl

end Catalog

end Blueprint
