import Blueprint.Proofs.Rows
import Blueprint.Store.Mutation

/-!
# Records on their way into a tree

What becomes of the name, the references and the held records of a record while it
is put together: by the defaults and the given fields, by what a schema does on
creating and saving, and by the links that are written into the held records.
-/

namespace Blueprint

/-! ## Changes that do not matter to the tree -/

namespace Kind

/-- Whether a field is neither the name nor a reference nor holds records. -/
def isPlain (kind : Kind) (field : String) : Bool :=
  field ≠ "name" && (kind.heldIn? field).isNone &&
    kind.schema.references.all fun reference => reference.path.root ≠ field

/-- Two records of a kind that have the same name, mention the same names and hold
the same records. -/
structure Agrees (kind : Kind) (first second : Record) : Prop where
  name : first.get? "name" = second.get? "name"
  mentions : ∀ reference ∈ kind.schema.references,
    reference.mentions first = reference.mentions second
  held : ∀ (child : Kind) (field : String), child.location = .nested kind field →
    first.get? field = second.get? field

namespace Agrees

variable {kind : Kind} {first second : Record}

theorem refl (kind : Kind) (r : Record) : kind.Agrees r r := ⟨rfl, fun _ _ => rfl, fun _ _ _ => rfl⟩

theorem trans {third : Record} (h : kind.Agrees first second) (h' : kind.Agrees second third) :
    kind.Agrees first third where
  name := h.name.trans h'.name
  mentions reference hmem := (h.mentions reference hmem).trans (h'.mentions reference hmem)
  held child field hlocation := (h.held child field hlocation).trans (h'.held child field hlocation)

theorem name?_eq (h : kind.Agrees first second) : first.name? = second.name? := by
  rw [Record.name?_eq, Record.name?_eq, h.name]

theorem row_eq (h : kind.Agrees first second) (parent : Option String) :
    Row.of kind parent first = Row.of kind parent second :=
  Row.of_congr h.name?_eq h.mentions

theorem of_plain {field : String} (hplain : kind.isPlain field = true)
    (h : ∀ other, other ≠ field → first.get? other = second.get? other) :
    kind.Agrees first second := by
  simp only [isPlain, Bool.and_eq_true, decide_eq_true_eq, List.all_eq_true,
    Option.isNone_iff_eq_none] at hplain
  obtain ⟨⟨hname, hheld⟩, hroots⟩ := hplain
  refine ⟨h "name" hname.symm, ?_, ?_⟩
  · intro reference hmem
    simp only [Reference.mentions, h _ (hroots reference hmem)]
  · intro child other hlocation
    apply h
    rintro rfl
    rw [heldIn?_of_location hlocation] at hheld
    cases hheld

theorem insert {field : String} (hplain : kind.isPlain field = true) (r : Record) (value : Value) :
    kind.Agrees (r.insert field value) r :=
  of_plain hplain fun _ hother => Record.get?_insert_of_ne _ _ hother

theorem modify {field : String} (hplain : kind.isPlain field = true) (r : Record)
    (f : Value → Value) : kind.Agrees (r.modify field f) r :=
  of_plain hplain fun other hother => by rw [Record.get?_modify, if_neg hother]

end Agrees

/-! ## What schemas do -/

private theorem nameInvitations_agrees (r : Record) :
    accessGroup.Agrees (AccessGroup.nameInvitations r) r := by
  have hplain : accessGroup.isPlain "invites" = true := by decide
  unfold AccessGroup.nameInvitations
  split
  · exact Agrees.insert hplain r _
  · exact Agrees.insert hplain r _

theorem created_agrees (kind : Kind) (r : Record) : kind.Agrees (kind.schema.created r) r := by
  cases kind with
  | accessGroup => exact nameInvitations_agrees r
  | _ => exact Agrees.refl _ r

private theorem flatMap_mentionedIn_setInEach (name : Value) (value : Value) :
    (((TransitGateway.setInEach "tgw" name value).list?.getD []).flatMap
        (Value.mentionedIn "vpc")) =
      (value.list?.getD []).flatMap (Value.mentionedIn "vpc") := by
  cases value with
  | list entries =>
      simp only [TransitGateway.setInEach, Value.list?, Option.getD_some, List.flatMap_map]
      apply List.flatMap_congr
      intro entry _
      cases entry with
      | object r => simp [Value.mentionedIn, Value.object?, Record.get?_insert]
      | null | bool _ | number _ | text _ | list _ => rfl
  | null | bool _ | number _ | text _ | object _ => rfl

private theorem addressConnections_agrees (r : Record) :
    transitGateway.Agrees (TransitGateway.addressConnections r) r := by
  unfold TransitGateway.addressConnections
  cases r.name? with
  | none => exact Agrees.refl _ r
  | some name =>
      refine ⟨?_, ?_, ?_⟩
      · rw [Record.get?_modify, if_neg (by decide)]
      · intro reference hmem
        have hcases : reference = .resourceGroup ∨
            reference = { path := .each "connections" "vpc", target := .vpc } := by
          simpa [schema, TransitGateway.schema] using hmem
        rcases hcases with rfl | rfl
        · have hroot : Reference.resourceGroup.path.root = "resource_group" := rfl
          simp [Reference.mentions, hroot, Record.get?_modify]
        · simp only [Reference.mentions, Path.root, Record.get?_modify, if_true]
          cases r.get? "connections" with
          | none => rfl
          | some value => exact flatMap_mentionedIn_setInEach (.text name) value
      · intro child field hlocation
        cases child <;> simp [location] at hlocation

/-- Saving a record changes none of what the tree sees, and no other record, but for
the kinds with a single record. -/
theorem saved_agrees {kind : Kind} (h : kind.location ≠ .single) (t : Tree)
    (stored merged : Record) :
    (kind.schema.saved t stored merged).1 = t ∧
      kind.Agrees (kind.schema.saved t stored merged).2 merged := by
  cases kind with
  | accessGroup => exact ⟨rfl, nameInvitations_agrees merged⟩
  | transitGateway => exact ⟨rfl, addressConnections_agrees merged⟩
  | options | accountSettings => exact absurd rfl h
  | _ => exact ⟨rfl, Agrees.refl _ merged⟩

end Kind

/-! ## Names that fields give -/

namespace Record

/-- The value that a list of fields gives to the name. -/
def givenName (fields : Record) : Option Value := (ofFields fields).get? "name"

theorem name?_extend (r fields : Record) :
    (r.extend fields).name? = match fields.givenName with
      | some value => value.text?
      | none => r.name? := by
  rw [name?_eq, get?_extend_ofFields, givenName]
  cases (ofFields fields).get? "name" <;> rfl

theorem get?_extend_of_none {r fields : Record} {field : String} (h : fields.get? field = none) :
    (r.extend fields).get? field = r.get? field := by
  rw [get?_extend_ofFields, get?_ofFields_eq_none h, Option.none_or]

end Record

namespace Kind

/-- Whether fields leave out the records that a record of a kind holds. -/
def sparesHeld (kind : Kind) (fields : Record) : Bool :=
  kind.children.all fun child => child.holdingField.all fun field => (fields.get? field).isNone

theorem get?_of_sparesHeld {kind child : Kind} {fields : Record} {field : String}
    (h : kind.sparesHeld fields = true) (hlocation : child.location = .nested kind field) :
    fields.get? field = none := by
  have hchild : child ∈ kind.children :=
    mem_children.mpr (parent_eq_some_iff.mpr ⟨field, hlocation⟩)
  have hall := List.all_eq_true.mp h child hchild
  simpa [holdingField, hlocation] using hall

theorem isPlain_parentLink {kind : Kind} {link : String} (h : kind.schema.parentLink = some link) :
    kind.isPlain link = true := by
  have hall : (kind.schema.parentLink.all fun link => kind.isPlain link) = true := by
    cases kind <;> decide
  simpa [h] using hall

theorem defaultRecord_name (kind : Kind) : kind.schema.defaultRecord.get? "name" = none := by
  cases kind <;> decide

theorem itemsIn?_defaultRecord {kind child : Kind} {field : String}
    (h : child.location = .nested kind field) :
    Tree.itemsIn? field kind.schema.defaultRecord = some [] := by
  cases child <;> simp [location] at h <;> obtain ⟨rfl, rfl⟩ := h <;> decide

end Kind

namespace Draft

theorem recordOf_agrees (kind : Kind) (fields : Record) (parent : Option String) :
    kind.Agrees (recordOf kind fields parent) (kind.schema.defaultRecord.extend fields) := by
  unfold recordOf
  refine (kind.created_agrees _).trans ?_
  cases hlink : kind.schema.parentLink with
  | none => exact Kind.Agrees.refl kind _
  | some link =>
      cases parent with
      | none => exact Kind.Agrees.refl kind _
      | some name => exact Kind.Agrees.insert (Kind.isPlain_parentLink hlink) _ _

theorem name?_recordOf (kind : Kind) (fields : Record) (parent : Option String) :
    (recordOf kind fields parent).name? = fields.givenName.bind Value.text? := by
  rw [(recordOf_agrees kind fields parent).name?_eq, Record.name?_extend, Record.name?_eq,
    kind.defaultRecord_name]
  cases fields.givenName <;> rfl

theorem itemsIn?_recordOf {kind child : Kind} {field : String} {fields : Record}
    (h : kind.sparesHeld fields = true) (hlocation : child.location = .nested kind field)
    (parent : Option String) :
    Tree.itemsIn? field (recordOf kind fields parent) = some [] := by
  have hfield : (recordOf kind fields parent).get? field =
      kind.schema.defaultRecord.get? field := by
    rw [(recordOf_agrees kind fields parent).held child field hlocation,
      Record.get?_extend_of_none (Kind.get?_of_sparesHeld h hlocation)]
  rw [← Kind.itemsIn?_defaultRecord hlocation, Tree.itemsIn?, Tree.itemsIn?, hfield]

end Draft

/-! ## Links to the parent -/

namespace Kind

/-- Writes the name of its parent into a record, if its kind has a field for it. -/
def linkTo (kind : Kind) (name : String) (r : Record) : Record :=
  match kind.schema.parentLink with
  | some link => r.insert link (.text name)
  | none => r

theorem linkTo_agrees (kind : Kind) (name : String) (r : Record) :
    kind.Agrees (kind.linkTo name r) r := by
  unfold linkTo
  cases hlink : kind.schema.parentLink with
  | none => exact Agrees.refl kind r
  | some link => exact Agrees.insert (isPlain_parentLink hlink) r _

theorem eq_of_holdingField {kind first second : Kind} (hfirst : first ∈ kind.children)
    (hsecond : second ∈ kind.children) (h : first.holdingField = second.holdingField) :
    first = second := by
  obtain ⟨field, hlocation⟩ := parent_eq_some_iff.mp (mem_children.mp hfirst)
  obtain ⟨other, hother⟩ := parent_eq_some_iff.mp (mem_children.mp hsecond)
  simp only [holdingField, hlocation, hother, Option.some.injEq] at h
  by_contra hne
  exact field_ne_of_ne hother hlocation hne h

end Kind

namespace Tree

/-- Writes the links into the records of one kind that a record holds. -/
def linkInto (name : String) (r : Record) (child : Kind) : Record :=
  match child.holdingField with
  | some field => r.modify field (Value.mapItems (child.linkTo name))
  | none => r

theorem linkHeldRecords_eq_foldl (kind : Kind) (name : String) (r : Record) :
    linkHeldRecords kind name r = kind.children.foldl (linkInto name) r := by
  unfold linkHeldRecords
  congr 1
  funext r child
  unfold linkInto
  cases child.holdingField with
  | none => rfl
  | some field =>
      cases hlink : child.schema.parentLink with
      | none =>
          have hlinkTo : child.linkTo name = fun held => held := by
            funext held
            simp only [Kind.linkTo, hlink]
          simp only [hlinkTo, Record.modify_mapItems_id]
      | some link =>
          have hlinkTo : child.linkTo name = fun held => held.insert link (.text name) := by
            funext held
            simp only [Kind.linkTo, hlink]
          have hvisit := Record.visitField_eq (f := fun (_ : Unit) held =>
            ((), Record.insert link (.text name) held)) (fun _ _ => rfl) field () r
          simp only [hvisit, hlinkTo]

private theorem foldl_linkInto {kind : Kind} (name : String) (r : Record) {children : List Kind}
    (hnodup : children.Nodup) (hchildren : ∀ child ∈ children, child ∈ kind.children) :
    children.foldl (linkInto name) r = r.mapValues fun key value =>
      match children.find? fun child => child.holdingField = some key with
      | some child => value.mapItems (child.linkTo name)
      | none => value := by
  induction children using List.reverseRecOn with
  | nil => exact (Record.mapValues_id r).symm
  | append_singleton before child ih =>
      obtain ⟨hbefore, _, hnot⟩ := List.nodup_append.mp hnodup
      have hchild : child ∈ kind.children := hchildren child (by simp)
      obtain ⟨field, hlocation⟩ := Kind.parent_eq_some_iff.mp (Kind.mem_children.mp hchild)
      have hfield : child.holdingField = some field := by simp [Kind.holdingField, hlocation]
      rw [List.foldl_append, ih hbefore fun other hother =>
        hchildren other (List.mem_append_left _ hother)]
      simp only [List.foldl_cons, List.foldl_nil, linkInto, hfield, Record.modify_eq_mapValues,
        Record.mapValues_mapValues]
      congr 1
      funext key value
      rw [List.find?_append]
      by_cases hkey : key = field
      · subst hkey
        have hnone : before.find? (fun other => other.holdingField = some key) = none := by
          rw [List.find?_eq_none]
          intro other hother hheld
          have hsame := Kind.eq_of_holdingField (hchildren other (List.mem_append_left _ hother))
            hchild ((of_decide_eq_true hheld).trans hfield.symm)
          exact hnot other hother child (List.mem_singleton_self child) hsame
        simp [hnone, hfield]
      · have hnone : [child].find? (fun other => other.holdingField = some key) = none := by
          simp [hfield, Ne.symm hkey]
        simp [hnone, hkey]

theorem linkHeldRecords_eq (kind : Kind) (name : String) (r : Record) :
    linkHeldRecords kind name r = kind.mapHeld (fun child _ held => child.linkTo name held) r := by
  rw [linkHeldRecords_eq_foldl, foldl_linkInto name r kind.nodup_children fun _ h => h]
  rfl

end Tree

end Blueprint
