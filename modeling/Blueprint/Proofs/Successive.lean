import Blueprint.Proofs.Revision

/-!
# Revising twice

A revision after another one is a single revision. A name that the first judge keeps is
judged by the second one, and so is a name that was put in its place; the second judge
sees the rows that the first revision has left.
-/

namespace Blueprint

namespace Verdict

/-- The verdict of two judges, one after the other. The empty text is no name and is not
judged again. -/
def andThen (first second : String → Verdict) (name : String) : Verdict :=
  match first name with
  | keep => second name
  | replace other =>
      if other.isEmpty then replace other
      else
        match second other with
        | keep => replace other
        | replace last => replace last
        | drop => drop
  | drop => drop

theorem andThen_of_keep {first second : String → Verdict} {name : String}
    (h : first name = keep) : andThen first second name = second name := by
  simp [andThen, h]

theorem andThen_of_drop {first second : String → Verdict} {name : String}
    (h : first name = drop) : andThen first second name = drop := by
  simp [andThen, h]

end Verdict

/-! ## Values -/

namespace Value

variable (first second : String → Verdict)

private theorem verdict_text (judge : String → Verdict) (name : String) :
    (text name).verdict judge = if name.isEmpty then .keep else judge name := rfl

private theorem reviseEntry_text (judge : String → Verdict) {name : String}
    (h : name.isEmpty = false) :
    reviseEntry judge (text name) = match judge name with
      | .keep => some (text name)
      | .replace other => some (text other)
      | .drop => none := by
  cases hjudge : judge name <;>
    simp only [reviseEntry, verdict_text, h, hjudge, Bool.false_eq_true, if_false]

theorem reviseEntry_reviseEntry (value : Value) :
    (reviseEntry first value).bind (reviseEntry second) =
      reviseEntry (.andThen first second) value := by
  rcases mentioned_cases value with h | ⟨name, rfl, hname, _⟩
  · simp [reviseEntry, verdict_eq, h]
  · rw [reviseEntry_text _ hname, reviseEntry_text _ hname, Verdict.andThen]
    cases first name with
    | keep => exact reviseEntry_text second hname
    | drop => rfl
    | replace other =>
        cases hother : other.isEmpty with
        | true => simp [reviseEntry, verdict_text, hother]
        | false =>
            simp only [Option.bind_some, reviseEntry_text _ hother, hother, Bool.false_eq_true,
              if_false]
            cases second other <;> rfl

/-- A single name is revised like an entry of a list, with null where it is left out. -/
theorem reviseName_eq (judge : String → Verdict) (value : Value) :
    reviseName judge value = (reviseEntry judge value).getD null := by
  unfold reviseName reviseEntry
  cases value.verdict judge <;> rfl

theorem reviseName_reviseName (value : Value) :
    reviseName second (reviseName first value) = reviseName (.andThen first second) value := by
  rw [reviseName_eq first, reviseName_eq (.andThen first second), ← reviseEntry_reviseEntry]
  cases reviseEntry first value with
  | none => rfl
  | some revised => exact reviseName_eq second revised

theorem reviseNames_reviseNames (value : Value) :
    reviseNames second (reviseNames first value) = reviseNames (.andThen first second) value := by
  cases value with
  | list entries =>
      simp only [reviseNames, List.filterMap_filterMap, reviseEntry_reviseEntry]
  | null | bool _ | number _ | text _ | object _ => rfl

private theorem reviseFieldEntry_object (field : String) (judge : String → Verdict) (r : Record)
    {name : String} (h : mentionedIn field (object r) = [name]) :
    reviseFieldEntry field judge (object r) = match judge name with
      | .keep => some (object r)
      | .replace other => some (object (Record.insert field (text other) r))
      | .drop => none := by
  cases hjudge : judge name <;> simp only [reviseFieldEntry, fieldVerdict_eq, h, hjudge]

theorem reviseFieldEntry_reviseFieldEntry (field : String) (value : Value) :
    (reviseFieldEntry field first value).bind (reviseFieldEntry field second) =
      reviseFieldEntry field (.andThen first second) value := by
  cases value with
  | object r =>
      rcases mentionedIn_cases field (object r) with h | ⟨name, h⟩
      · simp [reviseFieldEntry, fieldVerdict_eq, h]
      · rw [reviseFieldEntry_object field _ r h, reviseFieldEntry_object field _ r h,
          Verdict.andThen]
        cases first name with
        | keep => exact reviseFieldEntry_object field second r h
        | drop => rfl
        | replace other =>
            have hmentions : mentionedIn field (object (Record.insert field (text other) r)) =
                if other.isEmpty then [] else [other] := by
              simp [mentionedIn, object?, mentioned]
            cases hother : other.isEmpty with
            | true => simp [reviseFieldEntry, fieldVerdict_eq, hmentions, hother]
            | false =>
                rw [if_neg (by simp [hother])] at hmentions
                simp only [Option.bind_some, reviseFieldEntry_object field second _ hmentions,
                  Record.insert_insert, hother, Bool.false_eq_true, if_false]
                cases second other <;> rfl
  | null | bool _ | number _ | text _ | list _ => rfl

theorem reviseFieldEntries_reviseFieldEntries (field : String) (value : Value) :
    reviseFieldEntries field second (reviseFieldEntries field first value) =
      reviseFieldEntries field (.andThen first second) value := by
  cases value with
  | list entries =>
      simp only [reviseFieldEntries, List.filterMap_filterMap, reviseFieldEntry_reviseFieldEntry]
  | null | bool _ | number _ | text _ | object _ => rfl

end Value

/-! ## Records -/

section

variable (first second : String → Verdict)

theorem Arity.revise_revise (arity : Arity) (value : Value) :
    arity.revise second (arity.revise first value) =
      arity.revise (.andThen first second) value := by
  cases arity with
  | one => exact Value.reviseName_reviseName first second value
  | many => exact Value.reviseNames_reviseNames first second value

theorem Reference.reviseAt_reviseAt (reference : Reference) (value : Value) :
    reference.reviseAt second (reference.reviseAt first value) =
      reference.reviseAt (.andThen first second) value := by
  unfold reviseAt
  cases reference.path with
  | field _ => exact Arity.revise_revise first second reference.arity value
  | inside _ field =>
      simp only [Value.mapObject_mapObject, Record.modify_modify, Arity.revise_revise]
  | each _ field => exact Value.reviseFieldEntries_reviseFieldEntries first second field value

end

theorem Record.reviseBy_reviseBy (references : List Reference)
    (first second : Reference → String → Verdict) (r : Record) :
    (r.reviseBy references first).reviseBy references second =
      r.reviseBy references fun reference => .andThen (first reference) (second reference) := by
  simp only [reviseBy, mapValues_mapValues]
  congr 1
  funext key value
  cases references.find? fun reference => reference.path.root = key with
  | none => rfl
  | some reference => exact Reference.reviseAt_reviseAt _ _ reference value

/-! ## Trees -/

/-- The verdicts of two judges, one after the other. -/
def Judge.andThen (first second : Judge) : Judge := fun kind row reference =>
  .andThen (first kind row reference) (second kind (row.revise (first kind row)) reference)

theorem Kind.mapHeld_reviseBy (kind : Kind) (f : Kind → Option String → Record → Record)
    (judge : Reference → String → Verdict) (r : Record) :
    kind.mapHeld f (r.reviseBy kind.schema.references judge) =
      (kind.mapHeld f r).reviseBy kind.schema.references judge := by
  have hname : (r.reviseBy kind.schema.references judge).name? = r.name? := by
    rw [Record.name?_eq, Record.get?_reviseBy_of_ne fun _ hmem => root_ne_name hmem,
      Record.name?_eq]
  unfold mapHeld
  rw [hname]
  simp only [Record.reviseBy, Record.mapValues_mapValues]
  congr 1
  funext key value
  cases hfind : kind.schema.references.find? fun reference => reference.path.root = key with
  | none => rfl
  | some reference =>
      have hroot : reference.path.root = key := by simpa using List.find?_some hfind
      simp only [← hroot, heldIn?_root (List.mem_of_find?_eq_some hfind)]

/-- Two revisions of a tree are one. -/
theorem Tree.reviseAll_reviseAll (t : Tree) (first second : Judge) :
    (t.reviseAll first).reviseAll second = t.reviseAll (first.andThen second) := by
  simp only [reviseAll, mapAll, mapTop_mapTop, Kind.mapHeld_reviseBy, Kind.mapHeld_mapHeld,
    Record.reviseBy_reviseBy, Row.of_reviseBy, Row.of_mapHeld]
  rfl

end Blueprint
