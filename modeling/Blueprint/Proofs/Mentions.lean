import Blueprint.Integrity.Verdict
import Blueprint.Proofs.Fields

/-!
# The names that a reference mentions

`Reference.mentions` lists the names at the place of a reference, in stored
order. Passing a verdict is described by it: what a verdict leaves of the names
is mentioned afterwards, two verdicts that agree on the names do the same, and a
record whose references sit at different fields is revised at all of them at
once, in any order.
-/

namespace Blueprint

namespace Verdict

/-- What a verdict leaves of a name. -/
def left (verdict : Verdict) (name : String) : List String :=
  match verdict with
  | keep => [name]
  | replace other => if other.isEmpty then [] else [other]
  | drop => []

@[simp] theorem left_keep (name : String) : keep.left name = [name] := rfl

@[simp] theorem left_drop (name : String) : drop.left name = [] := rfl

theorem left_replace (other name : String) :
    (replace other).left name = if other.isEmpty then [] else [other] := rfl

/-- What a judge that only keeps or drops leaves of some names. -/
theorem mem_flatMap_left {judge : String → Verdict}
    (h : ∀ name, judge name = .keep ∨ judge name = .drop) {names : List String} {left : String} :
    left ∈ names.flatMap (fun name => (judge name).left name) ↔
      left ∈ names ∧ judge left = .keep := by
  rw [List.mem_flatMap]
  constructor
  · rintro ⟨name, hname, hleft⟩
    rcases h name with hkeep | hdrop
    · rw [hkeep, left_keep, List.mem_singleton] at hleft
      exact hleft ▸ ⟨hname, hkeep⟩
    · rw [hdrop, left_drop] at hleft
      cases hleft
  · rintro ⟨hname, hkeep⟩
    exact ⟨left, hname, by simp [hkeep]⟩

theorem length_left_le (verdict : Verdict) (name : String) : (verdict.left name).length ≤ 1 := by
  cases verdict with
  | keep => simp
  | replace other =>
      rw [left_replace]
      split <;> simp
  | drop => simp

/-- Verdicts that leave some names as they are keep them, unless a name is replaced by
itself. -/
theorem keep_of_flatMap_left {judge : String → Verdict}
    (hjudge : ∀ name, judge name ≠ .replace name) {names : List String}
    (h : names.flatMap (fun name => (judge name).left name) = names) :
    ∀ name ∈ names, judge name = .keep := by
  induction names with
  | nil => simp
  | cons name rest ih =>
      -- what is left of the rest cannot make up for a name that is gone
      have hshort : (rest.flatMap fun name => (judge name).left name) ≠ name :: rest := by
        intro heq
        have hlength := List.sum_le_card_nsmul
          (rest.map fun name => ((judge name).left name).length) 1 (by simp [length_left_le])
        rw [← List.length_flatMap, heq] at hlength
        simp at hlength
      rw [List.flatMap_cons] at h
      cases hname : judge name with
      | keep =>
          rw [hname, left_keep, List.singleton_append] at h
          exact List.forall_mem_cons.mpr ⟨hname, ih (List.cons.inj h).2⟩
      | drop =>
          rw [hname, left_drop, List.nil_append] at h
          exact absurd h hshort
      | replace other =>
          rw [hname, left_replace] at h
          split at h
          · exact absurd h hshort
          · rw [List.singleton_append] at h
            exact absurd ((List.cons.inj h).1 ▸ hname) (hjudge name)

end Verdict

namespace Value

/-- The name that a value is; the empty text is none. -/
def mentioned : Value → List String
  | text name => if name.isEmpty then [] else [name]
  | _ => []

theorem verdict_eq (judge : String → Verdict) (value : Value) :
    value.verdict judge = match value.mentioned with
      | [] => .keep
      | name :: _ => judge name := by
  cases value with
  | text name => cases h : name.isEmpty <;> simp [verdict, mentioned, h]
  | null | bool _ | number _ | list _ | object _ => rfl

theorem mentioned_cases (value : Value) :
    value.mentioned = [] ∨
      ∃ name, value = text name ∧ name.isEmpty = false ∧ value.mentioned = [name] := by
  cases value with
  | text name =>
      cases h : name.isEmpty
      · exact .inr ⟨name, rfl, h, by simp [mentioned, h]⟩
      · exact .inl (by simp [mentioned, h])
  | null | bool _ | number _ | list _ | object _ => exact .inl rfl

theorem mentioned_reviseName (judge : String → Verdict) (value : Value) :
    (reviseName judge value).mentioned =
      value.mentioned.flatMap fun name => (judge name).left name := by
  rcases mentioned_cases value with h | ⟨name, rfl, hname, h⟩
  · simp [reviseName, verdict_eq, h]
  · have hverdict : (text name).verdict judge = judge name := by simp [verdict_eq, h]
    simp only [reviseName, hverdict, h, List.flatMap_cons, List.flatMap_nil, List.append_nil]
    cases judge name with
    | keep => simp [h]
    | replace other => rfl
    | drop => rfl

theorem mentioned_reviseEntry (judge : String → Verdict) (value : Value) :
    (reviseEntry judge value).toList.flatMap mentioned =
      value.mentioned.flatMap fun name => (judge name).left name := by
  rcases mentioned_cases value with h | ⟨name, rfl, hname, h⟩
  · simp [reviseEntry, verdict_eq, h]
  · have hverdict : (text name).verdict judge = judge name := by simp [verdict_eq, h]
    simp only [reviseEntry, hverdict, h, List.flatMap_cons, List.flatMap_nil, List.append_nil]
    cases judge name with
    | keep => simp [h]
    | replace other => simp [mentioned, Verdict.left]
    | drop => rfl

theorem reviseName_congr {first second : String → Verdict} {value : Value}
    (h : ∀ name ∈ value.mentioned, first name = second name) :
    reviseName first value = reviseName second value := by
  rcases mentioned_cases value with hnone | ⟨name, rfl, hname, hsome⟩
  · simp [reviseName, verdict_eq, hnone]
  · simp [reviseName, verdict_eq, hsome, h name (by simp [hsome])]

theorem reviseEntry_congr {first second : String → Verdict} {value : Value}
    (h : ∀ name ∈ value.mentioned, first name = second name) :
    reviseEntry first value = reviseEntry second value := by
  rcases mentioned_cases value with hnone | ⟨name, rfl, hname, hsome⟩
  · simp [reviseEntry, verdict_eq, hnone]
  · simp [reviseEntry, verdict_eq, hsome, h name (by simp [hsome])]

/-- The name in a field of a value that is a record. -/
def mentionedIn (field : String) (value : Value) : List String :=
  ((value.object?.bind (Record.get? · field)).map mentioned).getD []

theorem fieldVerdict_eq (field : String) (judge : String → Verdict) (value : Value) :
    value.fieldVerdict field judge = match value.mentionedIn field with
      | [] => .keep
      | name :: _ => judge name := by
  simp only [fieldVerdict, mentionedIn]
  cases value.object?.bind (Record.get? · field) with
  | none => rfl
  | some held => exact verdict_eq judge held

theorem mentionedIn_cases (field : String) (value : Value) :
    value.mentionedIn field = [] ∨ ∃ name, value.mentionedIn field = [name] := by
  unfold mentionedIn
  cases value.object?.bind (Record.get? · field) with
  | none => exact .inl rfl
  | some held =>
      rcases mentioned_cases held with h | ⟨name, _, _, h⟩
      · exact .inl h
      · exact .inr ⟨name, h⟩

theorem mentionedIn_reviseFieldEntry (field : String) (judge : String → Verdict)
    (value : Value) :
    (reviseFieldEntry field judge value).toList.flatMap (mentionedIn field) =
      (value.mentionedIn field).flatMap fun name => (judge name).left name := by
  cases value with
  | object r =>
      simp only [reviseFieldEntry, fieldVerdict_eq]
      rcases mentionedIn_cases field (object r) with h | ⟨name, h⟩
      · simp [h]
      · simp only [h, List.flatMap_cons, List.flatMap_nil, List.append_nil]
        cases judge name with
        | keep => simp [h]
        | replace other => simp [mentionedIn, object?, mentioned, Verdict.left]
        | drop => rfl
  | null | bool _ | number _ | text _ | list _ =>
      simp [reviseFieldEntry, mentionedIn, object?]

theorem reviseFieldEntry_congr {field : String} {first second : String → Verdict} {value : Value}
    (h : ∀ name ∈ value.mentionedIn field, first name = second name) :
    reviseFieldEntry field first value = reviseFieldEntry field second value := by
  cases value with
  | object r =>
      simp only [reviseFieldEntry, fieldVerdict_eq]
      rcases mentionedIn_cases field (object r) with hnone | ⟨name, hsome⟩
      · simp [hnone]
      · simp [hsome, h name (by simp [hsome])]
  | null | bool _ | number _ | text _ | list _ => rfl

end Value

private theorem flatMap_filterMap_eq {revise : Value → Option Value}
    {before after : Value → List String}
    (h : ∀ value, (revise value).toList.flatMap after = before value) (entries : List Value) :
    (entries.filterMap revise).flatMap after = entries.flatMap before := by
  induction entries with
  | nil => rfl
  | cons entry rest ih =>
      have hentry := h entry
      cases hrevise : revise entry with
      | none => simp_all
      | some value => simp_all

private theorem filterMap_congr_entries {first second : Value → Option Value}
    {entries : List Value} (h : ∀ entry ∈ entries, first entry = second entry) :
    entries.filterMap first = entries.filterMap second := by
  induction entries with
  | nil => rfl
  | cons entry rest ih =>
      have hrest := ih fun other hother => h other (List.mem_cons_of_mem _ hother)
      simp only [List.filterMap_cons, h entry List.mem_cons_self, hrest]

namespace Arity

/-- The names that a value holds. -/
def mentioned : Arity → Value → List String
  | one, value => value.mentioned
  | many, value => (value.list?.getD []).flatMap Value.mentioned

theorem mentioned_revise (arity : Arity) (judge : String → Verdict) (value : Value) :
    arity.mentioned (arity.revise judge value) =
      (arity.mentioned value).flatMap fun name => (judge name).left name := by
  cases arity with
  | one => exact Value.mentioned_reviseName judge value
  | many =>
      cases value with
      | list entries =>
          simp only [mentioned, revise, Value.reviseNames, Value.list?, Option.getD_some,
            List.flatMap_assoc]
          exact flatMap_filterMap_eq (Value.mentioned_reviseEntry judge) entries
      | null | bool _ | number _ | text _ | object _ => rfl

theorem revise_congr {arity : Arity} {first second : String → Verdict} {value : Value}
    (h : ∀ name ∈ arity.mentioned value, first name = second name) :
    arity.revise first value = arity.revise second value := by
  cases arity with
  | one => exact Value.reviseName_congr h
  | many =>
      cases value with
      | list entries =>
          simp only [revise, Value.reviseNames, Value.list.injEq]
          apply filterMap_congr_entries
          intro entry hentry
          apply Value.reviseEntry_congr
          intro name hname
          exact h name (by simpa [mentioned, Value.list?] using ⟨entry, hentry, hname⟩)
      | null | bool _ | number _ | text _ | object _ => rfl

theorem revise_keep (arity : Arity) (value : Value) :
    arity.revise (fun _ => .keep) value = value := by
  cases arity with
  | one =>
      rcases Value.mentioned_cases value with h | ⟨name, rfl, _, h⟩ <;>
        simp [revise, Value.reviseName, Value.verdict_eq, h]
  | many =>
      cases value with
      | list entries =>
          have hentry : Value.reviseEntry (fun _ => .keep) = some := by
            funext entry
            rcases Value.mentioned_cases entry with h | ⟨name, rfl, _, h⟩ <;>
              simp [Value.reviseEntry, Value.verdict_eq, h]
          simp [revise, Value.reviseNames, hentry]
      | null | bool _ | number _ | text _ | object _ => rfl

theorem not_touches_of_keep {arity : Arity} {judge : String → Verdict} {value : Value}
    (h : ∀ name ∈ arity.mentioned value, judge name = .keep) :
    arity.touches judge value = false := by
  cases arity with
  | one =>
      rcases Value.mentioned_cases value with hnone | ⟨name, rfl, _, hsome⟩
      · simp [touches, Value.verdict_eq, hnone]
      · simp [touches, Value.verdict_eq, hsome, h name (by simp [mentioned, hsome])]
  | many =>
      have hsame : Value.reviseNames judge value = value := by
        have hcongr : many.revise judge value = many.revise (fun _ => .keep) value :=
          revise_congr h
        rw [revise_keep] at hcongr
        exact hcongr
      simp [touches, hsame]

theorem revise_of_not_touches {arity : Arity} {judge : String → Verdict} {value : Value}
    (h : arity.touches judge value = false) : arity.revise judge value = value := by
  cases arity with
  | one =>
      have hkeep : value.verdict judge = .keep := by simpa [touches] using h
      simp [revise, Value.reviseName, hkeep]
  | many =>
      have hsame : Value.reviseNames judge value = value := by simpa [touches] using h
      exact hsame

end Arity

namespace Reference

/-- The names that a reference mentions in the field that its path starts from. -/
def mentionedAt (reference : Reference) (value : Value) : List String :=
  match reference.path with
  | .field _ => reference.arity.mentioned value
  | .inside _ field =>
      ((value.object?.bind (Record.get? · field)).map reference.arity.mentioned).getD []
  | .each _ field => (value.list?.getD []).flatMap (Value.mentionedIn field)

/-- The names that a reference mentions in a record, in stored order. -/
def mentions (reference : Reference) (r : Record) : List String :=
  ((r.get? reference.path.root).map reference.mentionedAt).getD []

/-- Passes a verdict on the names in the field that a path starts from. -/
def reviseAt (reference : Reference) (judge : String → Verdict) : Value → Value :=
  match reference.path with
  | .field _ => reference.arity.revise judge
  | .inside _ field => Value.mapObject (Record.modify field (reference.arity.revise judge))
  | .each _ field => Value.reviseFieldEntries field judge

theorem revise_eq (reference : Reference) (judge : String → Verdict) (r : Record) :
    reference.revise judge r = r.modify reference.path.root (reference.reviseAt judge) := by
  unfold revise reviseAt
  cases reference.path <;> rfl

theorem mentionedAt_reviseAt (reference : Reference) (judge : String → Verdict) (value : Value) :
    reference.mentionedAt (reference.reviseAt judge value) =
      (reference.mentionedAt value).flatMap fun name => (judge name).left name := by
  unfold mentionedAt reviseAt
  cases reference.path with
  | field _ => exact Arity.mentioned_revise reference.arity judge value
  | inside _ field =>
      cases value with
      | object r =>
          simp only [Value.mapObject, Value.object?, Option.bind_some, Record.get?_modify, if_true]
          cases Record.get? r field with
          | none => rfl
          | some held => exact Arity.mentioned_revise reference.arity judge held
      | null | bool _ | number _ | text _ | list _ => rfl
  | each _ field =>
      cases value with
      | list entries =>
          simp only [Value.reviseFieldEntries, Value.list?, Option.getD_some, List.flatMap_assoc]
          exact flatMap_filterMap_eq (Value.mentionedIn_reviseFieldEntry field judge) entries
      | null | bool _ | number _ | text _ | object _ => rfl

theorem mentions_revise (reference : Reference) (judge : String → Verdict) (r : Record) :
    reference.mentions (reference.revise judge r) =
      (reference.mentions r).flatMap fun name => (judge name).left name := by
  rw [revise_eq, mentions, mentions, Record.get?_modify, if_pos rfl]
  cases r.get? reference.path.root with
  | none => rfl
  | some value => exact mentionedAt_reviseAt reference judge value

theorem reviseAt_congr {reference : Reference} {first second : String → Verdict} {value : Value}
    (h : ∀ name ∈ reference.mentionedAt value, first name = second name) :
    reference.reviseAt first value = reference.reviseAt second value := by
  unfold mentionedAt at h
  unfold reviseAt
  cases hpath : reference.path with
  | field _ =>
      simp only [hpath] at h
      exact Arity.revise_congr h
  | inside _ field =>
      simp only [hpath] at h
      cases value with
      | object r =>
          simp only [Value.mapObject, Value.object.injEq]
          refine Record.modify_congr fun held hheld => ?_
          apply Arity.revise_congr
          simpa [Value.object?, hheld] using h
      | null | bool _ | number _ | text _ | list _ => rfl
  | each _ field =>
      simp only [hpath] at h
      cases value with
      | list entries =>
          simp only [Value.reviseFieldEntries, Value.list.injEq]
          apply filterMap_congr_entries
          intro entry hentry
          apply Value.reviseFieldEntry_congr
          intro name hname
          exact h name (by simpa [Value.list?] using ⟨entry, hentry, hname⟩)
      | null | bool _ | number _ | text _ | object _ => rfl

theorem reviseAt_keep (reference : Reference) (value : Value) :
    reference.reviseAt (fun _ => .keep) value = value := by
  unfold reviseAt
  cases reference.path with
  | field _ => exact Arity.revise_keep reference.arity value
  | inside _ field =>
      have hrevise : reference.arity.revise (fun _ => .keep) = fun held => held :=
        funext (Arity.revise_keep reference.arity)
      cases value with
      | object r =>
          simp only [Value.mapObject, hrevise, Record.modify_of_same fun _ _ => rfl]
      | null | bool _ | number _ | text _ | list _ => rfl
  | each _ field =>
      cases value with
      | list entries =>
          have hentry : Value.reviseFieldEntry field (fun _ => .keep) = some := by
            funext entry
            cases entry with
            | object r =>
                rcases Value.mentionedIn_cases field (.object r) with h | ⟨name, h⟩ <;>
                  simp [Value.reviseFieldEntry, Value.fieldVerdict_eq, h]
            | null | bool _ | number _ | text _ | list _ => rfl
          simp [Value.reviseFieldEntries, hentry]
      | null | bool _ | number _ | text _ | object _ => rfl

theorem not_touches_of_keep {reference : Reference} {judge : String → Verdict} {r : Record}
    (h : ∀ name ∈ reference.mentions r, judge name = .keep) :
    reference.touches judge r = false := by
  unfold mentions mentionedAt at h
  unfold touches
  cases hpath : reference.path with
  | field field =>
      simp only [hpath, Path.root] at h
      cases hvalue : r.get? field with
      | none => simp [hvalue]
      | some value =>
          simp only [hvalue, Option.any_some]
          exact Arity.not_touches_of_keep (by simpa [hvalue] using h)
  | inside object field =>
      simp only [hpath, Path.root] at h
      simp only [Record.object?]
      cases hvalue : r.get? object with
      | none => simp
      | some value =>
          simp only [hvalue, Option.map_some, Option.getD_some] at h
          simp only [Option.bind_some]
          cases hheld : value.object?.bind (Record.get? · field) with
          | none => simp
          | some held =>
              rw [hheld] at h
              exact Arity.not_touches_of_keep h
  | each list field =>
      simp only [hpath, Path.root] at h
      cases hvalue : r.get? list with
      | none => simp [hvalue]
      | some value =>
          cases value with
          | list entries =>
              simp only [hvalue, Option.any_some, Value.touchesFieldEntries, List.any_eq_false]
              intro entry hentry
              rcases Value.mentionedIn_cases field entry with hnone | ⟨name, hsome⟩
              · simp [Value.fieldVerdict_eq, hnone]
              · have hkeep : judge name = .keep := h name (by
                  simpa [hvalue, Value.list?] using ⟨entry, hentry, by simp [hsome]⟩)
                simp [Value.fieldVerdict_eq, hsome, hkeep]
          | null | bool _ | number _ | text _ | object _ =>
              simp [hvalue, Value.touchesFieldEntries]

theorem revise_of_not_touches {reference : Reference} {judge : String → Verdict} {r : Record}
    (h : reference.touches judge r = false) : reference.revise judge r = r := by
  rw [revise_eq]
  refine Record.modify_of_same fun value hvalue => ?_
  unfold touches at h
  unfold reviseAt
  cases hpath : reference.path with
  | field field =>
      simp only [hpath, Path.root] at h hvalue
      exact Arity.revise_of_not_touches (by simpa [hvalue] using h)
  | inside object field =>
      simp only [hpath, Path.root] at h hvalue
      cases value with
      | object held =>
          simp only [Value.mapObject, Value.object.injEq]
          refine Record.modify_of_same fun old hold => ?_
          apply Arity.revise_of_not_touches
          simpa [Record.object?, hvalue, Value.object?, hold] using h
      | null | bool _ | number _ | text _ | list _ => rfl
  | each list field =>
      simp only [hpath, Path.root] at h hvalue
      cases value with
      | list entries =>
          have hkeep : ∀ entry ∈ entries, entry.fieldVerdict field judge = .keep := by
            simpa [hvalue, Value.touchesFieldEntries] using h
          simp only [Value.reviseFieldEntries, Value.list.injEq]
          conv => rhs; rw [← List.filterMap_some (l := entries)]
          apply filterMap_congr_entries
          intro entry hentry
          cases entry with
          | object held => simp [Value.reviseFieldEntry, hkeep _ hentry]
          | null | bool _ | number _ | text _ | list _ => rfl
      | null | bool _ | number _ | text _ | object _ => rfl

/-- A judge that does not replace a name by itself leaves a record alone exactly if it
keeps all its names. -/
theorem not_touches_iff {reference : Reference} {judge : String → Verdict} {r : Record}
    (hjudge : ∀ name, judge name ≠ .replace name) :
    reference.touches judge r = false ↔ ∀ name ∈ reference.mentions r, judge name = .keep := by
  constructor
  · intro h
    apply Verdict.keep_of_flatMap_left hjudge
    rw [← mentions_revise, revise_of_not_touches h]
  · exact not_touches_of_keep

theorem mentions_one (field : String) (target : Kind) (r : Record) :
    (Reference.one field target).mentions r = (r.filled? field).toList := by
  have hat : (Reference.one field target).mentionedAt = Value.mentioned := rfl
  have hroot : (Reference.one field target).path.root = field := rfl
  simp only [mentions, hat, hroot, Record.filled?, Record.text?]
  cases r.get? field with
  | none => rfl
  | some value =>
      cases value with
      | text name =>
          cases h : name.isEmpty <;>
            simp only [Option.map_some, Option.getD_some, Value.mentioned, Option.bind_some,
              Value.text?, Option.filter_some, h] <;> rfl
      | null | bool _ | number _ | list _ | object _ => rfl

end Reference

end Blueprint
