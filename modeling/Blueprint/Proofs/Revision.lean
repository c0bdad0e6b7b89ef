import Blueprint.Proofs.Rows

/-!
# Revision all at once

`Tree.reviseAll` passes verdicts on all names of a tree at once: every verdict is
taken from the tree as it was. Reconciliation and the cascades go through the
tree step by step and look at what the earlier steps left; `foldl_revise` and
`foldl_mapKind` say when such a sequence of steps comes to the same as one
revision.
-/

namespace Blueprint

namespace Record

/-- Revises the fields of several references, each by a judge of its own. -/
def reviseBy (references : List Reference) (judge : Reference → String → Verdict) (r : Record) :
    Record :=
  r.mapValues fun key value =>
    match references.find? fun reference => reference.path.root = key with
    | some reference => reference.reviseAt (judge reference) value
    | none => value

theorem find?_root {references : List Reference}
    (hnodup : (references.map (·.path.root)).Nodup) {reference : Reference}
    (h : reference ∈ references) :
    references.find? (fun other => other.path.root = reference.path.root) = some reference := by
  obtain ⟨found, hfound⟩ := Option.isSome_iff_exists.mp
    (List.find?_isSome (p := fun other : Reference => other.path.root = reference.path.root).mpr
      ⟨reference, h, by simp⟩)
  have hroot : found.path.root = reference.path.root := by simpa using List.find?_some hfound
  have hmem := List.mem_of_find?_eq_some hfound
  rw [hfound, List.inj_on_of_nodup_map hnodup hmem h hroot]

theorem get?_reviseBy_of_mem {references : List Reference}
    (hnodup : (references.map (·.path.root)).Nodup) {reference : Reference}
    (h : reference ∈ references) (judge : Reference → String → Verdict) (r : Record) :
    (r.reviseBy references judge).get? reference.path.root =
      (r.get? reference.path.root).map (reference.reviseAt (judge reference)) := by
  simp [reviseBy, find?_root hnodup h]

theorem get?_reviseBy_of_ne {references : List Reference} {field : String}
    (h : ∀ reference ∈ references, reference.path.root ≠ field)
    (judge : Reference → String → Verdict) (r : Record) :
    (r.reviseBy references judge).get? field = r.get? field := by
  have hnone : references.find? (fun reference => reference.path.root = field) = none := by
    simpa using h
  simp [reviseBy, hnone]

theorem mentions_reviseBy {references : List Reference}
    (hnodup : (references.map (·.path.root)).Nodup) {reference : Reference}
    (h : reference ∈ references) (judge : Reference → String → Verdict) (r : Record) :
    reference.mentions (r.reviseBy references judge) =
      (reference.mentions r).flatMap fun name => (judge reference name).left name := by
  simp only [Reference.mentions, get?_reviseBy_of_mem hnodup h]
  cases r.get? reference.path.root with
  | none => rfl
  | some value => exact Reference.mentionedAt_reviseAt reference (judge reference) value

theorem reviseBy_congr {references : List Reference} {first second : Reference → String → Verdict}
    {r : Record} (h : ∀ reference ∈ references, ∀ name ∈ reference.mentions r,
      first reference name = second reference name) :
    r.reviseBy references first = r.reviseBy references second := by
  apply mapValues_congr
  intro key value hvalue
  cases hfind : references.find? fun reference => reference.path.root = key with
  | none => rfl
  | some reference =>
      have hroot : reference.path.root = key := by simpa using List.find?_some hfind
      apply Reference.reviseAt_congr
      intro name hname
      apply h reference (List.mem_of_find?_eq_some hfind)
      simpa [Reference.mentions, hroot, hvalue] using hname

theorem reviseBy_keep (references : List Reference) (r : Record) :
    r.reviseBy references (fun _ _ => .keep) = r := by
  have hsame : (fun key value =>
      match references.find? fun reference => reference.path.root = key with
      | some reference => reference.reviseAt (fun _ => .keep) value
      | none => value) = fun (_ : String) (value : Value) => value := by
    funext key value
    cases references.find? fun reference => reference.path.root = key with
    | none => rfl
    | some reference => exact Reference.reviseAt_keep reference value
  rw [reviseBy, hsame, mapValues_id]

theorem reviseBy_of_keep {references : List Reference} {judge : Reference → String → Verdict}
    {r : Record} (h : ∀ reference ∈ references, ∀ name ∈ reference.mentions r,
      judge reference name = .keep) : r.reviseBy references judge = r := by
  have hkeep : r.reviseBy references judge = r.reviseBy references fun _ _ => .keep :=
    reviseBy_congr h
  rw [hkeep, reviseBy_keep]

theorem reviseBy_modify {references : List Reference} {field : String}
    (h : ∀ reference ∈ references, reference.path.root ≠ field)
    (judge : Reference → String → Verdict) (g : Value → Value) (r : Record) :
    (r.modify field g).reviseBy references judge =
      (r.reviseBy references judge).modify field g := by
  simp only [reviseBy, modify_eq_mapValues, mapValues_mapValues]
  congr 1
  funext key value
  by_cases hkey : key = field
  · have hnone : references.find? (fun reference => reference.path.root = field) = none := by
      simpa using h
    simp [hkey, hnone]
  · simp [hkey]

/-- Keeps the names at all but some references. -/
def judgeAmong (references : List Reference) (judge : Reference → String → Verdict) :
    Reference → String → Verdict :=
  fun reference name => if reference ∈ references then judge reference name else .keep

theorem reviseBy_append (before after : List Reference) (judge : Reference → String → Verdict)
    (r : Record) :
    r.reviseBy (before ++ after) (judgeAmong before judge) = r.reviseBy before judge := by
  apply mapValues_congr
  intro key value _
  rw [List.find?_append]
  cases hbefore : before.find? fun reference => reference.path.root = key with
  | some reference =>
      have hmem := List.mem_of_find?_eq_some hbefore
      simp only [Option.some_or]
      apply Reference.reviseAt_congr
      intro name _
      simp only [judgeAmong, hmem, if_true]
  | none =>
      simp only [Option.none_or]
      cases hafter : after.find? fun reference => reference.path.root = key with
      | none => rfl
      | some reference =>
          have hnot : reference ∉ before := by
            intro hmem
            have hroot := List.find?_some hafter
            exact List.find?_eq_none.mp hbefore reference hmem hroot
          have hkeep : judgeAmong before judge reference = fun _ => .keep := by
            funext name
            simp only [judgeAmong, hnot, if_false]
          simp only [hkeep, Reference.reviseAt_keep]

/-- References at different fields are revised one after another as all at once, if
each judge says of the names in the original record what it says when its turn
comes. -/
theorem foldl_revise {references : List Reference}
    (hnodup : (references.map (·.path.root)).Nodup)
    (now : Record → Reference → String → Verdict) {judge : Reference → String → Verdict}
    {r : Record}
    (h : ∀ before reference after, references = before ++ reference :: after →
      ∀ name ∈ reference.mentions r,
        now (r.reviseBy references (judgeAmong before judge)) reference name =
          judge reference name) :
    references.foldl (fun r reference => reference.revise (now r reference) r) r =
      r.reviseBy references judge := by
  -- from the end: the last reference meets the record that the earlier ones have left
  induction references using List.reverseRecOn with
  | nil => exact (mapValues_id r).symm
  | append_singleton before reference ih =>
      have hbefore : (before.map (·.path.root)).Nodup := by
        rw [List.map_append] at hnodup
        exact hnodup.of_append_left
      have hearlier : ∀ earlier other later, before = earlier ++ other :: later →
          ∀ name ∈ other.mentions r,
            now (r.reviseBy before (judgeAmong earlier judge)) other name = judge other name := by
        intro earlier other later hsplit name hname
        have hother := h earlier other (later ++ [reference]) (by simp [hsplit]) name hname
        rw [hsplit, reviseBy_append]
        rwa [hsplit, List.append_assoc, reviseBy_append] at hother
      rw [List.foldl_append, ih hbefore hearlier]
      simp only [List.foldl_cons, List.foldl_nil, Reference.revise_eq, modify_eq_mapValues]
      have hnow := h before reference [] rfl
      rw [reviseBy_append] at hnow
      unfold reviseBy at hnow ⊢
      rw [mapValues_mapValues]
      apply mapValues_congr
      intro key value hvalue
      by_cases hkey : key = reference.path.root
      · have hnone : before.find? (fun other => other.path.root = key) = none := by
          rw [List.find?_eq_none]
          intro other hother hroot
          rw [List.map_append, List.nodup_append] at hnodup
          have hne := hnodup.2.2 other.path.root (List.mem_map_of_mem hother)
            reference.path.root (by simp)
          exact hne ((of_decide_eq_true hroot).trans hkey)
        simp only [hkey, if_true, List.find?_append]
        simp only [hkey] at hnone
        simp only [hnone, Option.none_or, List.find?_cons_of_pos, decide_true]
        apply Reference.reviseAt_congr
        intro name hname
        exact hnow name (by simpa [Reference.mentions, ← hkey, hvalue] using hname)
      · have hlast : [reference].find? (fun other => other.path.root = key) = none := by
          simpa using Ne.symm hkey
        simp [hkey, List.find?_append, hlast]

end Record

/-- Passes verdicts on the names in a row. -/
def Row.revise (row : Row) (judge : Reference → String → Verdict) : Row :=
  { row with
    mentions := fun reference =>
      (row.mentions reference).flatMap fun name => (judge reference name).left name }

theorem Row.of_reviseBy (kind : Kind) (parent : Option String)
    (judge : Reference → String → Verdict) (r : Record) :
    Row.of kind parent (r.reviseBy kind.schema.references judge) =
      (Row.of kind parent r).revise judge := by
  have hname : (r.reviseBy kind.schema.references judge).name? = r.name? := by
    rw [Record.name?_eq, Record.get?_reviseBy_of_ne fun _ hmem => Kind.root_ne_name hmem,
      Record.name?_eq]
  simp only [Row.of, Row.revise, hname, mk.injEq, true_and]
  funext reference
  by_cases h : reference ∈ kind.schema.references
  · simp [h, Record.mentions_reviseBy kind.nodup_roots h]
  · simp [h]

/-! ## Judges for whole trees -/

/-- The verdicts on the names at every reference of every row. -/
abbrev Judge := Kind → Row → Reference → String → Verdict

namespace Judge

/-- Keeps the names outside of some kinds. -/
def on (judge : Judge) (kinds : List Kind) : Judge := fun kind row reference name =>
  if kind ∈ kinds then judge kind row reference name else .keep

/-- Keeps the names in records whose parent is not admitted. -/
def under (judge : Judge) (admits : Option String → Bool) : Judge := fun kind row =>
  if admits row.parent then judge kind row else fun _ _ => .keep

theorem on_all (judge : Judge) : judge.on Kind.all = judge := by
  funext kind row reference name
  simp [on, Kind.mem_all]

end Judge

/-- Passes verdicts on the names in all rows. -/
def Rows.revise (rows : Rows) (judge : Judge) : Rows := fun kind =>
  (rows kind).map fun row => row.revise (judge kind row)

theorem Rows.find?_revise (rows : Rows) (judge : Judge) (kind : Kind) (name : Option String) :
    (rows.revise judge kind).find? (fun row => row.name = name) =
      ((rows kind).find? fun row => row.name = name).map fun row =>
        row.revise (judge kind row) := by
  rw [Rows.revise, List.find?_map]
  rfl

theorem Row.holder?_revise (rows : Rows) (judge : Judge) (kind : Kind) (row : Row) :
    row.holder? (rows.revise judge) kind = (row.holder? rows kind).map fun found =>
      (found.1, found.2.revise (judge found.1 found.2)) :=
  holder?_map rows (fun kind row => row.revise (judge kind row)) (fun _ _ => rfl) kind row

namespace Tree

/-- Revises every record by the verdicts on its row. -/
def reviseAll (t : Tree) (judge : Judge) : Tree :=
  t.mapAll fun kind parent r =>
    r.reviseBy kind.schema.references (judge kind (Row.of kind parent r))

theorem entries_reviseAll (t : Tree) (judge : Judge) (kind : Kind) :
    (t.reviseAll judge).entries kind = (t.entries kind).map fun entry =>
      (entry.1, (if kind.parent = none then
          kind.mapHeld (fun kind parent r =>
            r.reviseBy kind.schema.references (judge kind (Row.of kind parent r))) entry.2
        else entry.2).reviseBy kind.schema.references
          (judge kind (Row.of kind entry.1 entry.2))) := by
  cases hparent : kind.parent with
  | none =>
      rw [reviseAll, entries_mapAll_of_top _ _ hparent, entries_of_top _ hparent]
      simp [Row.of_mapHeld]
  | some parent =>
      obtain ⟨field, hlocation⟩ := Kind.parent_eq_some_iff.mp hparent
      rw [reviseAll, entries_mapAll_of_nested id hlocation]
      · simp
      · intro r _
        exact Record.get?_reviseBy_of_ne (Kind.root_ne_held hlocation) _ _
      · intro r _
        rw [Record.name?_eq, Record.get?_reviseBy_of_ne fun _ hmem => Kind.root_ne_name hmem]
        exact Kind.name?_mapHeld parent _ r

theorem rows_reviseAll (t : Tree) (judge : Judge) :
    (t.reviseAll judge).rows = t.rows.revise judge := by
  funext kind
  simp only [Rows.revise, rows, entries_reviseAll, List.map_map]
  apply List.map_congr_left
  intro entry _
  simp only [Function.comp_apply, Row.of_reviseBy, Row.of_ite_mapHeld]

theorem reviseAll_congr {t : Tree} {first second : Judge}
    (h : ∀ kind, ∀ row ∈ t.rows kind, ∀ reference ∈ kind.schema.references,
      ∀ name ∈ row.mentions reference,
        first kind row reference name = second kind row reference name) :
    t.reviseAll first = t.reviseAll second := by
  apply mapAll_congr
  intro kind entry hentry r hr
  have hrow : Row.of kind entry.1 r = Row.of kind entry.1 entry.2 := by
    rcases hr with rfl | rfl
    · rfl
    · exact Row.of_mapHeld kind entry.1 _ entry.2
  apply Record.reviseBy_congr
  intro reference hmem name hname
  rw [hrow]
  apply h kind _ (mem_rows.mpr ⟨entry.1, entry.2, hentry, rfl⟩) reference hmem
  rw [← hrow, Row.mentions_of hmem]
  exact hname

theorem reviseAll_keep (t : Tree) : t.reviseAll (fun _ _ _ _ => .keep) = t := by
  simp only [reviseAll, mapAll, Record.reviseBy_keep, Kind.mapHeld_id, mapTop_id]

theorem reviseAll_of_keep {t : Tree} {judge : Judge}
    (h : ∀ kind, ∀ row ∈ t.rows kind, ∀ reference ∈ kind.schema.references,
      ∀ name ∈ row.mentions reference, judge kind row reference name = .keep) :
    t.reviseAll judge = t := by
  have hkeep : t.reviseAll judge = t.reviseAll fun _ _ _ _ => .keep := reviseAll_congr h
  rw [hkeep, reviseAll_keep]

private theorem mapHeld_reviseBy_of_ne {top kind : Kind}
    (h : ∀ child : Kind, child.parent = some top → child ≠ kind) (judge : Judge)
    (next : Row → Reference → String → Verdict) (r : Record) :
    top.mapHeld (fun other parent r => r.reviseBy other.schema.references
        ((if other = kind then next else judge other) (Row.of other parent r))) r =
      top.mapHeld (fun other parent r =>
        r.reviseBy other.schema.references (judge other (Row.of other parent r))) r := by
  apply Kind.mapHeld_congr
  intro child field hlocation held _
  simp [h child (Kind.parent_eq_some_iff.mpr ⟨field, hlocation⟩)]

private theorem mapHeld_reviseBy_kind {top kind : Kind} {field : String}
    (h : kind.location = .nested top field) {judge : Judge}
    (hkeep : judge kind = fun _ _ _ => .keep) (next : Row → Reference → String → Verdict)
    (r : Record) :
    top.mapHeld (fun other parent r => r.reviseBy other.schema.references
        ((if other = kind then next else judge other) (Row.of other parent r))) r =
      (top.mapHeld (fun other parent r =>
        r.reviseBy other.schema.references (judge other (Row.of other parent r))) r).modify
        field (Value.mapItems fun held =>
          held.reviseBy kind.schema.references (next (Row.of kind r.name? held))) := by
  simp only [Kind.mapHeld, Record.modify_eq_mapValues, Record.mapValues_mapValues]
  congr 1
  funext key value
  by_cases hkey : key = field
  · subst hkey
    simp [Kind.heldIn?_of_location h, hkeep, Record.reviseBy_keep, Value.mapItems_id]
  · cases hchild : top.heldIn? key with
    | none => simp [hkey]
    | some child =>
        simp [hkey, Kind.ne_of_heldIn? h hkey hchild]

/-- Revising one more kind adds its verdicts to those passed already. -/
theorem mapKind_reviseAll (t : Tree) {judge : Judge} {kind : Kind}
    (hkeep : judge kind = fun _ _ _ => .keep) (next : Row → Reference → String → Verdict) :
    (t.reviseAll judge).mapKind kind
        (fun parent r => r.reviseBy kind.schema.references (next (Row.of kind parent r))) =
      t.reviseAll fun other => if other = kind then next else judge other := by
  simp only [reviseAll, mapAll, mapKind, mapTop_mapTop]
  apply mapTop_congr
  intro top htop r _
  cases hparent : kind.parent with
  | none =>
      have hheld : ∀ child : Kind, child.parent = some top → child ≠ kind := by
        rintro child hchild rfl
        rw [hparent] at hchild
        cases hchild
      rw [Kind.lift_of_top hparent, mapHeld_reviseBy_of_ne hheld]
      by_cases h : top = kind
      · subst h
        simp only [if_true, hkeep, Record.reviseBy_keep]
      · simp only [h, if_false]
  | some parent =>
      obtain ⟨field, hlocation⟩ := Kind.parent_eq_some_iff.mp hparent
      have hnotkind : top ≠ kind := by
        rintro rfl
        rw [hparent] at htop
        cases htop
      rw [Kind.lift_of_nested hlocation]
      simp only [hnotkind, if_false]
      by_cases h : top = parent
      · subst h
        -- the field in which the kind is held has no part in the row of the holder
        have hfield := Kind.root_ne_held hlocation
        have hrow : ∀ (g : Value → Value) (held : Record),
            Row.of top none (held.modify field g) = Row.of top none held := by
          intro g held
          apply Row.of_congr_get?
          · simp [Record.get?_modify, Ne.symm (Kind.holdingField_ne_name hlocation)]
          · intro reference hmem
            simp [Record.get?_modify, hfield reference hmem]
        rw [mapHeld_reviseBy_kind hlocation hkeep, hrow, Record.reviseBy_modify hfield,
          Record.name?_eq, Record.get?_reviseBy_of_ne fun _ hmem => Kind.root_ne_name hmem,
          ← Record.name?_eq, Kind.name?_mapHeld]
        simp
      · have hheld : ∀ child : Kind, child.parent = some top → child ≠ kind := by
          rintro child hchild rfl
          exact h (Option.some.inj (hchild.symm.trans hparent))
        rw [mapHeld_reviseBy_of_ne hheld]
        simp only [h, if_false]

/-- Kinds are revised one after another as all at once, if each judge says of the
names in the original tree what it says when the turn of its kind comes. -/
theorem foldl_mapKind {kinds : List Kind} (hnodup : kinds.Nodup) (now : Tree → Judge)
    {judge : Judge} {t : Tree}
    (h : ∀ before kind after, kinds = before ++ kind :: after → ∀ row ∈ t.rows kind,
      ∀ reference ∈ kind.schema.references, ∀ name ∈ row.mentions reference,
        now (t.reviseAll (judge.on before)) kind row reference name =
          judge kind row reference name) :
    kinds.foldl (fun t kind => t.mapKind kind fun parent r =>
        r.reviseBy kind.schema.references (now t kind (Row.of kind parent r))) t =
      t.reviseAll (judge.on kinds) := by
  induction kinds using List.reverseRecOn with
  | nil => exact (reviseAll_of_keep (by simp [Judge.on])).symm
  | append_singleton before kind ih =>
      have hnot : kind ∉ before := by
        intro hmem
        exact (List.nodup_append.mp hnodup).2.2 kind hmem kind (by simp) rfl
      rw [List.foldl_append, ih hnodup.of_append_left (fun earlier other later hsplit =>
        h earlier other (later ++ [kind]) (by simp [hsplit]))]
      simp only [List.foldl_cons, List.foldl_nil]
      have hkeep : judge.on before kind = fun _ _ _ => .keep := by
        funext row reference name
        simp [Judge.on, hnot]
      rw [mapKind_reviseAll t hkeep (now (t.reviseAll (judge.on before)) kind)]
      apply reviseAll_congr
      intro other row hrow reference hmem name hname
      by_cases hother : other = kind
      · subst hother
        simp [Judge.on, h before other [] rfl row hrow reference hmem name hname]
      · simp [Judge.on, hother]

end Tree

/-! ## What is still admitted -/

namespace Row

theorem scopeName_revise {kind target : Kind} {parent : Option String} {r : Record}
    {field name : String} (h : (Row.of kind parent r).scopeName field target = some name)
    {judge : Reference → String → Verdict}
    (hkeep : judge (.scopeSource field target) name = .keep) :
    ((Row.of kind parent r).revise judge).scopeName field target = some name := by
  have hmentions := mentions_scopeSource kind parent r field target
  rw [h] at hmentions
  simp [scopeName, revise, hmentions, hkeep]

/-- A reference admits what it admitted if the name of its scope is kept in its row. -/
theorem admits_revise {rows : Rows} {kind : Kind} {reference : Reference}
    (hmem : reference ∈ kind.schema.references) {parent : Option String} {r : Record}
    {q : Option String}
    (h : ((Row.of kind parent r).reach rows kind reference).admits q = true)
    {judge : Reference → String → Verdict}
    (hkeep : ∀ field name, reference.target.parent.isSome → q = some name →
      judge (.scopeSource field reference.target) name = .keep) :
    (((Row.of kind parent r).revise judge).reach rows kind reference).admits q = true := by
  unfold reach at h ⊢
  cases hscope : reference.scope with
  | anywhere => rfl
  | sibling | underParentField _ => simpa only [hscope, revise] using h
  | underField field =>
      have htarget := (Kind.tied_of_underField hmem hscope).1
      simp only [hscope] at h ⊢
      obtain ⟨name, hname, hq⟩ := Reach.admits_ofName.mp h
      rwa [scopeName_revise hname (hkeep field name htarget hq), ← hname]

theorem admits_revise_rows {t : Tree} {kind : Kind} {reference : Reference}
    (hmem : reference ∈ kind.schema.references) {row : Row} {q : Option String}
    (h : (row.reach t.rows kind reference).admits q = true) {judge : Judge}
    (hkeep : ∀ kind row field name, reference.target.parent.isSome → q = some name →
      judge kind row (.scopeSource field reference.target) name = .keep) :
    (row.reach (t.rows.revise judge) kind reference).admits q = true := by
  cases hscope : reference.scope with
  | anywhere => simp only [reach, hscope, Reach.admits]
  | sibling | underField _ => simpa only [reach, hscope] using h
  | underParentField field =>
      obtain ⟨_, _, htarget, _⟩ := Kind.tied_of_underParentField hmem hscope
      rw [reach_underParentField hscope] at h ⊢
      obtain ⟨name, hname, hq⟩ := Reach.admits_ofName.mp h
      obtain ⟨⟨holderKind, holder⟩, hfound, hread⟩ := Option.bind_eq_some_iff.mp hname
      have hholder : holder ∈ t.rows holderKind := (mem_of_holder? hfound).2.1
      obtain ⟨p, r, _, rfl⟩ := Tree.mem_rows.mp hholder
      have hkept := scopeName_revise hread
        (hkeep holderKind (Row.of holderKind p r) field name htarget hq)
      rw [holder?_revise, hfound]
      exact Reach.admits_ofName.mpr ⟨name, hkept, hq⟩

end Row

end Blueprint
