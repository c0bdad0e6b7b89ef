import Blueprint.Integrity.Reconcile
import Blueprint.Integrity.Cascade
import Blueprint.Proofs.Mentions
import Blueprint.Proofs.Walks

/-!
# Rows

For its references a record is a row: the name of its parent, its own name, and
the names that each of its references mentions. The rows of a tree decide what
every scope reaches and so which names mean nothing; a tree is consistent when
none does.
-/

namespace Blueprint

/-! ## The tables of references -/

/-- The reference by which a scope's field is itself known to name a parent of the
target. -/
def Reference.scopeSource (field : String) (target : Kind) : Reference :=
  .one field (target.parent.getD target)

theorem Reference.target_scopeSource {target parent : Kind} (h : target.parent = some parent)
    (field : String) : (scopeSource field target).target = parent := by
  simp [scopeSource, one, h]

namespace Kind

/-- Whether the field that a scope reads is declared as a reference to the parents
of the target. -/
def scopeIsTied (kind : Kind) (reference : Reference) : Bool :=
  match reference.scope with
  | .anywhere => reference.keep.isNone || reference.target.parent.isSome
  | .sibling =>
      kind.parent.isSome && reference.target.parent = kind.parent && reference.keep.isNone
  | .underField field =>
      reference.target.parent.isSome && reference.keep.isNone &&
        kind.schema.references.contains (.scopeSource field reference.target)
  | .underParentField field =>
      match kind.parent with
      | some parent =>
          reference.target.parent.isSome && reference.keep.isNone &&
            parent.schema.references.contains (.scopeSource field reference.target)
      | none => false

theorem all_scopeIsTied (kind : Kind) :
    kind.schema.references.all kind.scopeIsTied = true := by
  cases kind <;> decide

theorem scopeIsTied_of_mem {kind : Kind} {reference : Reference}
    (h : reference ∈ kind.schema.references) : kind.scopeIsTied reference = true :=
  List.all_eq_true.mp kind.all_scopeIsTied reference h

theorem tied_of_sibling {kind : Kind} {reference : Reference}
    (hmem : reference ∈ kind.schema.references) (hscope : reference.scope = .sibling) :
    reference.target.parent.isSome ∧ kind.parent = reference.target.parent := by
  have htied := scopeIsTied_of_mem hmem
  simp only [scopeIsTied, hscope, Bool.and_eq_true, decide_eq_true_eq] at htied
  exact ⟨htied.1.2 ▸ htied.1.1, htied.1.2.symm⟩

theorem tied_of_underField {kind : Kind} {reference : Reference} {field : String}
    (hmem : reference ∈ kind.schema.references) (hscope : reference.scope = .underField field) :
    reference.target.parent.isSome ∧
      Reference.scopeSource field reference.target ∈ kind.schema.references := by
  have htied := scopeIsTied_of_mem hmem
  simp only [scopeIsTied, hscope, Bool.and_eq_true, List.contains_iff_mem] at htied
  exact ⟨htied.1.1, htied.2⟩

theorem tied_of_underParentField {kind : Kind} {reference : Reference} {field : String}
    (hmem : reference ∈ kind.schema.references)
    (hscope : reference.scope = .underParentField field) :
    ∃ parentKind, kind.parent = some parentKind ∧ reference.target.parent.isSome ∧
      Reference.scopeSource field reference.target ∈ parentKind.schema.references := by
  have htied := scopeIsTied_of_mem hmem
  cases hparent : kind.parent with
  | none => simp [scopeIsTied, hscope, hparent] at htied
  | some parentKind =>
      simp only [scopeIsTied, hscope, hparent, Bool.and_eq_true, List.contains_iff_mem] at htied
      exact ⟨parentKind, rfl, htied.1.1, htied.2⟩

theorem nodup_roots (kind : Kind) : (kind.schema.references.map (·.path.root)).Nodup := by
  cases kind <;> decide

theorem all_roots_apart (kind : Kind) :
    (kind.schema.references.all fun reference =>
      reference.path.root ≠ "name" && (kind.heldIn? reference.path.root).isNone) = true := by
  cases kind <;> decide

theorem root_ne_name {kind : Kind} {reference : Reference}
    (h : reference ∈ kind.schema.references) : reference.path.root ≠ "name" := by
  have hall := List.all_eq_true.mp kind.all_roots_apart reference h
  simp only [Bool.and_eq_true, decide_eq_true_eq] at hall
  exact hall.1

theorem heldIn?_root {kind : Kind} {reference : Reference}
    (h : reference ∈ kind.schema.references) : kind.heldIn? reference.path.root = none := by
  have hall := List.all_eq_true.mp kind.all_roots_apart reference h
  simp only [Bool.and_eq_true, Option.isNone_iff_eq_none] at hall
  exact hall.2

theorem root_ne_held {kind child : Kind} {field : String}
    (h : child.location = .nested kind field) :
    ∀ reference ∈ kind.schema.references, reference.path.root ≠ field := by
  intro reference hmem hroot
  have hheld := heldIn?_of_location h
  rw [← hroot, heldIn?_root hmem] at hheld
  cases hheld

end Kind

/-! ## Rows -/

/-- What a record is to the references of a tree. -/
structure Row where
  parent : Option String
  name : Option String
  /-- The names that a declared reference mentions. -/
  mentions : Reference → List String

namespace Row

def of (kind : Kind) (parent : Option String) (r : Record) : Row :=
  { parent
    name := r.name?
    mentions := fun reference =>
      if reference ∈ kind.schema.references then reference.mentions r else [] }

@[simp] theorem parent_of (kind : Kind) (parent : Option String) (r : Record) :
    (of kind parent r).parent = parent := rfl

@[simp] theorem name_of (kind : Kind) (parent : Option String) (r : Record) :
    (of kind parent r).name = r.name? := rfl

theorem mentions_of {kind : Kind} {reference : Reference} (h : reference ∈ kind.schema.references)
    (parent : Option String) (r : Record) :
    (of kind parent r).mentions reference = reference.mentions r := by
  simp [of, h]

theorem of_congr {kind : Kind} {parent : Option String} {first second : Record}
    (hname : first.name? = second.name?)
    (hmentions : ∀ reference ∈ kind.schema.references,
      reference.mentions first = reference.mentions second) :
    of kind parent first = of kind parent second := by
  simp only [of, hname, mk.injEq, true_and]
  funext reference
  by_cases h : reference ∈ kind.schema.references
  · simp [h, hmentions reference h]
  · simp [h]

theorem of_congr_get? {kind : Kind} {parent : Option String} {first second : Record}
    (hname : first.get? "name" = second.get? "name")
    (hroots : ∀ reference ∈ kind.schema.references,
      first.get? reference.path.root = second.get? reference.path.root) :
    of kind parent first = of kind parent second := by
  apply of_congr
  · simp only [Record.name?_eq, hname]
  · intro reference hmem
    simp only [Reference.mentions, hroots reference hmem]

theorem of_mapHeld (kind : Kind) (parent : Option String)
    (f : Kind → Option String → Record → Record) (r : Record) :
    of kind parent (kind.mapHeld f r) = of kind parent r := by
  apply of_congr_get?
  · exact Kind.get?_mapHeld_of_none kind.heldIn?_name f r
  · intro reference hmem
    exact Kind.get?_mapHeld_of_none (Kind.heldIn?_root hmem) f r

theorem of_ite_mapHeld (kind : Kind) (parent : Option String)
    (f : Kind → Option String → Record → Record) (r : Record) (p : Prop) [Decidable p] :
    of kind parent (if p then kind.mapHeld f r else r) = of kind parent r := by
  split
  · exact of_mapHeld kind parent f r
  · rfl

end Row

/-- The rows of a tree, kind by kind. -/
abbrev Rows := Kind → List Row

def Tree.rows (t : Tree) : Rows := fun kind =>
  (t.entries kind).map fun entry => Row.of kind entry.1 entry.2

theorem Tree.mem_rows {t : Tree} {kind : Kind} {row : Row} :
    row ∈ t.rows kind ↔ ∃ parent r, (parent, r) ∈ t.entries kind ∧ Row.of kind parent r = row := by
  simp [rows]

theorem Tree.rows_of_top (t : Tree) {kind : Kind} (h : kind.parent = none) :
    t.rows kind = (t.tops kind).map (Row.of kind none) := by
  simp only [rows, entries_of_top t h, List.map_map]
  rfl

theorem Tree.rows_of_nested (t : Tree) {kind parent : Kind} {field : String}
    (h : kind.location = .nested parent field) :
    t.rows kind = (t.tops parent).flatMap fun holder =>
      (holder.records field).map (Row.of kind holder.name?) := by
  simp only [rows, entries_of_nested t h, List.map_flatMap, heldBy, List.map_map]
  rfl

theorem Tree.parent_mem_names {t : Tree} {kind parentKind : Kind}
    (h : kind.parent = some parentKind) {row : Row} (hrow : row ∈ t.rows kind) {name : String}
    (hname : row.parent = some name) : name ∈ t.names parentKind none := by
  obtain ⟨field, hlocation⟩ := Kind.parent_eq_some_iff.mp h
  have htop : parentKind.parent = none := Kind.parent_of_holder h
  obtain ⟨q, r, hentry, rfl⟩ := mem_rows.mp hrow
  obtain ⟨holder, hholder, hholderName, _⟩ := (mem_entries_of_nested hlocation).mp hentry
  refine mem_names.mpr ⟨none, holder, ?_, .inl rfl, hholderName.trans hname⟩
  rw [entries_of_top t htop]
  exact List.mem_map_of_mem hholder

theorem Tree.rows_congr {t u : Tree} {kind : Kind} (h : t.entries kind = u.entries kind) :
    t.rows kind = u.rows kind := by
  simp only [rows, h]

/-! ## Reach -/

namespace Reach

/-- Under the named parent, nowhere if there is no name. -/
def ofName : Option String → Reach
  | some parent => under parent
  | none => nowhere

/-- Whether the records under a parent are reached. -/
def admits (reach : Reach) (parent : Option String) : Bool :=
  match reach with
  | everywhere => true
  | under p => parent = some p
  | nowhere => false

theorem names_eq (reach : Reach) (t : Tree) (kind : Kind) :
    reach.names t kind = ((t.located kind).filter fun entry => reach.admits entry.parent).filterMap
      fun entry => entry.record.name? := by
  cases reach with
  | everywhere => simp [names, admits, Tree.names, Tree.collection, List.filterMap_map]
  | under parent => simp [names, admits, Tree.names, Tree.collection, List.filterMap_map]
  | nowhere => simp [names, admits]

theorem mem_names {reach : Reach} {t : Tree} {kind : Kind} {name : String} :
    name ∈ reach.names t kind ↔
      ∃ row ∈ t.rows kind, reach.admits row.parent = true ∧ row.name = some name := by
  simp only [names_eq, Tree.rows, Tree.entries, List.mem_filterMap, List.mem_filter,
    List.mem_map, and_assoc, exists_exists_and_eq_and, Row.parent_of, Row.name_of]

theorem ofName_eq_under {name? : Option String} {name : String} :
    ofName name? = .under name ↔ name? = some name := by
  cases name? <;> simp [ofName]

theorem admits_ofName {name? parent : Option String} :
    (ofName name?).admits parent = true ↔ ∃ name, name? = some name ∧ parent = some name := by
  cases name? <;> simp [ofName, admits]

/-- Where records are met, they are admitted unless they lack the name that is asked for. -/
theorem admits_iff_meets {reach : Reach} {parent : Option String} :
    reach.admits parent = true ↔
      reach.meets parent = true ∧ ¬(parent = none ∧ ∃ name, reach = .under name) := by
  cases reach with
  | everywhere => simp [admits, meets]
  | under name => cases parent <;> simp [admits, meets]
  | nowhere => simp [admits, meets]

theorem meets_of_admits {reach : Reach} {parent : Option String}
    (h : reach.admits parent = true) : reach.meets parent = true :=
  (admits_iff_meets.mp h).1

end Reach

namespace Row

/-- The name that the field of a scope holds in a row. -/
def scopeName (row : Row) (field : String) (target : Kind) : Option String :=
  (row.mentions (.scopeSource field target)).head?

/-- What a reference in a row reaches. -/
def reach (rows : Rows) (kind : Kind) (row : Row) (reference : Reference) : Reach :=
  match reference.scope with
  | .anywhere => .everywhere
  | .sibling => .ofParent row.parent
  | .underField field => .ofName (row.scopeName field reference.target)
  | .underParentField field =>
      match kind.parent, row.parent with
      | some parentKind, some name =>
          .ofName (((rows parentKind).find? fun holder => holder.name = some name).bind
            fun holder => holder.scopeName field reference.target)
      | _, _ => .nowhere

/-- The row that holds a row, with its kind, if there is one. -/
def holder? (rows : Rows) (kind : Kind) (row : Row) : Option (Kind × Row) :=
  kind.parent.bind fun parentKind => row.parent.bind fun name =>
    ((rows parentKind).find? fun holder => holder.name = some name).map (Prod.mk parentKind)

theorem mem_of_holder? {rows : Rows} {kind : Kind} {row : Row} {found : Kind × Row}
    (h : row.holder? rows kind = some found) :
    kind.parent = some found.1 ∧ found.2 ∈ rows found.1 ∧ row.parent = found.2.name := by
  obtain ⟨parentKind, hparent, h⟩ := Option.bind_eq_some_iff.mp h
  obtain ⟨name, hname, h⟩ := Option.bind_eq_some_iff.mp h
  obtain ⟨holder, hfind, rfl⟩ := Option.map_eq_some_iff.mp h
  have hholder : holder.name = some name := by simpa using List.find?_some hfind
  exact ⟨hparent, List.mem_of_find?_eq_some hfind, hname.trans hholder.symm⟩

theorem holder?_congr {rows more : Rows} {kind : Kind} {row : Row}
    (h : ∀ parentKind name, kind.parent = some parentKind → row.parent = some name →
      (more parentKind).find? (fun holder => holder.name = some name) =
        (rows parentKind).find? fun holder => holder.name = some name) :
    row.holder? more kind = row.holder? rows kind := by
  unfold holder?
  refine Option.bind_congr fun parentKind hparent => Option.bind_congr fun name hname => ?_
  rw [h parentKind name hparent hname]

/-- Rows that are changed under their names hold what they held. -/
theorem holder?_map (rows : Rows) (f : Kind → Row → Row)
    (hname : ∀ kind row, (f kind row).name = row.name) (kind : Kind) (row : Row) :
    row.holder? (fun kind => (rows kind).map (f kind)) kind =
      (row.holder? rows kind).map fun found => (found.1, f found.1 found.2) := by
  unfold holder?
  cases kind.parent with
  | none => rfl
  | some parentKind =>
      cases row.parent with
      | none => rfl
      | some name =>
          simp only [Option.bind_some, List.find?_map, Option.map_map, Function.comp_def, hname]

theorem reach_underParentField {reference : Reference} {field : String}
    (h : reference.scope = .underParentField field) (rows : Rows) (kind : Kind) (row : Row) :
    row.reach rows kind reference = .ofName ((row.holder? rows kind).bind fun found =>
      found.2.scopeName field reference.target) := by
  simp only [reach, h, holder?]
  cases kind.parent with
  | none => rfl
  | some parentKind =>
      cases row.parent with
      | none => rfl
      | some name =>
          simp only [Option.bind_some]
          cases (rows parentKind).find? fun holder => holder.name = some name <;> rfl

/-- Other rows matter to what a row reaches only by the name that is read in its holder. -/
theorem reach_eq_of_holder {rows more : Rows} {kind : Kind} {reference : Reference} {row : Row}
    (h : ∀ field, reference.scope = .underParentField field →
      ((row.holder? more kind).bind fun found => found.2.scopeName field reference.target) =
        (row.holder? rows kind).bind fun found => found.2.scopeName field reference.target) :
    row.reach more kind reference = row.reach rows kind reference := by
  cases hscope : reference.scope with
  | anywhere | sibling | underField _ => simp only [reach, hscope]
  | underParentField field =>
      rw [reach_underParentField hscope, reach_underParentField hscope, h field hscope]

theorem reach_of_holder?_eq {rows more : Rows} {kind : Kind} {row : Row}
    (h : row.holder? more kind = row.holder? rows kind) (reference : Reference) :
    row.reach more kind reference = row.reach rows kind reference :=
  reach_eq_of_holder fun field _ => by rw [h]

/-- What a reference reaches depends on the rows of its holder's parent only. -/
theorem reach_congr {rows others : Rows} {kind : Kind}
    (h : ∀ parentKind, kind.parent = some parentKind → rows parentKind = others parentKind)
    (row : Row) (reference : Reference) :
    row.reach rows kind reference = row.reach others kind reference :=
  reach_of_holder?_eq (holder?_congr fun parentKind _ hparent _ => by rw [h parentKind hparent])
    reference

theorem reach_congr_row {rows : Rows} {kind : Kind} {reference : Reference} {first second : Row}
    (hparent : first.parent = second.parent) (hmentions : first.mentions = second.mentions) :
    first.reach rows kind reference = second.reach rows kind reference := by
  simp only [reach, scopeName, hparent, hmentions]

theorem reach_of_top {kind : Kind} {reference : Reference}
    (hmem : reference ∈ kind.schema.references) (htop : reference.target.parent = none)
    (rows : Rows) (row : Row) : row.reach rows kind reference = .everywhere := by
  have hheld : ¬reference.target.parent.isSome := by simp [htop]
  cases hscope : reference.scope with
  | anywhere => simp only [reach, hscope]
  | sibling => exact absurd (Kind.tied_of_sibling hmem hscope).1 hheld
  | underField field => exact absurd (Kind.tied_of_underField hmem hscope).1 hheld
  | underParentField field =>
      obtain ⟨_, _, htarget, _⟩ := Kind.tied_of_underParentField hmem hscope
      exact absurd htarget hheld

/-- A reach that asks for a holder belongs to a reference to records that are held. -/
theorem target_nested_of_under {kind : Kind} {reference : Reference}
    (hmem : reference ∈ kind.schema.references) {rows : Rows} {row : Row} {name : String}
    (hreach : row.reach rows kind reference = .under name) : reference.target.parent ≠ none := by
  intro htop
  rw [reach_of_top hmem htop] at hreach
  cases hreach

theorem admits_of_meets {kind : Kind} {reference : Reference}
    (hmem : reference ∈ kind.schema.references) {parent : Option String}
    (haddress : parent.isSome = reference.target.parent.isSome) {rows : Rows} {row : Row}
    (h : (row.reach rows kind reference).meets parent = true) :
    (row.reach rows kind reference).admits parent = true := by
  refine Reach.admits_iff_meets.mpr ⟨h, ?_⟩
  rintro ⟨rfl, name, hreach⟩
  exact target_nested_of_under hmem hreach (by simpa using haddress.symm)

/-- Whether a name at a reference in a row means something. -/
def Resolves (rows : Rows) (kind : Kind) (row : Row) (reference : Reference) (name : String) :
    Prop :=
  reference.keep = some name ∨
    ∃ target ∈ rows reference.target,
      (row.reach rows kind reference).admits target.parent = true ∧ target.name = some name

/-- What names mean in a row does not depend on its own name. -/
theorem Resolves.congr {rows : Rows} {kind : Kind} {reference : Reference} {name : String}
    {first second : Row} (h : first.Resolves rows kind reference name)
    (hparent : first.parent = second.parent) (hmentions : first.mentions = second.mentions) :
    second.Resolves rows kind reference name := by
  rwa [Resolves, ← reach_congr_row hparent hmentions]

end Row

theorem Reach.ofField_eq (r : Record) (field : String) :
    Reach.ofField r field = .ofName (r.filled? field) := by
  unfold Reach.ofField Reach.ofName
  cases r.filled? field <;> rfl

theorem Row.scopeName_of {kind : Kind} {field : String} {target : Kind}
    (h : Reference.scopeSource field target ∈ kind.schema.references) (parent : Option String)
    (r : Record) : (Row.of kind parent r).scopeName field target = r.filled? field := by
  rw [scopeName, mentions_of h, Reference.scopeSource, Reference.mentions_one]
  cases r.filled? field <;> rfl

theorem Row.mentions_scopeSource (kind : Kind) (parent : Option String) (r : Record)
    (field : String) (target : Kind) :
    (Row.of kind parent r).mentions (.scopeSource field target) =
      ((Row.of kind parent r).scopeName field target).toList := by
  by_cases h : Reference.scopeSource field target ∈ kind.schema.references
  · rw [scopeName_of h, mentions_of h, Reference.scopeSource, Reference.mentions_one]
  · simp [scopeName, of, h]

namespace Tree

theorem find?_eq (t : Tree) (kind : Kind) (name : String) :
    t.find? kind none name =
      ((t.entries kind).find? fun entry => entry.2.name? = some name).map (·.2) := by
  simp only [find?, collection_eq, Option.isNone_none, Bool.true_or, List.filter_true,
    List.find?_map]
  rfl

theorem find?_rows (t : Tree) (kind : Kind) (name : String) :
    (t.rows kind).find? (fun row => row.name = some name) =
      ((t.entries kind).find? fun entry => entry.2.name? = some name).map
        fun entry => Row.of kind entry.1 entry.2 := by
  simp only [rows, List.find?_map]
  rfl

/-- The rows decide what a declared reference reaches. -/
theorem reach_eq (t : Tree) {kind : Kind} {reference : Reference}
    (h : reference ∈ kind.schema.references) (parent : Option String) (r : Record) :
    reference.scope.reach t kind parent r =
      (Row.of kind parent r).reach t.rows kind reference := by
  unfold Scope.reach Row.reach
  cases hscope : reference.scope with
  | anywhere => rfl
  | sibling => rfl
  | underField field =>
      have hsource := (Kind.tied_of_underField h hscope).2
      simp only [Reach.ofField_eq, Row.scopeName_of hsource]
  | underParentField field =>
      obtain ⟨parentKind, hparent, _, hsource⟩ := Kind.tied_of_underParentField h hscope
      simp only [hparent]
      cases parent with
      | none => rfl
      | some name =>
          have hrow : (Row.of kind (some name) r).parent = some name := rfl
          simp only [hrow, find?_eq, find?_rows]
          cases (t.entries parentKind).find? fun entry => entry.2.name? = some name with
          | none => rfl
          | some entry =>
              simp only [Option.map_some, Option.bind_some, Reach.ofField_eq]
              rw [Row.scopeName_of hsource]

theorem reached_eq (t : Tree) {kind : Kind} {reference : Reference}
    (h : reference ∈ kind.schema.references) (parent : Option String) (r : Record) :
    t.reached kind parent r reference =
      ((Row.of kind parent r).reach t.rows kind reference).names t reference.target := by
  rw [reached, reach_eq t h]

/-- Every name at a reference means something. -/
def Consistent (t : Tree) : Prop :=
  ∀ kind, ∀ entry ∈ t.entries kind, ∀ reference ∈ kind.schema.references,
    ∀ name ∈ reference.mentions entry.2,
      reference.keep = some name ∨ name ∈ t.reached kind entry.1 entry.2 reference

end Tree

/-- Every name in every row means something. -/
def Rows.Consistent (rows : Rows) : Prop :=
  ∀ kind, ∀ row ∈ rows kind, ∀ reference ∈ kind.schema.references,
    ∀ name ∈ row.mentions reference, row.Resolves rows kind reference name

theorem Tree.consistent_iff (t : Tree) : t.Consistent ↔ t.rows.Consistent := by
  constructor
  · intro h kind row hrow reference hmem name hname
    obtain ⟨parent, r, hentry, rfl⟩ := Tree.mem_rows.mp hrow
    rw [Row.mentions_of hmem] at hname
    rcases h kind (parent, r) hentry reference hmem name hname with hkeep | hreached
    · exact .inl hkeep
    · rw [reached_eq t hmem] at hreached
      exact .inr (Reach.mem_names.mp hreached)
  · intro h kind entry hentry reference hmem name hname
    have hrow : Row.of kind entry.1 entry.2 ∈ t.rows kind :=
      Tree.mem_rows.mpr ⟨entry.1, entry.2, hentry, rfl⟩
    rw [← Row.mentions_of hmem entry.1] at hname
    rcases h kind _ hrow reference hmem name hname with hkeep | hreached
    · exact .inl hkeep
    · rw [reached_eq t hmem]
      exact .inr (Reach.mem_names.mpr hreached)

end Blueprint
