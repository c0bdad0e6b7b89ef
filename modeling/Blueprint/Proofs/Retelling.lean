import Blueprint.Proofs.Consistency
import Blueprint.Proofs.NewNames

/-!
# Retelling

A tree in which a record has got a new name tells of the same records: wherever a name
denoted the record the new name does, all other names are the same, and every name
denotes what it denoted before.
-/

namespace Blueprint

namespace Tree

/-- What a name at a reference in a record becomes when the record at a place gets a new
name. -/
def retold (t : Tree) (ν : Renaming) (index : Nat) (kind : Kind) (parent : Option String)
    (holder : Record) (reference : Reference) (name : String) : String :=
  if reference.target = ν.kind ∧ t.Denotes kind parent holder reference name index then ν.new
  else name

/-- Every name in a tree is told anew in another one and denotes what it denoted. -/
def Retells (t : Tree) (ν : Renaming) (index : Nat) (u : Tree) : Prop :=
  ∀ (kind : Kind) (place : Nat) (q : Option String) (r : Record),
    (t.entries kind)[place]? = some (q, r) →
      ∃ p told, (u.entries kind)[place]? = some (p, told) ∧
        ∀ reference ∈ kind.schema.references,
          reference.mentions told =
              (reference.mentions r).map (t.retold ν index kind q r reference) ∧
            ∀ name ∈ reference.mentions r, ∀ target,
              u.Denotes kind p told reference (t.retold ν index kind q r reference name) target ↔
                t.Denotes kind q r reference name target

end Tree

/-! ## Telling by rows -/

namespace Tree

variable {t u : Tree} {ν : Renaming} {index : Nat}

theorem retells_of_rows (f : Kind → Row → Row)
    (hrows : ∀ kind, u.rows kind = (t.rows kind).map (f kind))
    (h : ∀ kind q r, Row.of kind q r ∈ t.rows kind → ∀ reference ∈ kind.schema.references,
      (f kind (Row.of kind q r)).mentions reference =
          ((Row.of kind q r).mentions reference).map (t.retold ν index kind q r reference) ∧
        ∀ name ∈ (Row.of kind q r).mentions reference, ∀ target,
          (f kind (Row.of kind q r)).Denotes u.rows kind reference
              (t.retold ν index kind q r reference name) target ↔
            (Row.of kind q r).Denotes t.rows kind reference name target) :
    t.Retells ν index u := by
  intro kind place q r hentry
  have hplace : ((u.entries kind).map fun entry => Row.of kind entry.1 entry.2)[place]? =
      some (f kind (Row.of kind q r)) := by
    rw [← rows, hrows, rows, List.getElem?_map, List.getElem?_map, hentry]
    rfl
  rw [List.getElem?_map] at hplace
  obtain ⟨⟨p, told⟩, htold, hrow⟩ := Option.map_eq_some_iff.mp hplace
  have hmem : Row.of kind q r ∈ t.rows kind :=
    mem_rows.mpr ⟨q, r, List.mem_of_getElem? hentry, rfl⟩
  refine ⟨p, told, htold, fun reference href => ?_⟩
  obtain ⟨hmentions, hdenotes⟩ := h kind q r hmem reference href
  simp only [← hrow, Row.mentions_of href] at hmentions hdenotes
  refine ⟨hmentions, fun name hname target => ?_⟩
  rw [denotes_iff u href, denotes_iff t href]
  exact hdenotes name hname target

end Tree

/-- A name denotes the same in rows that may differ in the names of single records. -/
theorem Row.denotes_congr {rows more : Rows}
    (h : ∀ kind : Kind, kind.location ≠ .single → more kind = rows kind) {kind : Kind}
    {reference : Reference} (hmem : reference ∈ kind.schema.references) {first second : Row}
    (hparent : first.parent = second.parent) (hmentions : first.mentions = second.mentions)
    (name : String) (index : Nat) :
    first.Denotes more kind reference name index ↔
      second.Denotes rows kind reference name index := by
  have hreach : first.reach more kind reference = second.reach rows kind reference := by
    rw [reach_congr_row hparent hmentions]
    refine reach_congr (fun parentKind hholder => h parentKind ?_) second reference
    rw [Kind.location_of_parent hholder]
    exact nofun
  rw [Denotes, Denotes, hreach, h _ (Kind.target_listed hmem)]

theorem Renaming.pins_of_keyed {t : Tree} (hkeyed : t.Keyed) {ν : Renaming}
    (hbucket : ν.kind ≠ .bucket) (hkey : ν.kind ≠ .storageKey) {kind : Kind}
    {reference : Reference} (hmem : reference ∈ kind.schema.references) {row : Row}
    (hrow : row ∈ t.rows kind) : ν.Pins t.rows kind row reference := by
  intro htarget hheld
  rw [← htarget] at hbucket hkey hheld
  exact hkeyed.reach_ne_everywhere hmem hheld hbucket hkey hrow

/-! ## What saving a name comes to -/

namespace Tree

variable {t : Tree} {ν : Renaming} {index : Nat}

theorem retells_of_same {u : Tree} (f : Kind → Row → Row)
    (hrows : ∀ kind, u.rows kind = (t.rows kind).map (f kind))
    (hlisted : ∀ kind : Kind, kind.location ≠ .single → f kind = id)
    (hparent : ∀ kind row, (f kind row).parent = row.parent)
    (hmentions : ∀ kind row, (f kind row).mentions = row.mentions)
    (hretold : ∀ kind, ∀ reference ∈ kind.schema.references, ∀ q r,
      t.retold ν index kind q r reference = id) :
    t.Retells ν index u := by
  apply retells_of_rows f hrows
  intro kind q r _ reference hmem
  rw [hretold kind reference hmem, hmentions, List.map_id]
  refine ⟨rfl, fun name _ target => ?_⟩
  apply Row.denotes_congr _ hmem (hparent kind _) (hmentions kind _)
  intro other hother
  rw [hrows, hlisted other hother, List.map_id]

/-- A renaming that is followed through the tree tells it anew. -/
theorem retells_of_finalRows {u : Tree} (hkeyed : t.Keyed) (hconsistent : t.Consistent)
    (hbucket : ν.kind ≠ .bucket) (hkey : ν.kind ≠ .storageKey) (hfits : ν.Fits t.rows)
    {renamed : Row} (hindex : (t.rows ν.kind)[index]? = some renamed)
    (hrenamed : ν.IsRenamed ν.kind renamed) (hu : u.rows = ν.finalRows t.rows) :
    t.Retells ν index u := by
  have hrowsConsistent := (consistent_iff t).mp hconsistent
  apply retells_of_rows (ν.finalRow t.rows)
  · intro kind
    rw [hu, Renaming.finalRows_eq]
  · intro kind q r hrow reference hmem
    have hretold : t.retold ν index kind q r reference =
        ν.mentionOf t.rows kind (Row.of kind q r) reference := by
      funext name
      refine if_congr ?_ rfl rfl
      rw [hfits.means_iff hmem hindex hrenamed, t.denotes_iff hmem]
    rw [hretold, hu]
    refine ⟨hfits.mentions_finalRow hmem hrow, fun name hname target => ?_⟩
    exact hfits.denotes_finalRow hrowsConsistent hmem hrow
      (Renaming.pins_of_keyed hkeyed hbucket hkey hmem hrow) hname target

/-- The record of a kind that has a single one is not denoted at all. -/
theorem saveSingle_name_retells (index : Nat) (hordered : t.Ordered)
    (hconsistent : t.Consistent)
    (hsingle : ν.kind.location = .single) {stored : Record}
    (hstored : (ν.parent, stored) ∈ t.entries ν.kind) :
    t.saveSingle ν.kind [("name", .text ν.new)] = t.renamed ν index ∧
      t.Retells ν index (t.renamed ν index) := by
  have htop : ν.kind.parent = none := Kind.parent_of_single hsingle
  obtain ⟨hnone, hr⟩ := (mem_entries_of_top htop).mp hstored
  have hfound : t.single? ν.kind = some stored := by simpa [tops_eq_single t hsingle] using hr
  have haddress : ν.kind.Addresses ν.parent := hnone ▸ Kind.addresses_none htop
  have htarget : ∀ kind : Kind, ∀ reference ∈ kind.schema.references,
      reference.target ≠ ν.kind := by
    intro kind reference hmem htarget
    exact Kind.target_listed hmem (htarget ▸ hsingle)
  have hkeep : t.renamed ν index = t.mapAll ν.relabel := by
    apply renamed_of_keep
    intro kind reference hmem q r
    funext name
    exact if_neg fun hfollows => htarget kind reference hmem hfollows.2.1
  rw [hkeep]
  refine ⟨saveSingle_name hordered hconsistent hsingle haddress hfound, ?_⟩
  apply retells_of_same _ fun kind => Renaming.rows_relabel_of_single hsingle haddress t kind
  · intro kind hlisted
    have hkind : kind ≠ ν.kind := fun heq => hlisted (heq ▸ hsingle)
    simp only [if_neg hkind]
    rfl
  · intro kind row
    split <;> rfl
  · intro kind row
    split <;> rfl
  · intro kind reference hmem q r
    funext name
    exact if_neg fun hdenotes => htarget kind reference hmem hdenotes.1

theorem retells_of_same_name (hsame : ν.old = ν.new) (hsingle : ν.kind.location ≠ .single)
    (haddress : ν.kind.Addresses ν.parent) {stored : Record}
    (hstored : (t.entries ν.kind)[index]? = some (ν.parent, stored))
    (hold : stored.name? = some ν.old) : t.Retells ν index (t.renamed ν index) := by
  have hkeep : t.renamed ν index = t.mapAll ν.relabel := by
    apply renamed_of_keep
    intro kind reference _ q r
    funext name
    exact if_neg fun hfollows => hfollows.1 hsame
  have hrows : (t.mapAll ν.relabel).rows = t.rows := by
    rw [Renaming.rows_relabel hsingle haddress, Renaming.rows_of_same hsame]
  rw [hkeep]
  apply retells_of_same (fun _ => id)
  · intro kind
    rw [hrows, List.map_id]
  · intro kind _
    rfl
  · intro kind row
    rfl
  · intro kind row
    rfl
  · intro kind reference _ q r
    funext name
    unfold retold
    split
    · next hdenotes =>
        obtain ⟨htarget, p, target, hindex, _, hname⟩ := hdenotes
        rw [htarget, hstored] at hindex
        obtain rfl := congrArg Prod.snd (Option.some.inj hindex)
        rw [hold, hsame] at hname
        exact Option.some.inj hname
    · rfl

end Tree

/-- A rename preserves what every reference denotes. Saving a new name gives the record
its new label, tells it to what the record holds and to what denotes the record, and
changes nothing else. The fields of records stand in order, as they do in a map. -/
theorem save_name_preserves {t u : Tree} (hordered : t.Ordered) (hkeyed : t.Keyed)
    (hconsistent : t.Consistent) {kind : Kind} (hbucket : kind ≠ .bucket)
    (hkey : kind ≠ .storageKey) {index : Nat} {parent : Option String} {stored : Record}
    (hstored : (t.entries kind)[index]? = some (parent, stored)) {op : Context}
    (hop : kind.location = .single ∨ op.addressed kind = .ok parent ∧ op.name = stored.name?)
    {new : String} (hnew : new.isEmpty = false)
    (h : t.save kind [("name", .text new)] op = .ok u) :
    u = t.renamed ⟨kind, parent, stored.label, new⟩ index ∧ u.Consistent ∧
      t.Retells ⟨kind, parent, stored.label, new⟩ index u := by
  have hentry := List.mem_of_getElem? hstored
  unfold Tree.save at h
  by_cases hsingle : kind.location = .single
  · rw [if_pos hsingle] at h
    obtain rfl := Except.ok.inj h
    obtain ⟨hsaved, hretells⟩ := Tree.saveSingle_name_retells
      (ν := ⟨kind, parent, stored.label, new⟩) index hordered hconsistent hsingle hentry
    exact ⟨hsaved, Tree.consistent_saveSingle hconsistent hsingle _, hsaved ▸ hretells⟩
  · rw [if_neg hsingle] at h
    obtain ⟨hop, hname⟩ := hop.resolve_left hsingle
    have haddress := Context.addresses_of_addressed hop
    have hrow : Row.of kind parent stored ∈ t.rows kind := Tree.mem_rows.mpr ⟨_, _, hentry, rfl⟩
    have hold : stored.name? = some stored.label := by
      obtain ⟨name, hrowName⟩ := (hkeyed.named_row hsingle hrow).2
      have hstoredName : stored.name? = some name := hrowName
      rw [hstoredName]
      exact congrArg (fun name? : Option String => some (name?.getD "")) hstoredName.symm
    have hindex : (t.rows kind)[index]? = some (Row.of kind parent stored) := by
      rw [Tree.rows, List.getElem?_map, hstored]
      rfl
    obtain ⟨rfl, hfinal, hfits⟩ := Tree.saveNamed_name (ν := ⟨kind, parent, stored.label, new⟩)
      hordered hkeyed hconsistent hsingle hnew hstored hold hop (hname.trans hold) h
    refine ⟨rfl, hfinal, ?_⟩
    by_cases hne : stored.label = new
    · exact Tree.retells_of_same_name hne hsingle haddress hstored hold
    · apply Tree.retells_of_finalRows hkeyed hconsistent hbucket hkey (hfits hne) hindex
        ⟨rfl, rfl, hold⟩
      exact Tree.rows_renamed haddress hsingle (hfits hne) hne hindex ⟨rfl, rfl, hold⟩

/-- A tree in which keys are found through the instance that other records name. -/
def sampleVaults : List Call := [
  .create .keyManagement [("name", .text "vault")] .blank,
  .create .encryptionKey [("name", .text "root")] ⟨none, some "vault", []⟩,
  .create .objectStorage [("name", .text "store"), ("kms", .text "vault")] .blank,
  .create .bucket [("name", .text "logs"), ("kms_key", .text "root")] ⟨none, some "store", []⟩]

theorem save_name_preserves_sample :
    (Tree.default.after sampleVaults).Ordered ∧ (Tree.default.after sampleVaults).Keyed ∧
    (Tree.default.after sampleVaults).Consistent ∧
    ∃ u, (Tree.default.after sampleVaults).save .keyManagement [("name", .text "strongbox")]
        (.editing "vault" none) = .ok u ∧
      u = (Tree.default.after sampleVaults).renamed
        ⟨.keyManagement, none, "vault", "strongbox"⟩ 0 ∧ u.Consistent ∧
      (Tree.default.after sampleVaults).Retells
        ⟨.keyManagement, none, "vault", "strongbox"⟩ 0 u := by
  obtain ⟨hgrounds, hordered, hplace, hsaves⟩ :
      Tree.default.groundsRun sampleVaults = true ∧
      (Tree.default.after sampleVaults).Ordered ∧
      ((Tree.default.after sampleVaults).entries .keyManagement)[0]?.map
          (fun entry => (entry.1, entry.2.name?)) = some (none, some "vault") ∧
      ((Tree.default.after sampleVaults).save .keyManagement
        [("name", .text "strongbox")] (.editing "vault" none)).toOption.isSome = true := by
    decide +kernel
  have hsound := Tree.sound_after hgrounds
  have hkeyed := hsound.keyed
  have hconsistent := hsound.2
  obtain ⟨u, hsome⟩ := Option.isSome_iff_exists.mp hsaves
  generalize Tree.default.after sampleVaults = t at *
  obtain ⟨⟨_, stored⟩, hstored, hnames⟩ := Option.map_eq_some_iff.mp hplace
  obtain ⟨rfl, hname⟩ := Prod.mk.inj hnames
  have hlabel : stored.label = "vault" := congrArg (Option.getD · "") hname
  cases hsave : t.save .keyManagement [("name", .text "strongbox")] (.editing "vault" none) with
  | error e =>
      rw [hsave] at hsome
      cases hsome
  | ok saved =>
      refine ⟨hordered, hkeyed, hconsistent, saved, rfl, ?_⟩
      rw [← hlabel]
      exact save_name_preserves hordered hkeyed hconsistent (by decide) (by decide) hstored
        (.inr ⟨rfl, hname.symm⟩) (by decide) hsave

end Blueprint
