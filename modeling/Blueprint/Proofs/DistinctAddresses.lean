import Blueprint.Proofs.Refinement
import Blueprint.Proofs.SaveGate
import Blueprint.Proofs.SpelledDocuments
import Mathlib.Data.List.Nodup

/-!
# Distinct addresses

No two blocks of a document define the same address, as long as the names tell the records
apart word by word.
-/

namespace Blueprint

open Terraform

/-- Whether a record of a kind stands for something outside the deployment. -/
def Kind.imports (kind : Kind) (r : Record) : Bool :=
  match kind with
  | .resourceGroup | .transitGateway | .sshKey | .keyManagement | .objectStorage | .database
  | .appId => r.flag "use_data"
  | _ => false

/-- The kinds of service instances. -/
def Kind.services : List Kind :=
  [.dns, .keyManagement, .objectStorage, .eventStreams, .secretsManager, .appId]

namespace Tree

/-- The words of the names tell apart what is labelled in the same way. Nothing else can
bring two blocks to one address. -/
structure WordsApart (t : Tree) : Prop where
  /-- Two names of one kind do not have the same words, unless one of the two records is
  imported and the other is not. -/
  own : ∀ kind : Kind, kind.location = .collection → ∀ r ∈ t.tops kind, ∀ s ∈ t.tops kind,
    kind.imports r = kind.imports s → leadingWords kind r = leadingWords kind s →
      r.label = s.label
  /-- What is never imported, a random suffix and the authorization of block storage, is
  told apart even then. -/
  marked : ∀ kind flag, (kind, flag) ∈ [(Kind.objectStorage, "use_random_suffix"),
    (Kind.keyManagement, "authorize_vpc_reader_role")] → ∀ r ∈ t.tops kind, ∀ s ∈ t.tops kind,
      r.flag flag = true → s.flag flag = true → r.nameWords = s.nameWords → r.label = s.label
  /-- No two held records of one kind have the same words behind those of their holders. -/
  held : ∀ kind parentKind field, kind.location = .nested parentKind field →
    ((t.tops parentKind).flatMap (heldWords kind parentKind field)).Nodup
  /-- Neither have address prefixes behind those of their VPCs. -/
  prefixes : ((t.tops .vpc).flatMap fun vpc => (vpc.records "address_prefixes").map fun entry =>
    vpc.nameWords ++ entry.nameWords).Nodup
  /-- Neither have key rings behind those of their instances. -/
  rings : ((t.tops .keyManagement).flatMap fun r => (KeyManagement.rings r).map fun ring =>
    r.nameWords ++ Terraform.nameWords ring).Nodup
  /-- No two connections have the words of the same gateway and the same peer. -/
  connections : ((t.tops .transitGateway).flatMap fun gateway =>
    (TransitGateways.connections gateway).map connectionWords).Nodup
  /-- No VPC is attached twice to a zone, nor in words to another one. -/
  networks : ((t.tops .dns).flatMap networkWords).Nodup
  /-- No two services that read keys have the same words around those of their instances. -/
  authorizations : ((t.tops .objectStorage).flatMap (authorizationWords ["cos", "to"]) ++
    (t.tops .secretsManager).flatMap (authorizationWords ["secrets", "manager", "to"])).Nodup
  /-- An instance whose label does not tell its service has not the words of another
  service's label. -/
  services : ∀ kind ∈ Kind.services, serviceWords kind = [] → ∀ other ∈ Kind.services,
    kind ≠ other → ∀ r ∈ t.tops kind, ∀ s ∈ t.tops other, kind.imports r = other.imports s →
      r.nameWords ≠ s.nameWords ++ serviceWords other
  /-- Service credentials of object storage have not the words of App ID keys. -/
  credentials : ∀ storage ∈ t.tops .objectStorage, ∀ appId ∈ t.tops .appId,
    ∀ words ∈ heldWords .storageKey .objectStorage "keys" storage,
      words ∉ heldWords .appIdKey .appId "keys" appId

/-! ## Labels of one kind -/

/-- The names of top-level records of one kind are distinct. -/
def NamesDistinct (t : Tree) : Prop :=
  ∀ kind : Kind, kind.location = .collection → ((t.tops kind).map Record.label).Nodup

end Tree

namespace Terraform

theorem resourceIf_cases (condition : Bool) (words : List String) :
    resourceIf condition words = [(false, words)] ∨ resourceIf condition words = [] := by
  cases condition
  · exact .inr rfl
  · exact .inl rfl

/-- Resources are distinct if their labels are, whatever all of these end with. -/
theorem nodup_resources {records : List Record} {ending : List String}
    {words : Record → List (List String)} (h : (records.flatMap words).Nodup) :
    (records.flatMap fun r => resources ending (words r)).Nodup := by
  have hmap : (records.flatMap fun r => resources ending (words r)) =
      (records.flatMap words).map fun words => (false, words ++ ending) := by
    rw [List.map_flatMap]
    rfl
  rw [hmap]
  exact h.map fun first second heq => by simpa using heq

end Terraform

namespace Tree

variable {t : Tree}

/-- What is told of records of one kind is told once if it tells which record it is for. -/
theorem nodup_tops {β : Type} (hnames : t.NamesDistinct) {kind : Kind}
    (hkind : kind.location = .collection) {f : Record → List β} {label : Record → β}
    (hf : ∀ r, f r = [label r] ∨ f r = [])
    (htell : ∀ r ∈ t.tops kind, ∀ s ∈ t.tops kind, f r ≠ [] → f s ≠ [] → label r = label s →
      r.label = s.label) : ((t.tops kind).flatMap f).Nodup := by
  have hlabels : (t.tops kind).Pairwise fun r s => r.label ≠ s.label :=
    List.pairwise_map.mp (hnames kind hkind)
  refine List.nodup_flatMap.mpr ⟨fun r _ => ?_, hlabels.imp_of_mem fun {r s} hr hs hne => ?_⟩
  · rcases hf r with hone | hnone
    · simp [hone]
    · simp [hnone]
  · intro b hb hb'
    have hfilled : f r ≠ [] := List.ne_nil_of_mem hb
    have hfilled' : f s ≠ [] := List.ne_nil_of_mem hb'
    have hlabel : b = label r := by simpa [(hf r).resolve_right hfilled] using hb
    have hlabel' : b = label s := by simpa [(hf s).resolve_right hfilled'] using hb'
    exact hne (htell r hr s hs hfilled hfilled' (hlabel.symm.trans hlabel'))

theorem nodup_tops_single {β : Type} {kind : Kind} (hkind : kind.location = .single)
    {f : Record → List β} {label : Record → β} (hf : ∀ r, f r = [label r] ∨ f r = []) :
    ((t.tops kind).flatMap f).Nodup := by
  rw [tops_eq_single t hkind]
  cases t.single? kind with
  | none => simp
  | some r => rcases hf r with hone | hnone <;> simp [*]

namespace WordsApart

theorem nodup_own (h : t.WordsApart) (hnames : t.NamesDistinct) {kind : Kind}
    (hkind : kind.location = .collection) {f : Record → List (Bool × List String)}
    {label : Record → Bool × List String} (hf : ∀ r, f r = [label r] ∨ f r = [])
    (htell : ∀ r s, label r = label s →
      kind.imports r = kind.imports s ∧ leadingWords kind r = leadingWords kind s) :
    ((t.tops kind).flatMap f).Nodup := by
  refine nodup_tops hnames hkind hf fun r hr s hs _ _ heq => ?_
  obtain ⟨himports, hleading⟩ := htell r s heq
  exact h.own kind hkind r hr s hs himports hleading

theorem nodup_marked (h : t.WordsApart) (hnames : t.NamesDistinct) {kind : Kind} {flag : String}
    (hmem : (kind, flag) ∈ [(Kind.objectStorage, "use_random_suffix"),
      (Kind.keyManagement, "authorize_vpc_reader_role")]) (hkind : kind.location = .collection)
    (ending : List String) :
    ((t.tops kind).flatMap fun r => resourceIf (r.flag flag) (r.nameWords ++ ending)).Nodup := by
  refine nodup_tops hnames hkind (fun r => resourceIf_cases _ _)
    fun r hr s hs hfilled hfilled' heq => ?_
  have hmarked (r : Record) (hfilled : resourceIf (r.flag flag) (r.nameWords ++ ending) ≠ []) :
      r.flag flag = true := by
    cases hflag : r.flag flag with
    | true => rfl
    | false => exact absurd (by rw [hflag]; rfl) hfilled
  exact h.marked kind flag hmem r hr s hs (hmarked r hfilled) (hmarked s hfilled')
    (List.append_cancel_right (Prod.mk.inj heq).2)

theorem nodup_rotated (h : t.WordsApart) : ((t.tops .keyManagement).flatMap fun r =>
    ((r.records "keys").filter rotates).map fun key => r.nameWords ++ key.nameWords).Nodup := by
  refine (h.held .encryptionKey .keyManagement "keys" rfl).sublist ?_
  refine List.Sublist.flatMap_right _ fun r _ => ?_
  have hwords : heldWords .encryptionKey .keyManagement "keys" r =
      (r.records "keys").map fun key => r.nameWords ++ key.nameWords := by
    simp [heldWords, leadingWords, linkWords]
  rw [hwords]
  exact List.filter_sublist.map _

private theorem ending_inj {b b' : Bool} {first second ending : List String}
    (h : (b, first ++ ending) = (b', second ++ ending)) : b = b' ∧ first = second :=
  ⟨(Prod.mk.inj h).1, List.append_cancel_right (Prod.mk.inj h).2⟩

private theorem start_inj {first second start : List String}
    (h : (false, start ++ first) = (false, start ++ second)) : first = second :=
  List.append_cancel_left (Prod.mk.inj h).2

/-- What is told of the records of one kind is told once, type by type. -/
theorem nodup_entry (h : t.WordsApart) (hnames : t.NamesDistinct) (kind : Kind) :
    ∀ entry ∈ labelWords kind, ((t.tops kind).flatMap entry.2).Nodup := by
  have hone {f : Record → Bool × List String} (r : Record) : [f r] = [f r] ∨ [f r] = [] := .inl rfl
  -- what labels have in common at either end cancels, and leaves the words of the name
  cases kind <;> simp only [labelWords, List.forall_mem_cons, List.not_mem_nil,
    IsEmpty.forall_iff, implies_true, and_true]
  case resourceGroup | database =>
    exact h.nodup_own hnames rfl hone fun r s heq => Prod.mk.inj heq
  case sshKey | eventStreams =>
    exact h.nodup_own hnames rfl hone fun r s heq => ending_inj heq
  case classicSshKey | classicVlan =>
    exact h.nodup_own hnames rfl (fun r => resourceIf_cases _ _) fun r s heq =>
      ⟨rfl, start_inj heq⟩
  case vpc =>
    refine ⟨?_, nodup_resources h.prefixes, nodup_resources (h.held _ _ _ rfl), ?_⟩
    · exact h.nodup_own hnames rfl hone fun r s heq => ending_inj heq
    · exact h.nodup_own hnames rfl (fun r => resourceIf_cases _ _) fun r s heq => ending_inj heq
  case securityGroup =>
    refine ⟨?_, nodup_resources (h.held _ _ _ rfl)⟩
    exact h.nodup_own hnames rfl hone fun r s heq => ending_inj heq
  case transitGateway =>
    refine ⟨?_, nodup_resources h.connections⟩
    refine h.nodup_own hnames rfl hone fun r s heq => ?_
    obtain ⟨hflag, hwords⟩ := Prod.mk.inj heq
    refine ⟨hflag, ?_⟩
    show r.nameWords = s.nameWords
    rw [hflag] at hwords
    cases hdata : s.flag "use_data" <;> simpa [hdata] using hwords
  case dns =>
    refine ⟨?_, nodup_resources (h.held _ _ _ rfl), nodup_resources h.networks,
      nodup_resources (h.held _ _ _ rfl), nodup_resources (h.held _ _ _ rfl)⟩
    exact h.nodup_own hnames rfl hone fun r s heq => ending_inj heq
  case keyManagement =>
    refine ⟨?_, h.nodup_marked hnames (by simp) rfl _, nodup_resources h.rings,
      nodup_resources (h.held _ _ _ rfl), nodup_resources h.nodup_rotated⟩
    exact h.nodup_own hnames rfl hone fun r s heq => ending_inj heq
  case objectStorage =>
    refine ⟨h.nodup_marked hnames (by simp) rfl _, ?_,
      nodup_resources h.authorizations.of_append_left, nodup_resources (h.held _ _ _ rfl),
      nodup_resources (h.held _ _ _ rfl)⟩
    exact h.nodup_own hnames rfl hone fun r s heq => ending_inj heq
  case secretsManager =>
    refine ⟨nodup_resources h.authorizations.of_append_right, ?_⟩
    exact h.nodup_own hnames rfl hone fun r s heq => ending_inj heq
  case appId =>
    refine ⟨?_, nodup_resources (h.held _ _ _ rfl)⟩
    exact h.nodup_own hnames rfl hone fun r s heq => ending_inj heq
  case accountSettings =>
    exact nodup_tops_single rfl fun r => resourceIf_cases _ _
  case accessGroup =>
    refine ⟨?_, nodup_resources (h.held _ _ _ rfl), nodup_resources (h.held _ _ _ rfl), ?_⟩
    · exact h.nodup_own hnames rfl hone fun r s heq => ending_inj heq
    · exact h.nodup_own hnames rfl (fun r => resourceIf_cases _ _) fun r s heq => ending_inj heq
  case activityTracker =>
    exact ⟨nodup_tops_single rfl fun r => resourceIf_cases _ _,
      nodup_tops_single rfl fun r => resourceIf_cases _ _⟩

end WordsApart

end Tree

/-! ## Labels of several kinds -/

namespace Terraform

/-- The types of the blocks for a kind. -/
def blockTypes (kind : Kind) : List String := (labelWords kind).map Prod.fst

theorem nodup_blockTypes (kind : Kind) : (blockTypes kind).Nodup := by
  cases kind <;> simp [blockTypes, labelWords]

/-- Three types are shared by several kinds. -/
theorem shared_of_mem_blockTypes {kind other : Kind} (hne : kind ≠ other) {type : String}
    (h : type ∈ blockTypes kind) (h' : type ∈ blockTypes other) :
    type ∈ ["ibm_resource_instance", "ibm_iam_authorization_policy", "ibm_resource_key"] := by
  have hall : (Kind.all.all fun kind => Kind.all.all fun other => kind = other ||
      (blockTypes kind).all fun type => !(blockTypes other).contains type ||
        ["ibm_resource_instance", "ibm_iam_authorization_policy",
          "ibm_resource_key"].contains type) = true := by
    decide +kernel
  have hkinds := List.all_eq_true.mp (List.all_eq_true.mp hall kind kind.mem_all) other
    other.mem_all
  simp only [hne, decide_false, Bool.false_or] at hkinds
  simpa [h'] using List.all_eq_true.mp hkinds type h

theorem mem_spellings_instance {kind : Kind} {r : Record} {told : Bool × List String} :
    ("ibm_resource_instance", told) ∈ spellings kind r ↔
      kind ∈ Kind.services ∧ told = (kind.imports r, r.nameWords ++ serviceWords kind) := by
  cases kind <;> simp [spellings, labelWords, Kind.services, Kind.imports, resources,
    resourceIf]

theorem mem_spellings_authorization {kind : Kind} {r : Record} {told : Bool × List String}
    (h : ("ibm_iam_authorization_policy", told) ∈ spellings kind r) :
    kind = .keyManagement ∧ told = (false, r.nameWords ++ ["server", "protect", "policy"]) ∨
      ∃ words, told = (false, words ++ ["kms", "policy"]) ∧
        (kind = .objectStorage ∧ words ∈ authorizationWords ["cos", "to"] r ∨
          kind = .secretsManager ∧
            words ∈ authorizationWords ["secrets", "manager", "to"] r) := by
  cases kind <;> simp [spellings, labelWords, resources, resourceIf] at h ⊢
  case keyManagement => exact h.2
  case objectStorage | secretsManager =>
    obtain ⟨words, hwords, heq⟩ := h
    exact ⟨words, heq.symm, hwords⟩

theorem mem_spellings_credential {kind : Kind} {r : Record} {told : Bool × List String}
    (h : ("ibm_resource_key", told) ∈ spellings kind r) :
    ∃ words, told = (false, words) ∧
      (kind = .objectStorage ∧ words ∈ heldWords .storageKey .objectStorage "keys" r ∨
        kind = .appId ∧ words ∈ heldWords .appIdKey .appId "keys" r) := by
  cases kind <;> simp [spellings, labelWords, resources, resourceIf] at h ⊢
  case objectStorage | appId =>
    obtain ⟨words, hwords, heq⟩ := h
    exact ⟨words, heq.symm, hwords⟩

theorem mem_blockTypes_of_mem_spellings {kind : Kind} {r : Record} {spelling : Spelling}
    (h : spelling ∈ spellings kind r) : spelling.1 ∈ blockTypes kind := by
  obtain ⟨entry, hentry, hspelling⟩ := List.mem_flatMap.mp h
  obtain ⟨told, _, rfl⟩ := List.mem_map.mp hspelling
  exact List.mem_map_of_mem hentry

theorem getLast?_serviceWords_ne : ∀ kind ∈ Kind.services, ∀ other ∈ Kind.services,
    kind ≠ other → serviceWords kind ≠ [] → serviceWords other ≠ [] →
      (serviceWords kind).getLast? ≠ (serviceWords other).getLast? := by
  decide

end Terraform

namespace Tree.WordsApart

variable {t : Tree} {kind other : Kind} {r s : Record}

theorem service_ne (h : t.WordsApart) (hkind : kind ∈ Kind.services)
    (hother : other ∈ Kind.services) (hne : kind ≠ other) (hr : r ∈ t.tops kind)
    (hs : s ∈ t.tops other) (himports : kind.imports r = other.imports s) :
    r.nameWords ++ serviceWords kind ≠ s.nameWords ++ serviceWords other := by
  by_cases hbare : serviceWords kind = []
  · rw [hbare, List.append_nil]
    exact h.services kind hkind hbare other hother hne r hr s hs himports
  by_cases hbare' : serviceWords other = []
  · rw [hbare', List.append_nil]
    exact (h.services other hother hbare' kind hkind hne.symm s hs r hr himports.symm).symm
  -- both labels end with words for their services
  intro heq
  have hlast (a b : List String) (hb : b ≠ []) : (a ++ b).getLast? = b.getLast? := by
    rw [List.getLast?_append_of_ne_nil _ hb]
  refine getLast?_serviceWords_ne kind hkind other hother hne hbare hbare' ?_
  rw [← hlast r.nameWords _ hbare, ← hlast s.nameWords _ hbare', heq]

theorem authorization_ne (h : t.WordsApart) (hne : kind ≠ other) (hr : r ∈ t.tops kind)
    (hs : s ∈ t.tops other) {told : Bool × List String}
    (hkind : ("ibm_iam_authorization_policy", told) ∈ spellings kind r)
    (hother : ("ibm_iam_authorization_policy", told) ∈ spellings other s) : False := by
  have hvolume (first second : List String) :
      first ++ ["server", "protect", "policy"] ≠ second ++ ["kms", "policy"] := fun heq => by
    simpa using congrArg List.reverse heq
  have hapart := (List.nodup_append.mp h.authorizations).2.2
  rcases mem_spellings_authorization hkind with ⟨rfl, rfl⟩ | ⟨words, rfl, hwords⟩
  · rcases mem_spellings_authorization hother with ⟨rfl, _⟩ | ⟨words, heq, _⟩
    · exact hne rfl
    · exact hvolume _ _ (Prod.mk.inj heq).2
  · rcases mem_spellings_authorization hother with ⟨rfl, heq⟩ | ⟨words', heq, hwords'⟩
    · exact hvolume _ _ (Prod.mk.inj heq).2.symm
    · obtain rfl := List.append_cancel_right (Prod.mk.inj heq).2
      rcases hwords with ⟨rfl, hwords⟩ | ⟨rfl, hwords⟩ <;>
        rcases hwords' with ⟨rfl, hwords'⟩ | ⟨rfl, hwords'⟩
      · exact hne rfl
      · exact hapart _ (List.mem_flatMap_of_mem hr hwords) _
          (List.mem_flatMap_of_mem hs hwords') rfl
      · exact hapart _ (List.mem_flatMap_of_mem hs hwords') _
          (List.mem_flatMap_of_mem hr hwords) rfl
      · exact hne rfl

theorem credential_ne (h : t.WordsApart) (hne : kind ≠ other) (hr : r ∈ t.tops kind)
    (hs : s ∈ t.tops other) {told : Bool × List String}
    (hkind : ("ibm_resource_key", told) ∈ spellings kind r)
    (hother : ("ibm_resource_key", told) ∈ spellings other s) : False := by
  obtain ⟨words, rfl, hwords⟩ := mem_spellings_credential hkind
  obtain ⟨words', heq, hwords'⟩ := mem_spellings_credential hother
  obtain rfl := (Prod.mk.inj heq).2
  rcases hwords with ⟨rfl, hwords⟩ | ⟨rfl, hwords⟩ <;>
    rcases hwords' with ⟨rfl, hwords'⟩ | ⟨rfl, hwords'⟩
  · exact hne rfl
  · exact h.credentials r hr s hs _ hwords hwords'
  · exact h.credentials s hs r hr _ hwords' hwords
  · exact hne rfl

/-- Records of different kinds share no address. -/
theorem disjoint_spellings (h : t.WordsApart) (hne : kind ≠ other) (hr : r ∈ t.tops kind)
    (hs : s ∈ t.tops other) : (spellings kind r).Disjoint (spellings other s) := by
  rintro ⟨type, told⟩ hkind hother
  have hshared := shared_of_mem_blockTypes hne (mem_blockTypes_of_mem_spellings hkind)
    (mem_blockTypes_of_mem_spellings hother)
  simp only [List.mem_cons, List.not_mem_nil, or_false] at hshared
  rcases hshared with rfl | rfl | rfl
  · obtain ⟨hservice, rfl⟩ := mem_spellings_instance.mp hkind
    obtain ⟨hservice', heq⟩ := mem_spellings_instance.mp hother
    obtain ⟨himports, hwords⟩ := Prod.mk.inj heq
    exact h.service_ne hservice hservice' hne hr hs himports hwords
  · exact h.authorization_ne hne hr hs hkind hother
  · exact h.credential_ne hne hr hs hkind hother

end Tree.WordsApart

/-! ## Documents -/

theorem perm_flatMap_comm {α β γ : Type} (first : List α) (second : List β)
    (f : α → β → List γ) :
    (first.flatMap fun a => second.flatMap fun b => f a b).Perm
      (second.flatMap fun b => first.flatMap fun a => f a b) := by
  induction first with
  | nil => simp
  | cons a rest ih =>
      simp only [List.flatMap_cons]
      exact (ih.append_left _).trans (List.flatMap_append_perm _ _ _)

namespace Tree

variable {t : Tree}

theorem WordsApart.nodup_kind (h : t.WordsApart) (hnames : t.NamesDistinct) (kind : Kind) :
    ((t.tops kind).flatMap (spellings kind)).Nodup := by
  -- type by type instead of record by record
  have hperm : ((t.tops kind).flatMap (spellings kind)).Perm ((labelWords kind).flatMap fun entry =>
      ((t.tops kind).flatMap entry.2).map (entry.1, ·)) := by
    simp only [List.map_flatMap]
    exact perm_flatMap_comm (t.tops kind) (labelWords kind) fun r entry =>
      (entry.2 r).map (entry.1, ·)
  rw [hperm.nodup_iff, List.nodup_flatMap]
  constructor
  · intro entry hentry
    exact (h.nodup_entry hnames kind entry hentry).map fun _ _ heq => (Prod.mk.inj heq).2
  · refine (List.pairwise_map.mp (nodup_blockTypes kind)).imp fun {first second} hne => ?_
    rintro ⟨type, told⟩ hfirst hsecond
    obtain ⟨_, _, heq⟩ := List.mem_map.mp hfirst
    obtain ⟨_, _, heq'⟩ := List.mem_map.mp hsecond
    exact hne ((Prod.mk.inj heq).1.trans (Prod.mk.inj heq').1.symm)

theorem WordsApart.nodup_document (h : t.WordsApart) (hnames : t.NamesDistinct) :
    (Family.documentKinds.flatMap fun kind => (t.tops kind).flatMap (spellings kind)).Nodup := by
  refine List.nodup_flatMap.mpr ⟨fun kind _ => h.nodup_kind hnames kind, ?_⟩
  refine Family.nodup_documentKinds.imp fun {kind other} hne spelling hkind hother => ?_
  obtain ⟨r, hr, hspelling⟩ := List.mem_flatMap.mp hkind
  obtain ⟨s, hs, hspelling'⟩ := List.mem_flatMap.mp hother
  exact h.disjoint_spellings hne hr hs hspelling hspelling'

/-- Providers apart, no two blocks have the same keyword and labels. -/
def AddressesDistinct (t : Tree) : Prop :=
  t.blocks.Pairwise fun first second =>
    first.keyword ≠ "provider" → (first.keyword, first.labels) ≠ (second.keyword, second.labels)

instance (t : Tree) : Decidable t.AddressesDistinct :=
  inferInstanceAs (Decidable (t.blocks.Pairwise _))

theorem keyword_of_mem_provider {b : Block} (h : b ∈ Family.provider.blocks t) :
    b.keyword = "provider" := by
  have hblocks : Family.provider.blocks t = Provider.blocks t :=
    Section.flatMap_ofBlocks "IBM Cloud Provider" (Provider.blocks t)
  rw [hblocks] at h
  simp only [Provider.blocks, List.mem_cons, List.mem_append, List.mem_ite_nil_right,
    List.mem_map, List.not_mem_nil, or_false] at h
  rcases h with (rfl | ⟨_, rfl⟩) | ⟨_, _, _, rfl⟩ <;> rfl

theorem WordsApart.addressesDistinct (h : t.WordsApart) (hnames : t.NamesDistinct) :
    t.AddressesDistinct := by
  have hspellings := (Family.perm_spellings t).nodup_iff.mpr (h.nodup_document hnames)
  have hblocks : t.blocks = Family.provider.blocks t ++
      Family.all.tail.flatMap fun family => family.blocks t := rfl
  rw [AddressesDistinct, hblocks, List.pairwise_append]
  refine ⟨?_, ?_, fun b hb _ _ hkeyword => absurd (keyword_of_mem_provider hb) hkeyword⟩
  · exact List.pairwise_of_forall_mem_list fun b hb _ _ hkeyword =>
      absurd (keyword_of_mem_provider hb) hkeyword
  · refine (List.pairwise_map.mp hspellings).imp fun {first second} hne _ heq => hne ?_
    obtain ⟨hkeyword, hlabels⟩ := Prod.mk.inj heq
    rw [Block.spelling, Block.spelling, hkeyword, hlabels]

theorem namesDistinct_after (calls : List Call) : (default.after calls).NamesDistinct := by
  intro kind hkind
  have hshown := default_showsAll.showsTop.after calls
  have htop : kind.parent = none := Kind.parent_of_collection hkind
  obtain ⟨_, hnodup, hnamed⟩ :=
    (hshown.2 kind hkind).toLists hshown.1 (Kind.addresses_none htop)
  rw [← (hshown.2 kind hkind).names_eq (Kind.addresses_none htop)] at hnodup
  have hlabels := labels_eq_map_some fun r hr => Option.isSome_iff_exists.mpr (hnamed r hr)
  rw [labels_of_top _ htop] at hlabels
  have hmap := congrArg (List.map fun name => name.getD "") hlabels
  simp only [List.map_map, Function.comp_def, Option.getD_some, List.map_id'] at hmap
  exact hmap ▸ hnodup

end Tree

/-- Instances of two services that have the same name, next to the default networks. -/
def logStores : List Call := [
  .create .objectStorage [("name", .text "logs")] .blank,
  .create .bucket [("name", .text "app")] ⟨none, some "logs", []⟩,
  .create .eventStreams [("name", .text "logs")] .blank]

theorem logStores_wordsApart : (Tree.default.after logStores).WordsApart := by
  have hown : ∀ kind ∈ Kind.all, kind.location = .collection →
      ∀ r ∈ (Tree.default.after logStores).tops kind,
      ∀ s ∈ (Tree.default.after logStores).tops kind, kind.imports r = kind.imports s →
        leadingWords kind r = leadingWords kind s → r.label = s.label := by
    decide +kernel
  have hheld : (Kind.all.all fun kind => match kind.location with
      | .nested parentKind field => decide (((Tree.default.after logStores).tops
          parentKind).flatMap (heldWords kind parentKind field)).Nodup
      | _ => true) = true := by
    decide +kernel
  constructor
  · exact fun kind => hown kind kind.mem_all
  · intro kind flag hmem
    rcases List.mem_cons.mp hmem with heq | hmem
    · cases heq
      decide +kernel
    · cases List.mem_singleton.mp hmem
      decide +kernel
  · intro kind parentKind field hlocation
    have hkind := List.all_eq_true.mp hheld kind kind.mem_all
    simpa only [hlocation, decide_eq_true_eq] using hkind
  all_goals decide +kernel

/-- Whether the gate lets a call through. It knows creations and saves only. -/
def Tree.admits (t : Tree) : Call → Bool
  | .create kind fields op => !kind.blocksSave (Draft.recordOf kind fields op.parent) t op
  | .save kind fields op =>
      let stored := if kind.location = .single then t.single? kind
        else t.find? kind op.parent (op.name.getD "")
      !kind.blocksSave ((stored.getD []).extend fields) t op
  | .delete _ _ | .reconcile => false

/-- Whether the gate lets every call of a run through. -/
def Tree.admitsRun (t : Tree) : List Call → Bool
  | [] => true
  | call :: rest => t.admits call && (t.next call).admitsRun rest

/-- Two groups whose names differ by a hyphen. -/
def twinGroups : List Call := [
  .create .resourceGroup [("name", .text "a-b")] .blank,
  .create .resourceGroup [("name", .text "a--b")] .blank]

end Blueprint
