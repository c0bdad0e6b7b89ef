import Blueprint.Proofs.Fields
import Blueprint.Proofs.GatedFields

/-!
# Fields that a form leaves out

A form leaves out the fields that do not apply to what the record holds otherwise. Two records
that differ in such fields only are taken through the gate side by side. Most rules look whether
their field is shown, and what is left in a field that is not shown makes no difference to them.
The zones of Power VS are left out too while they are chosen in pairs, but hold what was chosen.
-/

namespace Blueprint

namespace Schema

variable {s : Schema} {first second r : Record} {situation : Situation} {name : String}

/-! ## Faults of single fields -/

/-- Whether a requirement is failed on account of one field. -/
def faults (s : Schema) (name : String) (r : Record) (situation : Situation) :
    Requirement → Bool
  | .filled fields => fields.contains name && r.isMissing name
  | .filledUnless flag fields => !r.flag flag && fields.contains name && r.isMissing name
  | .valid fields => fields.contains name && s.fieldInvalid name r situation
  | .passes _ => false

/-- Whether the gate turns a record down on account of one field. -/
def findsFault (s : Schema) (name : String) (r : Record) (situation : Situation) : Bool :=
  s.requirements.any (s.faults name r situation)

/-- The tests of a record as a whole. -/
def tests (s : Schema) : List (Record → Bool) :=
  s.requirements.filterMap fun
    | .passes test => some test
    | .filled _ | .filledUnless _ _ | .valid _ => none

/-- The fields that, set to true, make others needless. -/
def exemptions (s : Schema) : List String :=
  s.requirements.filterMap fun
    | .filledUnless flag _ => some flag
    | .filled _ | .valid _ | .passes _ => none

theorem mem_tests {test : Record → Bool} : test ∈ s.tests ↔ .passes test ∈ s.requirements := by
  rw [tests, List.mem_filterMap]
  constructor
  · rintro ⟨requirement, hmem, htest⟩
    cases requirement <;> cases htest
    exact hmem
  · exact fun hmem => ⟨_, hmem, rfl⟩

theorem fails_eq_true_iff {requirement : Requirement} :
    s.fails r situation requirement = true ↔
      (∃ name, s.faults name r situation requirement = true) ∨
        ∃ test, requirement = .passes test ∧ test r = false := by
  cases requirement with
  | filled fields => simp [fails, faults]
  | filledUnless flag fields => simp [fails, faults, and_assoc]
  | valid fields => simp [fails, faults]
  | passes test => simp [fails, faults]

theorem blocks_eq_true_iff :
    s.blocks r situation = true ↔
      (∃ name, s.findsFault name r situation = true) ∨
        ∃ test ∈ s.tests, test r = false := by
  simp only [mem_tests, blocks, findsFault, List.any_eq_true, fails_eq_true_iff]
  constructor
  · rintro ⟨requirement, hmem, ⟨name, hname⟩ | ⟨test, rfl, htest⟩⟩
    · exact .inl ⟨name, requirement, hmem, hname⟩
    · exact .inr ⟨test, hmem, htest⟩
  · rintro (⟨name, requirement, hmem, hname⟩ | ⟨test, hmem, htest⟩)
    · exact ⟨requirement, hmem, .inl ⟨name, hname⟩⟩
    · exact ⟨_, hmem, .inr ⟨test, rfl, htest⟩⟩

theorem findsFault_congr (hsame : first.get? name = second.get? name)
    (hflags : ∀ flag ∈ s.exemptions, first.flag flag = second.flag flag)
    (hrule : ∀ field ∈ s.fields, field.name = name →
      field.invalid first situation = field.invalid second situation) :
    s.findsFault name first situation = s.findsFault name second situation := by
  have hmissing : first.isMissing name = second.isMissing name := by
    simp only [Record.isMissing, Record.isUnset, Record.list?, hsame]
  have hinvalid : s.fieldInvalid name first situation = s.fieldInvalid name second situation := by
    unfold fieldInvalid field?
    cases hfind : s.fields.find? fun field => field.name = name with
    | none => rfl
    | some field =>
        exact hrule field (List.mem_of_find?_eq_some hfind) (by simpa using List.find?_some hfind)
  rw [findsFault, findsFault, Bool.eq_iff_iff, List.any_eq_true, List.any_eq_true]
  refine exists_congr fun requirement => and_congr_right fun hmem => ?_
  cases requirement with
  | filled fields => rw [faults, faults, hmissing]
  | filledUnless flag fields =>
      have hflag : flag ∈ s.exemptions := List.mem_filterMap.mpr ⟨_, hmem, rfl⟩
      rw [faults, faults, hmissing, hflags flag hflag]
  | valid fields => rw [faults, faults, hinvalid]
  | passes test => rfl

/-! ## Fields that are left out -/

/-- Whether the form leaves out a field, if the schema has the field. -/
def hides (s : Schema) (name : String) (r : Record) : Bool :=
  (s.field? name).any fun field => field.hidden r

theorem hides_eq_false (h : ∀ field ∈ s.fields, field.hidden r = false) :
    s.hides name r = false := by
  rw [hides, Option.any_eq_false]
  intro field hfind
  rw [h field (List.mem_of_find?_eq_some hfind)]

/-- Whether two records hold the same but for fields that are left out for both. -/
def AgreeOnShown (s : Schema) (first second : Record) : Prop :=
  ∀ name, first.get? name = second.get? name ∨
    s.hides name first = true ∧ s.hides name second = true

theorem agreeOnShown_iff : s.AgreeOnShown first second ↔
    ∀ name ∈ first.map (·.1) ++ second.map (·.1), first.get? name = second.get? name ∨
      s.hides name first = true ∧ s.hides name second = true := by
  refine ⟨fun h name _ => h name, fun h name => ?_⟩
  by_cases hname : name ∈ first.map (·.1) ++ second.map (·.1)
  · exact h name hname
  · simp only [List.mem_append, not_or] at hname
    have habsent {r : Record} (h : name ∉ r.map (·.1)) : r.get? name = none :=
      List.lookup_eq_none_iff.mpr fun entry hentry => by
        simpa using fun heq : name = entry.1 => h (heq ▸ List.mem_map_of_mem hentry)
    exact .inl ((habsent hname.1).trans (habsent hname.2).symm)

instance : Decidable (s.AgreeOnShown first second) := decidable_of_iff _ agreeOnShown_iff.symm

theorem AgreeOnShown.get?_eq (h : s.AgreeOnShown first second)
    (hshown : s.hides name first = false) : first.get? name = second.get? name :=
  (h name).resolve_right fun hhidden => by rw [hshown] at hhidden; exact Bool.noConfusion hhidden.1

theorem AgreeOnShown.flag_eq (h : s.AgreeOnShown first second)
    (hshown : s.hides name first = false) : first.flag name = second.flag name := by
  rw [Record.flag, h.get?_eq hshown, Record.flag]

/-- The requirements in which a field stands. -/
def about (s : Schema) (name : String) : List Requirement :=
  s.requirements.filter fun
    | .filled fields | .filledUnless _ fields | .valid fields => fields.contains name
    | .passes _ => false

theorem findsFault_eq_about :
    s.findsFault name r situation = (s.about name).any (s.faults name r situation) := by
  rw [findsFault, about, List.any_filter]
  congr 1
  funext requirement
  cases requirement <;> simp [faults, Bool.and_assoc, Bool.and_left_comm]

/-- How a gate takes no notice of what is left in a field that the form leaves out. -/
inductive Spares (s : Schema) (field : Field) : Prop
  /-- It requires nothing of the field. -/
  | ignores (habout : s.about field.name = [])
  /-- It asks the rule of the field, which looks whether the field is shown. -/
  | asks {fields : List String} (habout : s.about field.name = [.valid fields])
      (hrule : ∀ r situation, field.hidden r = true → field.invalid r situation = false)
  /-- It wants the field filled unless it is left out. -/
  | exempts {flag : String} {fields : List String}
      (habout : s.about field.name = [.filledUnless flag fields])
      (hflag : ∀ r, field.hidden r = true → r.flag flag = true)

theorem Spares.findsFault_eq_false {field : Field} (hspares : s.Spares field)
    (hnodup : (s.fields.map (·.name)).Nodup) (hmem : field ∈ s.fields)
    (hhidden : field.hidden r = true) : s.findsFault field.name r situation = false := by
  rw [findsFault_eq_about]
  cases hspares with
  | ignores habout => rw [habout, List.any_nil]
  | asks habout hrule =>
      have hinvalid : s.fieldInvalid field.name r situation = false := by
        rw [fieldInvalid, field?_eq_some hnodup hmem, Option.any_some, hrule r situation hhidden]
      simp [habout, faults, hinvalid]
  | exempts habout hflag => simp [habout, faults, hflag r hhidden]

end Schema

/-! ## What rules look at -/

namespace Record

variable {names : List String} {name : String} (r : Record)

/-- A record cut down to some of its fields. -/
def only (names : List String) (r : Record) : Record :=
  names.filterMap fun name => (r.get? name).map (name, ·)

theorem get?_only_eq (names : List String) (name : String) :
    (r.only names).get? name = if name ∈ names then r.get? name else none := by
  induction names with
  | nil => rfl
  | cons other rest ih =>
      cases hvalue : r.get? other with
      | none =>
          have hskip : r.only (other :: rest) = r.only rest := by
            simp [only, hvalue]
          by_cases heq : name = other
          · subst heq
            simp [hskip, ih, hvalue]
          · simp [hskip, ih, heq]
      | some value =>
          have hkeep : r.only (other :: rest) = (other, value) :: r.only rest := by
            simp [only, hvalue]
          by_cases heq : name = other
          · subst heq
            simp [hkeep, get?_cons, hvalue]
          · simp [hkeep, get?_cons, ih, heq]

@[simp] theorem get?_only (h : name ∈ names) : (r.only names).get? name = r.get? name := by
  rw [get?_only_eq, if_pos h]

@[simp] theorem text?_only (h : name ∈ names) : (r.only names).text? name = r.text? name := by
  rw [text?, get?_only r h, text?]

@[simp] theorem textOr_only (h : name ∈ names) (fallback : String) :
    (r.only names).textOr name fallback = r.textOr name fallback := by
  rw [textOr, text?_only r h, textOr]

@[simp] theorem filled?_only (h : name ∈ names) :
    (r.only names).filled? name = r.filled? name := by
  rw [filled?, text?_only r h, filled?]

@[simp] theorem flag_only (h : name ∈ names) : (r.only names).flag name = r.flag name := by
  rw [flag, get?_only r h, flag]

@[simp] theorem texts_only (h : name ∈ names) : (r.only names).texts name = r.texts name := by
  rw [texts, list?, get?_only r h, texts, list?]

@[simp] theorem isUnset_only (h : name ∈ names) :
    (r.only names).isUnset name = r.isUnset name := by
  rw [isUnset, get?_only r h, isUnset]

@[simp] theorem isMissing_only (h : name ∈ names) :
    (r.only names).isMissing name = r.isMissing name := by
  rw [isMissing, list?, isUnset_only r h, get?_only r h, isMissing, list?]

end Record

/-- Whether a rule looks at no other fields than some. -/
def ReadsOnly (rule : Record → Situation → Bool) (names : List String) : Prop :=
  ∀ r situation, rule (r.only names) situation = rule r situation

theorem ReadsOnly.congr {rule : Record → Situation → Bool} {names : List String}
    (h : ReadsOnly rule names) {first second : Record}
    (hsame : ∀ name ∈ names, first.get? name = second.get? name) (situation : Situation) :
    rule first situation = rule second situation := by
  have hcut : first.only names = second.only names :=
    List.filterMap_congr fun name hname => by rw [hsame name hname]
  rw [← h first, hcut, h second]

section

variable (name : String) (others : List String)

theorem readsOnly_false (names : List String) : ReadsOnly (fun _ _ => false) names :=
  fun _ _ => rfl

theorem readsOnly_nameInvalid : ReadsOnly nameInvalid ("name" :: others) := by
  intro r situation
  simp [nameInvalid, Record.label]

theorem readsOnly_accepts (limits : Situation → Limits) :
    ReadsOnly (fun r situation => !(limits situation).accepts (r.get? name)) (name :: others) := by
  intro r situation
  simp

theorem readsOnly_isUnset : ReadsOnly (fun r _ => r.isUnset name) (name :: others) := by
  intro r situation
  simp

theorem readsOnly_isMissing : ReadsOnly (fun r _ => r.isMissing name) (name :: others) := by
  intro r situation
  simp

end

namespace Kind

/-- Fields that are always shown and decide about the rules of others. -/
def guards : Kind → List String
  | vpc => Vpc.optionalNames
  | sshKey | transitGateway => ["use_data"]
  | dnsRecord => ["use_vsi"]
  | _ => []

theorem guards_shown (kind : Kind) (r : Record) :
    ∀ name ∈ kind.guards, kind.schema.hides name r = false := by
  cases kind
  all_goals
    repeat' refine List.forall_mem_cons.mpr ⟨rfl, ?_⟩
    exact List.forall_mem_nil _

/-- Apart from the options no rule looks at a field that may be left out, but for its own. -/
theorem rules_read {kind : Kind} (h : kind ≠ .options) :
    ∀ field ∈ kind.schema.fields, ReadsOnly field.invalid (field.name :: kind.guards) := by
  cases kind
  case options => exact absurd rfl h
  all_goals
    repeat' refine List.forall_mem_cons.mpr ⟨?_, ?_⟩
    all_goals first
      | exact List.forall_mem_nil _
      | exact readsOnly_nameInvalid _
      | exact readsOnly_isUnset _ _
      | exact readsOnly_isMissing _ _
      | exact readsOnly_false _
      | exact readsOnly_accepts _ _ fun _ => _
      | (intro r situation
         simp [guards, ObjectStorage.bucketKeyInvalid, Vpc.optionalName, Vpc.optionalNamesInvalid,
           Vpc.optionalNames, Dns.description, Dns.ofServer, Dns.pointsAtServer,
           Database.allocation, EventStreams.offered, Field.quantity, Field.boundedQuantity,
           Field.choice])

/-- Settings whose rules do not look whether they are shown. -/
def unguarded : Kind → List String
  | dnsRecord => ["preference", "port", "priority", "weight", "service"]
  | eventStreams => ["private_ip_allowlist", "throughput", "storage_size"]
  | accountSettings => ["mfa", "allowed_ip_addresses", "max_sessions_per_identity",
      "restrict_create_service_id", "restrict_create_platform_apikey",
      "session_expiration_in_seconds", "session_invalidation_in_seconds"]
  | _ => []

theorem spares_guarded (kind : Kind) : ∀ field ∈ kind.schema.fields,
    field.name ∈ kind.unguarded ∨ (∀ r, field.hidden r = false) ∨ kind.schema.Spares field := by
  have hunless {x y : Bool} (h : (!x) = true) : (x && y) = false := by
    rw [Bool.not_eq_true'] at h
    rw [h, Bool.false_and]
  have hwhen {x y : Bool} (h : x = true) : (!x && y) = false := by
    rw [h, Bool.not_true, Bool.false_and]
  cases kind
  all_goals
    repeat' refine List.forall_mem_cons.mpr ⟨?_, ?_⟩
    all_goals first
      | exact List.forall_mem_nil _
      | exact .inl (by decide)
      | exact .inr (.inl fun _ => rfl)
      | exact .inr (.inr (.ignores rfl))
      | exact .inr (.inr (.asks rfl fun _ _ => hunless))
      | exact .inr (.inr (.asks rfl fun _ _ => hwhen))
      | exact .inr (.inr (.exempts rfl fun _ h => h))

end Kind

/-! ## Two records side by side -/

namespace Options

variable {first second : Record}

theorem hides_highAvailability (r : Record) :
    schema.hides "power_vs_high_availability" r = !usesPower r := rfl

theorem hides_powerZones (r : Record) : schema.hides "power_vs_zones" r = !usesPowerZones r := rfl

theorem usesPower_eq (h : schema.AgreeOnShown first second) : usesPower first = usesPower second :=
  h.flag_eq rfl

/-- Whether zones come in pairs is shown as soon as there are zones. -/
theorem highAvailability_eq (h : schema.AgreeOnShown first second)
    (hpower : usesPower first = true) :
    first.flag "power_vs_high_availability" = second.flag "power_vs_high_availability" :=
  h.flag_eq (by rw [hides_highAvailability, hpower]; rfl)

theorem usesPowerPairs_eq (h : schema.AgreeOnShown first second) :
    usesPowerPairs first = usesPowerPairs second := by
  rw [usesPowerPairs, usesPowerPairs, ← usesPower_eq h]
  cases hpower : usesPower first with
  | false => rfl
  | true => rw [highAvailability_eq h hpower]

theorem usesPowerZones_eq (h : schema.AgreeOnShown first second) :
    usesPowerZones first = usesPowerZones second := by
  rw [usesPowerZones, usesPowerZones, ← usesPower_eq h]
  cases hpower : usesPower first with
  | false => rfl
  | true => rw [highAvailability_eq h hpower]

/-- Zones that are chosen one by one are shown; those chosen in pairs are asked to be alike. -/
theorem rules_agree (h : schema.AgreeOnShown first second)
    (hpairs : usesPowerPairs first = true →
      first.get? "power_vs_zones" = second.get? "power_vs_zones") (situation : Situation) :
    ∀ field ∈ schema.fields, field.invalid first situation = field.invalid second situation := by
  have hshown {name : String} (hname : schema.hides name first = false) :
      first.get? name = second.get? name := h.get?_eq hname
  have hprefix : prefixInvalid first = prefixInvalid second := by
    rw [prefixInvalid, prefixInvalid, Record.textOr, Record.text?, hshown rfl, Record.textOr,
      Record.text?]
  have hregion : first.text? "region" = second.text? "region" := by
    rw [Record.text?, hshown rfl, Record.text?]
  have htags : first.texts "tags" = second.texts "tags" := by
    rw [Record.texts, Record.list?, hshown rfl, Record.texts, Record.list?]
  have hzones (hsame : first.get? "power_vs_zones" = second.get? "power_vs_zones") :
      first.texts "power_vs_zones" = second.texts "power_vs_zones" := by
    rw [Record.texts, Record.list?, hsame, Record.texts, Record.list?]
  have hinPairs : (usesPowerPairs first && (first.texts "power_vs_zones").isEmpty) =
      (usesPowerPairs second && (second.texts "power_vs_zones").isEmpty) := by
    rw [← usesPowerPairs_eq h]
    cases huses : usesPowerPairs first with
    | false => rfl
    | true => rw [hzones (hpairs huses)]
  have honeByOne :
      (usesPowerZones first &&
        ((first.texts "power_vs_zones").isEmpty || !regionHasPower first)) =
      (usesPowerZones second &&
        ((second.texts "power_vs_zones").isEmpty || !regionHasPower second)) := by
    rw [← usesPowerZones_eq h, regionHasPower, regionHasPower, hregion]
    cases huses : usesPowerZones first with
    | false => rfl
    | true => rw [hzones (hshown (by rw [hides_powerZones, huses]; rfl))]
  repeat' refine List.forall_mem_cons.mpr ⟨?_, ?_⟩
  all_goals first
    | exact List.forall_mem_nil _
    | exact hprefix
    | exact hinPairs
    | exact honeByOne
    | rfl
    | (simp only [htags, Record.filled?, hregion])

end Options

namespace Dns

variable {first second : Record}

theorem contentValid_eq (h : recordSchema.AgreeOnShown first second) :
    contentValid first = contentValid second := by
  have htype : typeOf first = typeOf second := by
    rw [typeOf, Record.textOr, Record.text?, h.get?_eq rfl, typeOf, Record.textOr, Record.text?]
  have hserver : pointsAtServer first = pointsAtServer second := h.flag_eq rfl
  have hdata (hshown : pointsAtServer first = false) :
      first.get? "rdata" = second.get? "rdata" := h.get?_eq hshown
  have hpreference (hmail : typeOf first = "MX") :
      first.get? "preference" = second.get? "preference" := by
    refine h.get?_eq (show decide (typeOf first ≠ "MX") = false from ?_)
    simp [hmail]
  have hservice (htype : typeOf first = "SRV") :
      serviceFields.any first.isMissing = serviceFields.any second.isMissing := by
    have hshown : notService first = false := by simp [notService, htype]
    have hsame : ∀ name ∈ serviceFields, first.get? name = second.get? name := by
      repeat' refine List.forall_mem_cons.mpr ⟨h.get?_eq hshown, ?_⟩
      exact List.forall_mem_nil _
    rw [Bool.eq_iff_iff, List.any_eq_true, List.any_eq_true]
    refine exists_congr fun name => and_congr_right fun hname => ?_
    simp only [Record.isMissing, Record.isUnset, Record.list?, hsame name hname]
  unfold contentValid
  rw [← htype]
  split
  · rw [← hserver]
    cases hpoints : pointsAtServer first with
    | true => rfl
    | false => rw [Record.text?, hdata hpoints, Record.text?]
  · next hmail => rw [Record.isUnset, hpreference hmail, Record.isUnset]
  · next hsrv => rw [hservice hsrv]
  · rfl

end Dns

namespace SecurityGroup

/-- No field of a rule is ever left out. -/
theorem portsValid_eq {first second : Record} (h : ruleSchema.AgreeOnShown first second) :
    portsValid first = portsValid second := by
  have hsame (name : String) : first.get? name = second.get? name := by
    refine h.get?_eq (Schema.hides_eq_false ?_)
    repeat' refine List.forall_mem_cons.mpr ⟨rfl, ?_⟩
    exact List.forall_mem_nil _
  have hvalid : portValid first = portValid second := by
    funext port
    rw [portValid, hsame, portValid]
  rw [portsValid, Record.textOr, Record.text?, hsame, hvalid, portsValid, Record.textOr,
    Record.text?]

end SecurityGroup

namespace Kind

variable {kind : Kind} {first second : Record}

theorem tests_agree (h : kind.schema.AgreeOnShown first second) :
    ∀ test ∈ kind.schema.tests, test first = test second := by
  cases kind with
  | securityRule => exact List.forall_mem_singleton.mpr (SecurityGroup.portsValid_eq h)
  | dnsRecord => exact List.forall_mem_singleton.mpr (Dns.contentValid_eq h)
  | _ => exact List.forall_mem_nil _

theorem exemptions_agree (h : kind.schema.AgreeOnShown first second) :
    ∀ flag ∈ kind.schema.exemptions, first.flag flag = second.flag flag := by
  have hguards : ∀ flag ∈ kind.schema.exemptions, flag ∈ kind.guards := by
    cases kind <;> decide
  exact fun flag hflag => h.flag_eq (kind.guards_shown first flag (hguards flag hflag))

theorem rules_agree (h : kind.schema.AgreeOnShown first second)
    (hpairs : kind = .options → Options.usesPowerPairs first = true →
      first.get? "power_vs_zones" = second.get? "power_vs_zones") (situation : Situation)
    {field : Field} (hfield : field ∈ kind.schema.fields)
    (hsame : first.get? field.name = second.get? field.name) :
    field.invalid first situation = field.invalid second situation := by
  by_cases hkind : kind = .options
  · subst hkind
    exact Options.rules_agree h (hpairs rfl) situation field hfield
  · refine (rules_read hkind field hfield).congr ?_ situation
    exact List.forall_mem_cons.mpr
      ⟨hsame, fun name hname => h.get?_eq (kind.guards_shown first name hname)⟩

/-- A guarded field that differs is hidden on both records, where its rule finds no fault. -/
theorem findsFault_of_differs (h : kind.schema.AgreeOnShown first second) (situation : Situation)
    {name : String} (hdiffer : first.get? name ≠ second.get? name)
    (hguarded : name ∉ kind.unguarded) :
    kind.schema.findsFault name first situation = false ∧
      kind.schema.findsFault name second situation = false := by
  obtain ⟨hfirst, hsecond⟩ := (h name).resolve_left hdiffer
  cases hfind : kind.schema.field? name with
  | none => simp [Schema.hides, hfind] at hfirst
  | some field =>
      have hmem : field ∈ kind.schema.fields := List.mem_of_find?_eq_some hfind
      have hname : field.name = name := by simpa using List.find?_some hfind
      subst hname
      rw [Schema.hides, hfind, Option.any_some] at hfirst hsecond
      rcases kind.spares_guarded field hmem with hunguarded | hshown | hspares
      · exact absurd hunguarded hguarded
      · rw [hshown] at hfirst
        cases hfirst
      · exact ⟨hspares.findsFault_eq_false kind.fields_nodup hmem hfirst,
          hspares.findsFault_eq_false kind.fields_nodup hmem hsecond⟩

end Kind

/-- Two records that agree on what is shown get the same answer from the gate, provided that
zones chosen in pairs agree as well, and that no setting in which they differ breaks a rule that
does not look whether it is shown. -/
theorem blocksSave_eq_of_agreeOnShown {kind : Kind} {first second : Record} (t : Tree)
    (op : Context) (h : kind.schema.AgreeOnShown first second)
    (hpairs : kind = .options → Options.usesPowerPairs first = true →
      first.get? "power_vs_zones" = second.get? "power_vs_zones")
    (hunguarded : ∀ name ∈ kind.unguarded, first.get? name ≠ second.get? name →
      kind.schema.findsFault name first ⟨kind, t, op⟩ = false ∧
        kind.schema.findsFault name second ⟨kind, t, op⟩ = false) :
    kind.blocksSave first t op = kind.blocksSave second t op := by
  have hfault (name : String) : kind.schema.findsFault name first ⟨kind, t, op⟩ =
      kind.schema.findsFault name second ⟨kind, t, op⟩ := by
    by_cases hsame : first.get? name = second.get? name
    · refine Schema.findsFault_congr hsame (Kind.exemptions_agree h) ?_
      rintro field hfield rfl
      exact Kind.rules_agree h hpairs _ hfield hsame
    · obtain ⟨hfirst, hsecond⟩ : kind.schema.findsFault name first ⟨kind, t, op⟩ = false ∧
          kind.schema.findsFault name second ⟨kind, t, op⟩ = false := by
        by_cases hname : name ∈ kind.unguarded
        · exact hunguarded name hname hsame
        · exact Kind.findsFault_of_differs h _ hsame hname
      rw [hfirst, hsecond]
  rw [Kind.blocksSave, Kind.blocksSave, Bool.eq_iff_iff, Schema.blocks_eq_true_iff,
    Schema.blocks_eq_true_iff]
  simp only [hfault]
  refine or_congr_right (exists_congr fun test => and_congr_right fun htest => ?_)
  rw [Kind.tests_agree h test htest]

/-- A record that points at a server, with the address that it held before. -/
def sampleServerRecord : Record :=
  [("dns_zone", .text "internal"), ("name", .text "web"), ("rdata", .text "10.0.0.1"),
    ("type", .text "A"), ("use_vsi", .bool true), ("vpc", .text "management"),
    ("vsi", .text "web-1")]

/-- The same record with a port left over in place of the address. -/
def sampleOtherServerRecord : Record :=
  [("dns_zone", .text "internal"), ("name", .text "web"), ("port", .ofInt 443),
    ("type", .text "A"), ("use_vsi", .bool true), ("vpc", .text "management"),
    ("vsi", .text "web-1")]

theorem blocksSave_eq_of_agreeOnShown_server :
    sampleServerRecord.get? "rdata" ≠ sampleOtherServerRecord.get? "rdata" ∧
      Kind.dnsRecord.blocksSave sampleServerRecord .default ⟨none, some "dns", []⟩ =
        Kind.dnsRecord.blocksSave sampleOtherServerRecord .default ⟨none, some "dns", []⟩ := by
  refine ⟨by decide, blocksSave_eq_of_agreeOnShown .default ⟨none, some "dns", []⟩ ?_ ?_ ?_⟩
  · decide +kernel
  · exact fun hkind => Kind.noConfusion hkind
  · decide +kernel

/-- Options with zones in pairs, and some of them chosen. -/
def samplePairedOptions (zones : List String) : Record :=
  [("enable_power_vs", .bool true), ("power_vs_high_availability", .bool true),
    ("power_vs_zones", .texts zones), ("prefix", .text "iac"), ("region", .text "us-south"),
    ("tags", .texts ["hello"])]

/-- An address record with what is left of a port. -/
def sampleAddressRecord (port : Option Int) : Record :=
  [("dns_zone", .text "internal"), ("name", .text "web")] ++
    port.toList.map (fun port => ("port", .ofInt port)) ++
    [("rdata", .text "10.0.0.1"), ("type", .text "A")]

/-- Zones that are not shown decide while they come in pairs, and so does a wrong port in an
address record. -/
theorem left_out_fields_decide :
    (Options.schema.AgreeOnShown (samplePairedOptions ["wdc06", "dal12"]) (samplePairedOptions []) ∧
      Kind.options.blocksSave (samplePairedOptions ["wdc06", "dal12"]) .default .blank = false ∧
      Kind.options.blocksSave (samplePairedOptions []) .default .blank = true) ∧
    Dns.recordSchema.AgreeOnShown (sampleAddressRecord none) (sampleAddressRecord (some 99999)) ∧
      Kind.dnsRecord.blocksSave (sampleAddressRecord none) .default ⟨none, some "dns", []⟩ =
        false ∧
      Kind.dnsRecord.blocksSave (sampleAddressRecord (some 99999)) .default
        ⟨none, some "dns", []⟩ = true := by
  decide +kernel

end Blueprint
