import Blueprint.Schema.Registry
import Blueprint.Store.Defaults
import Mathlib.Data.List.Nodup

/-!
# Fields behind the gate

The rules of the fields stand in one table of a schema, and the rules that a save has to
meet in another. A rule that the second table leaves out would be one that a form shows
and the gate overlooks. Here the second table is shown to cover the first one: for every
kind, a record that may be saved breaks no rule of a field.
-/

namespace Blueprint

namespace Schema

variable {s : Schema} {r : Record} {situation : Situation} {name : String}

/-- The fields whose rules the gate asks. -/
def asked (s : Schema) : List String :=
  s.requirements.flatMap fun
    | .valid fields => fields
    | .filled _ | .filledUnless _ _ | .passes _ => []

/-- The fields that the gate wants filled whatever else the record holds. -/
def wanted (s : Schema) : List String :=
  s.requirements.flatMap fun
    | .filled fields => fields
    | .valid _ | .filledUnless _ _ | .passes _ => []

theorem fieldInvalid_of_asked (h : s.blocks r situation = false) (hname : name ∈ s.asked) :
    s.fieldInvalid name r situation = false := by
  obtain ⟨requirement, hmem, hmentioned⟩ := List.mem_flatMap.mp hname
  have hmet := List.any_eq_false.mp h requirement hmem
  cases requirement with
  | valid fields =>
      simp only [fails, Bool.not_eq_true] at hmet
      simpa using List.any_eq_false.mp hmet name hmentioned
  | filled _ | filledUnless _ _ | passes _ => cases hmentioned

theorem isMissing_of_wanted (h : s.blocks r situation = false) (hname : name ∈ s.wanted) :
    r.isMissing name = false := by
  obtain ⟨requirement, hmem, hmentioned⟩ := List.mem_flatMap.mp hname
  have hmet := List.any_eq_false.mp h requirement hmem
  cases requirement with
  | filled fields =>
      simp only [fails, Bool.not_eq_true] at hmet
      simpa using List.any_eq_false.mp hmet name hmentioned
  | valid _ | filledUnless _ _ | passes _ => cases hmentioned

theorem field?_eq_some (hnodup : (s.fields.map (·.name)).Nodup) {field : Field}
    (h : field ∈ s.fields) : s.field? field.name = some field := by
  unfold field?
  cases hfind : s.fields.find? fun other => other.name = field.name with
  | none => simpa using List.find?_eq_none.mp hfind field h
  | some other =>
      have hname : other.name = field.name := by simpa using List.find?_some hfind
      rw [List.inj_on_of_nodup_map hnodup (List.mem_of_find?_eq_some hfind) h hname]

/-- How a gate that lets a record pass speaks for the rule of a field. -/
inductive Covers (s : Schema) (field : Field) : Prop
  /-- It asks the rule. -/
  | asks (hname : field.name ∈ s.asked)
  /-- It asks the rule for another field that has the same one. -/
  | asksTwin (twin : Field) (hmem : twin ∈ s.fields) (hname : twin.name ∈ s.asked)
      (hrule : twin.invalid = field.invalid)
  /-- It wants the field filled, which is all that the rule demands. -/
  | wants (hname : field.name ∈ s.wanted)
      (hrule : ∀ r situation, r.isMissing field.name = false → field.invalid r situation = false)
  /-- There is nothing to ask. -/
  | silent (hrule : ∀ r situation, field.invalid r situation = false)

theorem Covers.invalid_eq_false {field : Field} (hnodup : (s.fields.map (·.name)).Nodup)
    (hcovers : s.Covers field) (hmem : field ∈ s.fields) (h : s.blocks r situation = false) :
    field.invalid r situation = false := by
  have ruled : ∀ other ∈ s.fields, other.name ∈ s.asked → other.invalid r situation = false := by
    intro other hother hname
    have hvalid := fieldInvalid_of_asked h hname
    rwa [fieldInvalid, field?_eq_some hnodup hother, Option.any_some] at hvalid
  cases hcovers with
  | asks hname => exact ruled field hmem hname
  | asksTwin twin htwin hname hrule => exact hrule ▸ ruled twin htwin hname
  | wants hname hrule => exact hrule r situation (isMissing_of_wanted h hname)
  | silent hrule => exact hrule r situation

end Schema

theorem Record.isUnset_of_isMissing {r : Record} {field : String} (h : r.isMissing field = false) :
    r.isUnset field = false := by
  rw [isMissing, Bool.or_eq_false_iff] at h
  exact h.1

namespace Kind

theorem fields_nodup (kind : Kind) : (kind.schema.fields.map (·.name)).Nodup := by
  have hsound := List.all_eq_true.mp registryIsSound_eq_true kind kind.mem_all
  simp only [schemaIsSound, Bool.and_eq_true, decide_eq_true_eq] at hsound
  exact hsound.1.1.2

/-- The requirements of every kind cover its fields. The optional names of a VPC share one
rule, which is asked for the first of them. -/
theorem covers_fields (kind : Kind) : ∀ field ∈ kind.schema.fields, kind.schema.Covers field := by
  cases kind with
  | vpc =>
      repeat' refine List.forall_mem_cons.mpr ⟨?_, ?_⟩
      all_goals first
        | exact .asks (by decide)
        | exact .silent fun _ _ => rfl
        | exact .asksTwin (Vpc.optionalName "default_network_acl_name")
            (by simp [schema, Vpc.schema]) (by decide) rfl
        | exact List.forall_mem_nil _
  | _ =>
      repeat' refine List.forall_mem_cons.mpr ⟨?_, ?_⟩
      all_goals first
        | exact .asks (by decide)
        | exact .silent fun _ _ => rfl
        | exact .wants (by decide) fun _ _ => Record.isUnset_of_isMissing
        | exact List.forall_mem_nil _

end Kind

/-- A record that may be saved breaks no rule of a field of its kind. -/
theorem unblocked_breaks_no_rule {kind : Kind} {r : Record} {t : Tree} {op : Context}
    (h : kind.blocksSave r t op = false) :
    ∀ field ∈ kind.schema.fields, field.invalid r ⟨kind, t, op⟩ = false := fun field hfield =>
  (kind.covers_fields field hfield).invalid_eq_false kind.fields_nodup hfield h

/-- A record that tells where a service is found. -/
def sampleServiceRecord : Record :=
  [("dns_zone", .text "internal"), ("name", .text "sip"), ("port", .text "5061"),
    ("priority", .ofInt 10), ("protocol", .text "tcp"), ("rdata", .text "sip.example.com"),
    ("service", .text "_sip"), ("type", .text "SRV"), ("weight", .ofInt 0)]

theorem unblocked_breaks_no_rule_service :
    Kind.dnsRecord.blocksSave sampleServiceRecord Tree.default ⟨none, some "dns", []⟩ = false ∧
      ∀ field ∈ Kind.dnsRecord.schema.fields,
        field.invalid sampleServiceRecord ⟨.dnsRecord, .default, ⟨none, some "dns", []⟩⟩ =
          false := by
  have hgate : Kind.dnsRecord.blocksSave sampleServiceRecord Tree.default
      ⟨none, some "dns", []⟩ = false := by decide +kernel
  exact ⟨hgate, unblocked_breaks_no_rule hgate⟩

end Blueprint
