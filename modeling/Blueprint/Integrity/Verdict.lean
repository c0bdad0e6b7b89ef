import Blueprint.Schema.Reference
import Blueprint.Value

/-!
# Verdicts on names

A verdict is passed on every name at a reference's place: it stays, it is
replaced, or it goes. A single name that goes becomes null, a name in a list is
taken out, and a record in a list is taken out together with its name. The empty
text and values that are not texts are no names and always stay.
-/

namespace Blueprint

inductive Verdict
  | keep
  | replace (name : String)
  | drop
  deriving DecidableEq

namespace Verdict

/-- Replaces one name. -/
def rename (old new : String) (name : String) : Verdict :=
  if name = old then .replace new else .keep

/-- Takes one name out. -/
def remove (gone : String) (name : String) : Verdict :=
  if name = gone then .drop else .keep

end Verdict

namespace Value

/-- The verdict on a value. -/
def verdict (judge : String → Verdict) : Value → Verdict
  | .text name => if name.isEmpty then .keep else judge name
  | _ => .keep

/-- A value that holds a single name. -/
def reviseName (judge : String → Verdict) (value : Value) : Value :=
  match value.verdict judge with
  | .keep => value
  | .replace name => .text name
  | .drop => .null

/-- A value in a list of names. -/
def reviseEntry (judge : String → Verdict) (value : Value) : Option Value :=
  match value.verdict judge with
  | .keep => some value
  | .replace name => some (.text name)
  | .drop => none

/-- A value that holds a list of names. -/
def reviseNames (judge : String → Verdict) : Value → Value
  | .list entries => .list (entries.filterMap (reviseEntry judge))
  | value => value

/-- The verdict on a field of a value, if the value is a record with that
field. -/
def fieldVerdict (field : String) (judge : String → Verdict) (value : Value) : Verdict :=
  match (value.object?).bind (Record.get? · field) with
  | some held => held.verdict judge
  | none => .keep

/-- A value in a list of records with a name in a field. -/
def reviseFieldEntry (field : String) (judge : String → Verdict) : Value → Option Value
  | .object r =>
      match fieldVerdict field judge (.object r) with
      | .keep => some (.object r)
      | .replace name => some (.object (Record.insert field (.text name) r))
      | .drop => none
  | value => some value

/-- A value that holds a list of records with a name in a field. -/
def reviseFieldEntries (field : String) (judge : String → Verdict) : Value → Value
  | .list entries => .list (entries.filterMap (reviseFieldEntry field judge))
  | value => value

/-- Whether a record in a list of records is affected. -/
def touchesFieldEntries (field : String) (judge : String → Verdict) : Value → Bool
  | .list entries => entries.any fun entry => entry.fieldVerdict field judge ≠ .keep
  | _ => false

/-- Changes the record that a value is. -/
def mapObject (f : Record → Record) : Value → Value
  | .object r => .object (f r)
  | value => value

end Value

namespace Arity

def revise (judge : String → Verdict) : Arity → Value → Value
  | one => Value.reviseName judge
  | many => Value.reviseNames judge

/-- Whether the names that a value holds are affected: a single name by any
verdict but keeping it, a list by becoming another list. -/
def touches (judge : String → Verdict) : Arity → Value → Bool
  | one, value => value.verdict judge ≠ .keep
  | many, value => value.reviseNames judge ≠ value

end Arity

namespace Reference

/-- Passes a verdict on every name at the reference's place. -/
def revise (reference : Reference) (judge : String → Verdict) (r : Record) : Record :=
  match reference.path with
  | .field field => r.modify field (reference.arity.revise judge)
  | .inside object field =>
      r.modify object
        (Value.mapObject (Record.modify field (reference.arity.revise judge)))
  | .each list field => r.modify list (Value.reviseFieldEntries field judge)

/-- Whether a verdict affects a name at the reference's place. -/
def touches (reference : Reference) (judge : String → Verdict) (r : Record) : Bool :=
  match reference.path with
  | .field field => (r.get? field).any (reference.arity.touches judge)
  | .inside object field =>
      ((r.object? object).bind (Record.get? · field)).any (reference.arity.touches judge)
  | .each list field => (r.get? list).any (Value.touchesFieldEntries field judge)

end Reference

end Blueprint
