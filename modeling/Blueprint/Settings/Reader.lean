import Blueprint.Number.Power
import Blueprint.Settings
import Blueprint.Toml.Reader

/-!
# Read settings

Settings come in sections. A section is a table, or an array of its values in
order; what it leaves out keeps its default, and what nobody knows is refused.
-/

namespace Blueprint.Settings

/-- The values that a section gives to the names it may have. -/
def entries? (names : List String) : Toml → Option (List (Option Toml))
  | .table fields =>
      if fields.all fun (name, _) => names.contains name then
        some (names.map fun name => fields.lookup name)
      else none
  | .array items => some (names.mapIdx fun i _ => items[i]?)
  | _ => none

/-- Whether a value has nothing in it. -/
def isEmpty : Toml → Bool
  | .array items => items.isEmpty
  | .table fields => fields.isEmpty
  | _ => false

/-- One of several options by its name, which may also be the only key of a table
with nothing under it. -/
def option? {α : Type} (options : List (String × α)) : Toml → Option α
  | .text name => options.lookup name
  | .table [(name, held)] => if isEmpty held then options.lookup name else none
  | _ => none

def text? : Toml → Option String
  | .text value => some value
  | _ => none

/-- A natural number of 64 bits. -/
def natural? : Toml → Option Nat
  | .integer (some value) => if 0 ≤ value ∧ value < twoTo 64 then some value.toNat else none
  | _ => none

/-- What is given, read by `read`, or else the default. -/
def given {α : Type} (read : Toml → Option α) (fallback : α) : Option Toml → Option α
  | some value => read value
  | none => some fallback

def readLogging (s : Settings) (body : Toml) : Option Settings := do
  match ← entries? ["level", "format"] body with
  | [level, form] =>
      let level ← given (option? (Level.all.map fun l => (l.name, l))) s.level level
      let form ← given (option? (Form.all.map fun f => (f.name, f))) s.form form
      return { s with level, form }
  | _ => none

def readGenerator (s : Settings) (body : Toml) : Option Settings := do
  match ← entries? ["input", "output"] body with
  | [input, output] =>
      let input ← given (fun value => (text? value).map some) s.input input
      let output ← given (fun value => (text? value).map some) s.output output
      return { s with input, output }
  | _ => none

def readLimits (s : Settings) (body : Toml) : Option Settings := do
  match ← entries? ["max_input_bytes"] body with
  | [limit] => return { s with maxInputBytes := ← given natural? s.maxInputBytes limit }
  | _ => none

/-- Reads a section of a given name. -/
def readSection (s : Settings) (entry : String × Toml) : Option Settings :=
  if entry.1 = "logging" then readLogging s entry.2
  else if entry.1 = "generator" then readGenerator s entry.2
  else if entry.1 = "limits" then readLimits s entry.2
  else none

/-- The settings that the text of a settings file makes. -/
def ofToml (text : String) : Except Error Settings :=
  match (Toml.read? text).bind fun sections => sections.foldlM readSection {} with
  | some s => s.validate
  | none => .error .malformed

end Blueprint.Settings
