import Blueprint.Files.Pathname
import Blueprint.Text.Blank

/-!
# Settings

What a settings file may say: how much is logged and in which form, the files to
use when a command names none, and how large an input may be.
-/

namespace Blueprint

namespace Settings

inductive Level
  | trace
  | debug
  | info
  | warn
  | error
  deriving DecidableEq

namespace Level

def all : List Level := [trace, debug, info, warn, error]

def name : Level → String
  | trace => "trace"
  | debug => "debug"
  | info => "info"
  | warn => "warn"
  | error => "error"

end Level

inductive Form
  | plain
  | json
  deriving DecidableEq

namespace Form

def all : List Form := [plain, json]

def name : Form → String
  | plain => "plain"
  | json => "json"

end Form

end Settings

structure Settings where
  level : Settings.Level := .warn
  form : Settings.Form := .plain
  /-- The description that is read when none is named. -/
  input : Option String := none
  /-- The document that is written when none is named. -/
  output : Option String := none
  /-- The most bytes that a description may have. -/
  maxInputBytes : Nat := 16 * 1024 * 1024
  deriving DecidableEq

namespace Settings

/-- The largest limit that may be set, in bytes. -/
def inputCeiling : Nat := 256 * 1024 * 1024

/-- Why settings cannot be had. -/
inductive Error
  | file (description : String)
  | malformed
  | invalid (problem : String)
  deriving DecidableEq

namespace Error

def message : Error → String
  | file description => "config io error: " ++ description
  | malformed => "config parse error"
  | invalid problem => "invalid config: " ++ problem

end Error

/-- What is wrong with a path that is set under a key. -/
def pathProblem (key path : String) : Option String :=
  let trimmed := Text.trim path
  if trimmed.isEmpty then some (key ++ " must be non-empty")
  else if Pathname.maxSize < trimmed.utf8ByteSize then some (key ++ " exceeds max length")
  else if Pathname.hasLongComponent trimmed then some (key ++ " path component too long")
  else none

def limitProblem (limit : Nat) : Option String :=
  if limit = 0 then some "limits.max_input_bytes must be greater than zero"
  else if inputCeiling < limit then
    some ("limits.max_input_bytes must be at most " ++ toString inputCeiling)
  else none

/-- The first thing that is wrong with settings. -/
def problem (s : Settings) : Option String :=
  ((s.input.bind (pathProblem "generator.input")).or
    (s.output.bind (pathProblem "generator.output"))).or
    (limitProblem s.maxInputBytes)

def validate (s : Settings) : Except Error Settings :=
  match s.problem with
  | some problem => .error (.invalid problem)
  | none => .ok s

end Settings

end Blueprint
