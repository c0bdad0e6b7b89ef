import Blueprint.Files
import Blueprint.Settings.Reader

/-!
# Where settings come from

A settings file is named by the caller, or else by the environment. If neither
names one, the file of the usual name is read if there is one.
-/

namespace Blueprint.Settings

inductive Source
  | file (path : String)
  /-- No file: the settings are the default ones. -/
  | defaults
  deriving DecidableEq

/-- The usual name of a settings file. -/
def usualName : String := "iac-forge.toml"

/-- The most bytes that a settings file may have. -/
def maxFileSize : Nat := 1024 * 1024

/-- What is wrong with the path of a settings file. -/
def filePathProblem (path : String) : Option String :=
  if Pathname.maxSize < path.utf8ByteSize then some "config path exceeds max length"
  else if Pathname.hasLongComponent path then some "config path component too long"
  else none

/-- The settings in the content of a file. -/
def ofContent (content : ByteArray) : Except Error Settings :=
  if maxFileSize < content.size then .error (.invalid "config file exceeds size limit")
  else
    match String.fromUTF8? content with
    | some text => ofToml text
    | none => .error (.invalid "config file must be utf-8")

/-- Reads the settings, given the path that the caller names and the one that the
environment names. -/
def load {m : Type → Type} [Monad m] (files : Files m) (named fromEnvironment : Option String) :
    m (Except Error (Settings × Source)) := do
  let chosen := named.or fromEnvironment
  let path := chosen.getD usualName
  match filePathProblem path with
  | some problem => return .error (.invalid problem)
  | none =>
      match ← files.read path with
      | .ok content => return (ofContent content).map fun s => (s, .file path)
      | .error .notFound =>
          if chosen.isSome then return .error (.file FileError.notFound.message)
          else return .ok ({}, .defaults)
      | .error e => return .error (.file e.message)

end Blueprint.Settings
