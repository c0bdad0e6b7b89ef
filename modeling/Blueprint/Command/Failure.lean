import Blueprint.Files.Error
import Blueprint.Settings

/-!
# Failures

Why a command fails, and what it says then.
-/

namespace Blueprint.Command

/-- The two paths that settings can give in place of an option. -/
inductive Role
  | input
  | output
  deriving DecidableEq

namespace Role

def name : Role → String
  | input => "input"
  | output => "output"

def optionName : Role → String
  | input => "input"
  | output => "out"

end Role

inductive Failure
  | settings (error : Settings.Error)
  /-- Neither an option nor the settings give a path. -/
  | noPath (role : Role)
  | unreadable (path : String) (error : FileError)
  | tooLarge (path : String) (limit : Nat)
  /-- The input is not written as a value. -/
  | malformed (path : String)
  /-- The input is a value, but no record. -/
  | notRecord (path : String)
  | unwritable (path : String) (error : FileError)
  /-- There is a file that must not be replaced. -/
  | taken (path : String)
  /-- A file does not hold the document that it should. -/
  | drift (path : String)
  deriving DecidableEq

namespace Failure

def message : Failure → String
  | settings error => error.message
  | noPath role =>
      "no " ++ role.name ++ " path given; pass --" ++ role.optionName ++
        " or set generator." ++ role.name ++ " in iac-forge.toml"
  | unreadable path error => "failed to read " ++ path ++ ": " ++ error.message
  | tooLarge path limit =>
      path ++ " exceeds the input limit of " ++ toString limit ++ " bytes"
  | malformed path => "invalid configuration tree in " ++ path
  | notRecord path => "configuration tree in " ++ path ++ " must be a JSON object"
  | unwritable path error => "failed to write " ++ path ++ ": " ++ error.message
  | taken path => path ++ " already exists; pass --force to replace it"
  | drift path => "drift detected for " ++ path ++ ". Run iac-forge generate."

end Failure

end Blueprint.Command
