/-!
# File errors

Why a file cannot be read or written, as operating systems tell it.
-/

namespace Blueprint

inductive FileError
  | notFound
  | busy
  | alreadyExists
  | notDirectory
  | isDirectory
  | nameTooLong
  /-- The file is not a text. -/
  | notText
  /-- Any other error, by its description. -/
  | other (description : String)
  deriving DecidableEq

namespace FileError

def described (text : String) (code : Nat) : String :=
  text ++ " (os error " ++ toString code ++ ")"

def message : FileError → String
  | notFound => described "No such file or directory" 2
  | busy => described "Device or resource busy" 16
  | alreadyExists => described "File exists" 17
  | notDirectory => described "Not a directory" 20
  | isDirectory => described "Is a directory" 21
  | nameTooLong => described "File name too long" 36
  | notText => "stream did not contain valid UTF-8"
  | other description => description

end FileError

end Blueprint
