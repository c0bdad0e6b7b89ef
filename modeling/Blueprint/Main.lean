import Blueprint.Command

/-!
# The program

Runs the commands on the files of the machine.
-/

namespace Blueprint

namespace FileError

/-- What an error of the machine means. -/
def ofMachine : IO.Error → FileError
  | .noFileOrDirectory .. => notFound
  | .alreadyExists .. => alreadyExists
  | .inappropriateType _ 21 _ => isDirectory
  | .inappropriateType .. => notDirectory
  | .resourceBusy .. => busy
  | .permissionDenied _ code details => other (described details code.toNat)
  | .invalidArgument _ code details => other (described details code.toNat)
  | .resourceExhausted _ code details => other (described details code.toNat)
  | .otherError code details => other (described details code.toNat)
  | e => other (toString e)

end FileError

namespace Machine

/-- The answer of an action, or what its error means. -/
def attempt {α : Type} (act : IO α) : IO (Except FileError α) := do
  match ← act.toBaseIO with
  | .ok answer => return .ok answer
  | .error e => return .error (.ofMachine e)

def read (path : String) : IO (Except FileError ByteArray) :=
  attempt (IO.FS.readBinFile path)

def present (path : String) : IO Bool := do
  match ← attempt (IO.FS.Handle.mk path .read) with
  | .error .notFound => return false
  | .error .notDirectory => return false
  | _ => return true

/-- Writes a text beside a file and moves it to its place. -/
def replaceWith (path content temporary : String) : IO Unit := do
  try
    let handle ← IO.FS.Handle.mk temporary .writeNew
    handle.putStr content
    handle.flush
    IO.FS.rename temporary path
  catch e =>
    try IO.FS.removeFile temporary catch _ => pure ()
    throw e

def replace (path content : String) : IO (Except FileError Unit) := attempt do
  if let some directory := (Pathname.directories path).head? then
    IO.FS.createDirAll directory
  let now ← IO.monoNanosNow
  replaceWith path content
    (Pathname.beside path fun name => "." ++ name ++ ".tmp." ++ toString now)

def files : Files IO where
  read := read
  size path := do return (← read path).map ByteArray.size
  present := present
  replace := replace

end Machine

end Blueprint

open Blueprint in
def main (args : List String) : IO UInt32 := do
  let environment ← IO.getEnv "IAC_FORGE_CONFIG"
  let outcome ← Command.run Machine.files environment args
  IO.print outcome.output
  if let some complaint := outcome.complaint then IO.eprintln complaint
  return outcome.exitCode.toUInt32
