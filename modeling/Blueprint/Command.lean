import Blueprint.Command.Arguments
import Blueprint.Command.Failure
import Blueprint.Command.Findings
import Blueprint.Integrity.Reconcile
import Blueprint.Settings.Source
import Blueprint.Store.Defaults
import Blueprint.Terraform.Document
import Blueprint.Value.Printer
import Blueprint.Value.Reader

/-!
# Commands

What the commands do, for any files they are given. Settings are loaded before
anything else; a description is read whole, completed and reconciled before
anything looks at it.
-/

namespace Blueprint.Command

inductive Outcome
  | done (output : String)
  /-- The command ran and found something wrong. -/
  | found (output : String)
  | stopped (stop : Stop)
  | failed (failure : Failure)
  deriving DecidableEq

namespace Outcome

def exitCode : Outcome → Nat
  | done _ => 0
  | found _ => 1
  | stopped .usage => 2
  | stopped .version => 0
  | stopped .help => 0
  | failed _ => 1

/-- The line that tells the version. -/
def version : String := "iac-forge 0.1.0\n"

def help : String :=
  "Usage: iac-forge [--config <PATH>] <COMMAND>\n\n" ++
    "  init --out <PATH> [--force]\n" ++
    "  validate [--input <PATH>]\n" ++
    "  generate [--input <PATH>] [--out <PATH>]\n" ++
    "  check [--input <PATH>] [--out <PATH>]\n"

/-- What is printed. -/
def output : Outcome → String
  | done text => text
  | found text => text
  | stopped .version => version
  | stopped .help => help
  | stopped .usage => ""
  | failed _ => ""

/-- What is complained about, if anything. -/
def complaint : Outcome → Option String
  | stopped .usage => some "usage error"
  | failed failure => some failure.message
  | _ => none

end Outcome

/-! ## Descriptions -/

/-- How deep a description may be nested. -/
def maxDepth : Nat := 127

/-- The tree in the content of a file. -/
def treeOf (path : String) (content : ByteArray) : Except Failure Tree :=
  match (String.fromUTF8? content).bind (Value.read? maxDepth) with
  | none => .error (.malformed path)
  | some (.object root) => .ok (Tree.mk root).withDefaults.reconcileAll.2
  | some _ => .error (.notRecord path)

/-- The text of the default tree. -/
def defaultText : String := (Value.object Tree.default.root).indented 0 ++ "\n"

/-- The document that a tree stands for. -/
def documentOf (t : Tree) : String := (Terraform.document t).getD ""

section

variable {m : Type → Type} [Monad m]

/-- Does something with a file, telling how its errors are understood. -/
def withFile {α : Type} (understood : FileError → Failure) (act : m (Except FileError α)) :
    ExceptT Failure m α :=
  ExceptT.mk do return (← act).mapError understood

/-- Reads a file that must not have more bytes than a limit. -/
def readLimited (files : Files m) (path : String) (limit : Nat) :
    ExceptT Failure m ByteArray := do
  let size ← withFile (.unreadable path) (files.size path)
  if limit < size then throw (.tooLarge path limit)
  let content ← withFile (.unreadable path) (files.read path)
  if limit < content.size then throw (.tooLarge path limit)
  return content

def readTree (files : Files m) (path : String) (limit : Nat) : ExceptT Failure m Tree := do
  MonadExcept.ofExcept (treeOf path (← readLimited files path limit))

def write (files : Files m) (path text : String) : ExceptT Failure m Unit :=
  withFile (.unwritable path) (files.replace path text)

/-- Fails unless a file holds a text. -/
def compare (files : Files m) (path text : String) : ExceptT Failure m Unit := do
  match ← ExceptT.lift (files.read path) with
  | .error .notFound => throw (.drift path)
  | .error e => throw (.unreadable path e)
  | .ok content =>
      match String.fromUTF8? content with
      | none => throw (.unreadable path .notText)
      | some held => if held ≠ text then throw (.drift path)

/-- The path that an option gives, or else the settings. -/
def pathFor (role : Role) (given set : Option String) : ExceptT Failure m String :=
  match given.or set with
  | some path => return path
  | none => throw (.noPath role)

/-! ## Actions -/

def init (files : Files m) (output : String) (force : Bool) : ExceptT Failure m Outcome := do
  if !force then
    if ← ExceptT.lift (files.present output) then throw (.taken output)
  write files output defaultText
  return .done ""

/-- The lines that tell what was found. -/
def report (findings : List Finding) : Outcome :=
  if findings.isEmpty then .done "configuration tree is valid\n"
  else
    .found (String.join (findings.map fun f => f.message ++ "\n") ++
      toString findings.length ++ " record(s) cannot be saved\n")

def validate (files : Files m) (s : Settings) (input : Option String) :
    ExceptT Failure m Outcome := do
  let path ← pathFor .input input s.input
  let t ← readTree files path s.maxInputBytes
  return report t.findings

def generate (files : Files m) (s : Settings) (input output : Option String) :
    ExceptT Failure m Outcome := do
  let path ← pathFor .input input s.input
  let t ← readTree files path s.maxInputBytes
  match output.or s.output with
  | some output => do
      write files output (documentOf t)
      return .done ""
  | none => return .done (documentOf t)

def check (files : Files m) (s : Settings) (input output : Option String) :
    ExceptT Failure m Outcome := do
  let path ← pathFor .input input s.input
  let output ← pathFor .output output s.output
  let t ← readTree files path s.maxInputBytes
  compare files output (documentOf t)
  return .done (output ++ " is up to date\n")

def perform (files : Files m) (s : Settings) : Action → ExceptT Failure m Outcome
  | .init output force => init files output force
  | .validate input => validate files s input
  | .generate input output => generate files s input output
  | .check input output => check files s input output

/-- Answers a request; the environment may name the settings file. -/
def answer (files : Files m) (environment : Option String) (request : Request) :
    ExceptT Failure m Outcome := do
  match ← ExceptT.lift (Settings.load files request.settings environment) with
  | .error e => throw (.settings e)
  | .ok (s, _) => perform files s request.action

/-- Runs the program on its arguments. -/
def run (files : Files m) (environment : Option String) (args : List String) : m Outcome := do
  match Request.ofArguments args with
  | .error stop => return .stopped stop
  | .ok request =>
      match ← (answer files environment request).run with
      | .ok outcome => return outcome
      | .error failure => return .failed failure

end

end Blueprint.Command
