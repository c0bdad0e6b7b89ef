import Blueprint.Command.Request

/-!
# Arguments

The arguments name an action, with options before and after it. An option is
written `--name value` or `--name=value`, a flag just `--name`; neither may be
repeated. A settings file may be named before the action and after it, and the
one after it counts.
-/

namespace Blueprint.Command

/-- What a single argument looks like. -/
inductive Argument
  | word (text : String)
  | short (letters : String)
  | long (name : String) (attached : Option String)
  /-- Two dashes with nothing after them. -/
  | ending

namespace Argument

def ofLong (cs : List Char) : Argument :=
  match cs.dropWhile (· ≠ '=') with
  | [] => .long (.ofList cs) none
  | _ :: value => .long (.ofList (cs.takeWhile (· ≠ '='))) (some (.ofList value))

/-- A single dash is a word. -/
def ofText (text : String) : Argument :=
  match text.toList with
  | ['-'] => .word text
  | ['-', '-'] => .ending
  | '-' :: '-' :: cs => ofLong cs
  | '-' :: cs => .short (.ofList cs)
  | _ => .word text

/-- The value that an argument can be for the option before it. -/
def value? (text : String) : Option String :=
  match ofText text with
  | .word text => if text.isEmpty then none else some text
  | _ => none

end Argument

inductive Opt
  | settings
  | input
  | output
  | force
  deriving DecidableEq

namespace Opt

def name : Opt → String
  | settings => "config"
  | input => "input"
  | output => "out"
  | force => "force"

def takesValue : Opt → Bool
  | force => false
  | _ => true

end Opt

inductive Verb
  | init
  | validate
  | generate
  | check
  deriving DecidableEq

namespace Verb

def all : List Verb := [init, validate, generate, check]

def name : Verb → String
  | init => "init"
  | validate => "validate"
  | generate => "generate"
  | check => "check"

def ofName? (name : String) : Option Verb := all.find? fun verb => verb.name = name

/-- The options that may come after the name of an action. -/
def options : Verb → List Opt
  | init => [.settings, .output, .force]
  | validate => [.settings, .input]
  | generate => [.settings, .input, .output]
  | check => [.settings, .input, .output]

end Verb

/-- The options that were given, with their values; the value of a flag is empty. -/
abbrev Given := List (Opt × String)

/-- The arguments in front of an action, or those after it. -/
structure Group where
  options : List Opt
  showsVersion : Bool

namespace Group

def front : Group := ⟨[.settings], true⟩

def after (verb : Verb) : Group := ⟨verb.options, false⟩

/-- What an argument asks for that names no option. -/
def stop (group : Group) (version help : Bool) : Stop :=
  if help then .help else if version && group.showsVersion then .version else .usage

def option? (group : Group) (name : String) : Option Opt :=
  group.options.find? fun o => o.name = name

/-- Takes an option with the value that is attached to it. -/
def take (found : Given) (o : Opt) (value : String) : Except Stop Given :=
  if (found.lookup o).isSome || (o.takesValue && value.isEmpty) then .error .usage
  else .ok (found ++ [(o, value)])

/-- Reads options from the left up to the first argument that is none. -/
def read (group : Group) : (found : Given) → (args : List String) →
    Except Stop (Given × List String)
  | found, [] => .ok (found, [])
  | found, arg :: rest =>
      match Argument.ofText arg with
      | .word _ | .ending => .ok (found, arg :: rest)
      | .short letters =>
          .error (group.stop (letters.startsWith "V") (letters.startsWith "h"))
      | .long name attached =>
          match group.option? name, attached with
          | none, none => .error (group.stop (name = "version") (name = "help"))
          | none, some _ => .error .usage
          | some o, some value =>
              if o.takesValue then do group.read (← take found o value) rest
              else .error .usage
          | some o, none =>
              if o.takesValue then
                match rest with
                | [] => .error .usage
                | next :: rest =>
                    match Argument.value? next with
                    | some value => do group.read (← take found o value) rest
                    | none => .error .usage
              else do group.read (← take found o "") rest

end Group

/-- The action of a verb with the options that were given after it. -/
def Action.ofGiven (found : Given) : Verb → Except Stop Action
  | .init =>
      match found.lookup .output with
      | some output => .ok (.init output (found.lookup .force).isSome)
      | none => .error .usage
  | .validate => .ok (.validate (found.lookup .input))
  | .generate => .ok (.generate (found.lookup .input) (found.lookup .output))
  | .check => .ok (.check (found.lookup .input) (found.lookup .output))

/-- What the arguments ask for. -/
def Request.ofArguments (args : List String) : Except Stop Request := do
  let (front, rest) ← Group.front.read [] args
  match rest with
  | [] => .error .usage
  | word :: rest =>
      match Verb.ofName? word with
      | none => .error .usage
      | some verb =>
          let (found, rest) ← (Group.after verb).read [] rest
          if rest = [] ∨ rest = ["--"] then
            let action ← Action.ofGiven found verb
            return ⟨(found.lookup .settings).or (front.lookup .settings), action⟩
          else .error .usage

end Blueprint.Command
