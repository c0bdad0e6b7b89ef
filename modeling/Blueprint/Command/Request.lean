/-!
# Requests

What a user can ask for: one of four actions, and settings to do it under.
-/

namespace Blueprint.Command

inductive Action
  /-- Write the default description to a file. -/
  | init (output : String) (force : Bool)
  /-- List the records of a description that cannot be saved. -/
  | validate (input : Option String)
  /-- Write the document that a description stands for. -/
  | generate (input output : Option String)
  /-- Compare that document with a file. -/
  | check (input output : Option String)
  deriving DecidableEq

structure Request where
  /-- The settings file that is named. -/
  settings : Option String
  action : Action
  deriving DecidableEq

/-- What arguments can ask for in place of an action. -/
inductive Stop
  /-- The arguments are wrong. -/
  | usage
  | version
  | help
  deriving DecidableEq

end Blueprint.Command
