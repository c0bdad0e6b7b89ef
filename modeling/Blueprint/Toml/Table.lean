import Blueprint.Toml

/-!
# Tables under construction

A table is put together from headers and assignments. Each key is given a value
once: a header opens a table once, and nothing adds to a table that was written as
a value. A dotted key leads through tables that headers imply and through arrays of
tables, but adds its value to a table that dotted keys made.
-/

namespace Blueprint.Toml

/-- How a table came to be. -/
inductive Origin
  /-- It stands on the way to a table that has a header. -/
  | implied
  /-- It has a header. -/
  | header
  /-- It stands on the way to a value with a dotted key. -/
  | dotted
  deriving DecidableEq

inductive Node
  | value (value : Toml)
  | table (origin : Origin) (fields : List (String × Node))
  /-- An array of tables that have headers, the latest first. -/
  | tables (items : List (List (String × Node)))

/-- The fields of a table under construction. -/
abbrev Fields := List (String × Node)

namespace Fields

/-- Changes what a key stands for, or gives it something to stand for. -/
def alter (key : String) (f : Option Node → Option Node) : Fields → Option Fields
  | [] => (f none).map fun node => [(key, node)]
  | (name, node) :: rest =>
      if name = key then (f (some node)).map fun node => (name, node) :: rest
      else (alter key f rest).map ((name, node) :: ·)

/-- Gives a value to a key that has none. The flag tells whether the table at
hand takes values: one that is only passed through does not. -/
def assign (takes : Bool) (path : List String) (value : Toml) (fields : Fields) :
    Option Fields :=
  match path with
  | [] => none
  | [key] =>
      alter key (fun
        | none => if takes then some (.value value) else none
        | some _ => none) fields
  | key :: rest =>
      alter key (fun
        | none => (assign true rest value []).map (.table .dotted)
        | some (.table .dotted inner) => (assign true rest value inner).map (.table .dotted)
        | some (.table .implied inner) => (assign false rest value inner).map (.table .implied)
        | some (.tables (latest :: earlier)) =>
            (assign false rest value latest).map fun latest => .tables (latest :: earlier)
        | some _ => none) fields

/-- Changes the table that the keys of a header lead to. An array of tables leads
to its latest one. -/
def enter (path : List String) (f : Fields → Option Fields) (fields : Fields) :
    Option Fields :=
  match path with
  | [] => f fields
  | key :: rest =>
      alter key (fun
        | none => (enter rest f []).map (.table .implied)
        | some (.table origin inner) => (enter rest f inner).map (.table origin)
        | some (.tables (latest :: earlier)) =>
            (enter rest f latest).map fun latest => .tables (latest :: earlier)
        | some _ => none) fields

/-- What a header makes of what its last key stands for. -/
def openTable : Option Node → Option Node
  | none => some (.table .header [])
  | some (.table .implied inner) => some (.table .header inner)
  | some _ => none

/-- What a header in double brackets makes of what its last key stands for. -/
def openElement : Option Node → Option Node
  | none => some (.tables [[]])
  | some (.tables items) => some (.tables ([] :: items))
  | some _ => none

/-- Opens the table of a header. -/
def openAt (how : Option Node → Option Node) (path : List String) (fields : Fields) :
    Option Fields :=
  match path.getLast? with
  | some key => enter path.dropLast (alter key how) fields
  | none => none

end Fields

mutual

/-- The finished value. -/
def Node.finish : Node → Toml
  | .value value => value
  | .table _ fields => .table (finishFields fields)
  | .tables items => .array (finishTables items).reverse

def finishFields : List (String × Node) → List (String × Toml)
  | [] => []
  | (key, node) :: rest => (key, node.finish) :: finishFields rest

def finishTables : List (List (String × Node)) → List Toml
  | [] => []
  | fields :: rest => .table (finishFields fields) :: finishTables rest

end

end Blueprint.Toml
