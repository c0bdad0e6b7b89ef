/-!
# TOML values

The data of a settings file. Fractional numbers and points in time are kept as
they are written. An integer may be written in a way that denotes no number, and
then has no value.
-/

namespace Blueprint

inductive Toml
  | text (value : String)
  | integer (value : Option Int)
  | fractional (literal : String)
  | moment (literal : String)
  | bool (value : Bool)
  | array (items : List Toml)
  | table (fields : List (String × Toml))

end Blueprint
