/-!
# Readers

The type that the readers of values and of settings files share.
-/

namespace Blueprint.Text

/-- A reader takes what it needs off the front of the characters and leaves the
rest. -/
abbrev Reader (α : Type) := List Char → Option (α × List Char)

end Blueprint.Text
