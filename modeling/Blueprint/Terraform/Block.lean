import Blueprint.Terraform.Expression

/-!
# Blocks

Labelled blocks and how they are laid out. Neighbouring attributes are aligned to
the longest key among them, a map stands between blank lines unless it is the
first or the last item, and every nesting level is two spaces further in.
-/

namespace Blueprint.Terraform

/-- One item of a block's body. -/
inductive Item
  | attr (key : String) (value : Expression)
  | map (key : String) (entries : List (String × Expression))
  | block (keyword : String) (labels : List String) (body : List Item)

structure Block where
  keyword : String
  labels : List String
  body : List Item

namespace Item

/-- An attribute that is there only if it has a value. -/
def optional (key : String) : Option Expression → List Item
  | some value => [attr key value]
  | none => []

/-- A field of a record, unless it is absent or null. -/
def ofField (r : Record) (field : String) : List Item :=
  optional field (Expression.ofField? r field)

/-- A field of a record, unless it is absent, null or the empty text. -/
def ofFilled (r : Record) (field : String) : List Item :=
  optional field (Expression.ofFilled? r field)

/-- A field of a record, if it holds a text that is not empty. -/
def ofText (r : Record) (field : String) : List Item :=
  optional field ((r.filled? field).map .text)

/-- An unlabelled block. -/
def nested (keyword : String) (body : List Item) : Item := block keyword [] body

/-- How long operations may take. -/
def timeouts (entries : List (String × String)) : Item :=
  nested "timeouts" (entries.map fun (operation, duration) =>
    attr operation (.text duration))

end Item

namespace Block

/-- A block that defines what an address means. -/
def defining (address : Address) (body : List Item) : Block :=
  match address with
  | .resource type label => ⟨"resource", [type, label], body⟩
  | .data type label => ⟨"data", [type, label], body⟩
  | .module label => ⟨"module", [label], body⟩

def provider (name : String) (body : List Item) : Block := ⟨"provider", [name], body⟩

/-- The address that a block defines, if it is a block that defines one. -/
def address? (b : Block) : Option Address :=
  match b.labels with
  | [type, label] =>
      if b.keyword = "resource" then some (.resource type label)
      else if b.keyword = "data" then some (.data type label)
      else none
  | [label] => if b.keyword = "module" then some (.module label) else none
  | _ => none

theorem address?_defining (address : Address) (body : List Item) :
    (defining address body).address? = some address := by
  cases address <;> simp [defining, address?]

end Block

/-! ## Layout -/

/-- Two spaces for each nesting level. -/
def indentation (depth : Nat) : String := Text.spaces (2 * depth)

def attributeLine (depth width : Nat) (key : String) (value : Expression) : String :=
  indentation depth ++ key ++ Text.spaces (width - key.utf8ByteSize) ++ " = " ++ value.render

/-- The bytes in the longest key of a map. -/
def entryWidth (entries : List (String × Expression)) : Nat :=
  entries.foldr (fun entry width => max entry.1.utf8ByteSize width) 0

def entryLines (depth : Nat) (entries : List (String × Expression)) : List String :=
  entries.map fun entry => attributeLine depth (entryWidth entries) entry.1 entry.2

/-- A blank line, unless it would be the first or the last one of a body. -/
def blankLine (atEdge : Bool) : List String := if atEdge then [] else [""]

def openingLine (depth : Nat) (keyword : String) (labels : List String) : String :=
  indentation depth ++ keyword ++ Text.concat (labels.map fun label => " " ++ quoted label) ++
    " \x7b"

def closingLine (depth : Nat) : String := indentation depth ++ "\x7d"

namespace Item

/-- The bytes in the longest key of the attributes that a body starts with. -/
def runWidth : List Item → Nat
  | attr key _ :: rest => max key.utf8ByteSize (runWidth rest)
  | _ => 0

/-- The lines of a body from some item on. `run` is the width of the run of
attributes that the item continues, and `first` tells whether it is the first. -/
def lines (depth : Nat) (run : Option Nat) (first : Bool) : List Item → List String
  | [] => []
  | attr key value :: rest =>
      let width := run.getD (runWidth (attr key value :: rest))
      attributeLine depth width key value :: lines depth (some width) false rest
  | map key entries :: rest =>
      blankLine first ++
        (indentation depth ++ key ++ " = \x7b") :: entryLines (depth + 1) entries ++
        closingLine depth :: blankLine rest.isEmpty ++
        lines depth none false rest
  | block keyword labels body :: rest =>
      openingLine depth keyword labels :: lines (depth + 1) none true body ++
        closingLine depth :: lines depth none false rest

end Item

namespace Block

def lines (b : Block) : List String :=
  openingLine 0 b.keyword b.labels :: Item.lines 1 none true b.body ++ [closingLine 0]

def render (b : Block) : String := Text.join "\n" b.lines

end Block

end Blueprint.Terraform
