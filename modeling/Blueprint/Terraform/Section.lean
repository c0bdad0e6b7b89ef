import Blueprint.Terraform.Block

/-!
# Sections

A titled group of blocks between two banners. A blank line precedes every block
and the closing banner, and separates a section from the next one.
-/

namespace Blueprint.Terraform

structure Section where
  title : String
  blocks : List Block

def banner : String := String.ofList (List.replicate 78 '#')

namespace Section

/-- A section, or none if it would have no blocks. -/
def ofBlocks (title : String) (blocks : List Block) : List Section :=
  if blocks.isEmpty then [] else [⟨title, blocks⟩]

def lines (s : Section) : List String :=
  [banner, "# " ++ s.title, banner] ++ s.blocks.flatMap (fun b => "" :: b.lines) ++
    ["", banner]

/-- The lines of a section, each ended. -/
def render (s : Section) : String := Text.concat (s.lines.map (· ++ "\n"))

/-- The sections with a blank line between neighbours; nothing if there are
none. -/
def renderAll (sections : List Section) : Option String :=
  if sections.isEmpty then none else some (Text.join "\n" (sections.map render))

end Section

end Blueprint.Terraform
