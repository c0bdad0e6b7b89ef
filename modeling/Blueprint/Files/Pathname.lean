/-!
# Pathnames

A pathname is a text whose components stand between slashes; it starts at the root
if it starts with a slash. Empty components and points mean nothing, except for a
point at the start.
-/

namespace Blueprint.Pathname

/-- The longest component and the longest path, in bytes. -/
def maxComponentSize : Nat := 255

def maxSize : Nat := 4096

def isAbsolute (path : String) : Bool := path.startsWith "/"

/-- What stands between the slashes of a path. -/
def segments (path : String) : List String :=
  (path.toList.splitOn '/').map String.ofList

/-- Whether the segments after the first one have a meaning of their own. -/
def isMeaningful (segment : String) : Bool := !segment.isEmpty && segment ≠ "."

/-- The components of a path. -/
def components (path : String) : List String :=
  match segments path with
  | [] => []
  | first :: rest =>
      (if first.isEmpty then [] else [first]) ++ rest.filter isMeaningful

/-- The last component, unless it leads to another directory. -/
def fileName? (path : String) : Option String :=
  (components path).getLast?.filter fun name => name ≠ "." && name ≠ ".."

/-- Whether a component is longer than any file name can be. -/
def hasLongComponent (path : String) : Bool :=
  (components path).any fun name => maxComponentSize < name.utf8ByteSize

/-! ## The way to a file -/

/-- The paths that end in a component, the longest first, given the first segment
and the others from the last one. -/
def endings (first : String) : (reversed : List String) → List String
  | [] => if first.isEmpty then [] else [first]
  | last :: before =>
      if isMeaningful last then
        String.intercalate "/" (first :: (last :: before).reverse) :: endings first before
      else endings first before

/-- A path and the directories on the way to it, the longest path first. Nothing is
behind the last component of any of them. -/
def chain (path : String) : List String :=
  match segments path with
  | [] => []
  | first :: rest => endings first rest.reverse

/-- The directories on the way to what a path names, the nearest first. -/
def directories (path : String) : List String := (chain path).tail

/-- The path of a file in a directory; an empty path stands for the one at hand. -/
def inside (directory name : String) : String :=
  if directory.isEmpty || directory.endsWith "/" then directory ++ name
  else directory ++ "/" ++ name

/-- The path of a file beside the one that a path names, by the name that `rename`
makes of that file's name. -/
def beside (path : String) (rename : String → String) : String :=
  match fileName? path with
  | none => inside path (rename "")
  | some name =>
      let start := if isAbsolute path then "/" else ""
      inside ((directories path).head?.getD start) (rename name)

end Blueprint.Pathname
