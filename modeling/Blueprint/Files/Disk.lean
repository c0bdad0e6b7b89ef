import Blueprint.Files
import Blueprint.Files.Pathname

/-!
# Disks

A tree of directories and files with a working directory in it, as a value, and the
file operations on it. An operation either answers or tells why it cannot; one that
consists of several steps keeps the steps that were made before one failed.
-/

namespace Blueprint

inductive Entry
  | file (content : ByteArray)
  | directory (entries : List (String × Entry))

namespace Entry

/-- What a list of names leads to. -/
def find? : (names : List String) → Entry → Option Entry
  | [], entry => some entry
  | name :: rest, directory entries => (entries.lookup name).bind (find? rest)
  | _ :: _, file _ => none

/-- Puts an entry under a name. -/
def put (name : String) (new : Entry) : List (String × Entry) → List (String × Entry)
  | [] => [(name, new)]
  | (key, old) :: rest =>
      if key = name then (key, new) :: rest else (key, old) :: put name new rest

/-- Puts an entry into the directory that a list of names leads to. -/
def putAt (name : String) (new : Entry) : (names : List String) → Entry → Entry
  | [], directory entries => directory (put name new entries)
  | first :: rest, directory entries =>
      match entries.lookup first with
      | some entry => directory (put first (putAt name new rest entry) entries)
      | none => directory entries
  | _, file content => file content

end Entry

structure Disk where
  root : Entry
  /-- The names that lead to the working directory. -/
  home : List String

namespace Disk

/-- An empty working directory among the usual directories. -/
def blank : Disk :=
  let empty : Entry := .directory []
  let temporary : Entry := .directory [("work", empty)]
  ⟨.directory [
      ("dev", .directory [("null", .file .empty)]), ("etc", empty), ("home", empty),
      ("proc", empty), ("root", empty), ("sys", empty), ("tmp", temporary), ("usr", empty),
      ("var", empty)],
    ["tmp", "work"]⟩

/-- The bytes that a directory is said to have. -/
def directorySize : Nat := 4096

/-- The name under which a text is first written, before it takes the place of a
file. -/
def temporaryName (name : String) : String := "." ++ name ++ ".tmp.10000.0"

/-! ## Finding -/

/-- One step on the way that a path describes, starting from the names in `here`.
The root is its own parent. -/
def step (disk : Disk) (here : List String) (segment : String) :
    Except FileError (List String) :=
  match disk.root.find? here with
  | none => .error .notFound
  | some (.file _) => .error .notDirectory
  | some (.directory entries) =>
      if segment.isEmpty || segment = "." then .ok here
      else if segment = ".." then .ok here.dropLast
      else if Pathname.maxComponentSize < segment.utf8ByteSize then .error .nameTooLong
      else if (entries.lookup segment).isSome then .ok (here ++ [segment])
      else .error .notFound

/-- The names that lead to where segments of a path lead to. -/
def walk (disk : Disk) (start segments : List String) : Except FileError (List String) :=
  segments.foldlM disk.step start

/-- The names that lead to where a path starts. -/
def startOf (disk : Disk) (path : String) : List String :=
  if Pathname.isAbsolute path then [] else disk.home

/-- Refuses paths that lead nowhere whatever there is. -/
def checkPath (path : String) : Except FileError Unit :=
  if path.contains '\x00' then
    .error (.other "file name contained an unexpected NUL byte")
  else if path.isEmpty then .error .notFound
  else if Pathname.maxSize ≤ path.utf8ByteSize then .error .nameTooLong
  else .ok ()

/-- What a path leads to. -/
def entryAt (disk : Disk) (path : String) : Except FileError Entry := do
  checkPath path
  let names ← disk.walk (disk.startOf path) (Pathname.segments path)
  match disk.root.find? names with
  | some entry => return entry
  | none => .error .notFound

def read (disk : Disk) (path : String) : Except FileError ByteArray := do
  match ← disk.entryAt path with
  | .file content => return content
  | .directory _ => .error .isDirectory

def size (disk : Disk) (path : String) : Except FileError Nat := do
  match ← disk.entryAt path with
  | .file content => return content.size
  | .directory _ => return directorySize

def present (disk : Disk) (path : String) : Bool :=
  match disk.entryAt path with
  | .ok _ => true
  | .error _ => false

def isDirectory (disk : Disk) (path : String) : Bool :=
  match disk.entryAt path with
  | .ok (.directory _) => true
  | _ => false

/-! ## Places -/

/-- Where something may be put: a name in a directory. -/
structure Place where
  /-- The names that lead to the directory. -/
  names : List String
  entries : List (String × Entry)
  /-- The last component of the path; the root has none. -/
  name : String
  /-- Whether a slash follows the name. -/
  slash : Bool

namespace Place

/-- Whether the name stands for a directory that is there already. -/
def isFixed (place : Place) : Bool :=
  place.name.isEmpty || place.name = "." || place.name = ".."

def entry? (place : Place) : Option Entry := place.entries.lookup place.name

end Place

/-- The place that a path names, in a directory that has to exist. -/
def placeOf (disk : Disk) (path : String) : Except FileError Place := do
  checkPath path
  let segments := Pathname.segments path
  let (name, before) := match segments.reverse.dropWhile String.isEmpty with
    | [] => ("", [])
    | name :: before => (name, before.reverse)
  let names ← disk.walk (disk.startOf path) before
  match disk.root.find? names with
  | some (.directory entries) =>
      if Pathname.maxComponentSize < name.utf8ByteSize then .error .nameTooLong
      else return ⟨names, entries, name, segments.getLast? = some ""⟩
  | some (.file _) => .error .notDirectory
  | none => .error .notFound

def put (disk : Disk) (place : Place) (entry : Entry) : Disk :=
  { disk with root := .putAt place.name entry place.names disk.root }

/-! ## Writing -/

def makeDirectory (disk : Disk) (path : String) : Except FileError Disk := do
  let place ← disk.placeOf path
  if place.isFixed || place.entry?.isSome then .error .alreadyExists
  else return disk.put place (.directory [])

/-- Makes a directory unless there is one. -/
def ensureDirectory (disk : Disk) (path : String) : Except FileError Disk :=
  match disk.makeDirectory path with
  | .error .alreadyExists =>
      if disk.isDirectory path then .ok disk else .error .alreadyExists
  | result => result

/-- Puts a file at a path whose directory exists. -/
def place (disk : Disk) (path : String) (content : ByteArray) : Except FileError Disk := do
  let place ← disk.placeOf path
  if place.isFixed then .error .busy
  else if place.slash then .error .notDirectory
  else
    match place.entry? with
    | some (.directory _) => .error .isDirectory
    | _ => return disk.put place (.file content)

/-- What becomes of a disk by a step that may fail. -/
def settle (disk : Disk) (result : Except FileError Disk) : Except FileError Unit × Disk :=
  match result with
  | .ok disk => (.ok (), disk)
  | .error e => (.error e, disk)

/-- Makes the first of some directories, each of which lies in the next one, and
before it those of the others that it needs. -/
def makeDirectories (disk : Disk) : List String → Except FileError Unit × Disk
  | [] => (.ok (), disk)
  | path :: outer =>
      match disk.ensureDirectory path with
      | .error .notFound =>
          match disk.makeDirectories outer with
          | (.ok (), disk) => disk.settle (disk.ensureDirectory path)
          | failed => failed
      | result => disk.settle result

/-- Puts a text at a path whose directory exists, after it was written under a
temporary name. -/
def move (disk : Disk) (path content : String) : Except FileError Disk := do
  let _ ← disk.placeOf (Pathname.beside path temporaryName)
  disk.place path content.toUTF8

/-- Creates the directories on the way to a path and puts a text there. The
directories stay even if the text cannot be put there. -/
def replace (disk : Disk) (path content : String) : Except FileError Unit × Disk :=
  match disk.makeDirectories (Pathname.directories path) with
  | (.ok (), disk) => disk.settle (disk.move path content)
  | failed => failed

/-- The file operations on a disk that is carried along. -/
def files : Files (StateM Disk) where
  read path := do return (← get).read path
  size path := do return (← get).size path
  present path := do return (← get).present path
  replace path content := do
    let (result, disk) := (← get).replace path content
    set disk
    return result

end Disk

end Blueprint
