import Groundwork.Disk.Path
import Groundwork.Failure

/-!
# Disks

The directories and files that a command finds and changes, as a value. A location is the list of
names that leads to an entry from the top. The top is a directory, and every operation that adds an
entry adds it inside a directory.

Main operations: `resolve` follows a path to a location, `read` and `write` act on files,
`makeDirectories` and `removeTree` on directories. A fault leaves the disk as it was before the
step that failed, but directories that were made on the way stay.
-/

namespace Groundwork

/-- What a file holds. -/
inductive Content where
  | text (t : Text)
  /-- Bytes that are no UTF-8. -/
  | binary (bytes : List UInt8)
  deriving DecidableEq, Repr

/-- What stands at a location. -/
inductive Entry where
  | directory
  | file (content : Content)
  deriving DecidableEq, Repr

/-- The names that lead to an entry from the top. -/
abbrev Location := List Text

/-- The entries of a disk. -/
structure Disk where
  entries : List (Location × Entry) := []
  deriving Repr

namespace Disk

/-- The entry at a location. -/
def lookup? (disk : Disk) (location : Location) : Option Entry :=
  match location with
  | [] => some .directory
  | _ => disk.entries.lookup location

/-- The disk with an entry at a location, in place of the one that stood there. -/
def set (disk : Disk) (location : Location) (entry : Entry) : Disk :=
  ⟨disk.entries.filter (fun (other, _) => other ≠ location) ++ [(location, entry)]⟩

/-- The disk without the entries at and below a location. -/
def removeBelow (disk : Disk) (location : Location) : Disk :=
  ⟨disk.entries.filter fun (other, _) => !location.isPrefixOf other⟩

/-- The most bytes of a name in a directory. -/
def nameLimit : Nat := 255

/-- The most bytes of a path. -/
def pathLimit : Nat := 4095

/-- The length of a text in UTF-8. -/
def byteCount (t : Text) : Nat := t.foldl (fun n c => n + c.utf8Size) 0

/-- Go on from a location through the names of a path. All names but the last must lead to
    directories. A name that is too long shows where it is looked up. -/
def walk (disk : Disk) (location : Location) : List Text → Except DiskFault Location
  | [] => .ok location
  | part :: parts =>
    match disk.lookup? location with
    | none => .error .absent
    | some (.file _) => .error .notDirectory
    | some .directory =>
      if nameLimit < byteCount part then .error .nameTooLong
      else walk disk (if part = ("..".toList) then location.dropLast else location ++ [part]) parts

/-- The location that a path leads to. Nothing needs to stand there, except above it. -/
def resolve (disk : Disk) (path : Path) : Except DiskFault Location :=
  if pathLimit < byteCount path.render then .error .nameTooLong else disk.walk [] path.parts

/-- The entry that a path leads to. -/
def find? (disk : Disk) (path : Path) : Option Entry :=
  match disk.resolve path with
  | .error _ => none
  | .ok location => disk.lookup? location

/-- Something stands where the path leads. -/
def has (disk : Disk) (path : Path) : Bool := (disk.find? path).isSome

/-- A directory stands where the path leads. -/
def isDirectory (disk : Disk) (path : Path) : Bool := disk.find? path = some .directory

/-- A fault of an operation, at the path that it was asked for. -/
def fault (path : Path) (kind : DiskFault) : Failure := .disk kind path.render

/-- It can be asked what stands where the path leads: no name on the way is too long. -/
def checkNames (disk : Disk) (path : Path) : Except Failure Unit :=
  match disk.resolve path with
  | .error .nameTooLong => .error (fault path .nameTooLong)
  | _ => .ok ()

/-- The text of a file, with all line endings turned into line feeds. -/
def read (disk : Disk) (path : Path) : Except Failure Text :=
  match disk.resolve path with
  | .error kind => .error (fault path kind)
  | .ok location =>
    match disk.lookup? location with
    | none => .error (fault path .absent)
    | some .directory => .error (fault path .isDirectory)
    | some (.file (.binary _)) => .error (.undecodable path.render)
    | some (.file (.text t)) => .ok (Text.normaliseLineEnds t)

/-- The disk with a text written to a file, which is made if it does not exist. -/
def write (disk : Disk) (path : Path) (t : Text) : Except Failure Disk :=
  match disk.resolve path with
  | .error kind => .error (fault path kind)
  | .ok location =>
    match disk.lookup? location with
    | some .directory => .error (fault path .isDirectory)
    | _ => .ok (disk.set location (.file (.text t)))

/-- The disk with one directory made. Nothing may stand there yet. -/
def makeDirectory (disk : Disk) (path : Path) : Except DiskFault Disk :=
  match disk.resolve path with
  | .error kind => .error kind
  | .ok location =>
    match disk.lookup? location with
    | some _ => .error .occupied
    | none => .ok (disk.set location .directory)

/-- Make the directory of a path, which may exist already, but whose parent must exist. -/
def ensureDirectory (disk : Disk) (path : Path) : Except DiskFault Disk :=
  match disk.makeDirectory path with
  | .ok disk => .ok disk
  | .error .absent => .error .absent
  | .error kind => if disk.isDirectory path then .ok disk else .error kind

/-- Make the directory of a path given from its last name, and all directories above it. Those
    that are made before a failure stay. -/
def makeDirectoriesUp (disk : Disk) (anchor : Text) : List Text → Disk × Except Failure Unit
  | [] => (disk, .ok ())
  | part :: above =>
    let path : Path := ⟨anchor, (part :: above).reverse⟩
    match disk.ensureDirectory path with
    | .ok disk => (disk, .ok ())
    | .error .absent =>
      match makeDirectoriesUp disk anchor above with
      | (disk, .error failure) => (disk, .error failure)
      | (disk, .ok _) =>
        match disk.ensureDirectory path with
        | .ok disk => (disk, .ok ())
        | .error kind => (disk, .error (fault path kind))
    | .error kind => (disk, .error (fault path kind))

/-- The disk with the directory of a path, and with all directories above it. -/
def makeDirectories (disk : Disk) (path : Path) : Disk × Except Failure Unit :=
  disk.makeDirectoriesUp path.anchor path.parts.reverse

/-- The disk without a directory and all that is in it. -/
def removeTree (disk : Disk) (path : Path) : Except Failure Disk :=
  match disk.resolve path with
  | .error kind => .error (fault path kind)
  | .ok location =>
    match disk.lookup? location with
    | none => .error (fault path .absent)
    | some (.file _) => .error (fault path .notDirectory)
    | some .directory => .ok (disk.removeBelow location)

end Disk

end Groundwork
